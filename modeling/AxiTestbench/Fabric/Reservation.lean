import AxiTestbench.Fabric.Effects

/-!
# Reservations

The monitor table against the history of the bus.  A reservation is made when the
first beat of an exclusive read is processed; the table holds exactly those that
nothing has broken since.
-/

namespace AxiTestbench

open Lib Outcome

variable {c : Config} {W : Type}

/-! ## Reservations in a history -/

/-- Whether an event ends a reservation of a payload by a port: another exclusive
read or an exclusive write of the same ID, or a successful write to the reserved
bytes. -/
def Event.Breaks (port : c.Port) (payload : AddressPayload) : Event c → Prop
  | .reserve read => read.port = port ∧ read.payload.id = payload.id
  | .complete done =>
      done.exclusive = true ∧ done.port = port ∧ done.payload.id = payload.id
  | .deviceWrite _ call =>
      responseIsSuccess call.response = true ∧ ∃ byte, call.Strobes byte ∧
        payload.address.toNat ≤ byte ∧ byte < payload.address.toNat + payload.total
  | _ => False

/-- An exclusive read of the payload was processed and nothing has broken its
reservation since. -/
def Reserves (history : List (Event c)) (port : c.Port) (payload : AddressPayload) : Prop :=
  ∃ before read after, history = before ++ .reserve read :: after ∧ read.port = port ∧
    read.payload = payload ∧ ∀ event ∈ after, ¬event.Breaks port payload

theorem reserves_snoc {history : List (Event c)} {event : Event c} {port : c.Port}
    {payload : AddressPayload} :
    Reserves (history ++ [event]) port payload ↔
      (∃ read, event = .reserve read ∧ read.port = port ∧ read.payload = payload) ∨
        (Reserves history port payload ∧ ¬event.Breaks port payload) := by
  constructor
  · rintro ⟨before, read, after, split, portEq, payloadEq, unbroken⟩
    rcases List.eq_nil_or_concat' after with rfl | ⟨rest, last, rfl⟩
    · obtain ⟨-, same⟩ := List.append_inj' split rfl
      exact .inl ⟨read, List.singleton_inj.mp same, portEq, payloadEq⟩
    · rw [← List.cons_append, ← List.append_assoc] at split
      obtain ⟨rfl, same⟩ := List.append_inj' split rfl
      rw [List.singleton_inj.mp same]
      exact .inr ⟨⟨before, read, rest, rfl, portEq, payloadEq,
        fun other member => unbroken other (by simp [member])⟩, unbroken last (by simp)⟩
  · rintro (⟨read, rfl, portEq, payloadEq⟩ | ⟨⟨before, read, after, rfl, portEq, payloadEq,
      unbroken⟩, kept⟩)
    · exact ⟨history, read, [], rfl, portEq, payloadEq, by simp⟩
    · refine ⟨before, read, after ++ [event], by simp, portEq, payloadEq, ?_⟩
      intro other member
      rcases List.mem_append.mp member with old | new
      · exact unbroken other old
      · rw [List.mem_singleton.mp new]
        exact kept

/-! ## The monitor table -/

/-- The table agrees with the history. -/
structure Monitored (history : List (Event c)) (monitors : Monitors c) : Prop where
  unique : ∀ left right, (monitors left).valid = true → (monitors right).valid = true →
    (monitors left).port = (monitors right).port → (monitors left).id = (monitors right).id →
    left = right
  ranged : ∀ slot, (monitors slot).valid = true →
    (monitors slot).id = (monitors slot).payload.id ∧
      (monitors slot).first = (monitors slot).payload.address.toNat ∧
      (monitors slot).last =
        (monitors slot).payload.address.toNat + (monitors slot).payload.total
  exact : ∀ port payload, Reserves history port payload ↔ ∃ slot,
    (monitors slot).valid = true ∧ (monitors slot).port = port ∧
      (monitors slot).payload = payload

theorem findMonitor_some {monitors : Monitors c} {port : c.Port} {id : UInt64}
    {slot : Fin c.routeDepth} (found : findMonitor monitors port id = some slot) :
    (monitors slot).valid = true ∧ (monitors slot).port = port ∧ (monitors slot).id = id := by
  have holds := List.find?_some found
  simpa [and_assoc] using holds

theorem findMonitor_none {monitors : Monitors c} {port : c.Port} {id : UInt64}
    (none : findMonitor monitors port id = none) (slot : Fin c.routeDepth)
    (valid : (monitors slot).valid = true) (portEq : (monitors slot).port = port) :
    (monitors slot).id ≠ id := by
  have fails := List.find?_eq_none.mp none slot (List.mem_finRange slot)
  simpa [valid, portEq] using fails

namespace Monitored

variable {history : List (Event c)} {monitors after : Monitors c}

theorem empty : Monitored (c := c) [] fun _ => {} where
  unique left right valid := by simp at valid
  ranged slot valid := by simp at valid
  exact port payload := by simp [Reserves]

theorem find_eq (monitored : Monitored history monitors) {slot : Fin c.routeDepth}
    (valid : (monitors slot).valid = true) :
    findMonitor monitors (monitors slot).port (monitors slot).id = some slot := by
  cases found : findMonitor monitors (monitors slot).port (monitors slot).id with
  | none => exact absurd rfl (findMonitor_none found slot valid rfl)
  | some other =>
      obtain ⟨otherValid, portEq, idEq⟩ := findMonitor_some found
      rw [monitored.unique other slot otherValid valid portEq idEq]

/-- The test of `finish_exclusive_write` reads the history. -/
theorem reserved_iff (monitored : Monitored history monitors) (port : c.Port)
    (payload : AddressPayload) :
    Reserved monitors port payload ↔ Reserves history port payload := by
  rw [monitored.exact]
  constructor
  · rintro ⟨slot, found, payloadEq⟩
    obtain ⟨valid, portEq, -⟩ := findMonitor_some found
    exact ⟨slot, valid, portEq, payloadEq⟩
  · rintro ⟨slot, valid, rfl, rfl⟩
    refine ⟨slot, ?_, rfl⟩
    rw [← (monitored.ranged slot valid).1]
    exact monitored.find_eq valid

/-- Events that concern no reservation. -/
theorem of_quiet (monitored : Monitored history monitors) (event : Event c)
    (quiet : ∀ port payload, ¬event.Breaks port payload) (noRead : ∀ read, event ≠ .reserve read) :
    Monitored (history ++ [event]) monitors where
  unique := monitored.unique
  ranged := monitored.ranged
  exact port payload := by
    rw [reserves_snoc, monitored.exact]
    simp [quiet, noRead]

theorem of_quiets (monitored : Monitored history monitors) (events : List (Event c))
    (quiet : ∀ event ∈ events, (∀ port payload, ¬event.Breaks port payload) ∧
      ∀ read, event ≠ .reserve read) :
    Monitored (history ++ events) monitors := by
  induction events using List.reverseRecOn with
  | nil => simpa using monitored
  | append_singleton events event ih =>
      rw [← List.append_assoc]
      refine (ih fun other member => quiet other (by simp [member])).of_quiet event ?_ ?_
      · exact (quiet event (by simp)).1
      · exact (quiet event (by simp)).2

/-- Dropping the reservations that an event breaks. -/
theorem of_dropped (monitored : Monitored history monitors) (event : Event c)
    (noRead : ∀ read, event ≠ .reserve read)
    (dropped : ∀ slot, (monitors slot).valid = true →
      (event.Breaks (monitors slot).port (monitors slot).payload →
        after slot = { monitors slot with valid := false }) ∧
      (¬event.Breaks (monitors slot).port (monitors slot).payload →
        after slot = monitors slot))
    (invalid : ∀ slot, (monitors slot).valid = false → (after slot).valid = false) :
    Monitored (history ++ [event]) after := by
  have kept : ∀ slot, (after slot).valid = true → (monitors slot).valid = true ∧
      after slot = monitors slot ∧
      ¬event.Breaks (monitors slot).port (monitors slot).payload := by
    intro slot valid
    have wasValid : (monitors slot).valid = true := by
      by_contra wasInvalid
      simp [invalid slot (Bool.eq_false_iff.mpr wasInvalid)] at valid
    have unbroken : ¬event.Breaks (monitors slot).port (monitors slot).payload := by
      intro broken
      simp [(dropped slot wasValid).1 broken] at valid
    exact ⟨wasValid, (dropped slot wasValid).2 unbroken, unbroken⟩
  refine ⟨?_, ?_, ?_⟩
  · intro left right leftValid rightValid portEq idEq
    obtain ⟨leftWas, leftEq, -⟩ := kept left leftValid
    obtain ⟨rightWas, rightEq, -⟩ := kept right rightValid
    rw [leftEq, rightEq] at portEq idEq
    exact monitored.unique left right leftWas rightWas portEq idEq
  · intro slot valid
    obtain ⟨wasValid, slotEq, -⟩ := kept slot valid
    rw [slotEq]
    exact monitored.ranged slot wasValid
  · intro port payload
    rw [reserves_snoc, monitored.exact]
    constructor
    · rintro (⟨read, isRead, -⟩ | ⟨⟨slot, valid, rfl, rfl⟩, unbroken⟩)
      · exact absurd isRead (noRead read)
      · refine ⟨slot, ?_⟩
        rw [(dropped slot valid).2 unbroken]
        exact ⟨valid, rfl, rfl⟩
    · rintro ⟨slot, valid, portEq, payloadEq⟩
      obtain ⟨wasValid, slotEq, unbroken⟩ := kept slot valid
      rw [slotEq] at portEq payloadEq
      subst portEq payloadEq
      exact .inr ⟨⟨slot, wasValid, rfl, rfl⟩, unbroken⟩

/-- A successful device write drops the reservations of the bytes it strobes. -/
theorem written (monitored : Monitored history monitors) (route : WriteRoute c)
    {call : DeviceWrite} (success : responseIsSuccess call.response = true)
    (invalidated : Invalidated call.Strobes monitors after) :
    Monitored (history ++ [.deviceWrite route call]) after := by
  refine monitored.of_dropped _ (by simp) (fun slot valid => ?_) fun slot invalid => ?_
  · obtain ⟨-, firstEq, lastEq⟩ := monitored.ranged slot valid
    obtain ⟨hit, missed⟩ := invalidated slot
    rw [firstEq, lastEq] at hit missed
    exact ⟨fun broken => hit broken.2, fun unbroken => missed fun found => unbroken ⟨success, found⟩⟩
  · obtain ⟨hit, missed⟩ := invalidated slot
    by_cases found : ∃ byte, call.Strobes byte ∧ (monitors slot).first ≤ byte ∧
        byte < (monitors slot).last
    · rw [hit found]
    · rw [missed found, invalid]

theorem unwritten (monitored : Monitored history monitors) (route : WriteRoute c)
    {call : DeviceWrite} (failed : responseIsSuccess call.response = false) :
    Monitored (history ++ [.deviceWrite route call]) monitors :=
  monitored.of_quiet _ (fun _ _ broken => by simp [broken.1] at failed) (by simp)

/-- An exclusive write ends the reservation of its port and ID. -/
theorem cleared (monitored : Monitored history monitors) {done : WriteRoute c}
    (exclusive : done.exclusive = true) :
    Monitored (history ++ [.complete done])
      (clearMonitor monitors done.port done.payload.id) := by
  simp only [clearMonitor]
  cases found : findMonitor monitors done.port done.payload.id with
  | none =>
      refine monitored.of_dropped _ (by simp) (fun slot valid => ⟨?_, fun _ => rfl⟩)
        fun slot => id
      rintro ⟨-, portEq, idEq⟩
      rw [← (monitored.ranged slot valid).1] at idEq
      exact absurd idEq.symm (findMonitor_none found slot valid portEq.symm)
  | some own =>
      obtain ⟨ownValid, ownPort, ownId⟩ := findMonitor_some found
      refine monitored.of_dropped _ (by simp) (fun slot valid => ⟨?_, ?_⟩) fun slot invalid => ?_
      · rintro ⟨-, portEq, idEq⟩
        rw [← (monitored.ranged slot valid).1] at idEq
        rw [monitored.unique slot own valid ownValid (portEq.symm.trans ownPort.symm)
          (idEq.symm.trans ownId.symm)]
        simp
      · intro unbroken
        have other : slot ≠ own := by
          rintro rfl
          exact unbroken ⟨exclusive, ownPort.symm,
            ownId.symm.trans (monitored.ranged slot ownValid).1⟩
        simp [Function.update_of_ne other]
      · by_cases other : slot = own
        · simp [other]
        · simp [Function.update_of_ne other, invalid]

theorem answered (monitored : Monitored history monitors) {done : WriteRoute c}
    (regular : done.exclusive = false) : Monitored (history ++ [.complete done]) monitors :=
  monitored.of_quiet _ (fun _ _ broken => absurd broken.1 (by simp [regular])) (by simp)

/-- The slot of a new reservation: that of its port and ID, or a free one. -/
theorem established (monitored : Monitored history monitors) {read : ReadRoute c}
    (done : establishMonitor monitors read = some after) :
    ∃ slot, after = Function.update monitors slot
        { valid := true
          port := read.port
          id := read.payload.id
          payload := read.payload
          first := read.payload.address.toNat
          last := add64 read.payload.address.toNat read.payload.total } ∧
      ((monitors slot).valid = true →
        (monitors slot).port = read.port ∧ (monitors slot).id = read.payload.id) ∧
      ∀ other ≠ slot, (monitors other).valid = true → (monitors other).port = read.port →
        (monitors other).id ≠ read.payload.id := by
  obtain ⟨slot, chosen, rfl⟩ := Option.map_eq_some_iff.mp done
  refine ⟨slot, rfl, ?_⟩
  simp only [monitorSlot] at chosen
  cases found : findMonitor monitors read.port read.payload.id with
  | some own =>
      rw [found] at chosen
      obtain rfl := Option.some.inj chosen
      obtain ⟨valid, portEq, idEq⟩ := findMonitor_some found
      refine ⟨fun _ => ⟨portEq, idEq⟩, fun other different otherValid otherPort otherId => ?_⟩
      exact different (monitored.unique other own otherValid valid (otherPort.trans portEq.symm)
        (otherId.trans idEq.symm))
  | none =>
      rw [found] at chosen
      have free := List.find?_some chosen
      refine ⟨fun valid => ?_, fun other _ => findMonitor_none found other⟩
      simp [valid] at free

/-- A new reservation replaces that of its port and ID. -/
theorem reserved (monitored : Monitored history monitors) {read : ReadRoute c}
    (done : establishMonitor monitors read = some after)
    (fits : read.payload.address.toNat + read.payload.total < 2 ^ 64) :
    Monitored (history ++ [.reserve read]) after := by
  obtain ⟨slot, rfl, own, others⟩ := monitored.established done
  rw [add64_eq fits]
  refine ⟨?_, ?_, ?_⟩
  · intro left right leftValid rightValid portEq idEq
    by_cases leftNew : left = slot
    · by_cases rightNew : right = slot
      · rw [leftNew, rightNew]
      · subst leftNew
        simp only [Function.update_self, Function.update_of_ne rightNew] at rightValid portEq idEq
        exact absurd idEq.symm (others right rightNew rightValid portEq.symm)
    · by_cases rightNew : right = slot
      · subst rightNew
        simp only [Function.update_self, Function.update_of_ne leftNew] at leftValid portEq idEq
        exact absurd idEq (others left leftNew leftValid portEq)
      · simp only [Function.update_of_ne leftNew, Function.update_of_ne rightNew]
          at leftValid rightValid portEq idEq
        exact monitored.unique left right leftValid rightValid portEq idEq
  · intro other valid
    by_cases new : other = slot
    · subst new
      simp
    · simp only [Function.update_of_ne new] at valid ⊢
      exact monitored.ranged other valid
  · intro port payload
    rw [reserves_snoc, monitored.exact]
    constructor
    · rintro (⟨other, same, portEq, payloadEq⟩ | ⟨⟨other, valid, portEq, payloadEq⟩, unbroken⟩)
      · cases same
        exact ⟨slot, by simpa using ⟨portEq, payloadEq⟩⟩
      · have different : other ≠ slot := by
          rintro rfl
          obtain ⟨ownPort, ownId⟩ := own valid
          refine unbroken ⟨ownPort.symm.trans portEq, ?_⟩
          rw [← ownId, ← payloadEq]
          exact (monitored.ranged other valid).1
        refine ⟨other, ?_⟩
        rw [Function.update_of_ne different]
        exact ⟨valid, portEq, payloadEq⟩
    · rintro ⟨other, valid, portEq, payloadEq⟩
      by_cases new : other = slot
      · subst new
        simp only [Function.update_self] at portEq payloadEq
        exact .inl ⟨read, rfl, portEq, payloadEq⟩
      · simp only [Function.update_of_ne new] at valid portEq payloadEq
        refine .inr ⟨⟨other, valid, portEq, payloadEq⟩, ?_⟩
        rintro ⟨samePort, sameId⟩
        refine others other new valid (portEq.trans samePort.symm) ?_
        rw [(monitored.ranged other valid).1, payloadEq, sameId]

/-- A regular beat of a valid route. -/
theorem write_beat {env : FabricEnv W} {world : W} {route : WriteRoute c}
    {cursor : BurstCursor c.dataBytes} {mapping : Mapping} {data strobe : Lanes c.dataBytes}
    {index : Nat} {access : WriteAccess c W} (monitored : Monitored history monitors)
    (valid : route.Valid env) (inRange : index < route.payload.beats)
    (built : BurstCursor.new route.payload = .ok cursor)
    (written : writeDeviceBeat env world monitors route mapping cursor index data strobe =
      .ok access) :
    Monitored (history ++ Pipeline.writeEvents route access) access.monitors := by
  have startLt := valid.starts inRange
  rcases Nat.lt_or_eq_of_le (valid.beatEnd_le inRange) with below | top
  · have spec := writeDeviceBeat_written built inRange below written
    simp only [Pipeline.writeEvents, spec.call, Option.map_some, Option.toList_some]
    by_cases success : responseIsSuccess access.response = true
    · exact monitored.written route success (spec.dropped success)
    · have failed := Bool.eq_false_iff.mpr success
      rw [spec.kept failed]
      exact monitored.unwritten route failed
  · rw [writeDeviceBeat_top built inRange startLt top] at written
    rw [← Except.ok.inj written]
    simpa [Pipeline.writeEvents] using monitored

/-- An exclusive write of a valid route. -/
theorem write_exclusive {env : FabricEnv W} {world : W} {route : WriteRoute c}
    {cursor : BurstCursor c.dataBytes} {access : WriteAccess c W}
    (monitored : Monitored history monitors) (valid : route.Valid env)
    (exclusive : route.exclusive = true) (built : BurstCursor.new route.payload = .ok cursor)
    (finished : finishExclusiveWrite env world monitors route cursor = .ok access) :
    Monitored (history ++ (Pipeline.writeEvents route access ++ [.complete access.route]))
      access.monitors := by
  obtain ⟨response, routeEq⟩ := finishExclusiveWrite_route finished
  have doneExclusive : access.route.exclusive = true := by rw [routeEq, exclusive]
  have ended : ∀ {middle : Monitors c},
      Monitored (history ++ Pipeline.writeEvents route access) middle →
      access.monitors = clearMonitor middle route.port route.payload.id →
      Monitored (history ++ (Pipeline.writeEvents route access ++ [.complete access.route]))
        access.monitors := by
    intro middle held clearedEq
    have last := held.cleared doneExclusive
    rw [routeEq] at last
    rw [← List.append_assoc, routeEq, clearedEq]
    exact last
  cases targeted : route.target with
  | none =>
      rw [finishExclusiveWrite_forced targeted] at finished
      cases finished
      exact ended (by simpa [Pipeline.writeEvents] using monitored) rfl
  | some mapping =>
      by_cases held : Reserved monitors route.port route.payload
      · obtain ⟨made, image, madeOk, spec⟩ := finishExclusiveWrite_reserved built
          (valid.shape exclusive) (fun index inRange => valid.starts inRange) targeted held
        obtain rfl : made = access := Except.ok.inj (madeOk.symm.trans finished)
        have events : Pipeline.writeEvents route made = [.deviceWrite route
            (exclusiveCall route.payload mapping image made.response)] := by
          simp [Pipeline.writeEvents, spec.call]
        by_cases success : responseIsSuccess made.response = true
        · obtain ⟨middle, invalidated, clearedEq⟩ := spec.dropped success
          refine ended ?_ clearedEq
          rw [events]
          exact monitored.written route success invalidated
        · have failed := Bool.eq_false_iff.mpr success
          refine ended ?_ (spec.kept failed)
          rw [events]
          exact monitored.unwritten route failed
      · rw [finishExclusiveWrite_unreserved targeted held] at finished
        cases finished
        exact ended (by simpa [Pipeline.writeEvents] using monitored) rfl

end Monitored

/-- Away from the top of the address space the range of an exclusive burst does not
wrap. -/
theorem RouteBase.Valid.total_lt {env : FabricEnv W} {route : RouteBase c}
    (valid : route.Valid env) (exclusive : route.exclusive = true)
    (offTop : ¬route.payload.TouchesTop) :
    route.payload.address.toNat + route.payload.total < 2 ^ 64 := by
  have positive := route.payload.beats_pos
  have last := valid.beatEnd_lt offTop (Nat.sub_one_lt_of_lt positive)
  rwa [(valid.shape exclusive).beatEnd_eq, Nat.sub_add_cancel positive] at last

namespace Monitored

variable {env : FabricEnv W} {history more : List (Event c)} {state next : Pipeline c W}

theorem step (monitored : Monitored history state.monitors) (ordered : Ordered state)
    (sound : Sound env history state)
    (offTop : ∀ read, .reserve read ∈ more → ¬read.payload.TouchesTop)
    (taken : Pipeline.ActiveStep env state more next) :
    Monitored (history ++ more) next.monitors := by
  obtain ⟨taken, active⟩ := taken
  cases taken with
  | acceptAw | acceptW | acceptAr | retireB | retireR | routeAw | routeAr | stage | resetDevices
  | tick => simpa using monitored.of_quiet _ (by simp [Event.Breaks]) (by simp)
  | readBeat route routes cursor access | readLast route routes cursor access =>
      refine monitored.of_quiets _ fun event member => ?_
      rcases List.mem_append.mp member with called | produced
      · obtain ⟨call, -, rfl⟩ := Option.map_eq_some_iff.mp (Option.mem_toList.mp called)
        simp [Event.Breaks]
      · rw [List.mem_singleton.mp produced]
        simp [Event.Breaks]
  | completeForced route routes front complete room regular => exact monitored.answered regular
  | commitBeat route routes cursor mapping data strobe access front built complete room regular
      targeted staged written =>
      have member : route ∈ state.writeRoutes := by simp [front]
      exact monitored.write_beat (sound.writes route member).1 (ordered.writes route member).commit_lt
        built written
  | commitLast route routes cursor mapping data strobe access front built complete room regular
      targeted staged written =>
      have member : route ∈ state.writeRoutes := by simp [front]
      obtain ⟨exitResponse, exitCode, routeEq⟩ := writeDeviceBeat_route written
      rw [← List.append_assoc]
      refine (monitored.write_beat (sound.writes route member).1
        (ordered.writes route member).commit_lt built written).answered ?_
      simp [WriteRoute.afterBeat, routeEq, regular]
  | commitExclusive route routes cursor access front built complete room exclusive finished =>
      exact monitored.write_exclusive (sound.writes route (by simp [front])).1 exclusive built
        finished
  | reserve route routes monitors front exclusive first okay established =>
      have valid := sound.reads route (by simp [front])
      exact monitored.reserved established (valid.total_lt exclusive (offTop route (by simp)))
  | reset => simp [Event.isReset] at active

/-- The table agrees with the history in every run without reset whose exclusive
reads stay away from the top of the address space. -/
theorem of_traces {world : W}
    (trace : Traces (Pipeline.ActiveStep env) (.empty c world) history state)
    (offTop : ∀ read, .reserve read ∈ history → ¬read.payload.TouchesTop) :
    Monitored history state.monitors := by
  induction trace with
  | refl => exact .empty
  | snoc prior taken ih =>
      refine (ih fun read member => offTop read (by simp [member])).step
        (Conserved.of_traces prior).ordered (.of_traces prior)
        (fun read member => offTop read (by simp [member])) taken

end Monitored

/-! ## Outcomes of exclusive writes -/

/-- The reservations of a run are made by accepted reads. -/
theorem OffTop.reserves {env : FabricEnv W} {world : W} {history : List (Event c)}
    {state : Pipeline c W} (offTop : OffTop history)
    (trace : Traces (Pipeline.ActiveStep env) (.empty c world) history state) (read : ReadRoute c)
    (member : .reserve read ∈ history) : ¬read.payload.TouchesTop := by
  obtain ⟨before, after, rfl⟩ := List.append_of_mem member
  obtain ⟨earlier, middle, front, back, next, rest, prior, taken, -, rfl, rfl⟩ := trace.split
  obtain ⟨-, -, ⟨routes, queue⟩, -⟩ := taken.1.of_reserve
  have sound : Sound env earlier middle := .of_traces prior
  have earlierOff : OffTop earlier := by
    rw [List.append_assoc] at offTop
    exact offTop.left
  exact earlierOff.reads sound read (by simp [queue])

/-- What becomes of an exclusive write with an OKAY route.  Either its reservation
stands, the device is written once and EXOKAY stands for a success; or it has none,
no device is touched and the response is OKAY. -/
def ExclusiveOutcome (before : List (Event c)) (done : WriteRoute c) : Prop :=
  (∃ earlier route call, before = earlier ++ [.deviceWrite route call] ∧
    openCalls earlier = [] ∧ route.decision = done.decision ∧
    Reserves earlier done.port done.payload ∧
    done.response =
      if responseIsSuccess call.response then .exclusiveOkay else call.response) ∨
  (openCalls before = [] ∧ ¬Reserves before done.port done.payload ∧ done.response = .okay)

theorem Monitored.outcome {env : FabricEnv W} {history before after : List (Event c)}
    {state next : Pipeline c W} {done : WriteRoute c}
    (monitored : Monitored history state.monitors) (tracked : Tracked env history state)
    (taken : Pipeline.Step env state (before ++ .complete done :: after) next)
    (exclusive : done.exclusive = true) (okay : done.target ≠ none) :
    ExclusiveOutcome (history ++ before) done := by
  obtain ⟨-, route, routes, front, complete, how⟩ := taken.of_complete
  have member : route ∈ state.writeRoutes := by simp [front]
  have engaged := tracked.writeEngine.busy route routes front
  rcases how with ⟨regular, -, -, rfl⟩ | ⟨cursor, access, built, rfl, how⟩
  · simp [regular] at exclusive
  rcases how with ⟨routeExclusive, rfl, finished⟩ |
    ⟨regular, mapping, data, strobe, targeted, staged, written, rfl, -⟩
  · obtain ⟨response, routeEq⟩ := finishExclusiveWrite_route finished
    have uncalled : openCalls history = [] := by
      have count := engaged.count
      rw [(tracked.conserved.ordered.writes route member).exclusive routeExclusive] at count
      exact List.eq_nil_of_length_eq_zero count
    have fields : access.route.decision = route.decision ∧ access.route.port = route.port ∧
        access.route.payload = route.payload ∧ access.route.target = route.target := by
      rw [routeEq]
      exact ⟨rfl, rfl, rfl, rfl⟩
    obtain ⟨decisionEq, portEq, payloadEq, targetEq⟩ := fields
    rw [ExclusiveOutcome, portEq, payloadEq, decisionEq]
    obtain ⟨mapping, targeted⟩ := Option.ne_none_iff_exists'.mp (targetEq ▸ okay)
    have valid := (tracked.sound.writes route member).1
    by_cases held : Reserved state.monitors route.port route.payload
    · obtain ⟨made, image, madeOk, spec⟩ := finishExclusiveWrite_reserved built
        (valid.shape routeExclusive) (fun index inRange => valid.starts inRange) targeted held
      obtain rfl : made = access := Except.ok.inj (madeOk.symm.trans finished)
      refine .inl ⟨history, route, exclusiveCall route.payload mapping image made.response, ?_,
        uncalled, rfl, (monitored.reserved_iff _ _).mp held, ?_⟩
      · rw [Pipeline.writeEvents, spec.call]
        rfl
      · rw [spec.answered]
        rfl
    · have unreserved := fun reserves => held ((monitored.reserved_iff _ _).mpr reserves)
      rw [finishExclusiveWrite_unreserved targeted held] at finished
      cases finished
      refine .inr ⟨?_, ?_, rfl⟩
      · simpa [Pipeline.writeEvents] using uncalled
      · simpa [Pipeline.writeEvents] using unreserved
  · obtain ⟨exitResponse, exitCode, routeEq⟩ := writeDeviceBeat_route written
    simp [WriteRoute.afterBeat, routeEq, regular] at exclusive

end AxiTestbench
