import AxiTestbench.Fabric.Conservation

/-!
# The fabric as an AXI subordinate

A response that is presented and not taken is presented again with the same
payload, and no response is presented before the requests it answers.  The trace
at the time of `drive` holds the handshakes of the earlier cycles only.
-/

namespace AxiTestbench

open Lib Outcome

variable {c : Config} {W : Type}

namespace AxiFabric

/-! ## Cycles of a run -/

theorem runActive_snoc (env : FabricEnv W) (cycles : List c.Inputs) (inputs : c.Inputs)
    (fabric : AxiFabric c W) :
    runActive env (cycles ++ [inputs]) fabric =
      runActive env cycles fabric >>= fun middle => cycleWith env middle (inputs, false) := by
  simp [runActive, run, List.foldlM_append]

/-- A run that returns has returned from each of its cycles. -/
theorem runActive_snoc_ok {env : FabricEnv W} {cycles : List c.Inputs} {inputs : c.Inputs}
    {fabric : AxiFabric c W} (returned : (runActive env (cycles ++ [inputs]) fabric).isOk = true) :
    runActive env cycles fabric = .ok (runActive env cycles fabric).state ∧
      cycleWith env (runActive env cycles fabric).state (inputs, false) =
        .ok (runActive env (cycles ++ [inputs]) fabric).state := by
  rw [runActive_snoc] at returned ⊢
  cases before : runActive env cycles fabric with
  | error thrown => simp [before, bind, Except.bind, isOk] at returned
  | ok middle =>
      rw [before] at returned
      exact ⟨rfl, eq_ok_of_isOk returned⟩

/-- The events of one cycle that returned. -/
theorem cycleWith_ok {env : FabricEnv W} {inputs : c.Inputs} {fabric after : AxiFabric c W}
    (done : cycleWith env fabric (inputs, false) = .ok after) :
    ∃ work, (∀ event ∈ work, event.internal = true) ∧
      Follows env fabric after
        (handshakes (drive false fabric).outputs inputs ++ work ++ [.tick]) := by
  have ends := commit_active env inputs (drive false fabric) (drive_driven fabric)
  rw [show commit env inputs false (drive false fabric) = .ok after from done] at ends
  obtain ⟨work, internal, advances⟩ := ends
  exact ⟨work, internal, follows_of_advances advances⟩

theorem picked_eq_nil_iff {T : Type} {select : Event c → Option T} {events : List (Event c)} :
    picked select events = [] ↔ ∀ event ∈ events, select event = none :=
  List.filterMap_eq_nil_iff

/-- A channel event of a cycle is one of its handshakes. -/
private theorem shaken_of_cycle {outputs : c.Outputs} {inputs : c.Inputs} {event : Event c}
    {work : List (Event c)} (internal : ∀ event ∈ work, event.internal = true)
    (outside : event.internal = false) (member : event ∈ handshakes outputs inputs ++ work) :
    Shaken outputs inputs event := by
  rcases List.mem_append.mp member with shaken | inWork
  · exact shaken_of_mem shaken
  · rw [internal event inWork] at outside
    cases outside

/-- A response channel whose READY is low has no handshake in the cycle. -/
private theorem bOf_cycle {outputs : c.Outputs} {inputs : c.Inputs} {port : c.Port}
    {work : List (Event c)} (internal : ∀ event ∈ work, event.internal = true)
    (blocked : (inputs port).bReady = false) :
    bOf port (handshakes outputs inputs ++ work ++ [.tick]) = [] := by
  rw [picked_eq_nil_iff]
  intro event member
  cases event with
  | b other response =>
      have elsewhere : other ≠ port := by
        rintro rfl
        cases shaken_of_cycle internal rfl (by simpa using member) with
        | b _ ready => simp [blocked] at ready
      simp [elsewhere]
  | _ => rfl

private theorem rOf_cycle {outputs : c.Outputs} {inputs : c.Inputs} {port : c.Port}
    {work : List (Event c)} (internal : ∀ event ∈ work, event.internal = true)
    (blocked : (inputs port).rReady = false) :
    rOf port (handshakes outputs inputs ++ work ++ [.tick]) = [] := by
  rw [picked_eq_nil_iff]
  intro event member
  cases event with
  | r other beat =>
      have elsewhere : other ≠ port := by
        rintro rfl
        cases shaken_of_cycle internal rfl (by simpa using member) with
        | r _ ready => simp [blocked] at ready
      simp [elsewhere]
  | _ => rfl

/-- What `drive(false)` presents on B is the head of the FIFO. -/
theorem bValid_iff (fabric : AxiFabric c W) (port : c.Port) (response : WriteResponsePayload) :
    ((drive false fabric).outputs port).bValid = true ∧
        ((drive false fabric).outputs port).b = response ↔
      ∃ rest, (fabric.view.ports port).b = response :: rest := by
  have driven := drive_driven fabric port
  rw [view_drive] at driven
  constructor
  · rintro ⟨valid, rfl⟩
    exact driven.b valid
  · rintro ⟨rest, queue⟩
    have valid : ((drive false fabric).outputs port).bValid = true := by
      by_contra invalid
      simp [driven.noB (Bool.eq_false_iff.mpr invalid)] at queue
    obtain ⟨others, queue'⟩ := driven.b valid
    rw [queue] at queue'
    exact ⟨valid, (List.cons.inj queue').1.symm⟩

theorem rValid_iff (fabric : AxiFabric c W) (port : c.Port) (beat : c.ReadBeat) :
    ((drive false fabric).outputs port).rValid = true ∧
        ((drive false fabric).outputs port).r = beat ↔
      ∃ rest, (fabric.view.ports port).r = beat :: rest := by
  have driven := drive_driven fabric port
  rw [view_drive] at driven
  constructor
  · rintro ⟨valid, rfl⟩
    exact driven.r valid
  · rintro ⟨rest, queue⟩
    have valid : ((drive false fabric).outputs port).rValid = true := by
      by_contra invalid
      simp [driven.noR (Bool.eq_false_iff.mpr invalid)] at queue
    obtain ⟨others, queue'⟩ := driven.r valid
    rw [queue] at queue'
    exact ⟨valid, (List.cons.inj queue').1.symm⟩

end AxiFabric

/-! ## Stability -/

/-- A FIFO from which nothing is taken keeps its head. -/
private theorem fifo_head_kept {T : Type} {taken queue queue' produced new : List T} {item : T}
    (before : taken ++ queue = produced) (after : taken ++ queue' = produced ++ new)
    (head : ∃ rest, queue = item :: rest) : ∃ rest, queue' = item :: rest := by
  obtain ⟨rest, rfl⟩ := head
  rw [← before, List.append_assoc, List.append_cancel_left_eq] at after
  exact ⟨rest ++ new, after⟩

theorem WriteAccount.head_kept {port : c.Port} {history events : List (Event c)}
    {state next : Pipeline c W} {response : WriteResponsePayload}
    (early : WriteAccount port history state) (late : WriteAccount port (history ++ events) next)
    (untaken : bOf port events = []) (head : ∃ rest, (state.ports port).b = response :: rest) :
    ∃ rest, (next.ports port).b = response :: rest := by
  have answered := late.b
  rw [show bOf port (history ++ events) = bOf port history ++ bOf port events from
      picked_append _ _ _, untaken, List.append_nil,
    show completedOf port (history ++ events) =
      completedOf port history ++ completedOf port events from picked_append _ _ _,
    List.map_append] at answered
  exact fifo_head_kept early.b answered head

theorem ReadAccount.head_kept {port : c.Port} {history events : List (Event c)}
    {state next : Pipeline c W} {beat : c.ReadBeat}
    (early : ReadAccount port history state) (late : ReadAccount port (history ++ events) next)
    (untaken : rOf port events = []) (head : ∃ rest, (state.ports port).r = beat :: rest) :
    ∃ rest, (next.ports port).r = beat :: rest := by
  have produced := late.r
  rw [show rOf port (history ++ events) = rOf port history ++ rOf port events from
      picked_append _ _ _, untaken, List.append_nil,
    show producedOf port (history ++ events) =
      producedOf port history ++ producedOf port events from picked_append _ _ _] at produced
  exact fifo_head_kept early.r produced head

/-! ## Causality -/

/-- Total number of beats of a list of bursts. -/
def totalBeats (payloads : List AddressPayload) : Nat :=
  (payloads.map AddressPayload.beats).sum

@[simp] theorem totalBeats_append (payloads more : List AddressPayload) :
    totalBeats (payloads ++ more) = totalBeats payloads + totalBeats more := by
  simp [totalBeats]

@[simp] theorem totalBeats_singleton (payload : AddressPayload) :
    totalBeats [payload] = payload.beats := by
  simp [totalBeats]

/-- The write that the `count`th B response of a port answers has had its AW and
its WLAST beat: the AW is the `count`th of the port, and WLAST is where the beats
of the writes up to it end in the port's W stream. -/
def WriteAnswered (port : c.Port) (trace : List (Event c)) (count : Nat) (id : UInt64) : Prop :=
  ∃ earlier payload later, awOf port trace = earlier ++ payload :: later ∧
    earlier.length = count ∧ payload.id = id ∧
    ∃ beats beat rest, wOf port trace = beats ++ beat :: rest ∧
      beats.length + 1 = totalBeats (earlier ++ [payload]) ∧ beat.last = true

/-- The read to which the `count`th R beat of a port belongs has had its AR. -/
def ReadAnswered (port : c.Port) (trace : List (Event c)) (count : Nat) (beat : c.ReadBeat) :
    Prop :=
  ∃ earlier payload later, arOf port trace = earlier ++ payload :: later ∧
    totalBeats earlier ≤ count ∧ count < totalBeats earlier + payload.beats ∧
    beat.id = payload.id ∧ beat.last = (count - totalBeats earlier + 1 == payload.beats)

theorem WriteRoute.stagedBeats_full {route : WriteRoute c}
    (full : route.beat = route.payload.beats) :
    ∃ beats beat, route.stagedBeats = beats ++ [beat] ∧ beats.length + 1 = route.payload.beats ∧
      beat.last = true := by
  have beatEq : route.beat = route.payload.length.toNat + 1 := full
  refine ⟨(List.range route.payload.length.toNat).map route.stagedBeat,
    route.stagedBeat route.payload.length.toNat, ?_, ?_, ?_⟩
  · rw [WriteRoute.stagedBeats, beatEq, List.range_succ, List.map_append, List.map_singleton]
  · simp [AddressPayload.beats]
  · simp [WriteRoute.stagedBeat, AddressPayload.beats]

/-- Answered writes hold all their beats. -/
theorem length_stagedBeats {routes : List (WriteRoute c)}
    (full : ∀ route ∈ routes, route.beat = route.payload.beats) :
    (routes.flatMap WriteRoute.stagedBeats).length =
      totalBeats (routes.map fun route => route.payload) := by
  rw [List.length_flatMap, totalBeats, List.map_map]
  refine congrArg List.sum (List.map_congr_left fun route member => ?_)
  simp only [WriteRoute.stagedBeats, List.length_map, List.length_range, Function.comp_apply]
  exact full route member

/-- The answered write whose B response is presented next, and its place in the AW
and W streams of its port. -/
structure WriteTransaction (port : c.Port) (history : List (Event c))
    (response : WriteResponsePayload) (done : WriteRoute c) : Prop where
  answered : .complete done ∈ history
  payload : done.responsePayload = response
  full : done.beat = done.payload.beats
  aw : ∃ earlier later before after, awOf port history = earlier ++ done.payload :: later ∧
    earlier.length = (bOf port history).length ∧
    wOf port history = before ++ (done.stagedBeats ++ after) ∧ before.length = totalBeats earlier

theorem WriteAccount.transaction {port : c.Port} {history : List (Event c)} {state : Pipeline c W}
    (account : WriteAccount port history state) {response : WriteResponsePayload}
    {rest : List WriteResponsePayload} (queue : (state.ports port).b = response :: rest) :
    ∃ done, WriteTransaction port history response done := by
  have b := account.b
  rw [queue] at b
  obtain ⟨prior, tail, completed, priorEq, tailEq⟩ := List.map_eq_append_iff.mp b.symm
  obtain ⟨done, others, rfl, doneEq, -⟩ := List.map_eq_cons_iff.mp tailEq
  have full : ∀ route ∈ prior ++ done :: others, route.beat = route.payload.beats := by
    rw [← completed]
    exact account.full
  have member : done ∈ completedOf port history := by simp [completed]
  refine ⟨done, ?_, doneEq, full done (by simp), prior.map (fun route => route.payload),
    others.map (fun route => route.payload) ++
      ((routesOf port state.writeRoutes).map (fun route => route.payload) ++ (state.ports port).aw),
    prior.flatMap WriteRoute.stagedBeats,
    others.flatMap WriteRoute.stagedBeats ++
      ((routesOf port state.writeRoutes).flatMap WriteRoute.stagedBeats ++ (state.ports port).w),
    ?_, ?_, ?_, length_stagedBeats fun route inPrior => full route (by simp [inPrior])⟩
  · obtain ⟨event, inHistory, found⟩ := List.mem_filterMap.mp member
    cases event with
    | complete other =>
        simp only [Event.complete?] at found
        split at found
        · cases found
          exact inHistory
        · cases found
    | _ => cases found
  · rw [account.aw, completed]
    simp
  · rw [List.length_map, ← priorEq, List.length_map]
  · rw [account.w, account.staged, completed]
    simp

theorem WriteAccount.answered {port : c.Port} {history : List (Event c)} {state : Pipeline c W}
    (account : WriteAccount port history state) {response : WriteResponsePayload}
    (presented : ∃ rest, (state.ports port).b = response :: rest) :
    WriteAnswered port history (bOf port history).length response.id := by
  obtain ⟨rest, queue⟩ := presented
  obtain ⟨done, -, payloadEq, full, earlier, later, before, after, aw, count, w, length⟩ :=
    account.transaction queue
  obtain ⟨beats, beat, stagedEq, beatsLength, last⟩ := WriteRoute.stagedBeats_full full
  refine ⟨earlier, done.payload, later, aw, count, ?_, before ++ beats, beat, after, ?_, ?_, last⟩
  · rw [← payloadEq]
    rfl
  · rw [w, stagedEq]
    simp
  · rw [List.length_append, length, totalBeats_append, totalBeats_singleton, ← beatsLength,
      Nat.add_assoc]

/-- The burst to which a beat of a sequence of bursts belongs. -/
theorem exists_burst {payloads : List AddressPayload} {count : Nat} {shape : UInt64 × Bool}
    (found : (payloads.flatMap readShape)[count]? = some shape) :
    ∃ earlier payload later, payloads = earlier ++ payload :: later ∧
      totalBeats earlier ≤ count ∧ count < totalBeats earlier + payload.beats ∧
      shape = (payload.id, count - totalBeats earlier + 1 == payload.beats) := by
  induction payloads generalizing count with
  | nil => simp at found
  | cons first payloads ih =>
      have length : (readShape first).length = first.beats := by simp [readShape]
      rw [List.flatMap_cons] at found
      by_cases here : count < first.beats
      · refine ⟨[], first, payloads, rfl, by simp [totalBeats], by simpa [totalBeats] using here, ?_⟩
        rw [List.getElem?_append_left (by omega)] at found
        simp only [readShape, List.getElem?_map, List.getElem?_range here, Option.map_some,
          Option.some.injEq] at found
        simp [← found, totalBeats]
      · rw [List.getElem?_append_right (by omega), length] at found
        obtain ⟨earlier, payload, later, rfl, lower, upper, shapeEq⟩ := ih found
        refine ⟨first :: earlier, payload, later, rfl, ?_, ?_, ?_⟩
        · simp only [totalBeats, List.map_cons, List.sum_cons] at lower ⊢
          omega
        · simp only [totalBeats, List.map_cons, List.sum_cons] at upper ⊢
          omega
        · rw [shapeEq]
          simp only [totalBeats, List.map_cons, List.sum_cons, Nat.sub_sub]

theorem ReadAccount.answered {port : c.Port} {history : List (Event c)} {state : Pipeline c W}
    (account : ReadAccount port history state) {beat : c.ReadBeat}
    (presented : ∃ rest, (state.ports port).r = beat :: rest) :
    ReadAnswered port history (rOf port history).length beat := by
  obtain ⟨rest, queue⟩ := presented
  have found : ((arOf port history).flatMap readShape)[(rOf port history).length]? =
      some (beat.id, beat.last) := by
    rw [account.ar, ← account.r, queue]
    simp
  obtain ⟨earlier, payload, later, split, lower, upper, shape⟩ := exists_burst found
  exact ⟨earlier, payload, later, split, lower, upper, congrArg Prod.fst shape,
    congrArg Prod.snd shape⟩

/-- The fabric is a legal AXI subordinate.  A B or R payload that is presented in
a cycle whose READY is low is presented again in the next cycle; B is presented
only after the AW and the WLAST beat of its write, R only after the AR of its
read, each handshaken in an earlier cycle. -/
theorem legal_subordinate (env : FabricEnv W) (cycles : List c.Inputs) (inputs : c.Inputs)
    (random : UInt64) (stall : Stall) (world : W)
    (returned : (AxiFabric.runActive env (cycles ++ [inputs])
      (.fresh c random stall world)).isOk = true) (port : c.Port) :
    let before := (AxiFabric.runActive env cycles (.fresh c random stall world)).state
    let after := (AxiFabric.runActive env (cycles ++ [inputs]) (.fresh c random stall world)).state
    let presented := (before.drive false).outputs port
    let next := (after.drive false).outputs port
    (presented.bValid = true ∧ (inputs port).bReady = false →
        next.bValid = true ∧ next.b = presented.b) ∧
      (presented.rValid = true ∧ (inputs port).rReady = false →
        next.rValid = true ∧ next.r = presented.r) ∧
      (presented.bValid = true →
        WriteAnswered port before.trace (bOf port before.trace).length presented.b.id) ∧
      (presented.rValid = true →
        ReadAnswered port before.trace (rOf port before.trace).length presented.r) := by
  intro before after presented next
  obtain ⟨-, done⟩ := AxiFabric.runActive_snoc_ok returned
  obtain ⟨work, internal, follows⟩ := AxiFabric.cycleWith_ok done
  have early : Conserved before.trace before.view :=
    .of_traces (AxiFabric.runActive_traces env cycles random stall world)
  have late : Conserved after.trace after.view :=
    .of_traces (AxiFabric.runActive_traces env (cycles ++ [inputs]) random stall world)
  have trace : after.trace = before.trace ++ _ := follows.trace
  rw [trace] at late
  refine ⟨?_, ?_, ?_, ?_⟩
  · rintro ⟨valid, blocked⟩
    refine (AxiFabric.bValid_iff after port presented.b).mpr ?_
    exact (early.writes port).head_kept (late.writes port) (AxiFabric.bOf_cycle internal blocked)
      ((AxiFabric.bValid_iff before port presented.b).mp ⟨valid, rfl⟩)
  · rintro ⟨valid, blocked⟩
    refine (AxiFabric.rValid_iff after port presented.r).mpr ?_
    exact (early.reads port).head_kept (late.reads port) (AxiFabric.rOf_cycle internal blocked)
      ((AxiFabric.rValid_iff before port presented.r).mp ⟨valid, rfl⟩)
  · intro valid
    exact (early.writes port).answered
      ((AxiFabric.bValid_iff before port presented.b).mp ⟨valid, rfl⟩)
  · intro valid
    exact (early.reads port).answered
      ((AxiFabric.rValid_iff before port presented.r).mp ⟨valid, rfl⟩)

/-- A write and a read of one word, seen when the R beat is presented. -/
theorem legal_subordinate_small :
    (runSmall ([writeWord 0x1004 3 false 7, readWord 0x1004 5 false] ++ [takeAll])).isOk = true ∧
      ∀ port,
        let before := (runSmall [writeWord 0x1004 3 false 7, readWord 0x1004 5 false]).state
        ((before.drive false).outputs port).rValid = true ∧
          ReadAnswered port before.trace (rOf port before.trace).length
            ((before.drive false).outputs port).r := by
  have returned :
      (runSmall ([writeWord 0x1004 3 false 7, readWord 0x1004 5 false] ++ [takeAll])).isOk =
        true := by
    decide +kernel
  refine ⟨returned, fun port => ?_⟩
  have presented : (((runSmall [writeWord 0x1004 3 false 7,
      readWord 0x1004 5 false]).state.drive false).outputs port).rValid = true := by
    revert port
    decide +kernel
  obtain ⟨-, -, -, answered⟩ := legal_subordinate smallEnv
    [writeWord 0x1004 3 false 7, readWord 0x1004 5 false] takeAll 1 .never smallWorld returned port
  exact ⟨presented, answered presented⟩

end AxiTestbench
