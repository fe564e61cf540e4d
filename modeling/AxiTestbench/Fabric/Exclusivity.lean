import AxiTestbench.Fabric.Memory
import AxiTestbench.Fabric.Reservation

/-!
# Exclusivity of storage

Reservations are kept by bus address.  They protect the storage behind the bus as
long as nobody writes reserved storage through another window and the reserved
range does not wrap at the top of the address space.
-/

namespace AxiTestbench

open Lib Outcome

variable {c : Config} {W : Type}

/-! ## Storage reached by a write -/

/-- Whether an event is a successful device write that strobes a storage byte. -/
def Event.Stores (byte : StorageByte) : Event c → Prop
  | .deviceWrite _ call =>
      responseIsSuccess call.response = true ∧ call.device = byte.1 ∧ call.offset ≤ byte.2 ∧
        byteAt call.strobe (byte.2 - call.offset) ≠ 0
  | _ => False

instance (byte : StorageByte) : DecidablePred (Event.Stores (c := c) byte)
  | .deviceWrite .. => inferInstanceAs (Decidable (_ ∧ _))
  | .aw .. | .w .. | .ar .. | .b .. | .r .. | .routeWrite .. | .routeRead .. | .stage ..
  | .complete .. | .reserve .. | .deviceRead .. | .produce .. | .reset | .resetDevices | .tick =>
      .isFalse id

/-- The bus bytes that the next device write of a route strobes: those of its next
beat, or of all its beats if it is exclusive. -/
def WriteRoute.StrobesBus (route : WriteRoute c) (byte : Nat) : Prop :=
  ∃ index < route.payload.beats, (route.exclusive = false → index = route.commitBeat) ∧
    ∃ lane : Fin c.dataBytes, route.payload.mask c.dataBytes index lane ≠ 0 ∧
      (route.stagedBeat index).strobe lane ≠ 0 ∧
      byte = route.payload.busWord c.dataBytes index + lane

/-- Where a device write goes. -/
structure Placed (space : AddressSpace) (route : WriteRoute c) (call : DeviceWrite)
    (mapping : Mapping) : Prop where
  targeted : route.target = some mapping
  member : mapping ∈ space.mappings
  device : call.device = mapping.device
  baseLe : mapping.base ≤ call.address
  offset : call.offset = call.address - mapping.base
  strobes : ∀ byte, call.Strobes byte → route.StrobesBus byte

theorem Sound.placed {env : FabricEnv W} {history before after : List (Event c)}
    {state next : Pipeline c W} {route : WriteRoute c} {call : DeviceWrite}
    (sound : Sound env history state) (ordered : Ordered state)
    (taken : Pipeline.Step env state (before ++ .deviceWrite route call :: after) next) :
    ∃ mapping, Placed env.space route call mapping := by
  obtain ⟨-, complete, routes, cursor, front, built, access, called, how⟩ := taken.of_deviceWrite
  have member : route ∈ state.writeRoutes := by simp [front]
  have valid := (sound.writes route member).1
  rcases how with ⟨exclusive, -, finished⟩ |
    ⟨regular, mapping, data, strobe, targeted, staged, written⟩
  · have shape := valid.shape exclusive
    cases targeted : route.target with
    | none =>
        rw [finishExclusiveWrite_forced targeted] at finished
        cases finished
        simp at called
    | some mapping =>
        by_cases held : Reserved state.monitors route.port route.payload
        · obtain ⟨made, image, madeOk, spec⟩ := finishExclusiveWrite_reserved built shape
            (fun index inRange => valid.starts inRange) targeted held
          rw [← Except.ok.inj (madeOk.symm.trans finished), spec.call] at called
          cases called
          obtain ⟨inSpace, baseLe⟩ := valid.base_le exclusive targeted
          refine ⟨mapping, targeted, inSpace, rfl, baseLe, ?_, fun byte strobed => ?_⟩
          · exact sub64_eq baseLe route.payload.address.toNat_lt
          · obtain ⟨position, -, lit, rfl⟩ :=
              (exclusiveCall_strobes_iff shape mapping image _ byte).mp strobed
            obtain ⟨index, inRange, lane, enabled, laneStrobed, placed⟩ :=
              (spec.staged.strobed_iff position).mp lit
            exact ⟨index, inRange, fun regular => by simp [exclusive] at regular, lane, enabled,
              laneStrobed, placed.symm⟩
        · rw [finishExclusiveWrite_unreserved targeted held] at finished
          cases finished
          simp at called
  · have inRange := (ordered.writes route member).commit_lt
    have startLt := valid.starts inRange
    rcases Nat.lt_or_eq_of_le (valid.beatEnd_le inRange) with below | top
    · have spec := writeDeviceBeat_written built inRange below written
      rw [spec.call] at called
      cases called
      obtain ⟨inSpace, baseLe, -⟩ := valid.window targeted inRange below
      refine ⟨mapping, targeted, inSpace, rfl, baseLe, sub64_eq baseLe startLt,
        fun byte strobed => ?_⟩
      obtain ⟨lane, effective, rfl⟩ :=
        (beatCall_strobes_iff built route.commitBeat mapping data strobe _ byte).mp strobed
      rw [route.staged_eq (Nat.lt_of_lt_of_le inRange route.payload.beats_le)] at staged
      cases staged
      simp only [AddressPayload.effective] at effective
      split at effective
      next both => exact ⟨route.commitBeat, inRange, fun _ => rfl, lane, both.1, both.2, rfl⟩
      next => exact absurd rfl effective
    · rw [writeDeviceBeat_top built inRange startLt top] at written
      cases written
      simp at called

/-! ## Exclusivity -/

/-- No storage byte of an exclusive write was written between the exclusive read
that it matches and its own device write. -/
def Exclusivity (before : List (Event c)) (done : WriteRoute c) : Prop :=
  ∃ mapping start read between route call, done.target = some mapping ∧
    before = (start ++ .reserve read :: between) ++ [.deviceWrite route call] ∧
    route.decision = done.decision ∧ read.port = done.port ∧ read.payload = done.payload ∧
    (∀ other, .reserve other ∈ between →
      ¬(other.port = done.port ∧ other.payload.id = done.payload.id)) ∧
    ∀ byte, done.payload.address.toNat ≤ byte →
      byte < done.payload.address.toNat + done.payload.total →
      ∀ event ∈ between, ¬event.Stores (mapping.device, byte - mapping.base)

/-- The next device write of a route reaches no reserved storage byte through
another window than that of the reservation. -/
def Unaliased (space : AddressSpace) (before : List (Event c)) (route : WriteRoute c) : Prop :=
  ∀ mapping ∈ space.mappings, ∀ window ∈ space.mappings, route.target = some mapping →
    window.device = mapping.device → ∀ port payload, Reserves before port payload →
    space.windowOf payload = some window → ∀ byte, route.StrobesBus byte →
    payload.address.toNat ≤ window.base + (byte - mapping.base) →
    window.base + (byte - mapping.base) < payload.address.toNat + payload.total →
    mapping = window

theorem RouteBase.Valid.forced_ne {env : FabricEnv W} {route : RouteBase c}
    (valid : route.Valid env) : route.forcedResponse ≠ .exclusiveOkay := by
  obtain ⟨world, forced⟩ := valid.forced
  rw [forced]
  simp only [forcedResponseOf]
  split
  · split <;> simp
  · split
    · simp
    · split <;> simp

/-- An EXOKAY comes from a device write under a reservation. -/
theorem Monitored.of_exclusiveOkay {env : FabricEnv W} {history before after : List (Event c)}
    {state next : Pipeline c W} {done : WriteRoute c}
    (monitored : Monitored history state.monitors) (sound : Sound env history state)
    (taken : Pipeline.Step env state (before ++ .complete done :: after) next)
    (exclusive : done.exclusive = true) (answered : done.response = .exclusiveOkay) :
    ∃ mapping route call, done.target = some mapping ∧ done.Valid env ∧
      before = [.deviceWrite route call] ∧ route.decision = done.decision ∧
      Reserves history done.port done.payload := by
  obtain ⟨-, route, routes, front, complete, how⟩ := taken.of_complete
  have member : route ∈ state.writeRoutes := by simp [front]
  have valid := (sound.writes route member).1
  rcases how with ⟨regular, -, -, rfl⟩ | ⟨cursor, access, built, rfl, how⟩
  · simp [regular] at exclusive
  rcases how with ⟨routeExclusive, rfl, finished⟩ |
    ⟨regular, mapping, data, strobe, targeted, staged, written, rfl, -⟩
  · cases targeted : route.target with
    | none =>
        rw [finishExclusiveWrite_forced targeted] at finished
        cases finished
        exact absurd answered valid.forced_ne
    | some mapping =>
        by_cases held : Reserved state.monitors route.port route.payload
        · obtain ⟨made, image, madeOk, spec⟩ := finishExclusiveWrite_reserved built
            (valid.shape routeExclusive) (fun index inRange => valid.starts inRange) targeted held
          obtain rfl : made = access := Except.ok.inj (madeOk.symm.trans finished)
          refine ⟨mapping, route, exclusiveCall route.payload mapping image made.response, ?_⟩
          rw [spec.answered]
          refine ⟨targeted, valid, ?_, rfl, (monitored.reserved_iff _ _).mp held⟩
          simp [Pipeline.writeEvents, spec.call]
        · rw [finishExclusiveWrite_unreserved targeted held] at finished
          cases finished
          simp at answered
  · obtain ⟨exitResponse, exitCode, routeEq⟩ := writeDeviceBeat_route written
    simp [WriteRoute.afterBeat, routeEq, regular] at exclusive

/-- Exclusive writes are exclusive on storage in every run in which no exclusive
read touches the last byte of the address space and no write reaches reserved
storage through another window. -/
theorem exclusive_storage_unaliased (env : FabricEnv W) (cycles : List c.Inputs)
    (random : UInt64) (stall : Stall) (world : W)
    (offTop : ∀ read, .reserve read ∈
      (AxiFabric.runActive env cycles (.fresh c random stall world)).state.trace →
        ¬read.payload.TouchesTop)
    (unaliased : ∀ before route call after,
      (AxiFabric.runActive env cycles (.fresh c random stall world)).state.trace =
        before ++ .deviceWrite route call :: after → Unaliased env.space before route) :
    ∀ before done after,
      (AxiFabric.runActive env cycles (.fresh c random stall world)).state.trace =
        before ++ .complete done :: after →
      done.exclusive = true → done.response = .exclusiveOkay → Exclusivity before done := by
  intro before done after split exclusive answered
  have traces := AxiFabric.runActive_traces env cycles random stall world
  rw [split] at traces offTop unaliased
  obtain ⟨history, state, front, back, next, rest, prior, taken, -, rfl, rfl⟩ := traces.split
  have monitored : Monitored history state.monitors :=
    .of_traces prior fun read member => offTop read (by simp [member])
  obtain ⟨mapping, route, call, targeted, valid, rfl, same, start, read, between, rfl, portEq,
    payloadEq, unbroken⟩ :=
    monitored.of_exclusiveOkay (.of_traces prior) taken.1 exclusive answered
  have readOff : ¬done.payload.TouchesTop := payloadEq ▸ offTop read (by simp)
  have window : env.space.windowOf done.payload = some mapping := by
    rw [env.space.windowOf_eq valid.routable.accepted readOff, ← valid.mapping_eq]
    exact (RouteBase.Valid.target_iff.mp targeted).2
  refine ⟨mapping, start, read, between, route, call, targeted, rfl, same, portEq, payloadEq,
    fun other member matching => unbroken _ member matching, ?_⟩
  intro byte lower upper event member stores
  cases event with
  | deviceWrite other otherCall =>
      obtain ⟨success, deviceEq, offsetLe, strobed⟩ := stores
      obtain ⟨earlier, later, rfl⟩ := List.append_of_mem member
      -- The fabric just before the write that would break in.
      have writeSplit : start ++ .reserve read :: (earlier ++ .deviceWrite other otherCall :: later) =
          (start ++ .reserve read :: earlier) ++ .deviceWrite other otherCall :: later := by simp
      rw [writeSplit] at prior
      obtain ⟨past, middle, frontEvents, backEvents, after, tail, past_traces, otherTaken, -,
        pastEq, -⟩ := prior.split
      obtain ⟨otherMapping, placed⟩ := Sound.placed (.of_traces past_traces)
        (Conserved.of_traces past_traces).ordered otherTaken.1
      have busByte : otherCall.Strobes (otherCall.address + (byte - mapping.base -
          otherCall.offset)) := by
        refine ⟨by omega, ?_⟩
        rwa [Nat.add_sub_cancel_left]
      have holds : Reserves (start ++ .reserve read :: earlier) done.port done.payload :=
        ⟨start, read, earlier, rfl, portEq, payloadEq,
          fun event inEarlier => unbroken event (by simp [inEarlier])⟩
      have otherSplit : (start ++ .reserve read :: (earlier ++ .deviceWrite other otherCall :: later)
          ++ [.deviceWrite route call]) ++ .complete done :: (back ++ rest) =
          (start ++ .reserve read :: earlier) ++ .deviceWrite other otherCall ::
            (later ++ [.deviceWrite route call] ++ .complete done :: (back ++ rest)) := by simp
      have baseLe : mapping.base ≤ byte := by
        have inWindow := (valid.base_le exclusive targeted).2
        omega
      have offsetEq := placed.offset
      have otherBase := placed.baseLe
      have sameWindow : otherMapping = mapping := by
        refine unaliased _ other otherCall _ otherSplit otherMapping placed.member mapping
          (valid.base_le exclusive targeted).1 placed.targeted ?_ done.port done.payload holds
          window _ (placed.strobes _ busByte) ?_ ?_
        · rw [← placed.device, deviceEq]
        · omega
        · omega
      subst sameWindow
      refine unbroken (.deviceWrite other otherCall) (by simp) ⟨success, _, busByte, ?_, ?_⟩
      · omega
      · omega
  | _ => exact stores

/-- The small RAM in two windows. -/
def aliasEnv : FabricEnv RamWorld where
  bank := ramBank
  space :=
    { mappings := [{ base := 0x1000, size := 16, device := 0 },
        { base := 0x2000, size := 16, device := 0 }]
      frozen := true
      layout := ⟨by decide, by decide, by decide⟩ }

/-- The event does not reach the word at `0x1004` through the second window. -/
def Event.offReservation : Event Config.small → Bool
  | .reserve read => read.payload == wordAt 0x1004 3 true
  | .deviceWrite route _ =>
      route.target == some { base := 0x1000, size := 16, device := 0 } ||
        (List.range route.payload.beats).all fun index =>
          0x2008 ≤ route.payload.busWord Config.small.dataBytes index
  | _ => true

/-- Other storage is written through the second window while the reservation is held. -/
theorem exclusive_storage_unaliased_small :
    let cycles := [readWord 0x1004 3 true, writeWord 0x2008 4 false 9, writeWord 0x1004 3 true 7]
    let trace := (AxiFabric.runActive aliasEnv cycles
      (.fresh Config.small 1 .never smallWorld)).state.trace
    ((completedWrites trace).map fun done =>
        (done.target.map Mapping.base, done.exclusive, done.response)) =
        [(some 0x2000, false, .okay), (some 0x1000, true, .exclusiveOkay)] ∧
      ∀ before done after, trace = before ++ .complete done :: after →
        done.exclusive = true → done.response = .exclusiveOkay → Exclusivity before done := by
  intro cycles trace
  have offTop : OffTop trace := by decide +kernel
  have apart : ∀ event ∈ trace, event.offReservation = true := by decide +kernel
  refine ⟨by decide +kernel, exclusive_storage_unaliased aliasEnv cycles 1 .never smallWorld
    (OffTop.reserves offTop (AxiFabric.runActive_traces aliasEnv cycles 1 .never smallWorld))
    fun before route call after split => ?_⟩
  intro mapping member window inSpace targeted _ port payload reserves windowEq byte strobes
    lower upper
  have inTrace : ∀ event ∈ before ++ [.deviceWrite route call], event ∈ trace := by
    intro event member
    have traceEq : trace = before ++ .deviceWrite route call :: after := split
    rw [traceEq, List.append_cons]
    exact List.mem_append_left after member
  have reserved : payload = wordAt 0x1004 3 true := by
    obtain ⟨start, read, between, rfl, -, payloadEq, -⟩ := reserves
    have own := apart _ (inTrace (.reserve read) (by simp))
    exact payloadEq.symm.trans (eq_of_beq own)
  subst reserved
  have first : window = { base := 0x1000, size := 16, device := 0 } := by
    have found : aliasEnv.space.windowOf (wordAt 0x1004 3 true) =
        some { base := 0x1000, size := 16, device := 0 } := by decide +kernel
    exact Option.some.inj (windowEq.symm.trans found)
  subst first
  obtain ⟨index, inRange, -, lane, -, -, rfl⟩ := strobes
  have off := apart _ (inTrace (.deviceWrite route call) (by simp))
  rw [Event.offReservation, Bool.or_eq_true, beq_iff_eq, List.all_eq_true, targeted,
    Option.some.injEq] at off
  refine off.resolve_right fun beyond => ?_
  have far := of_decide_eq_true (beyond index (List.mem_range.mpr inRange))
  have second : mapping.base ≤ 0x2000 := by
    simp only [aliasEnv, List.mem_cons, List.not_mem_nil, or_false] at member
    rcases member with rfl | rfl <;> decide
  have limit : (wordAt 0x1004 3 true).address.toNat + (wordAt 0x1004 3 true).total = 0x1008 := by
    decide
  simp only at upper
  omega
/-- Whether a storage byte was written after the last exclusive read. -/
def storedSince (byte : StorageByte) (trace : List (Event c)) : Bool :=
  trace.foldl
    (fun stored event =>
      match event with
      | .reserve _ => false
      | event => stored || decide (event.Stores byte))
    false

private theorem storedSince_eq_false {byte : StorageByte} {start between : List (Event c)}
    {read : ReadRoute c} (untouched : ∀ event ∈ between, ¬event.Stores byte) :
    storedSince byte (start ++ .reserve read :: between) = false := by
  rw [storedSince, List.foldl_append, List.foldl_cons]
  induction between with
  | nil => rfl
  | cons event between ih =>
      have later := ih fun other member => untouched other (by simp [member])
      have first := untouched event (by simp)
      rw [List.foldl_cons]
      cases event <;> simp_all

/-- A word is read exclusively through one window and written through the other;
the exclusive write still answers EXOKAY. -/
theorem exclusive_storage_aliased :
    let events := (AxiFabric.runActive aliasEnv
      [readWord 0x1004 3 true, writeWord 0x2004 4 false 9, writeWord 0x1004 3 true 7]
      (.fresh Config.small 1 .never smallWorld)).state.trace
    ∃ before done after, events = before ++ .complete done :: after ∧ done.exclusive = true ∧
      done.response = .exclusiveOkay ∧ ¬Exclusivity before done := by
  intro events
  have stored : storedSince (0, 4) (events.take 20).dropLast = true := by decide +kernel
  have found : (events[20]?.bind Event.completed?).map
      (fun done => (done.exclusive, done.response, done.payload, done.target)) =
      some (true, .exclusiveOkay, wordAt 0x1004 3 true,
        some { base := 0x1000, size := 16, device := 0 }) := by decide +kernel
  obtain ⟨done, completed, fields⟩ := Option.map_eq_some_iff.mp found
  obtain ⟨exclusive, answered, payloadEq, targetEq⟩ := by simpa using fields
  obtain ⟨event, atIndex, isDone⟩ := Option.bind_eq_some_iff.mp completed
  obtain ⟨inTrace, eventEq⟩ := List.getElem?_eq_some_iff.mp atIndex
  have eventIs : event = .complete done := by
    cases event with
    | complete route =>
        cases isDone
        rfl
    | _ => simp at isDone
  have split : events = events.take 20 ++ .complete done :: events.drop 21 := by
    rw [← eventIs, ← eventEq, ← List.drop_eq_getElem_cons inTrace, List.take_append_drop]
  refine ⟨events.take 20, done, events.drop 21, split, exclusive, answered, ?_⟩
  rintro ⟨mapping, start, read, between, route, call, targeted, beforeEq, -, -, -, -, untouched⟩
  rw [targetEq] at targeted
  obtain rfl := Option.some.inj targeted
  rw [payloadEq] at untouched
  rw [beforeEq, List.dropLast_concat] at stored
  have unstored : ∀ event ∈ between, ¬event.Stores (0, 4) :=
    untouched 0x1004 (by decide) (by decide)
  rw [storedSince_eq_false unstored] at stored
  contradiction

end AxiTestbench
