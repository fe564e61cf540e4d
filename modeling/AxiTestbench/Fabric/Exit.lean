import AxiTestbench.Exit
import AxiTestbench.Fabric.Effects

/-!
# Exit completion

The code of an exit write is read from the device right after the write, kept in
the route and in its B response, and latched when the response is taken.  So the
exit code that the fabric reports is that of the write whose response was taken
first, whatever has been written to the device in the meantime.
-/

namespace AxiTestbench

open Lib Outcome

variable {c : Config} {W : Type} {env : FabricEnv W}

/-- A write went to an exit device and was answered OKAY. -/
def ExitDevices.Wrote (devices : ExitDevices env.bank) (dataBytes : Nat)
    (payload : AddressPayload) (response : Response) : Prop :=
  response = .okay ∧ ∃ mapping, decodedMapping env.space dataBytes payload = some mapping ∧
    devices.exits mapping.device = true

/-- The 32-bit value on the lanes of a write. -/
def exitValue {dataBytes : Nat} (payload : AddressPayload) (beat : WriteDataPayload dataBytes) :
    Nat :=
  leValue (span beat.data (payload.firstLane dataBytes 0) ExitDevice.registerSpan)

/-- The exit fields of an answered write tell whether it wrote an exit device, and
what. -/
structure WriteRoute.Snapshot (devices : ExitDevices env.bank) (done : WriteRoute c) : Prop where
  flag : done.exitResponse = true ↔ devices.Wrote c.dataBytes done.payload done.response
  code : done.exitResponse = true → ∃ beat, done.stagedBeats[0]? = some beat ∧
    done.exitCode.toNat = exitValue done.payload beat

/-! ## Snapshots -/

/-- What a beat leaves in the exit fields of its route. -/
theorem writeDeviceBeat_exit {world : W} {monitors : Monitors c} {route : WriteRoute c}
    {mapping : Mapping} {cursor : BurstCursor c.dataBytes} {beatIndex : Nat}
    {data strobe : Lanes c.dataBytes} {access : WriteAccess c W}
    (written : writeDeviceBeat env world monitors route mapping cursor beatIndex data strobe =
      .ok access) :
    access.route = route ∧ (access.call = none ∨ responseIsSuccess access.response = false ∨
        env.bank.isExit mapping.device access.world = false) ∨
      access.route = { route with
        exitResponse := true, exitCode := env.bank.exitCode mapping.device access.world } ∧
      responseIsSuccess access.response = true ∧
      env.bank.isExit mapping.device access.world = true := by
  simp only [writeDeviceBeat, bind, Except.bind, pure, Except.pure] at written
  repeat' split at written
  all_goals first | contradiction | cases written
  all_goals simp_all

/-- Only single-beat writes without lock reach an exit device. -/
theorem RouteBase.Valid.exit {route : RouteBase c} (valid : route.Valid env)
    (devices : ExitDevices env.bank) {mapping : Mapping} (targeted : route.target = some mapping)
    (exits : devices.exits mapping.device = true) :
    route.exclusive = false ∧ route.payload.beats = 1 ∧ route.payload.beatEnd 0 < 2 ^ 64 := by
  obtain ⟨okay, mapped⟩ := RouteBase.Valid.target_iff.mp targeted
  obtain ⟨world, forced⟩ := valid.forced
  rw [okay, mapped] at forced
  simp only [forcedResponseOf, devices.noBurst _ _ exits, devices.noExclusive _ _ exits,
    and_true] at forced
  have single : route.payload.beats = 1 := by
    have positive := route.payload.beats_pos
    by_contra several
    rw [if_pos (by omega)] at forced
    cases forced
  rw [if_neg (by omega)] at forced
  refine ⟨?_, single, ?_⟩
  · rw [valid.exclusive_eq]
    by_contra locked
    rw [if_pos (by simpa using locked)] at forced
    cases forced
  · -- A byte that decodes is below the top of the address space.
    obtain ⟨cursor, built, -⟩ := valid.routable.accepted
    have decoded := (decodedMapping_eq_some_iff env.space c.dataBytes route.payload mapping).mp
      (valid.mapping_eq.symm.trans mapped)
    obtain ⟨byte, member⟩ := List.exists_mem_of_ne_nil _ decoded.1
    obtain ⟨index, inRange, -, -, below⟩ := (mem_visibleBytes_iff cursor built byte).mp member
    have first : index = 0 := by omega
    rwa [first] at below

/-- The invariant: a route that waits has no snapshot, and every answered write has
the right one. -/
structure Snapshots (devices : ExitDevices env.bank) (history : List (Event c))
    (state : Pipeline c W) : Prop where
  waiting : ∀ route ∈ state.writeRoutes, route.exitResponse = false ∧
    (route.commitBeat = 0 → route.response = .okay)
  answered : ∀ done, .complete done ∈ history → done.Snapshot devices

namespace Snapshots

variable {devices : ExitDevices env.bank} {history more : List (Event c)}
  {state next : Pipeline c W}

theorem snapshot_forced {route : WriteRoute c} (valid : route.Valid env)
    (unset : route.exitResponse = false) (untargeted : route.target = none) :
    ({ route with response := combineResponse route.response route.forcedResponse } :
      WriteRoute c).Snapshot devices := by
  refine ⟨⟨fun flag => by simp [unset] at flag, ?_⟩, fun flag => by simp [unset] at flag⟩
  rintro ⟨okay, mapping, mapped, exits⟩
  have forced : route.forcedResponse = .okay := by
    revert okay
    simp only [combineResponse]
    cases route.forcedResponse <;> cases route.response <;> simp
  have targeted : route.target = some mapping :=
    RouteBase.Valid.target_iff.mpr ⟨forced, valid.mapping_eq.trans mapped⟩
  rw [targeted] at untargeted
  cases untargeted

theorem snapshot_exclusive {route : WriteRoute c} {world : W} {monitors : Monitors c}
    {cursor : BurstCursor c.dataBytes} {access : WriteAccess c W} (valid : route.Valid env)
    (unset : route.exitResponse = false) (exclusive : route.exclusive = true)
    (finished : finishExclusiveWrite env world monitors route cursor = .ok access) :
    access.route.Snapshot devices := by
  obtain ⟨response, routeEq⟩ := finishExclusiveWrite_route finished
  have unset : access.route.exitResponse = false := by rw [routeEq]; exact unset
  refine ⟨⟨fun flag => by simp [unset] at flag, ?_⟩, fun flag => by simp [unset] at flag⟩
  rintro ⟨okay, mapping, mapped, exits⟩
  have mapped : route.mapping = some mapping := by
    rw [routeEq] at mapped
    exact valid.mapping_eq.trans mapped
  -- An exit device forces the answer to a lock.
  obtain ⟨world, forced⟩ := valid.forced
  have forced : route.forcedResponse = .slaveError := by
    rw [forced, mapped]
    simp [forcedResponseOf, devices.noExclusive _ _ exits, ← valid.exclusive_eq, exclusive]
  have untargeted : route.target = none := by simp [RouteBase.target, forced]
  rw [finishExclusiveWrite_forced untargeted] at finished
  cases finished
  rw [forced] at okay
  cases okay

/-- A write that an exit device answers leaves its own code in the device. -/
theorem exit_written {route : WriteRoute c} {world : W} {monitors : Monitors c} {mapping : Mapping}
    {index : Nat} {access : WriteAccess c W} {data strobe : Lanes c.dataBytes}
    (exits : devices.exits mapping.device = true)
    (spec : BeatWritten env world monitors route mapping index data strobe access) :
    access.response = .slaveError ∨ access.response = .okay ∧
      (env.bank.exitCode mapping.device access.world).toNat =
        leValue (span data (route.payload.firstLane c.dataBytes index) ExitDevice.registerSpan) := by
  have object := devices.write mapping.device world
    (sub64 (route.payload.beatStart index) mapping.base)
    (span data (route.payload.firstLane c.dataBytes index) (route.payload.beatLength index))
    (span (route.payload.effective c.dataBytes index strobe)
      (route.payload.firstLane c.dataBytes index) (route.payload.beatLength index)) exits
  rw [spec.device] at object
  obtain ⟨objectEq, responseEq⟩ := Prod.ext_iff.mp object
  rcases ExitDevice.writeImpl_response (devices.object mapping.device world)
    (sub64 (route.payload.beatStart index) mapping.base)
    (span data (route.payload.firstLane c.dataBytes index) (route.payload.beatLength index))
    (span (route.payload.effective c.dataBytes index strobe)
      (route.payload.firstLane c.dataBytes index) (route.payload.beatLength index)) with
    failed | success
  · exact .inl (responseEq.trans failed)
  · obtain ⟨length, code⟩ := ExitDevice.writeImpl_code success
    rw [← objectEq, ← devices.exitCode mapping.device access.world exits] at code
    refine .inr ⟨responseEq.trans success, code.trans (congrArg leValue ?_)⟩
    -- The device accepts spans of its own size only.
    simp only [span, List.length_take] at length ⊢
    rw [List.take_eq_take_iff, length]
    omega

/-- The last beat of a write, which for an exit device is its only one. -/
theorem snapshot_last {route : WriteRoute c} {world : W} {monitors : Monitors c} {mapping : Mapping}
    {cursor : BurstCursor c.dataBytes} {access : WriteAccess c W} {data strobe : Lanes c.dataBytes}
    (valid : route.Valid env) (started : route.Started)
    (unset : route.exitResponse = false) (untouched : route.commitBeat = 0 → route.response = .okay)
    (built : BurstCursor.new route.payload = .ok cursor) (complete : route.dataComplete = true)
    (targeted : route.target = some mapping)
    (staged : route.staged route.commitBeat = .ok (data, strobe))
    (written : writeDeviceBeat env world monitors route mapping cursor route.commitBeat
      data strobe = .ok access) :
    (access.route.afterBeat access.response cursor.beats).Snapshot devices := by
  have mapped := (RouteBase.Valid.target_iff.mp targeted).2
  have decoded : decodedMapping env.space c.dataBytes route.payload = some mapping :=
    valid.mapping_eq.symm.trans mapped
  by_cases exits : devices.exits mapping.device = true
  · obtain ⟨-, single, below⟩ := valid.exit devices targeted exits
    have committed := started.commit_lt
    have first : route.commitBeat = 0 := by omega
    have full := started.complete_iff.mp complete
    rw [first] at written staged
    have spec := writeDeviceBeat_written built (by omega) below written
    rcases exit_written exits spec with failed | ⟨success, code⟩
    · -- The device refused the write.
      have same : access.route = route := by
        rcases writeDeviceBeat_exit written with ⟨same, -⟩ | ⟨-, success, -⟩
        · exact same
        · rw [failed] at success
          cases success
      have refused : (access.route.afterBeat access.response cursor.beats).response ≠ .okay := by
        rw [WriteRoute.afterBeat, same, failed, untouched first]
        simp
      have unset : (access.route.afterBeat access.response cursor.beats).exitResponse = false := by
        rw [same]
        exact unset
      exact ⟨⟨fun flag => by simp [unset] at flag, fun wrote => absurd wrote.1 refused⟩,
        fun flag => by simp [unset] at flag⟩
    · have exit : env.bank.isExit mapping.device access.world = true := by
        rw [devices.isExit]
        exact exits
      have routeEq : access.route = { route with
          exitResponse := true, exitCode := env.bank.exitCode mapping.device access.world } := by
        rcases writeDeviceBeat_exit written with ⟨-, uncalled | failed | regular⟩ | ⟨same, -⟩
        · rw [spec.call] at uncalled
          cases uncalled
        · rw [success] at failed
          cases failed
        · rw [exit] at regular
          cases regular
        · exact same
      rw [WriteRoute.afterBeat, routeEq, success]
      refine ⟨⟨fun _ => ⟨?_, mapping, decoded, exits⟩, fun _ => rfl⟩, fun _ =>
        ⟨route.stagedBeat 0, ?_, ?_⟩⟩
      · simp [untouched first]
      · exact WriteRoute.getElem?_stagedBeats.mpr ⟨by change 0 < route.beat; omega, rfl⟩
      · have dataEq : (route.stagedBeat 0).data = data := by
          rw [route.staged_eq (by decide)] at staged
          exact congrArg Prod.fst (Except.ok.inj staged)
        rw [exitValue, dataEq]
        exact code
  · have regular : env.bank.isExit mapping.device access.world = false := by
      rw [devices.isExit]
      exact Bool.eq_false_iff.mpr exits
    have same : access.route = route := by
      rcases writeDeviceBeat_exit written with ⟨same, -⟩ | ⟨-, -, exit⟩
      · exact same
      · rw [regular] at exit
        cases exit
    have unset : (access.route.afterBeat access.response cursor.beats).exitResponse = false := by
      rw [same]
      exact unset
    refine ⟨⟨fun flag => by simp [unset] at flag, ?_⟩, fun flag => by simp [unset] at flag⟩
    rintro ⟨-, other, otherMapped, otherExits⟩
    rw [WriteRoute.afterBeat, same] at otherMapped
    cases otherMapped.symm.trans decoded
    exact absurd otherExits exits

theorem empty (world : W) : Snapshots devices [] (Pipeline.empty c world) :=
  ⟨by simp [Pipeline.empty], by simp⟩

/-- A step that answers no write. -/
theorem of_waiting (snapshots : Snapshots devices history state)
    (unanswered : ∀ done, .complete done ∉ more)
    (waiting : ∀ route ∈ next.writeRoutes, route ∈ state.writeRoutes ∨
      route.exitResponse = false ∧ (route.commitBeat = 0 → route.response = .okay)) :
    Snapshots devices (history ++ more) next where
  waiting route member := (waiting route member).elim (snapshots.waiting route) id
  answered done member := by
    rcases List.mem_append.mp member with old | new
    · exact snapshots.answered done old
    · exact absurd new (unanswered done)

/-- A step that answers the front route. -/
theorem of_answered (snapshots : Snapshots devices history state) {route done : WriteRoute c}
    {routes : List (WriteRoute c)} (front : state.writeRoutes = route :: routes)
    (writeRoutes : next.writeRoutes = routes)
    (only : ∀ other, .complete other ∈ more → other = done) (snapshot : done.Snapshot devices) :
    Snapshots devices (history ++ more) next where
  waiting other member := snapshots.waiting other (by simp [front, ← writeRoutes, member])
  answered other member := by
    rcases List.mem_append.mp member with old | new
    · exact snapshots.answered other old
    · rw [only other new]
      exact snapshot

theorem step (snapshots : Snapshots devices history state) (ordered : Ordered state)
    (sound : Sound env history state) (taken : Pipeline.ActiveStep env state more next) :
    Snapshots devices (history ++ more) next := by
  obtain ⟨taken, active⟩ := taken
  cases taken with
  | routeAw port payload rest cycle base queue room routed =>
      refine snapshots.of_waiting (by simp) fun route member => ?_
      rcases List.mem_append.mp member with old | new
      · exact .inl old
      · obtain rfl := List.mem_singleton.mp new
        exact .inr ⟨rfl, fun _ => rfl⟩
  | stage route routes beat rest cursor lanes index front =>
      refine snapshots.of_waiting (by simp) fun other member => ?_
      rcases List.mem_cons.mp member with rfl | old
      · exact .inr (snapshots.waiting route (by simp [front]))
      · exact .inl (by simp [front, old])
  | completeForced route routes front complete room regular untargeted =>
      have member : route ∈ state.writeRoutes := by simp [front]
      exact snapshots.of_answered front rfl (by simp)
        (snapshot_forced (sound.writes route member).1 (snapshots.waiting route member).1 untargeted)
  | commitExclusive route routes cursor access front built complete room exclusive finished =>
      have member : route ∈ state.writeRoutes := by simp [front]
      exact snapshots.of_answered front rfl (by simp [Pipeline.writeEvents])
        (snapshot_exclusive (sound.writes route member).1 (snapshots.waiting route member).1
          exclusive finished)
  | commitLast route routes cursor mapping data strobe access front built complete room regular
      targeted staged written done =>
      have member : route ∈ state.writeRoutes := by simp [front]
      obtain ⟨unset, untouched⟩ := snapshots.waiting route member
      exact snapshots.of_answered front rfl (by simp [Pipeline.writeEvents])
        (snapshot_last (sound.writes route member).1 (ordered.writes route member) unset untouched
          built complete targeted staged written)
  | commitBeat route routes cursor mapping data strobe access front built complete room regular
      targeted staged written notDone =>
      have member : route ∈ state.writeRoutes := by simp [front]
      have started := ordered.writes route member
      obtain ⟨-, -, counted⟩ := started.commitBeat built complete regular written notDone
      refine snapshots.of_waiting (by simp [Pipeline.writeEvents]) fun other inRoutes => ?_
      rcases List.mem_cons.mp inRoutes with rfl | old
      · -- More than one beat, so the device is no exit device.
        have regularDevice : devices.exits mapping.device = false := by
          by_contra exits
          obtain ⟨-, single, -⟩ := (sound.writes route member).1.exit devices targeted
            (by simpa using exits)
          have next := (started.commitBeat built complete regular written notDone).1.commit_lt
          have same : (access.route.afterBeat access.response cursor.beats).payload =
              route.payload := by
            obtain ⟨exitResponse, exitCode, routeEq⟩ := writeDeviceBeat_route written
            rw [WriteRoute.afterBeat, routeEq]
          rw [counted, same] at next
          omega
        refine .inr ⟨?_, fun first => by omega⟩
        rcases writeDeviceBeat_exit written with ⟨same, -⟩ | ⟨-, -, exit⟩
        · rw [same]
          exact (snapshots.waiting route member).1
        · rw [devices.isExit, regularDevice] at exit
          cases exit
      · exact .inl (by simp [front, old])
  | retireB => exact snapshots.of_waiting (by simp) fun route member => .inl (by simpa using member)
  | readBeat | readLast =>
      exact snapshots.of_waiting (by simp [Pipeline.readEvents]) fun route member => .inl member
  | reset => simp [Event.isReset] at active
  | _ => exact snapshots.of_waiting (by simp) fun route member => .inl member

theorem of_traces {world : W}
    (trace : Traces (Pipeline.ActiveStep env) (.empty c world) history state) :
    Snapshots devices history state := by
  induction trace with
  | refl => exact .empty world
  | snoc prior taken ih =>
      exact ih.step (Conserved.of_traces prior).ordered (.of_traces prior) taken

end Snapshots

/-! ## The latch -/

@[simp] def Event.exit? : Event c → Option WriteResponsePayload
  | .b _ response => if response.exitResponse then some response else none
  | _ => none

/-- The exit responses that were taken, oldest first. -/
abbrev exitsOf (trace : List (Event c)) : List WriteResponsePayload :=
  picked Event.exit? trace

theorem exitsOf_append (trace more : List (Event c)) :
    exitsOf (trace ++ more) = exitsOf trace ++ exitsOf more :=
  picked_append _ _ _

/-- The latch holds the first exit response that was taken. -/
def Latched (history : List (Event c)) (state : Pipeline c W) : Prop :=
  match (exitsOf history).head? with
  | none => state.exitCompleted = false
  | some response => state.exitCompleted = true ∧ state.exitCode = response.exitCode

namespace Latched

variable {history more : List (Event c)} {state next : Pipeline c W}

theorem of_quiet (latched : Latched history state) (quiet : exitsOf more = [])
    (completed : next.exitCompleted = state.exitCompleted) (code : next.exitCode = state.exitCode) :
    Latched (history ++ more) next := by
  rw [Latched, exitsOf_append, quiet, List.append_nil, completed, code]
  exact latched

theorem step (latched : Latched history state) (taken : Pipeline.ActiveStep env state more next) :
    Latched (history ++ more) next := by
  obtain ⟨taken, active⟩ := taken
  cases taken with
  | retireB port response rest queue =>
      by_cases exit : response.exitResponse = true
      · simp only [Latched, picked_append, picked_singleton, Event.exit?, exit, if_true,
          Option.toList_some, List.head?_append, Pipeline.setPort, Pipeline.latchExit] at latched ⊢
        cases earlier : (exitsOf history).head? with
        | none =>
            rw [earlier] at latched
            simp [latched]
        | some first =>
            rw [earlier] at latched
            simpa [latched.1] using latched
      · have same : state.latchExit response = state := by simp [Pipeline.latchExit, exit]
        rw [same]
        exact latched.of_quiet (by simp [exit]) rfl rfl
  | commitExclusive | commitBeat | commitLast => exact latched.of_quiet (by simp) rfl rfl
  | readBeat | readLast => exact latched.of_quiet (by simp) rfl rfl
  | reset => simp [Event.isReset] at active
  | _ => exact latched.of_quiet (by simp) rfl rfl

theorem of_traces {world : W}
    (trace : Traces (Pipeline.ActiveStep env) (.empty c world) history state) :
    Latched history state :=
  trace.invariant Latched (show _ = false from rfl) fun _ _ _ _ latched taken => latched.step taken

end Latched

/-! ## Cycles -/

namespace AxiFabric

/-- In the cycle after `before`, a port takes the B response of a write to an exit
device.  The write is the one whose AW has as many before it as the port has taken
responses, and its W data starts after the beats of those. -/
def ExitHandshake (devices : ExitDevices env.bank) (before : AxiFabric c W) (inputs : c.Inputs)
    (port : c.Port) (value : Nat) : Prop :=
  let signals := (drive false before).outputs port
  signals.bValid = true ∧ (inputs port).bReady = true ∧
    ∃ earlier payload later first beat rest,
      awOf port before.trace = earlier ++ payload :: later ∧
      earlier.length = (bOf port before.trace).length ∧
      wOf port before.trace = first ++ beat :: rest ∧ first.length = totalBeats earlier ∧
      devices.Wrote c.dataBytes payload signals.b.response ∧ value = exitValue payload beat

/-- The exit fields of a driven B response identify its write. -/
theorem exitHandshake_iff {devices : ExitDevices env.bank} {before : AxiFabric c W}
    {inputs : c.Inputs} {port : c.Port} {world : W} (value : Nat)
    (traces : Traces (Pipeline.ActiveStep env) (.empty c world) before.trace before.view) :
    ExitHandshake devices before inputs port value ↔
      ((drive false before).outputs port).bValid = true ∧ (inputs port).bReady = true ∧
        ((drive false before).outputs port).b.exitResponse = true ∧
        ((drive false before).outputs port).b.exitCode.toNat = value := by
  have account := (Conserved.of_traces traces).writes port
  have snapshots : Snapshots devices before.trace before.view := .of_traces traces
  rw [ExitHandshake]
  refine and_congr_right fun valid => and_congr_right fun ready => ?_
  obtain ⟨rest, queue⟩ := (drive_driven before port).b valid
  rw [view_drive] at queue
  obtain ⟨done, answered, payloadEq, full, earlier, later, before, after, aw, count, w, length⟩ :=
    account.transaction queue
  have snapshot := snapshots.answered done answered
  rw [← payloadEq]
  constructor
  · rintro ⟨others, payload, laterAw, first, beat, tail, otherAw, otherCount, otherW, otherLength,
      wrote, rfl⟩
    -- Both name the same place in the AW and W streams.
    obtain ⟨rfl, samePayload⟩ := List.append_inj (aw.symm.trans otherAw) (count.trans otherCount.symm)
    obtain ⟨rfl, rfl⟩ := List.cons.inj samePayload
    have flag := snapshot.flag.mpr wrote
    obtain ⟨staged, found, code⟩ := snapshot.code flag
    obtain ⟨-, sameBeat⟩ := List.append_inj (w.symm.trans otherW) (length.trans otherLength.symm)
    have head := congrArg (fun beats => beats[0]?) sameBeat
    rw [List.getElem?_append_left (List.getElem?_eq_some_iff.mp found).1, found] at head
    cases head
    exact ⟨flag, code⟩
  · rintro ⟨flag, rfl⟩
    obtain ⟨staged, found, code⟩ := snapshot.code flag
    obtain ⟨tail, stagedEq⟩ : ∃ tail, done.stagedBeats = staged :: tail := by
      cases beats : done.stagedBeats with
      | nil => simp [beats] at found
      | cons head tail =>
          rw [beats] at found
          cases found
          exact ⟨tail, rfl⟩
    refine ⟨earlier, done.payload, later, before, staged, tail ++ after, aw, count, ?_, length,
      snapshot.flag.mp flag, code⟩
    rw [w, stagedEq, List.cons_append]

/-- The exit response that a port takes in a cycle. -/
def exitTaken (outputs : c.Outputs) (inputs : c.Inputs) (port : c.Port) :
    Option WriteResponsePayload :=
  if (outputs port).bValid && (inputs port).bReady && (outputs port).b.exitResponse then
    some (outputs port).b
  else
    none

/-- The exit responses of one cycle are taken in the order of the ports. -/
theorem exitsOf_handshakes (outputs : c.Outputs) (inputs : c.Inputs) :
    exitsOf (handshakes outputs inputs) =
      (List.finRange c.numPorts).filterMap (exitTaken outputs inputs) := by
  have accepted : exitsOf (allAcceptEvents outputs inputs) = [] := by
    simp only [exitsOf, picked, List.filterMap_eq_nil_iff]
    intro event member
    simp only [allAcceptEvents, acceptEvents, List.mem_append, List.mem_flatMap,
      List.mem_ite_nil_right, List.mem_singleton] at member
    rcases member with ⟨port, -, (⟨-, rfl⟩ | ⟨-, rfl⟩) | ⟨-, rfl⟩⟩ <;> rfl
  have retired : ∀ port, exitsOf (retireEvents (outputs port) (inputs port) port) =
      (exitTaken outputs inputs port).toList := by
    intro port
    rw [exitTaken, retireEvents]
    by_cases takesR : ((outputs port).rValid && (inputs port).rReady) = true <;>
      by_cases takesB : ((outputs port).bValid && (inputs port).bReady) = true <;>
      by_cases exit : (outputs port).b.exitResponse = true <;>
      simp [exitsOf, picked, takesR, takesB, exit]
  rw [handshakes, exitsOf_append, accepted, List.append_nil, allRetireEvents]
  induction List.finRange c.numPorts with
  | nil => rfl
  | cons port ports ih =>
      rw [List.flatMap_cons, exitsOf_append, ih, retired, List.filterMap_cons]
      cases exitTaken outputs inputs port <;> rfl

/-- Internal work takes no response. -/
theorem exitsOf_internal {work : List (Event c)} (internal : ∀ event ∈ work, event.internal = true) :
    exitsOf work = [] := by
  simp only [exitsOf, picked, List.filterMap_eq_nil_iff]
  intro event member
  have inner := internal event member
  cases event with
  | b => simp [Event.internal] at inner
  | _ => rfl

/-- What one cycle adds to the exit responses taken. -/
theorem cycleWith_exits (env : FabricEnv W) (before : AxiFabric c W) (inputs : c.Inputs) :
    Ends (cycleWith env before (inputs, false))
      (fun after => exitsOf after.trace = exitsOf before.trace ++
        (List.finRange c.numPorts).filterMap (exitTaken (drive false before).outputs inputs))
      fun _ after => exitsOf after.trace = exitsOf before.trace ∨
        exitsOf after.trace = exitsOf before.trace ++
          (List.finRange c.numPorts).filterMap (exitTaken (drive false before).outputs inputs) := by
  have worked : ∀ {after : AxiFabric c W} {work : List (Event c)}, exitsOf work = [] →
      after.trace = (drive false before).trace ++
        (handshakes (drive false before).outputs inputs ++ work) →
      exitsOf after.trace = exitsOf before.trace ++
        (List.finRange c.numPorts).filterMap (exitTaken (drive false before).outputs inputs) := by
    intro after work none trace
    rw [trace, trace_drive, exitsOf_append, exitsOf_append, none, List.append_nil,
      exitsOf_handshakes]
  refine (commit_active env inputs (drive false before) (drive_driven before)).mono ?_ ?_
  · rintro after ⟨work, internal, advances⟩
    have none : exitsOf (work ++ [.tick]) = [] := by
      rw [exitsOf_append, exitsOf_internal internal]
      rfl
    exact worked none (by rw [advances.trace, List.append_assoc])
  · rintro _ after (advances | ⟨work, internal, advances⟩)
    · left
      rw [advances.trace, trace_drive, List.append_nil]
    · exact .inr (worked (exitsOf_internal internal) advances.trace)

theorem exitTaken_iff {devices : ExitDevices env.bank} {before : AxiFabric c W}
    {inputs : c.Inputs} {port : c.Port} {world : W}
    (traces : Traces (Pipeline.ActiveStep env) (.empty c world) before.trace before.view)
    (value : Nat) :
    ExitHandshake devices before inputs port value ↔
      ∃ response, exitTaken (drive false before).outputs inputs port = some response ∧
        response.exitCode.toNat = value := by
  rw [exitHandshake_iff value traces, exitTaken]
  constructor
  · rintro ⟨valid, ready, exit, code⟩
    exact ⟨_, by simp [valid, ready, exit], code⟩
  · rintro ⟨response, taken, code⟩
    split at taken
    next all =>
      cases taken
      simp only [Bool.and_eq_true] at all
      exact ⟨all.1.1, all.1.2, all.2, code⟩
    next => cases taken

/-- A run has taken no exit response if no cycle handshook one. -/
theorem exitsOf_run (devices : ExitDevices env.bank) (random : UInt64) (stall : Stall) (world : W)
    (cycles : List c.Inputs) :
    exitsOf (runActive env cycles (.fresh c random stall world)).state.trace = [] ∨
      ∃ earlier inputs later before port value, cycles = earlier ++ inputs :: later ∧
        runActive env earlier (.fresh c random stall world) = .ok before ∧
        ExitHandshake devices before inputs port value := by
  induction cycles using List.reverseRecOn with
  | nil => exact .inl rfl
  | append_singleton cycles inputs ih =>
      rcases ih with untaken | ⟨earlier, other, later, before, port, value, rfl, returned, exit⟩
      rotate_left
      · exact .inr ⟨earlier, other, later ++ [inputs], before, port, value, by simp, returned, exit⟩
      have traces := runActive_traces env cycles random stall world
      rw [runActive_append]
      cases first : runActive env cycles (.fresh c random stall world) with
      | error thrown =>
          rw [first] at untaken
          exact .inl untaken
      | ok before =>
          rw [first] at untaken traces
          simp only [state_ok] at untaken traces
          by_cases quiet : ∀ port, exitTaken (drive false before).outputs inputs port = none
          · have silent : (List.finRange c.numPorts).filterMap
                (exitTaken (drive false before).outputs inputs) = [] :=
              List.filterMap_eq_nil_iff.mpr fun port _ => quiet port
            have ends := cycleWith_exits env before inputs
            rw [silent, List.append_nil, untaken] at ends
            have both := (ends.mono (fun _ => id) fun _ _ => or_self_iff.mp).state_of_both
            rw [ok_bind, runActive_single]
            exact .inl both
          · simp only [not_forall, ← Option.isSome_iff_ne_none, Option.isSome_iff_exists] at quiet
            obtain ⟨port, response, taken⟩ := quiet
            exact .inr ⟨cycles, inputs, [], before, port, response.exitCode.toNat, rfl, first,
              (exitTaken_iff traces _).mpr ⟨response, taken, rfl⟩⟩

/-- The first exit response of a cycle is that of the lowest port. -/
theorem head?_exitTaken {outputs : c.Outputs} {inputs : c.Inputs} {port : c.Port}
    {response : WriteResponsePayload} (taken : exitTaken outputs inputs port = some response)
    (lowest : ∀ lower < port, exitTaken outputs inputs lower = none) :
    ((List.finRange c.numPorts).filterMap (exitTaken outputs inputs)).head? = some response := by
  rw [List.head?_filterMap]
  cases found : (List.finRange c.numPorts).findSome? (exitTaken outputs inputs) with
  | none =>
      have all := List.findSome?_eq_none_iff.mp found port (List.mem_finRange port)
      rw [taken] at all
      cases all
  | some first =>
      obtain ⟨before, other, after, split, otherTaken, skipped⟩ := List.findSome?_eq_some_iff.mp found
      have member : port ∈ before ++ other :: after := split ▸ List.mem_finRange port
      have ordered : (before ++ other :: after).Pairwise (· < ·) :=
        split ▸ List.pairwise_lt_finRange _
      rcases List.mem_append.mp member with early | late
      · rw [skipped port early] at taken
        cases taken
      rcases List.mem_cons.mp late with rfl | later
      · exact otherTaken.symm.trans taken
      · have below := (List.pairwise_cons.mp (List.pairwise_append.mp ordered).2.1).1 port later
        rw [lowest other below] at otherTaken
        cases otherTaken

/-- The cycle after `before` is the first of a run that handshakes the B response of
an exit write, and `port` is the lowest port for which it does. -/
structure FirstExit (devices : ExitDevices env.bank) (start : AxiFabric c W)
    (earlier : List c.Inputs) (before : AxiFabric c W) (inputs : c.Inputs) (port : c.Port)
    (value : Nat) : Prop where
  started : runActive env earlier start = .ok before
  returned : (cycleWith env before (inputs, false)).isOk = true
  first : ∀ past other rest state, earlier = past ++ other :: rest →
    runActive env past start = .ok state →
    ∀ port value, ¬ExitHandshake devices state other port value
  exit : ExitHandshake devices before inputs port value
  lowest : ∀ lower < port, ∀ other, ¬ExitHandshake devices before inputs lower other

end AxiFabric

open AxiFabric in
/-- Exit completion is reported from the first cycle on that handshakes the B response
of a successful exit write, and only then; the code is the value of that write. -/
theorem exit_completion_exact (devices : ExitDevices env.bank) (cycles : List c.Inputs)
    (random : UInt64) (stall : Stall) (world : W) :
    let start : AxiFabric c W := .fresh c random stall world
    let final := (runActive env cycles start).state
    (final.exitCompleted = true → ∃ earlier inputs later before port value,
        cycles = earlier ++ inputs :: later ∧ runActive env earlier start = .ok before ∧
        ExitHandshake devices before inputs port value) ∧
      ∀ earlier inputs later before port value, cycles = earlier ++ inputs :: later →
        FirstExit devices start earlier before inputs port value →
        final.exitCompleted = true ∧ final.exitCode.toNat = value := by
  intro start final
  have latched : Latched final.trace final.view :=
    .of_traces (runActive_traces env cycles random stall world)
  constructor
  · intro completed
    rcases exitsOf_run devices random stall world cycles with untaken | found
    · rw [Latched, show exitsOf final.trace = [] from untaken] at latched
      rw [show final.exitCompleted = false from latched] at completed
      cases completed
    · exact found
  · rintro earlier inputs later before port value rfl ⟨started, returned, first, exit, lowest⟩
    have untaken : exitsOf before.trace = [] := by
      rcases exitsOf_run devices random stall world earlier with untaken |
        ⟨past, other, rest, state, otherPort, otherValue, split, pastReturned, otherExit⟩
      · rwa [show runActive env earlier (.fresh c random stall world) = .ok before from started]
          at untaken
      · exact absurd otherExit (first past other rest state split pastReturned otherPort otherValue)
    have traces := runActive_traces env earlier random stall world
    rw [show runActive env earlier (.fresh c random stall world) = .ok before from started,
      state_ok] at traces
    obtain ⟨response, taken, code⟩ := (exitTaken_iff traces value).mp exit
    have lower : ∀ lower < port, exitTaken (drive false before).outputs inputs lower = none := by
      intro lower below
      cases found : exitTaken (drive false before).outputs inputs lower with
      | none => rfl
      | some other =>
          exact absurd ((exitTaken_iff traces _).mpr ⟨other, found, rfl⟩)
            (lowest lower below other.exitCode.toNat)
    -- The first exit response of the cycle stays the first one of the run.
    have stepped := (cycleWith_exits env before inputs).of_isOk returned
    obtain ⟨more, follows, -⟩ := run_follows env (later.map fun inputs => (inputs, false))
      (cycleWith env before (inputs, false)).state
    have finalEq :
        final = (runActive env later (cycleWith env before (inputs, false)).state).state := by
      have afterEq := eq_ok_of_isOk returned
      change (runActive env (earlier ++ inputs :: later) start).state = _
      rw [runActive_append, started, ok_bind, runActive, run, List.map_cons, List.foldlM_cons,
        afterEq]
      rfl
    have head : (exitsOf final.trace).head? = some response := by
      rw [finalEq, runActive, follows.trace, exitsOf_append, stepped, untaken, List.nil_append,
        List.head?_append, head?_exitTaken taken lower]
      rfl
    rw [Latched, head] at latched
    exact ⟨latched.1, by rw [← code, ← show final.exitCode = response.exitCode from latched.2]⟩

/-- One exit device at `0x3000`. -/
def exitEnv : FabricEnv ((DeviceId → ExitDevice) × RamWorld) where
  bank := exitBank (fun device => device == 1) ramBank
  space :=
    { mappings := [{ base := 0x3000, size := 4, device := 1 }]
      frozen := true
      layout := ⟨by decide, by decide, by decide⟩ }

def exitDevices : ExitDevices exitEnv.bank := exitBankDevices (fun device => device == 1) ramBank

/-- Two exit writes are outstanding when the first response is taken. -/
def twoExits : List Config.small.Inputs :=
  let wait (inputs : Config.small.Inputs) : Config.small.Inputs := fun port =>
    { inputs port with bReady := false }
  [wait (writeWord 0x3000 11 false 0x11), wait (writeWord 0x3000 12 false 0x22), takeAll]

def exitStart : AxiFabric Config.small ((DeviceId → ExitDevice) × RamWorld) :=
  .fresh Config.small 1 .never (fun _ => {}, smallWorld)

open AxiFabric in
/-- Both exit writes are answered and neither response has been taken. -/
def bothAnswered : AxiFabric Config.small ((DeviceId → ExitDevice) × RamWorld) :=
  (runActive exitEnv (twoExits.take 2) exitStart).state

open AxiFabric in
theorem firstExit_twoExits : FirstExit exitDevices exitStart (twoExits.take 2) bothAnswered takeAll
    ⟨0, by decide⟩ 0x11111111 where
  started := eq_ok_of_isOk (by decide +kernel)
  returned := by decide +kernel
  first past other rest state split _ port value exit := by
    have waiting : ∀ other ∈ twoExits.take 2, ∀ port, (other port).bReady = false := by decide
    have ready := exit.2.1
    rw [waiting other (by simp [split]) port] at ready
    cases ready
  exit := by
    refine (exitHandshake_iff _ (runActive_traces exitEnv _ 1 .never _)).mpr ?_
    decide +kernel
  lowest lower below := absurd below (Nat.not_lt_zero lower)

open AxiFabric in
/-- The code is the first value although the second write is answered as well. -/
theorem exit_completion_exact_small :
    let final := (runActive exitEnv twoExits exitStart).state
    (∃ earlier inputs later before port value, twoExits = earlier ++ inputs :: later ∧
        runActive exitEnv earlier exitStart = .ok before ∧
        ExitHandshake exitDevices before inputs port value) ∧
      final.exitCompleted = true ∧ final.exitCode.toNat = 0x11111111 := by
  intro final
  obtain ⟨only, code⟩ := exit_completion_exact exitDevices twoExits 1 .never
    (fun _ => {}, smallWorld)
  exact ⟨only (by decide +kernel),
    code (twoExits.take 2) takeAll [] bothAnswered _ _ rfl firstExit_twoExits⟩

end AxiTestbench
