import AxiTestbench.Fabric.Effects
import AxiTestbench.Lib.Check
import AxiTestbench.Lib.Replay

/-!
# Devices follow the trace

The devices behind the fabric change through the calls that the trace records and through
nothing else, and each recorded answer is the one that the device gave at its turn.  The
beats and responses that reach an initiator are made from these answers.
-/

namespace AxiTestbench

open Lib Outcome

variable {c : Config} {W : Type}

/-! ## Replaying the recorded calls -/

/-- What an event does to the devices. -/
def Event.act (env : FabricEnv W) (world : W) : Event c → W
  | .deviceRead _ call => (env.bank.readImpl call.device world call.offset call.enable).1
  | .deviceWrite _ call =>
      (env.bank.writeImpl call.device world call.offset call.data call.strobe).1
  | .resetDevices => env.space.reset env.bank world
  | _ => world

/-- A recorded call has the answer of the device in the world it was made in.  The spans of a
write have the same length, or `Device::write` had thrown. -/
def Event.Truthful (env : FabricEnv W) (world : W) : Event c → Prop
  | .deviceRead _ call =>
      (env.bank.readImpl call.device world call.offset call.enable).2 = (call.response, call.data)
  | .deviceWrite _ call =>
      call.data.length = call.strobe.length ∧
        (env.bank.writeImpl call.device world call.offset call.data call.strobe).2 = call.response
  | _ => True

/-- The trace as a record of the devices. -/
def FabricEnv.recorder (env : FabricEnv W) : Recorder W (Event c) where
  act := Event.act env
  Truthful := Event.Truthful env

/-! ## Calls of one beat -/

section Calls

variable {env : FabricEnv W} {world : W}

theorem DeviceBank.read_called {bank : DeviceBank W} {device : DeviceId} {after : W}
    {offset length : Nat} {enable : List UInt8} {response : Response} {data : List UInt8}
    (nonempty : length ≠ 0)
    (done : bank.read device world offset length enable = .ok (after, response, data)) :
    bank.readImpl device world offset enable = (after, response, data) := by
  rw [DeviceBank.read] at done
  split at done
  next => cases done
  next => exact Except.ok.inj done

theorem DeviceBank.write_called {bank : DeviceBank W} {device : DeviceId} {after : W}
    {offset : Nat} {data strobe : List UInt8} {response : Response} (nonempty : data.length ≠ 0)
    (done : bank.write device world offset data strobe = .ok (after, response)) :
    data.length = strobe.length ∧
      bank.writeImpl device world offset data strobe = (after, response) := by
  rw [DeviceBank.write] at done
  split at done
  next => cases done
  next same => exact ⟨not_not.mp same, Except.ok.inj done⟩

/-- A nonempty extent starts inside the lanes. -/
theorem enabledExtent_inside {size : Nat} (mask : Lanes size)
    (nonempty : (enabledExtent mask).2 ≠ 0) : (enabledExtent mask).1 < size := by
  have bounded : ∀ (lanes : List (Fin size)) (start : Nat × Nat), start.1 ≤ size →
      (lanes.foldl (fun extent index =>
        if mask index ≠ 0 then (min extent.1 index.val, index.val + 1) else extent) start).1 ≤
        size := by
    intro lanes
    induction lanes with
    | nil => exact fun start small => small
    | cons lane lanes ih =>
        intro start small
        rw [List.foldl_cons]
        refine ih _ ?_
        split
        · exact (Nat.min_le_left _ _).trans small
        · exact small
  have le := bounded (List.finRange size) (size, 0) (Nat.le_refl _)
  rw [enabledExtent] at nonempty ⊢
  simp only at nonempty ⊢
  split at nonempty
  next => exact absurd rfl nonempty
  next different =>
    rw [if_neg different]
    exact Nat.lt_of_le_of_ne le different

theorem length_span_ne_zero {size : Nat} (lanes : Lanes size) {first count : Nat}
    (inside : first < size) (nonempty : count ≠ 0) : (span lanes first count).length ≠ 0 := by
  rw [span, List.length_take, List.length_drop, List.length_ofFn]
  omega

theorem readDeviceBeat_explained {route : ReadRoute c} {cursor : BurstCursor c.dataBytes}
    {access : ReadAccess c W} (accessed : readDeviceBeat env world route cursor = .ok access) :
    env.recorder.Explains world access.world (Pipeline.readEvents route access) := by
  simp only [readDeviceBeat] at accessed
  split at accessed
  next =>
    cases accessed
    exact ⟨rfl, trivial⟩
  next mapping targeted =>
    obtain ⟨mask, -, accessed⟩ := bind_eq_ok_iff.mp accessed
    obtain ⟨base, -, accessed⟩ := bind_eq_ok_iff.mp accessed
    split at accessed
    next =>
      cases accessed
      exact ⟨rfl, trivial⟩
    next nonempty =>
      obtain ⟨⟨after, response, data⟩, called, accessed⟩ := bind_eq_ok_iff.mp accessed
      cases accessed
      have made := DeviceBank.read_called nonempty called
      refine ⟨?_, ?_, trivial⟩
      · simp [Pipeline.readEvents, Recorder.replay, FabricEnv.recorder, Event.act, made]
      · simp [FabricEnv.recorder, Event.Truthful, made]

theorem writeDeviceBeat_explained {monitors : Monitors c} {route : WriteRoute c}
    {mapping : Mapping} {cursor : BurstCursor c.dataBytes} {index : Nat}
    {data strobe : Lanes c.dataBytes} {access : WriteAccess c W}
    (written : writeDeviceBeat env world monitors route mapping cursor index data strobe =
      .ok access) :
    env.recorder.Explains world access.world (Pipeline.writeEvents route access) := by
  simp only [writeDeviceBeat] at written
  obtain ⟨base, -, written⟩ := bind_eq_ok_iff.mp written
  obtain ⟨mask, -, written⟩ := bind_eq_ok_iff.mp written
  split at written
  next =>
    cases written
    exact ⟨rfl, trivial⟩
  next nonempty =>
    obtain ⟨⟨after, response⟩, called, written⟩ := bind_eq_ok_iff.mp written
    obtain ⟨same, made⟩ := DeviceBank.write_called
      (length_span_ne_zero data (enabledExtent_inside mask nonempty) nonempty) called
    split at written
    · cases written
      refine ⟨?_, ?_, trivial⟩
      · simp [Pipeline.writeEvents, Recorder.replay, FabricEnv.recorder, Event.act, made]
      · simp [FabricEnv.recorder, Event.Truthful, made, same]
    · cases written
      refine ⟨?_, ?_, trivial⟩
      · simp [Pipeline.writeEvents, Recorder.replay, FabricEnv.recorder, Event.act, made]
      · simp [FabricEnv.recorder, Event.Truthful, made, same]

theorem finishExclusiveWrite_explained {monitors : Monitors c} {route : WriteRoute c}
    {cursor : BurstCursor c.dataBytes} {access : WriteAccess c W}
    (finished : finishExclusiveWrite env world monitors route cursor = .ok access) :
    env.recorder.Explains world access.world (Pipeline.writeEvents route access) := by
  simp only [finishExclusiveWrite] at finished
  split at finished
  next =>
    cases finished
    exact ⟨rfl, trivial⟩
  next mapping targeted =>
    split at finished
    next =>
      cases finished
      exact ⟨rfl, trivial⟩
    next slot reserved =>
      obtain ⟨⟨atomicData, atomicStrobe⟩, -, finished⟩ := bind_eq_ok_iff.mp finished
      obtain ⟨⟨after, response⟩, called, finished⟩ := bind_eq_ok_iff.mp finished
      have total : cursor.beats * cursor.beatBytes ≠ 0 := by
        have beats := cursor.payload.beats_pos
        have bytes : 0 < cursor.beatBytes := Nat.two_pow_pos _
        exact Nat.ne_of_gt (Nat.mul_pos beats bytes)
      obtain ⟨same, made⟩ :=
        DeviceBank.write_called (length_span_ne_zero atomicData (by decide) total) called
      cases finished
      refine ⟨?_, ?_, trivial⟩
      · simp [Pipeline.writeEvents, Recorder.replay, FabricEnv.recorder, Event.act, made]
      · simp [FabricEnv.recorder, Event.Truthful, made, same]

end Calls

/-! ## Whole runs -/

theorem Pipeline.Step.explained {env : FabricEnv W} {state next : Pipeline c W}
    {events : List (Event c)} (taken : Pipeline.Step env state events next) :
    env.recorder.Explains state.world next.world events := by
  cases taken with
  | commitExclusive route routes cursor access front built complete room exclusive finished =>
      exact (finishExclusiveWrite_explained finished).trans (.of_silent rfl trivial)
  | commitBeat route routes cursor mapping data strobe access front built complete room regular
      targeted staged written =>
      exact writeDeviceBeat_explained written
  | commitLast route routes cursor mapping data strobe access front built complete room regular
      targeted staged written =>
      exact (writeDeviceBeat_explained written).trans (.of_silent rfl trivial)
  | readBeat route routes cursor access front built room accessed =>
      exact (readDeviceBeat_explained accessed).trans (.of_silent rfl trivial)
  | readLast route routes cursor access front built room accessed =>
      exact (readDeviceBeat_explained accessed).trans (.of_silent rfl trivial)
  | resetDevices => exact ⟨rfl, trivial, trivial⟩
  | retireB port response rest queue =>
      rw [show ((state.latchExit response).setPort port _).world = state.world from
        Pipeline.latchExit_world state response]
      exact .of_silent rfl trivial
  | _ => exact .of_silent rfl trivial

theorem Pipeline.explained_traces {env : FabricEnv W} {start state : Pipeline c W}
    {events : List (Event c)} (traces : Traces (Pipeline.Step env) start events state) :
    env.recorder.Explains start.world state.world events := by
  induction traces with
  | refl => exact ⟨rfl, trivial⟩
  | snoc prior taken ih => exact ih.trans taken.explained

/-- In every run, thrown or not, the devices are where the recorded calls lead them from the
initial world, and every recorded answer is the one the device gave at that point. -/
theorem device_world_replayed (env : FabricEnv W) (cycles : List (c.Inputs × Bool))
    (random : UInt64) (stall : Stall) (world : W) :
    let final := (AxiFabric.run env cycles (.fresh c random stall world)).state
    final.world = env.recorder.replay world final.trace ∧
      env.recorder.Faithful world final.trace := by
  intro final
  have explained := Pipeline.explained_traces (AxiFabric.run_traces env cycles random stall world)
  exact ⟨explained.state, explained.faithful⟩

/-! ## Answers -/

/-- How the response to a write follows from the calls made for it. -/
structure AnsweredByCalls (calls : List (WriteRoute c × DeviceWrite)) (done : WriteRoute c) :
    Prop where
  untargeted : done.target = none → calls = [] ∧ done.response = done.forcedResponse
  regular : done.exclusive = false → done.target ≠ none →
    done.response = calls.foldl (fun response entry => combineResponse response entry.2.response)
      .okay
  exclusive : done.exclusive = true → done.target ≠ none →
    (calls = [] ∧ done.response = .okay) ∨
      ∃ entry, calls = [entry] ∧ done.response =
        if responseIsSuccess entry.2.response then .exclusiveOkay else entry.2.response

/-- The response that a write has collected so far. -/
structure WriteRoute.Collects (route : WriteRoute c) (calls : List (WriteRoute c × DeviceWrite)) :
    Prop where
  response : route.response =
    calls.foldl (fun response entry => combineResponse response entry.2.response) .okay
  exclusive : route.exclusive = true → calls = []
  untargeted : route.target = none → calls = []

@[simp] theorem combineResponse_okay_right (response : Response) :
    combineResponse response .okay = response := by
  cases response <;> rfl

section Answers

variable {env : FabricEnv W} {world : W} {monitors : Monitors c} {route : WriteRoute c}
  {cursor : BurstCursor c.dataBytes} {access : WriteAccess c W}

/-- A beat without a call succeeds. -/
theorem writeDeviceBeat_response {mapping : Mapping} {index : Nat} {data strobe : Lanes c.dataBytes}
    (written : writeDeviceBeat env world monitors route mapping cursor index data strobe =
      .ok access) (response : Response) :
    (access.call.map fun call => (route, call)).toList.foldl
        (fun response entry => combineResponse response entry.2.response) response =
      combineResponse response access.response := by
  simp only [writeDeviceBeat] at written
  obtain ⟨base, -, written⟩ := bind_eq_ok_iff.mp written
  obtain ⟨mask, -, written⟩ := bind_eq_ok_iff.mp written
  split at written
  next =>
    cases written
    simp
  next nonempty =>
    obtain ⟨result, -, written⟩ := bind_eq_ok_iff.mp written
    split at written
    · cases written
      rfl
    · cases written
      rfl

theorem finishExclusiveWrite_response {mapping : Mapping} (targeted : route.target = some mapping)
    (finished : finishExclusiveWrite env world monitors route cursor = .ok access) :
    (access.call = none ∧ access.route.response = .okay) ∨
      ∃ call, access.call = some call ∧ access.route.response =
        if responseIsSuccess call.response then .exclusiveOkay else call.response := by
  simp only [finishExclusiveWrite, targeted] at finished
  split at finished
  next =>
    cases finished
    exact .inl ⟨rfl, rfl⟩
  next slot reserved =>
    obtain ⟨image, -, finished⟩ := bind_eq_ok_iff.mp finished
    obtain ⟨result, -, finished⟩ := bind_eq_ok_iff.mp finished
    cases finished
    exact .inr ⟨_, rfl, rfl⟩

namespace WriteRoute.Collects

variable {calls : List (WriteRoute c × DeviceWrite)}

theorem of_untouched {route : WriteRoute c} (untouched : route.Untouched) : route.Collects [] := by
  obtain ⟨base, -, rfl⟩ := untouched
  exact ⟨rfl, fun _ => rfl, fun _ => rfl⟩

/-- A committed beat adds its response. -/
theorem afterBeat (collects : route.Collects calls) (regular : route.exclusive = false)
    {mapping : Mapping} (targeted : route.target = some mapping) {index : Nat}
    {data strobe : Lanes c.dataBytes}
    (written : writeDeviceBeat env world monitors route mapping cursor index data strobe =
      .ok access) (beats : Nat) :
    (access.route.afterBeat access.response beats).Collects
      (calls ++ (access.call.map fun call => (route, call)).toList) := by
  obtain ⟨exitResponse, exitCode, routeEq⟩ := writeDeviceBeat_route written
  refine ⟨?_, fun exclusive => ?_, fun untargeted => ?_⟩
  · rw [List.foldl_append, ← collects.response, writeDeviceBeat_response written]
    simp [WriteRoute.afterBeat, routeEq]
  · simp [WriteRoute.afterBeat, routeEq, regular] at exclusive
  · have same : (access.route.afterBeat access.response beats).target = route.target := by
      simp [WriteRoute.afterBeat, routeEq, RouteBase.target]
    rw [same, targeted] at untargeted
    cases untargeted

end WriteRoute.Collects

/-- The response with which a write is completed. -/
theorem WriteEngine.answered {history : List (Event c)} {state next : Pipeline c W}
    (engine : WriteEngine WriteRoute.Collects history state) {done : WriteRoute c}
    {before after : List (Event c)}
    (taken : Pipeline.Step env state (before ++ .complete done :: after) next) :
    AnsweredByCalls (openCalls (history ++ before)) done := by
  obtain ⟨-, route, routes, front, complete, how⟩ := taken.of_complete
  have collects := engine.busy route routes front
  rcases how with ⟨regular, untargeted, rfl, rfl⟩ | ⟨cursor, access, built, rfl, how⟩
  · have none := collects.untargeted untargeted
    rw [List.append_nil]
    refine ⟨fun _ => ⟨none, ?_⟩, fun _ targeted => absurd untargeted targeted,
      fun _ targeted => absurd untargeted targeted⟩
    simp [collects.response, none]
  · rw [openCalls_writeEvents]
    rcases how with ⟨exclusive, rfl, finished⟩ |
      ⟨regular, mapping, data, strobe, targeted, staged, written, rfl, last⟩
    · obtain ⟨response, routeEq⟩ := finishExclusiveWrite_route finished
      have targetEq : access.route.target = route.target := by simp [routeEq, RouteBase.target]
      have exclusiveEq : access.route.exclusive = route.exclusive := by simp [routeEq]
      rw [collects.exclusive exclusive, List.nil_append]
      refine ⟨fun untargeted => ?_, fun regular => ?_, fun _ targeted => ?_⟩
      · rw [targetEq] at untargeted
        rw [finishExclusiveWrite_forced untargeted] at finished
        rw [← Except.ok.inj finished]
        exact ⟨rfl, rfl⟩
      · rw [exclusiveEq, exclusive] at regular
        cases regular
      · rw [targetEq] at targeted
        obtain ⟨mapping, found⟩ := Option.ne_none_iff_exists'.mp targeted
        rcases finishExclusiveWrite_response found finished with ⟨none, okay⟩ | ⟨call, made, answer⟩
        · exact .inl ⟨by rw [none]; rfl, okay⟩
        · exact .inr ⟨(route, call), by rw [made]; rfl, answer⟩
    · have after := collects.afterBeat regular targeted written cursor.beats
      obtain ⟨exitResponse, exitCode, routeEq⟩ := writeDeviceBeat_route written
      have targetEq : (access.route.afterBeat access.response cursor.beats).target =
          route.target := by
        simp [WriteRoute.afterBeat, routeEq, RouteBase.target]
      refine ⟨fun untargeted => ?_, fun _ _ => after.response, fun exclusive => ?_⟩
      · rw [targetEq, targeted] at untargeted
        cases untargeted
      · simp [WriteRoute.afterBeat, routeEq, regular] at exclusive

end Answers

end AxiTestbench
