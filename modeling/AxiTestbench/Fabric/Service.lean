import AxiTestbench.Fabric.Soundness
import AxiTestbench.Fabric.Subordinate

/-!
# Order of service

Both engines serve transactions in the order in which the arbiter routed them,
one at a time.  What an engine has done since it last finished a transaction it
has done for the transaction at the front of its queue.
-/

namespace AxiTestbench

open Lib Outcome

variable {c : Config} {W : Type}

/-! ## Routed and finished transactions -/

namespace Event

@[simp] def routeWrite? : Event c → Option (WriteRoute c)
  | .routeWrite route => some route
  | _ => none

@[simp] def completed? : Event c → Option (WriteRoute c)
  | .complete route => some route
  | _ => none

@[simp] def routeRead? : Event c → Option (ReadRoute c)
  | .routeRead route => some route
  | _ => none

@[simp] def finished? : Event c → Option (ReadRoute c)
  | .produce route beat => if beat.last then some route else none
  | _ => none

end Event

/-- Writes in the order in which they were routed. -/
abbrev routedWrites (trace : List (Event c)) : List (WriteRoute c) :=
  picked Event.routeWrite? trace

/-- Writes in the order in which they were answered. -/
abbrev completedWrites (trace : List (Event c)) : List (WriteRoute c) :=
  picked Event.completed? trace

/-- Reads in the order in which they were routed. -/
abbrev routedReads (trace : List (Event c)) : List (ReadRoute c) :=
  picked Event.routeRead? trace

/-- Reads in the order in which their last beats were produced. -/
abbrev finishedReads (trace : List (Event c)) : List (ReadRoute c) :=
  picked Event.finished? trace

theorem completedOf_eq (port : c.Port) (trace : List (Event c)) :
    completedOf port trace = (completedWrites trace).filter fun route => route.port = port := by
  induction trace with
  | nil => rfl
  | cons event trace ih =>
      simp only [picked] at ih ⊢
      cases event with
      | complete route =>
          by_cases here : route.port = port
          · simp [here, ih]
          · simp [here, ih]
      | _ => exact ih

/-- What routing fixes of a transaction: everything but the progress. -/
def RouteBase.decision (route : RouteBase c) : RouteBase c := { route with beat := 0 }

theorem RouteBase.of_decision {left right : RouteBase c}
    (same : left.decision = right.decision) :
    left.port = right.port ∧ left.payload = right.payload ∧ left.exclusive = right.exclusive ∧
      left.target = right.target := by
  simp only [RouteBase.decision, RouteBase.mk.injEq] at same
  obtain ⟨port, payload, -, mapping, forced, exclusive⟩ := same
  exact ⟨port, payload, exclusive, by rw [RouteBase.target, RouteBase.target, mapping, forced]⟩

/-- Routed transactions are the finished ones followed by the queue. -/
structure Served (history : List (Event c)) (state : Pipeline c W) : Prop where
  writes : (routedWrites history).map (fun route => route.decision) =
    (completedWrites history ++ state.writeRoutes).map fun route => route.decision
  reads : (routedReads history).map (fun route => route.decision) =
    (finishedReads history ++ state.readRoutes).map fun route => route.decision

namespace Served

variable {env : FabricEnv W} {history more : List (Event c)} {state next : Pipeline c W}

theorem of_quiet (served : Served history state)
    (noWrites : routedWrites more = [] ∧ completedWrites more = [])
    (noReads : routedReads more = [] ∧ finishedReads more = [])
    (writeRoutes : next.writeRoutes.map (fun route => route.decision) =
      state.writeRoutes.map fun route => route.decision)
    (readRoutes : next.readRoutes.map (fun route => route.decision) =
      state.readRoutes.map fun route => route.decision) :
    Served (history ++ more) next := by
  refine ⟨?_, ?_⟩
  · simp [noWrites.1, noWrites.2, writeRoutes, served.writes]
  · simp [noReads.1, noReads.2, readRoutes, served.reads]

/-- Answering the front write moves it from the queue to the answered writes. -/
theorem of_completed {route : WriteRoute c} (done : WriteRoute c) {routes : List (WriteRoute c)}
    (served : Served history state) (front : state.writeRoutes = route :: routes)
    (same : done.decision = route.decision)
    (writes : routedWrites more = [] ∧ completedWrites more = [done])
    (noReads : routedReads more = [] ∧ finishedReads more = [])
    (writeRoutes : next.writeRoutes = routes) (readRoutes : next.readRoutes = state.readRoutes) :
    Served (history ++ more) next := by
  refine ⟨?_, ?_⟩
  · simp [writes.1, writes.2, writeRoutes, served.writes, front, same]
  · simp [noReads.1, noReads.2, readRoutes, served.reads]

theorem step (served : Served history state) (taken : Pipeline.ActiveStep env state more next) :
    Served (history ++ more) next := by
  obtain ⟨taken, active⟩ := taken
  cases taken with
  | acceptAw | acceptW | acceptAr | retireB | retireR | reserve | resetDevices | tick =>
      exact served.of_quiet (by simp) (by simp) (by simp) (by simp)
  | routeAw =>
      refine ⟨?_, ?_⟩
      · simp [served.writes]
      · simp [served.reads]
  | routeAr =>
      refine ⟨?_, ?_⟩
      · simp [served.writes]
      · simp [served.reads]
  | stage route routes beat rest cursor lanes index front =>
      refine served.of_quiet (by simp) (by simp) ?_ rfl
      simp [front, WriteRoute.stageBeat, RouteBase.decision]
  | completeForced route routes front =>
      exact served.of_completed
        { route with response := combineResponse route.response route.forcedResponse } front rfl
        (by simp) (by simp) rfl rfl
  | commitExclusive route routes cursor access front built complete room exclusive finished =>
      obtain ⟨response, routeEq⟩ := finishExclusiveWrite_route finished
      exact served.of_completed access.route front (by rw [routeEq]) (by simp) (by simp) rfl rfl
  | commitBeat route routes cursor mapping data strobe access front built complete room regular
      targeted staged written =>
      obtain ⟨exitResponse, exitCode, routeEq⟩ := writeDeviceBeat_route written
      refine served.of_quiet (by simp) (by simp) ?_ rfl
      simp [front, WriteRoute.afterBeat, RouteBase.decision, routeEq]
  | commitLast route routes cursor mapping data strobe access front built complete room regular
      targeted staged written =>
      obtain ⟨exitResponse, exitCode, routeEq⟩ := writeDeviceBeat_route written
      exact served.of_completed (access.route.afterBeat access.response cursor.beats) front
        (by simp [WriteRoute.afterBeat, routeEq]) (by simp) (by simp) rfl rfl
  | readBeat route routes cursor access front built room accessed notLast =>
      have last : access.beat.last = false := by
        rw [(readDeviceBeat_shape accessed).2]
        simpa using notLast
      refine served.of_quiet (by simp) (by simp [last]) rfl ?_
      simp [front, Pipeline.deliver, RouteBase.decision]
  | readLast route routes cursor access front built room accessed done =>
      have last : access.beat.last = true := by
        rw [(readDeviceBeat_shape accessed).2]
        simpa using done
      refine ⟨?_, ?_⟩
      · simp [served.writes, Pipeline.deliver]
      · simp [served.reads, front, last, Pipeline.deliver]
  | reset => simp [Event.isReset] at active

theorem of_traces {world : W}
    (trace : Traces (Pipeline.ActiveStep env) (.empty c world) history state) :
    Served history state :=
  trace.invariant Served ⟨by simp [Pipeline.empty], by simp [Pipeline.empty]⟩
    fun _ _ _ _ served taken => served.step taken

/-- The write at the front of the queue is the next one to answer. -/
theorem current_write (served : Served history state) {route : WriteRoute c}
    {routes : List (WriteRoute c)} (front : state.writeRoutes = route :: routes) :
    ((routedWrites history).map fun route => route.decision)[(completedWrites history).length]? =
      some route.decision := by
  rw [served.writes, front]
  simp

/-- The read at the front of the queue is the next one to finish. -/
theorem current_read (served : Served history state) {route : ReadRoute c}
    {routes : List (ReadRoute c)} (front : state.readRoutes = route :: routes) :
    ((routedReads history).map fun route => route.decision)[(finishedReads history).length]? =
      some route.decision := by
  rw [served.reads, front]
  simp

end Served

/-! ## The transaction being served -/

/-- Device writes since the last answered write; the effect of one event. -/
def trackCall (calls : List (WriteRoute c × DeviceWrite)) :
    Event c → List (WriteRoute c × DeviceWrite)
  | .deviceWrite route call => calls ++ [(route, call)]
  | .complete _ => []
  | _ => calls

/-- The device writes made for the write that is being served. -/
def openCalls (epoch : List (Event c)) : List (WriteRoute c × DeviceWrite) :=
  epoch.foldl trackCall []

/-- Beats produced since the last finished read; the effect of one event. -/
def trackBeat (beats : List (ReadRoute c)) : Event c → List (ReadRoute c)
  | .produce route beat => if beat.last then [] else beats ++ [route]
  | _ => beats

/-- The beats produced for the read that is being served. -/
def openBeats (epoch : List (Event c)) : List (ReadRoute c) :=
  epoch.foldl trackBeat []

theorem openCalls_append (epoch more : List (Event c)) :
    openCalls (epoch ++ more) = more.foldl trackCall (openCalls epoch) :=
  List.foldl_append

theorem openBeats_append (epoch more : List (Event c)) :
    openBeats (epoch ++ more) = more.foldl trackBeat (openBeats epoch) :=
  List.foldl_append

theorem openCalls_writeEvents (epoch : List (Event c)) (route : WriteRoute c)
    (access : WriteAccess c W) :
    openCalls (epoch ++ Pipeline.writeEvents route access) =
      openCalls epoch ++ (access.call.map fun call => (route, call)).toList := by
  rw [openCalls_append]
  cases called : access.call <;> simp [Pipeline.writeEvents, called, trackCall]

@[simp] theorem openCalls_complete (epoch : List (Event c)) (done : WriteRoute c) :
    openCalls (epoch ++ [.complete done]) = [] := by
  simp [openCalls_append, trackCall]

@[simp] theorem openBeats_writeEvents (epoch : List (Event c)) (route : WriteRoute c)
    (access : WriteAccess c W) :
    openBeats (epoch ++ Pipeline.writeEvents route access) = openBeats epoch := by
  rw [openBeats_append]
  cases called : access.call <;> simp [Pipeline.writeEvents, called, trackBeat]

@[simp] theorem openCalls_readEvents (epoch : List (Event c)) (route : ReadRoute c)
    (access : ReadAccess c W) :
    openCalls (epoch ++ Pipeline.readEvents route access) = openCalls epoch := by
  rw [openCalls_append]
  cases called : access.call <;> simp [Pipeline.readEvents, called, trackCall]

@[simp] theorem openBeats_readEvents (epoch : List (Event c)) (route : ReadRoute c)
    (access : ReadAccess c W) :
    openBeats (epoch ++ Pipeline.readEvents route access) = openBeats epoch := by
  rw [openBeats_append]
  cases called : access.call <;> simp [Pipeline.readEvents, called, trackBeat]

/-- The calls made for a write so far: one for each committed beat, all
successful. -/
structure WriteRoute.Engaged (route : WriteRoute c)
    (calls : List (WriteRoute c × DeviceWrite)) : Prop where
  count : calls.length = route.commitBeat
  same : ∀ entry ∈ calls, entry.1.decision = route.decision
  success : ∀ entry ∈ calls, responseIsSuccess entry.2.response = true
  targeted : calls ≠ [] → route.target ≠ none

/-- The beats produced for a read so far. -/
structure ReadRoute.Engaged (route : ReadRoute c) (beats : List (ReadRoute c)) : Prop where
  count : beats.length = route.beat
  same : ∀ entry ∈ beats, entry.decision = route.decision

/-- What the write engine has done since it last answered a write belongs to the
front of its queue; `serves` relates that write to the calls made for it. -/
structure WriteEngine (serves : WriteRoute c → List (WriteRoute c × DeviceWrite) → Prop)
    (history : List (Event c)) (state : Pipeline c W) : Prop where
  idle : state.writeRoutes = [] → openCalls history = []
  busy : ∀ route routes, state.writeRoutes = route :: routes → serves route (openCalls history)

/-- What the read engine has done since it last finished a read belongs to the
front of its queue. -/
structure ReadEngine (history : List (Event c)) (state : Pipeline c W) : Prop where
  idle : state.readRoutes = [] → openBeats history = []
  busy : ∀ route routes, state.readRoutes = route :: routes → route.Engaged (openBeats history)

namespace WriteEngine

variable {env : FabricEnv W} {history more : List (Event c)} {state next : Pipeline c W}
  {serves : WriteRoute c → List (WriteRoute c × DeviceWrite) → Prop}

theorem of_front {route : WriteRoute c} {routes : List (WriteRoute c)}
    (front : state.writeRoutes = route :: routes) (served : serves route (openCalls history)) :
    WriteEngine serves history state where
  idle none := by simp [front] at none
  busy other others queue := by
    rw [front] at queue
    rw [← (List.cons.inj queue).1]
    exact served

theorem of_quiet (engine : WriteEngine serves history state)
    (calls : openCalls (history ++ more) = openCalls history)
    (writeRoutes : next.writeRoutes = state.writeRoutes) :
    WriteEngine serves (history ++ more) next :=
  ⟨by rw [calls, writeRoutes]; exact engine.idle, by rw [calls, writeRoutes]; exact engine.busy⟩

/-- After an answer the next write has not been worked on. -/
theorem of_untouched (fresh : ∀ route : WriteRoute c, route.Untouched → serves route [])
    (calls : openCalls history = []) (waiting : ∀ route ∈ state.writeRoutes, route.Untouched) :
    WriteEngine serves history state where
  idle _ := calls
  busy route routes queue := by
    rw [calls]
    exact fresh route (waiting route (by simp [queue]))

theorem of_completed (fresh : ∀ route : WriteRoute c, route.Untouched → serves route [])
    {route done : WriteRoute c} {routes : List (WriteRoute c)}
    (ordered : Ordered state) (front : state.writeRoutes = route :: routes)
    (writeRoutes : next.writeRoutes = routes) :
    WriteEngine serves (history ++ [.complete done]) next := by
  refine of_untouched fresh (by simp) fun other member => ordered.waitingWrites other ?_
  rw [front]
  exact writeRoutes ▸ member

/-- A relation between a write and its calls is kept by every step if a fresh
route satisfies it and staging and committing one more beat keep it. -/
theorem step (engine : WriteEngine serves history state) (ordered : Ordered state)
    (fresh : ∀ route : WriteRoute c, route.Untouched → serves route [])
    (stages : ∀ route beat index final calls, serves route calls →
      serves (route.stageBeat beat index final) calls)
    (commits : ∀ route ∈ state.writeRoutes, ∀ cursor mapping data strobe access,
      BurstCursor.new route.payload = .ok cursor → route.dataComplete = true →
      route.exclusive = false → route.target = some mapping →
      writeDeviceBeat env state.world state.monitors route mapping cursor route.commitBeat
        data strobe = .ok access →
      (access.route.afterBeat access.response cursor.beats).commitBeat ≠ cursor.beats →
      serves route (openCalls history) →
      serves (access.route.afterBeat access.response cursor.beats)
        (openCalls history ++ (access.call.map fun call => (route, call)).toList))
    (taken : Pipeline.ActiveStep env state more next) :
    WriteEngine serves (history ++ more) next := by
  obtain ⟨taken, active⟩ := taken
  cases taken with
  | acceptAw | acceptW | acceptAr | retireB | retireR | routeAr | reserve | resetDevices | tick =>
      exact engine.of_quiet (by simp [openCalls_append, trackCall]) (by simp)
  | readBeat | readLast =>
      refine engine.of_quiet ?_ rfl
      rw [← List.append_assoc, openCalls_append]
      simp [trackCall]
  | routeAw port payload rest cycle base queue room routed =>
      have calls : openCalls (history ++ [.routeWrite { toRouteBase := base }]) =
          openCalls history := by simp [openCalls_append, trackCall]
      cases routes : state.writeRoutes with
      | nil =>
          refine of_untouched fresh (by rw [calls, engine.idle routes]) ?_
          intro route member
          simp only [List.nil_append, List.mem_singleton] at member
          exact ⟨base, (initializeRoute_routed routed).beat_eq, member⟩
      | cons front others =>
          refine of_front rfl ?_
          rw [calls]
          exact engine.busy front others routes
  | stage route routes beat rest cursor lanes index front =>
      have calls : openCalls (history ++ [.stage route beat]) = openCalls history := by
        simp [openCalls_append, trackCall]
      refine of_front rfl ?_
      rw [calls]
      exact stages _ _ _ _ _ (engine.busy route routes front)
  | completeForced route routes front => exact of_completed fresh ordered front rfl
  | commitExclusive route routes cursor access front =>
      rw [← List.append_assoc]
      exact of_completed fresh ordered front rfl
  | commitLast route routes cursor mapping data strobe access front =>
      rw [← List.append_assoc]
      exact of_completed fresh ordered front rfl
  | commitBeat route routes cursor mapping data strobe access front built complete room regular
      targeted staged written notDone =>
      refine of_front rfl ?_
      rw [openCalls_writeEvents]
      exact commits route (by simp [front]) cursor mapping data strobe access built complete
        regular targeted written notDone (engine.busy route routes front)
  | reset => simp [Event.isReset] at active

end WriteEngine

namespace WriteRoute.Engaged

theorem of_untouched {route : WriteRoute c} (untouched : route.Untouched) :
    route.Engaged [] := by
  obtain ⟨base, -, rfl⟩ := untouched
  exact ⟨rfl, by simp, by simp, by simp⟩

/-- A committed beat adds its call. -/
theorem afterBeat {env : FabricEnv W} {world : W} {monitors : Monitors c} {route : WriteRoute c}
    {cursor : BurstCursor c.dataBytes} {mapping : Mapping} {data strobe : Lanes c.dataBytes}
    {access : WriteAccess c W} {calls : List (WriteRoute c × DeviceWrite)}
    (engaged : route.Engaged calls) (started : route.Started)
    (built : BurstCursor.new route.payload = .ok cursor) (complete : route.dataComplete = true)
    (regular : route.exclusive = false) (targeted : route.target = some mapping)
    (below : route.payload.beatEnd route.commitBeat < 2 ^ 64)
    (written : writeDeviceBeat env world monitors route mapping cursor route.commitBeat
      data strobe = .ok access)
    (notDone : (access.route.afterBeat access.response cursor.beats).commitBeat ≠ cursor.beats) :
    (access.route.afterBeat access.response cursor.beats).Engaged
      (calls ++ (access.call.map fun call => (route, call)).toList) := by
  obtain ⟨exitResponse, exitCode, routeEq⟩ := writeDeviceBeat_route written
  have spec := writeDeviceBeat_written built started.commit_lt below written
  obtain ⟨-, success, count⟩ := started.commitBeat built complete regular written notDone
  rw [spec.call]
  refine ⟨?_, ?_, ?_, fun _ => ?_⟩
  · rw [count]
    simp [engaged.count]
  · intro entry member
    have decision : (access.route.afterBeat access.response cursor.beats).decision =
        route.decision := by simp [WriteRoute.afterBeat, routeEq, RouteBase.decision]
    rw [decision]
    rcases List.mem_append.mp member with old | new
    · exact engaged.same entry old
    · simp only [Option.map_some, Option.toList_some, List.mem_singleton] at new
      rw [new]
  · intro entry member
    rcases List.mem_append.mp member with old | new
    · exact engaged.success entry old
    · simp only [Option.map_some, Option.toList_some, List.mem_singleton] at new
      rw [new]
      exact success
  · simp only [WriteRoute.afterBeat, routeEq]
    simp [targeted]

end WriteRoute.Engaged

namespace ReadEngine

variable {env : FabricEnv W} {history more : List (Event c)} {state next : Pipeline c W}

theorem of_front {route : ReadRoute c} {routes : List (ReadRoute c)}
    (front : state.readRoutes = route :: routes) (engaged : route.Engaged (openBeats history)) :
    ReadEngine history state where
  idle none := by simp [front] at none
  busy other others queue := by
    rw [front] at queue
    rw [← (List.cons.inj queue).1]
    exact engaged

theorem of_untouched (beats : openBeats history = [])
    (waiting : ∀ route ∈ state.readRoutes, route.beat = 0) : ReadEngine history state where
  idle _ := beats
  busy route routes queue := by
    rw [beats]
    exact ⟨(waiting route (by simp [queue])).symm, by simp⟩

theorem of_quiet (engine : ReadEngine history state)
    (beats : openBeats (history ++ more) = openBeats history)
    (readRoutes : next.readRoutes = state.readRoutes) : ReadEngine (history ++ more) next :=
  ⟨by rw [beats, readRoutes]; exact engine.idle, by rw [beats, readRoutes]; exact engine.busy⟩

theorem step (engine : ReadEngine history state) (ordered : Ordered state)
    (taken : Pipeline.ActiveStep env state more next) : ReadEngine (history ++ more) next := by
  obtain ⟨taken, active⟩ := taken
  cases taken with
  | acceptAw | acceptW | acceptAr | retireB | retireR | routeAw | stage | completeForced
  | reserve | resetDevices | tick =>
      exact engine.of_quiet (by simp [openBeats_append, trackBeat]) (by simp [Pipeline.respond])
  | commitBeat => exact engine.of_quiet (by simp) rfl
  | commitExclusive | commitLast =>
      refine engine.of_quiet ?_ rfl
      rw [← List.append_assoc, openBeats_append]
      simp [trackBeat]
  | routeAr port payload rest cycle base queue room routed =>
      have beats : openBeats (history ++ [.routeRead { toRouteBase := base }]) =
          openBeats history := by simp [openBeats_append, trackBeat]
      cases routes : state.readRoutes with
      | nil =>
          refine of_untouched (by rw [beats, engine.idle routes]) ?_
          intro route member
          simp only [List.nil_append, List.mem_singleton] at member
          rw [member]
          exact (initializeRoute_routed routed).beat_eq
      | cons front others =>
          refine of_front rfl ?_
          rw [beats]
          exact engine.busy front others routes
  | readBeat route routes cursor access front built room accessed notLast =>
      have engaged := engine.busy route routes front
      have last : access.beat.last = false := by
        rw [(readDeviceBeat_shape accessed).2]
        simpa using notLast
      refine of_front rfl ?_
      rw [← List.append_assoc, openBeats_append, openBeats_readEvents]
      refine ⟨?_, ?_⟩
      · simp [trackBeat, last, engaged.count]
      · intro entry member
        simp only [List.foldl_cons, List.foldl_nil, trackBeat, last, Bool.false_eq_true, if_false,
          List.mem_append, List.mem_singleton] at member
        rcases member with old | rfl
        · exact engaged.same entry old
        · rfl
  | readLast route routes cursor access front built room accessed done =>
      have last : access.beat.last = true := by
        rw [(readDeviceBeat_shape accessed).2]
        simpa using done
      refine of_untouched ?_ fun other member => ordered.waitingReads other ?_
      · rw [← List.append_assoc, openBeats_append]
        simp [trackBeat, last]
      · rw [front]
        exact member
  | reset => simp [Event.isReset] at active

end ReadEngine

/-! ## Bursts below the top of the address space -/

/-- No accepted burst covers the last byte of the address space. -/
def OffTop (trace : List (Event c)) : Prop :=
  ∀ port, (∀ payload ∈ awOf port trace, ¬payload.TouchesTop) ∧
    ∀ payload ∈ arOf port trace, ¬payload.TouchesTop

instance (trace : List (Event c)) : Decidable (OffTop trace) :=
  inferInstanceAs (Decidable (∀ _, _ ∧ _))

theorem mem_awOf {port : c.Port} {payload : AddressPayload} {trace : List (Event c)} :
    payload ∈ awOf port trace ↔ .aw port payload ∈ trace :=
  mem_picked _ fun event value => by cases event <;> simp

theorem mem_arOf {port : c.Port} {payload : AddressPayload} {trace : List (Event c)} :
    payload ∈ arOf port trace ↔ .ar port payload ∈ trace :=
  mem_picked _ fun event value => by cases event <;> simp

theorem OffTop.of_subset {trace part : List (Event c)} (offTop : OffTop trace)
    (subset : ∀ event ∈ part, event ∈ trace) : OffTop part := fun port =>
  ⟨fun payload member =>
      (offTop port).1 payload (mem_awOf.mpr (subset _ (mem_awOf.mp member))),
    fun payload member =>
      (offTop port).2 payload (mem_arOf.mpr (subset _ (mem_arOf.mp member)))⟩

theorem OffTop.left {trace more : List (Event c)} (offTop : OffTop (trace ++ more)) :
    OffTop trace :=
  offTop.of_subset fun _ => List.mem_append_left _

theorem OffTop.writes {env : FabricEnv W} {history : List (Event c)} {state : Pipeline c W}
    (offTop : OffTop history) (sound : Sound env history state) :
    ∀ route ∈ state.writeRoutes, ¬route.payload.TouchesTop := fun route member =>
  (offTop route.port).1 route.payload (mem_awOf.mpr (sound.writesAccepted route member))

theorem OffTop.reads {env : FabricEnv W} {history : List (Event c)} {state : Pipeline c W}
    (offTop : OffTop history) (sound : Sound env history state) :
    ∀ route ∈ state.readRoutes, ¬route.payload.TouchesTop := fun route member =>
  (offTop route.port).2 route.payload (mem_arOf.mpr (sound.readsAccepted route member))

/-- Everything that is known of a pipeline and its history. -/
structure Tracked (env : FabricEnv W) (history : List (Event c)) (state : Pipeline c W) : Prop where
  conserved : Conserved history state
  sound : Sound env history state
  served : Served history state
  offTop : OffTop history
  writeEngine : WriteEngine WriteRoute.Engaged history state
  readEngine : ReadEngine history state

theorem Tracked.of_traces {env : FabricEnv W} {world : W} {history : List (Event c)}
    {state : Pipeline c W}
    (trace : Traces (Pipeline.ActiveStep env) (.empty c world) history state)
    (offTop : OffTop history) : Tracked env history state := by
  refine ⟨.of_traces trace, .of_traces trace, .of_traces trace, offTop, ?_, ?_⟩
  · induction trace with
    | refl =>
        exact .of_untouched (fun _ => WriteRoute.Engaged.of_untouched) rfl
          (by simp [Pipeline.empty])
    | snoc prior taken ih =>
        have sound : Sound env _ _ := .of_traces prior
        have ordered := (Conserved.of_traces prior).ordered
        refine (ih offTop.left).step ordered (fun _ => WriteRoute.Engaged.of_untouched)
          (fun _ _ _ _ _ engaged =>
            ⟨engaged.count, engaged.same, engaged.success, engaged.targeted⟩) ?_ taken
        intro route member cursor mapping data strobe access built complete regular targeted
          written notDone engaged
        have started := ordered.writes route member
        have below := (sound.writes route member).1.beatEnd_lt
          (offTop.left.writes sound route member) started.commit_lt
        exact engaged.afterBeat started built complete regular targeted below written notDone
  · induction trace with
    | refl => exact .of_untouched rfl (by simp [Pipeline.empty])
    | snoc prior taken ih => exact (ih offTop.left).step (Conserved.of_traces prior).ordered taken

namespace Tracked

variable {env : FabricEnv W} {history : List (Event c)} {state : Pipeline c W}

/-- The beats of the write at the front of the queue end below the top. -/
theorem write_below (tracked : Tracked env history state) {route : WriteRoute c}
    (member : route ∈ state.writeRoutes) {index : Nat} (inRange : index < route.payload.beats) :
    route.payload.beatEnd index < 2 ^ 64 :=
  (tracked.sound.writes route member).1.beatEnd_lt
    (tracked.offTop.writes tracked.sound route member) inRange

theorem read_below (tracked : Tracked env history state) {route : ReadRoute c}
    (member : route ∈ state.readRoutes) {index : Nat} (inRange : index < route.payload.beats) :
    route.payload.beatEnd index < 2 ^ 64 :=
  (tracked.sound.reads route member).beatEnd_lt
    (tracked.offTop.reads tracked.sound route member) inRange

end Tracked

end AxiTestbench
