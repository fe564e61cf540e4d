import AxiTestbench.Lib.RoundRobin
import AxiTestbench.Fabric.Access
import AxiTestbench.Fabric.Refinement

/-!
# The arbiter and the two engines

For each phase of `commit` after the handshakes: the pipeline steps a normal
return has taken, and what a throw has found.  Every later result about a cycle
is read off these descriptions; the code of the phases is opened only here.
-/

namespace AxiTestbench

open Lib Outcome

variable {c : Config} {W : Type}

/-- The events of the arbiter and of the two engines. -/
def Event.internal : Event c → Bool
  | .routeWrite _ | .routeRead _ | .stage _ _ | .deviceWrite _ _ | .complete _ | .reserve _
  | .deviceRead _ _ | .produce _ _ => true
  | _ => false

/-- The events of `process_write_commit`. -/
def Event.commits : Event c → Bool
  | .deviceWrite _ _ | .complete _ => true
  | _ => false

/-- The events of the engines before they access a device. -/
def Event.prepares : Event c → Bool
  | .stage _ _ | .reserve _ => true
  | _ => false

/-- The events of the write engine. -/
def Event.ofWriteEngine : Event c → Bool
  | .stage _ _ | .deviceWrite _ _ | .complete _ => true
  | _ => false

/-- The events of the read engine. -/
def Event.ofReadEngine : Event c → Bool
  | .reserve _ | .deviceRead _ _ | .produce _ _ => true
  | _ => false

namespace Event

theorem ofWriteEngine_of_commits {event : Event c} (commits : event.commits = true) :
    event.ofWriteEngine = true := by
  cases event <;> first | rfl | simp [Event.commits] at commits

theorem internal_of_prepares {event : Event c} (prepares : event.prepares = true) :
    event.internal = true := by
  cases event <;> first | rfl | simp [Event.prepares] at prepares

theorem internal_of_writeEngine {event : Event c} (writes : event.ofWriteEngine = true) :
    event.internal = true := by
  cases event <;> first | rfl | simp [Event.ofWriteEngine] at writes

theorem internal_of_readEngine {event : Event c} (reads : event.ofReadEngine = true) :
    event.internal = true := by
  cases event <;> first | rfl | simp [Event.ofReadEngine] at reads

/-- What the read engine records for one beat. -/
theorem ofReadEngine_of_beat {route : ReadRoute c} {access : ReadAccess c W} {event : Event c}
    (member : event ∈ Pipeline.readEvents route access ++ [.produce route access.beat]) :
    event.ofReadEngine = true := by
  simp only [Pipeline.readEvents, List.mem_append, Option.mem_toList, Option.map_eq_some_iff,
    List.mem_singleton] at member
  rcases member with ⟨call, -, rfl⟩ | rfl <;> rfl

end Event

/-- The code took pipeline steps that emit internal events. -/
def Works (env : FabricEnv W) (before after : AxiFabric c W) : Prop :=
  ∃ events, Advances env before after events ∧ ∀ event ∈ events, event.internal = true

namespace Works

variable {env : FabricEnv W}

theorem refl (fabric : AxiFabric c W) : Works env fabric fabric :=
  ⟨[], .refl fabric, by simp⟩

theorem trans {first second third : AxiFabric c W} (left : Works env first second)
    (right : Works env second third) : Works env first third := by
  obtain ⟨events, advanced, internal⟩ := left
  obtain ⟨more, further, moreInternal⟩ := right
  refine ⟨events ++ more, advanced.trans further, fun event member => ?_⟩
  rcases List.mem_append.mp member with earlier | later
  · exact internal event earlier
  · exact moreInternal event later

theorem of_unseen {before after : AxiFabric c W} (unseen : Unseen before after) :
    Works env before after :=
  ⟨[], .of_unseen unseen, by simp⟩

end Works

/-- The code took steps that come before a device access. -/
def Prepared (env : FabricEnv W) (before after : AxiFabric c W) : Prop :=
  ∃ events, Advances env before after events ∧ ∀ event ∈ events, event.prepares = true

theorem Prepared.refl {env : FabricEnv W} (fabric : AxiFabric c W) : Prepared env fabric fabric :=
  ⟨[], .refl fabric, by simp⟩

theorem Prepared.works {env : FabricEnv W} {before after : AxiFabric c W}
    (prepared : Prepared env before after) : Works env before after := by
  obtain ⟨events, advances, prepares⟩ := prepared
  exact ⟨events, advances, fun event member => Event.internal_of_prepares (prepares event member)⟩

/-! ## Fields a phase leaves alone -/

/-- The state of the stability check is unchanged. -/
structure SameWatches (before after : AxiFabric c W) : Prop where
  aw : ∀ port, (after.ports port).awWatch = (before.ports port).awWatch
  w : ∀ port, (after.ports port).wWatch = (before.ports port).wWatch
  ar : ∀ port, (after.ports port).arWatch = (before.ports port).arWatch
  wasReset : after.wasReset = before.wasReset

namespace SameWatches

/-- Changes outside the ports. -/
theorem of_ports {before after : AxiFabric c W} (ports : after.ports = before.ports)
    (wasReset : after.wasReset = before.wasReset) : SameWatches before after :=
  ⟨fun _ => by rw [ports], fun _ => by rw [ports], fun _ => by rw [ports], wasReset⟩

theorem refl (fabric : AxiFabric c W) : SameWatches fabric fabric := .of_ports rfl rfl

theorem trans {first second third : AxiFabric c W} (left : SameWatches first second)
    (right : SameWatches second third) : SameWatches first third where
  aw port := (right.aw port).trans (left.aw port)
  w port := (right.w port).trans (left.w port)
  ar port := (right.ar port).trans (left.ar port)
  wasReset := right.wasReset.trans left.wasReset

/-- An update of one port that copies its watches. -/
theorem of_setPort {before after : AxiFabric c W} {port : c.Port} {state : PortState c}
    (ports : after.ports = Function.update before.ports port state)
    (aw : state.awWatch = (before.ports port).awWatch)
    (w : state.wWatch = (before.ports port).wWatch)
    (ar : state.arWatch = (before.ports port).arWatch)
    (wasReset : after.wasReset = before.wasReset) : SameWatches before after := by
  have each : ∀ other, (after.ports other).awWatch = (before.ports other).awWatch ∧
      (after.ports other).wWatch = (before.ports other).wWatch ∧
      (after.ports other).arWatch = (before.ports other).arWatch := by
    intro other
    rw [ports]
    by_cases here : other = port
    · subst here
      simp [aw, w, ar]
    · simp [here]
  exact ⟨fun other => (each other).1, fun other => (each other).2.1,
    fun other => (each other).2.2, wasReset⟩

end SameWatches

/-- Besides the watches, the arbitration pointers are unchanged. -/
structure Kept (before after : AxiFabric c W) : Prop extends SameWatches before after where
  nextAwPort : after.nextAwPort = before.nextAwPort
  nextArPort : after.nextArPort = before.nextArPort

namespace Kept

theorem of_ports {before after : AxiFabric c W} (ports : after.ports = before.ports)
    (wasReset : after.wasReset = before.wasReset)
    (nextAwPort : after.nextAwPort = before.nextAwPort)
    (nextArPort : after.nextArPort = before.nextArPort) : Kept before after :=
  ⟨.of_ports ports wasReset, nextAwPort, nextArPort⟩

theorem refl (fabric : AxiFabric c W) : Kept fabric fabric := .of_ports rfl rfl rfl rfl

theorem trans {first second third : AxiFabric c W} (left : Kept first second)
    (right : Kept second third) : Kept first third :=
  ⟨left.toSameWatches.trans right.toSameWatches, right.nextAwPort.trans left.nextAwPort,
    right.nextArPort.trans left.nextArPort⟩

end Kept

/-- The code took one pipeline step. -/
structure Took (env : FabricEnv W) (before after : AxiFabric c W) (events : List (Event c)) :
    Prop where
  outputs : after.outputs = before.outputs
  trace : after.trace = before.trace ++ events
  step : Pipeline.Step env before.view events after.view
  internal : ∀ event ∈ events, event.internal = true

theorem Took.advances {env : FabricEnv W} {before after : AxiFabric c W} {events : List (Event c)}
    (took : Took env before after events) : Advances env before after events :=
  .step took.outputs took.trace took.step

theorem Took.works {env : FabricEnv W} {before after : AxiFabric c W} {events : List (Event c)}
    (took : Took env before after events) : Works env before after :=
  ⟨events, took.advances, took.internal⟩

namespace AxiFabric

/-! ## Arbitration -/

theorem nextGrant_waiting {start port : c.Port} {waiting : c.Port → Bool}
    (granted : nextGrant start waiting = some port) : waiting port = true := by
  obtain ⟨offset, -, found⟩ := List.exists_of_findSome?_eq_some granted
  split at found
  next waits =>
    obtain rfl := Option.some.inj found
    exact waits
  next => simp at found

theorem nextGrant_none {start : c.Port} {waiting : c.Port → Bool}
    (refused : nextGrant start waiting = none) (port : c.Port) : waiting port = false := by
  have all := List.findSome?_eq_none_iff.mp refused
  -- The scan visits every port.
  have reached : c.rotate start (RoundRobin.ahead start port) = port :=
    Fin.ext (RoundRobin.add_ahead start port)
  have found := all _ (List.mem_range.mpr (RoundRobin.ahead_lt start port))
  rw [reached] at found
  by_contra waits
  simp [waits] at found

/-- No waiting port is nearer to the pointer than the granted one. -/
theorem nextGrant_first {start port other : c.Port} {waiting : c.Port → Bool}
    (granted : nextGrant start waiting = some port) (waits : waiting other = true) :
    RoundRobin.ahead start port ≤ RoundRobin.ahead start other := by
  obtain ⟨before, offset, behind, split, found, skipped⟩ := List.findSome?_eq_some_iff.mp granted
  have inRange : offset < c.numPorts := by
    rw [← List.mem_range, split]
    simp
  have portEq : c.rotate start offset = port := by
    by_cases waitsHere : waiting (c.rotate start offset) = true
    · simpa [waitsHere] using found
    · simp [waitsHere] at found
  rw [RoundRobin.ahead_of_add inRange (congrArg Fin.val portEq)]
  by_contra nearer
  -- `other` would have been met before `port`.
  have ordered : (List.range c.numPorts).Pairwise (· < ·) := List.pairwise_lt_range
  have visited : RoundRobin.ahead start other ∈ before ++ offset :: behind := by
    rw [← split]
    exact List.mem_range.mpr (RoundRobin.ahead_lt start other)
  rw [split] at ordered
  have later := (List.pairwise_cons.mp (List.pairwise_append.mp ordered).2.1).1
  have early : RoundRobin.ahead start other ∈ before := by
    rcases List.mem_append.mp visited with early | late
    · exact early
    · rcases List.mem_cons.mp late with equal | late
      · omega
      · have := later _ late
        omega
  have reached : c.rotate start (RoundRobin.ahead start other) = other :=
    Fin.ext (RoundRobin.add_ahead start other)
  have passed := skipped _ early
  rw [reached, if_pos waits] at passed
  cases passed

/-- What the AW half of the arbiter does when it returns. -/
inductive AwRound (env : FabricEnv W) (before : AxiFabric c W) : AxiFabric c W → Prop where
  | full (full : before.view.writeRoutes.length = c.routeDepth) : AwRound env before before
  | none (empty : ∀ port, (before.view.ports port).aw = []) : AwRound env before before
  | grant {after : AxiFabric c W} (port : c.Port) (payload : AddressPayload)
      (rest : List AddressPayload) (base : RouteBase c)
      (granted : nextGrant before.nextAwPort (fun port => !(before.ports port).aw.empty) =
        some port)
      (queue : (before.view.ports port).aw = payload :: rest)
      (routed : initializeRoute env before.cycle before.world port payload .aw = .ok base)
      (took : Took env before after [.routeWrite { toRouteBase := base }])
      (view : after.view =
        { before.view.setPort port { before.view.ports port with aw := rest } with
          writeRoutes := before.view.writeRoutes ++ [{ toRouteBase := base }] })
      (watches : SameWatches before after)
      (nextAwPort : after.nextAwPort = c.rotate port 1)
      (nextArPort : after.nextArPort = before.nextArPort) : AwRound env before after

/-- What the AR half of the arbiter does when it returns. -/
inductive ArRound (env : FabricEnv W) (before : AxiFabric c W) : AxiFabric c W → Prop where
  | full (full : before.view.readRoutes.length = c.routeDepth) : ArRound env before before
  | none (empty : ∀ port, (before.view.ports port).ar = []) : ArRound env before before
  | grant {after : AxiFabric c W} (port : c.Port) (payload : AddressPayload)
      (rest : List AddressPayload) (base : RouteBase c)
      (granted : nextGrant before.nextArPort (fun port => !(before.ports port).ar.empty) =
        some port)
      (queue : (before.view.ports port).ar = payload :: rest)
      (routed : initializeRoute env before.cycle before.world port payload .ar = .ok base)
      (took : Took env before after [.routeRead { toRouteBase := base }])
      (view : after.view =
        { before.view.setPort port { before.view.ports port with ar := rest } with
          readRoutes := before.view.readRoutes ++ [{ toRouteBase := base }] })
      (watches : SameWatches before after)
      (nextAwPort : after.nextAwPort = before.nextAwPort)
      (nextArPort : after.nextArPort = c.rotate port 1) : ArRound env before after

/-- The request at the head of an address FIFO was refused. -/
def Refused (env : FabricEnv W) (before : AxiFabric c W) (channel : Channel)
    (queue : Queues c → List AddressPayload) (fault : Fault) : Prop :=
  ∃ port payload rest, queue (before.view.ports port) = payload :: rest ∧
    initializeRoute env before.cycle before.world port payload channel = .error fault

theorem arbitrateWrites_round (env : FabricEnv W) (fabric : AxiFabric c W) :
    Ends (arbitrateWrites env fabric) (AwRound env fabric)
      fun fault after => after = fabric ∧ Refused env fabric .aw Queues.aw fault := by
  simp only [arbitrateWrites]
  split
  next full => exact .full (fabric.writeRoutes.full_iff.mp full)
  next room =>
    have room := fabric.writeRoutes.full_eq_false_iff.mp (Bool.eq_false_iff.mpr room)
    split
    next refused =>
      refine .none fun port => ?_
      simpa [view_ports, PortState.queues] using nextGrant_none refused port
    next port granted =>
      have waits : (fabric.ports port).aw.toList ≠ [] := by
        simpa using nextGrant_waiting granted
      obtain ⟨payload, rest, queue⟩ := List.exists_cons_of_ne_nil waits
      obtain ⟨popped, popEq, rfl⟩ := (fabric.ports port).aw.pop_eq queue
      rw [(fabric.ports port).aw.front_eq queue, popEq]
      simp only [attempt, bind, Except.bind]
      refine ends_attempt_bind (fun fault refused => ⟨rfl, port, payload, popped.toList, queue,
        refused⟩) fun base routed => ?_
      rw [ends_pure]
      have view : { (fabric.setPort port { fabric.ports port with aw := popped }).view with
            writeRoutes := (fabric.writeRoutes.push { toRouteBase := base }).2.toList } =
          { fabric.view.setPort port { fabric.view.ports port with aw := popped.toList } with
            writeRoutes := fabric.view.writeRoutes ++ [{ toRouteBase := base }] } := by
        rw [view_setPort, fabric.writeRoutes.toList_push _ room]
        rfl
      refine .grant port payload popped.toList base granted queue routed
        ⟨rfl, rfl, ?_, by simp [Event.internal]⟩ view (.of_setPort rfl rfl rfl rfl rfl) rfl rfl
      have taken : Pipeline.Step env fabric.view _ _ :=
        .routeAw port payload popped.toList fabric.cycle base queue room routed
      rw [← view] at taken
      exact taken

theorem arbitrateReads_round (env : FabricEnv W) (fabric : AxiFabric c W) :
    Ends (arbitrateReads env fabric) (ArRound env fabric)
      fun fault after => after = fabric ∧ Refused env fabric .ar Queues.ar fault := by
  simp only [arbitrateReads]
  split
  next full => exact .full (fabric.readRoutes.full_iff.mp full)
  next room =>
    have room := fabric.readRoutes.full_eq_false_iff.mp (Bool.eq_false_iff.mpr room)
    split
    next refused =>
      refine .none fun port => ?_
      simpa [view_ports, PortState.queues] using nextGrant_none refused port
    next port granted =>
      have waits : (fabric.ports port).ar.toList ≠ [] := by
        simpa using nextGrant_waiting granted
      obtain ⟨payload, rest, queue⟩ := List.exists_cons_of_ne_nil waits
      obtain ⟨popped, popEq, rfl⟩ := (fabric.ports port).ar.pop_eq queue
      rw [(fabric.ports port).ar.front_eq queue, popEq]
      simp only [attempt, bind, Except.bind]
      refine ends_attempt_bind (fun fault refused => ⟨rfl, port, payload, popped.toList, queue,
        refused⟩) fun base routed => ?_
      rw [ends_pure]
      have view : { (fabric.setPort port { fabric.ports port with ar := popped }).view with
            readRoutes := (fabric.readRoutes.push { toRouteBase := base }).2.toList } =
          { fabric.view.setPort port { fabric.view.ports port with ar := popped.toList } with
            readRoutes := fabric.view.readRoutes ++ [{ toRouteBase := base }] } := by
        rw [view_setPort, fabric.readRoutes.toList_push _ room]
        rfl
      refine .grant port payload popped.toList base granted queue routed
        ⟨rfl, rfl, ?_, by simp [Event.internal]⟩ view (.of_setPort rfl rfl rfl rfl rfl) rfl rfl
      have taken : Pipeline.Step env fabric.view _ _ :=
        .routeAr port payload popped.toList fabric.cycle base queue room routed
      rw [← view] at taken
      exact taken

theorem AwRound.works {env : FabricEnv W} {before after : AxiFabric c W}
    (round : AwRound env before after) : Works env before after := by
  cases round with
  | full | none => exact .refl _
  | grant _ _ _ _ _ _ _ took => exact took.works

theorem ArRound.works {env : FabricEnv W} {before after : AxiFabric c W}
    (round : ArRound env before after) : Works env before after := by
  cases round with
  | full | none => exact .refl _
  | grant _ _ _ _ _ _ _ took => exact took.works

theorem AwRound.watches {env : FabricEnv W} {before after : AxiFabric c W}
    (round : AwRound env before after) : SameWatches before after := by
  cases round with
  | full | none => exact .refl _
  | grant _ _ _ _ _ _ _ _ _ watches => exact watches

theorem ArRound.watches {env : FabricEnv W} {before after : AxiFabric c W}
    (round : ArRound env before after) : SameWatches before after := by
  cases round with
  | full | none => exact .refl _
  | grant _ _ _ _ _ _ _ _ _ watches => exact watches

/-! ## The read engine -/

/-- What `process_read_beat` does when it returns. -/
inductive ReadTurn (env : FabricEnv W) (before : AxiFabric c W) : AxiFabric c W → Prop where
  | empty (empty : before.view.readRoutes = []) : ReadTurn env before before
  | blocked (route : ReadRoute c) (routes : List (ReadRoute c))
      (front : before.view.readRoutes = route :: routes)
      (full : (before.view.ports route.port).r.length = c.responseDepth) :
      ReadTurn env before before
  | beat {after : AxiFabric c W} (route : ReadRoute c) (access : ReadAccess c W)
      (took : Took env before after
        (Pipeline.readEvents route access ++ [.produce route access.beat]))
      (kept : Kept before after) : ReadTurn env before after
  | reserved {middle after : AxiFabric c W} (route : ReadRoute c) (access : ReadAccess c W)
      (reserve : Took env before middle [.reserve route])
      (took : Took env middle after
        (Pipeline.readEvents route access ++ [.produce route access.beat]))
      (kept : Kept before after) : ReadTurn env before after

/-- What `process_read_beat` finds when it throws. -/
inductive ReadThrow (env : FabricEnv W) (before : AxiFabric c W) (route : ReadRoute c) :
    Fault → Prop where
  | cursor {fault : Fault}
      (refused : (BurstCursor.new route.payload : Except Fault (BurstCursor c.dataBytes)) =
        .error fault) : ReadThrow env before route fault
  | exhausted (exclusive : route.exclusive = true) (first : route.beat = 0)
      (okay : route.forcedResponse = .okay)
      (exhausted : establishMonitor before.monitors route = none) :
      ReadThrow env before route
        (protocolError before.cycle route.port .ar "exclusive monitor table exhausted"
          (some route.payload))
  | access {fault : Fault} (cursor : BurstCursor c.dataBytes)
      (built : BurstCursor.new route.payload = .ok cursor)
      (failed : readDeviceBeat env before.world route cursor = .error fault) :
      ReadThrow env before route fault

/-- A throw of the read engine concerns the front route, after at most a
reservation. -/
def ReadFailed (env : FabricEnv W) (before : AxiFabric c W) (fault : Fault)
    (after : AxiFabric c W) : Prop :=
  Prepared env before after ∧ Kept before after ∧ ∃ route routes,
    before.view.readRoutes = route :: routes ∧
      (before.view.ports route.port).r.length < c.responseDepth ∧
      ReadThrow env before route fault

private theorem reserve_turn (env : FabricEnv W) (fabric : AxiFabric c W) (route : ReadRoute c)
    (routes : List (ReadRoute c)) (front : fabric.readRoutes.toList = route :: routes) :
    Ends (reserve fabric route)
      (fun after => after = fabric ∨ Took env fabric after [.reserve route] ∧
        Kept fabric after ∧ after.ports = fabric.ports ∧ after.readRoutes = fabric.readRoutes ∧
        after.world = fabric.world)
      fun fault after => after = fabric ∧ ReadThrow env fabric route fault := by
  simp only [reserve]
  split
  next reserves =>
    obtain ⟨exclusive, first, okay⟩ := reserves
    split
    next monitors established =>
      refine .inr ⟨⟨rfl, rfl, ?_, by simp [Event.internal]⟩, .of_ports rfl rfl rfl rfl,
        rfl, rfl, rfl⟩
      have taken : Pipeline.Step env fabric.view _ _ :=
        .reserve route routes monitors front exclusive first okay established
      exact taken
    next exhausted => exact ⟨rfl, .exhausted exclusive first okay exhausted⟩
  next => exact .inl rfl

/-- The end of `process_read_beat`: the beat is pushed and the route updated or
dropped. -/
private theorem deliver_took (env : FabricEnv W) (fabric : AxiFabric c W) (route : ReadRoute c)
    (routes : List (ReadRoute c)) (cursor : BurstCursor c.dataBytes) (access : ReadAccess c W)
    (updated : RingBuffer c.routeDepth (ReadRoute c))
    (front : fabric.readRoutes.toList = route :: routes)
    (built : BurstCursor.new route.payload = .ok cursor)
    (room : (fabric.ports route.port).r.toList.length < c.responseDepth)
    (accessed : readDeviceBeat env fabric.world route cursor = .ok access)
    (updatedList : updated.toList =
      if route.beat + 1 = cursor.beats then routes
      else { route with beat := route.beat + 1 } :: routes) :
    let after : AxiFabric c W :=
      { fabric.setPort route.port
          { fabric.ports route.port with
            r := ((fabric.ports route.port).r.push access.beat).2 } with
        readRoutes := updated
        world := access.world
        trace := fabric.trace ++ (access.call.map (Event.deviceRead route)).toList ++
          [.produce route access.beat] }
    Took env fabric after (Pipeline.readEvents route access ++ [.produce route access.beat]) ∧
      Kept fabric after := by
  refine ⟨⟨rfl, by simp [Pipeline.readEvents], ?_, ?_⟩,
    .of_setPort rfl rfl rfl rfl rfl, rfl, rfl⟩
  · change Pipeline.Step env fabric.view _
      { (fabric.setPort route.port
          { fabric.ports route.port with
            r := ((fabric.ports route.port).r.push access.beat).2 }).view with
        readRoutes := updated.toList
        world := access.world }
    rw [view_setPort, updatedList, PortState.queues,
      (fabric.ports route.port).r.toList_push access.beat room]
    split
    next done =>
      have taken : Pipeline.Step env fabric.view _ _ :=
        .readLast route routes cursor access front built room accessed done
      exact taken
    next more =>
      have taken : Pipeline.Step env fabric.view _ _ :=
        .readBeat route routes cursor access front built room accessed more
      exact taken
  · exact fun event member => Event.internal_of_readEngine (Event.ofReadEngine_of_beat member)

theorem processReadBeat_turn (env : FabricEnv W) (fabric : AxiFabric c W) :
    Ends (processReadBeat env fabric) (ReadTurn env fabric) (ReadFailed env fabric) := by
  simp only [processReadBeat]
  split
  next empty => exact .empty (fabric.readRoutes.empty_iff.mp empty)
  next nonempty =>
    have nonempty := fabric.readRoutes.empty_eq_false_iff.mp (Bool.eq_false_iff.mpr nonempty)
    obtain ⟨route, routes, front⟩ := List.exists_cons_of_ne_nil nonempty
    rw [fabric.readRoutes.front_eq front]
    simp only [attempt, bind, Except.bind]
    split
    next full =>
      exact .blocked route routes front ((fabric.ports route.port).r.full_iff.mp full)
    next room =>
      have room :=
        (fabric.ports route.port).r.full_eq_false_iff.mp (Bool.eq_false_iff.mpr room)
      refine ends_attempt_bind (fun fault refused => ⟨.refl fabric, .refl fabric, route, routes,
        front, room, .cursor refused⟩) fun cursor built => ?_
      refine ((reserve_turn env fabric route routes front).mono (fun _ => id) ?_).bind
        fun middle reserved => ?_
      · rintro fault after ⟨rfl, thrown⟩
        exact ⟨.refl _, .refl _, route, routes, front, room, thrown⟩
      -- What the reservation leaves alone, whether it was made or not.
      have same : middle.ports = fabric.ports ∧ middle.readRoutes = fabric.readRoutes ∧
          middle.world = fabric.world ∧ Kept fabric middle ∧ Prepared env fabric middle := by
        rcases reserved with rfl | ⟨took, kept, ports, readRoutes, world⟩
        · exact ⟨rfl, rfl, rfl, .refl _, .refl _⟩
        · exact ⟨ports, readRoutes, world, kept, _, took.advances, by simp [Event.prepares]⟩
      obtain ⟨samePorts, sameRoutes, sameWorld, kept, prepared⟩ := same
      refine ends_attempt_bind (fun fault failed => ⟨prepared, kept, route, routes, front, room,
        .access cursor built (sameWorld ▸ failed)⟩) fun access accessed => ?_
      have delivered : ∀ after : AxiFabric c W,
          Took env middle after (Pipeline.readEvents route access ++
            [.produce route access.beat]) ∧ Kept middle after → ReadTurn env fabric after := by
        rintro after ⟨took, keptLater⟩
        rcases reserved with rfl | ⟨reserve, -⟩
        · exact .beat route access took keptLater
        · exact .reserved route access reserve took (kept.trans keptLater)
      rw [← samePorts] at room
      rw [← sameRoutes] at front
      have setFront := middle.readRoutes.toList_setFront { route with beat := route.beat + 1 } front
      split
      next done =>
        obtain ⟨popped, popEq, popList⟩ := RingBuffer.pop_eq _ setFront
        rw [popEq]
        exact delivered _ (deliver_took env middle route routes cursor access popped front built
          room accessed (by rw [if_pos done, popList]))
      next more =>
        exact delivered _ (deliver_took env middle route routes cursor access _ front built
          room accessed (by rw [if_neg more, setFront]))

theorem ReadTurn.kept {env : FabricEnv W} {before after : AxiFabric c W}
    (turn : ReadTurn env before after) : Kept before after := by
  cases turn with
  | empty | blocked => exact .refl _
  | beat _ _ _ kept => exact kept
  | reserved _ _ _ _ kept => exact kept

/-! ## The write engine -/

/-- What `process_write_commit` does with the front route when it returns. -/
inductive CommitTurn (env : FabricEnv W) (before : AxiFabric c W) (route : WriteRoute c) :
    AxiFabric c W → Prop where
  | blocked (full : (before.view.ports route.port).b.length = c.responseDepth) :
      CommitTurn env before route before
  | took {after : AxiFabric c W} (events : List (Event c)) (took : Took env before after events)
      (kept : Kept before after) (commits : ∀ event ∈ events, event.commits = true)
      (suppressed : ∀ other call, .deviceWrite other call ∈ events → after.suppressRead = true) :
      CommitTurn env before route after

/-- What `process_write_commit` finds when it throws. -/
inductive CommitThrow (env : FabricEnv W) (world : W) (monitors : Monitors c)
    (route : WriteRoute c) (cursor : BurstCursor c.dataBytes) : Fault → Prop where
  | exclusive {fault : Fault} (exclusive : route.exclusive = true)
      (failed : finishExclusiveWrite env world monitors route cursor = .error fault) :
      CommitThrow env world monitors route cursor fault
  | staged {fault : Fault} (failed : route.staged route.commitBeat = .error fault) :
      CommitThrow env world monitors route cursor fault
  | device {fault : Fault} (mapping : Mapping) (data strobe : Lanes c.dataBytes)
      (failed : writeDeviceBeat env world monitors route mapping cursor route.commitBeat
        data strobe = .error fault) :
      CommitThrow env world monitors route cursor fault

private theorem commits_writeEvents {route : WriteRoute c} {access : WriteAccess c W}
    (last : List (WriteRoute c)) {event : Event c}
    (member : event ∈ Pipeline.writeEvents route access ++ last.map Event.complete) :
    event.commits = true := by
  simp only [Pipeline.writeEvents, List.mem_append, Option.mem_toList, Option.map_eq_some_iff,
    List.mem_map] at member
  rcases member with ⟨call, -, rfl⟩ | ⟨done, -, rfl⟩ <;> rfl

private theorem completeWriteRoute_eq (fabric : AxiFabric c W) (route first : WriteRoute c)
    (routes : List (WriteRoute c)) (front : fabric.writeRoutes.toList = first :: routes)
    (room : (fabric.ports route.port).b.toList.length < c.responseDepth) :
    ∃ after, completeWriteRoute fabric route = .ok after ∧ after.outputs = fabric.outputs ∧
      after.trace = fabric.trace ++ [.complete route] ∧
      after.view = fabric.view.respond route routes ∧ Kept fabric after ∧
      after.suppressRead = fabric.suppressRead := by
  obtain ⟨popped, popEq, rfl⟩ := fabric.writeRoutes.pop_eq front
  let answered := fabric.setPort route.port
    { fabric.ports route.port with
      b := ((fabric.ports route.port).b.push route.responsePayload).2 }
  have kept : SameWatches fabric answered := .of_setPort rfl rfl rfl rfl rfl
  refine ⟨{ answered with writeRoutes := popped }.emit [.complete route], ?_, rfl, rfl, ?_,
    ⟨⟨kept.aw, kept.w, kept.ar, kept.wasReset⟩, rfl, rfl⟩, rfl⟩
  · have samePop : answered.writeRoutes.pop = .ok popped := popEq
    simp only [completeWriteRoute, answered] at samePop ⊢
    rw [samePop]
    rfl
  · change { answered.view with writeRoutes := popped.toList } = _
    rw [view_setPort, PortState.queues, (fabric.ports route.port).b.toList_push _ room]
    rfl

/-- The steps that end a write: `access` is what the device access changed. -/
private theorem finish_turn (env : FabricEnv W) (fabric : AxiFabric c W) (route : WriteRoute c)
    (routes : List (WriteRoute c)) (access : WriteAccess c W)
    (front : fabric.writeRoutes.toList = route :: routes)
    (room : (fabric.ports access.route.port).b.toList.length < c.responseDepth)
    (taken : Pipeline.Step env fabric.view
      (Pipeline.writeEvents route access ++ [.complete access.route])
      { fabric.view.respond access.route routes with
        world := access.world
        monitors := access.monitors })
    {thrown : Fault → AxiFabric c W → Prop} :
    Ends (completeWriteRoute (applyAccess fabric route access) access.route)
      (CommitTurn env fabric route) thrown := by
  obtain ⟨after, done, outputs, trace, view, kept, suppressed⟩ :=
    completeWriteRoute_eq (applyAccess fabric route access) access.route access.route routes
      (fabric.writeRoutes.toList_setFront access.route front) room
  have applied : Kept fabric (applyAccess fabric route access) := .of_ports rfl rfl rfl rfl
  rw [done, ends_ok]
  refine .took (Pipeline.writeEvents route access ++ [.complete access.route])
    ⟨outputs, ?_, ?_, ?_⟩ (applied.trans kept) ?_ fun _ _ _ => suppressed
  · rw [trace, ← List.append_assoc]
    rfl
  · rw [view]
    exact taken
  · exact fun event member => Event.internal_of_writeEngine
      (Event.ofWriteEngine_of_commits (commits_writeEvents [access.route] member))
  · exact fun event member => commits_writeEvents [access.route] member

theorem processWriteCommit_turn (env : FabricEnv W) (fabric : AxiFabric c W)
    (route : WriteRoute c) (routes : List (WriteRoute c)) (cursor : BurstCursor c.dataBytes)
    (front : fabric.writeRoutes.toList = route :: routes)
    (built : BurstCursor.new route.payload = .ok cursor)
    (complete : route.dataComplete = true) :
    Ends (processWriteCommit env fabric route cursor) (CommitTurn env fabric route)
      fun fault after => Unseen fabric after ∧ Kept fabric after ∧
        CommitThrow env fabric.world fabric.monitors route cursor fault := by
  simp only [processWriteCommit]
  split
  next full => exact .blocked ((fabric.ports route.port).b.full_iff.mp full)
  next room =>
    have room := (fabric.ports route.port).b.full_eq_false_iff.mp (Bool.eq_false_iff.mpr room)
    have suppressed : Unseen fabric { fabric with suppressRead := true } := ⟨rfl, rfl, rfl⟩
    have kept : Kept fabric { fabric with suppressRead := true } := .of_ports rfl rfl rfl rfl
    split
    next exclusive =>
      refine ends_attempt_bind (fun fault failed => ⟨suppressed, kept, .exclusive exclusive failed⟩)
        fun access finished => ?_
      have samePort : access.route.port = route.port := by
        obtain ⟨response, routeEq⟩ := finishExclusiveWrite_route finished
        rw [routeEq]
      exact finish_turn env fabric route routes access front (samePort ▸ room)
        (.commitExclusive route routes cursor access front built complete room exclusive finished)
    next regular =>
      have regular : route.exclusive = false := Bool.eq_false_iff.mpr regular
      split
      next untargeted =>
        let done : WriteRoute c :=
          { route with response := combineResponse route.response route.forcedResponse }
        obtain ⟨after, doneEq, outputs, trace, view, keptLater, -⟩ :=
          completeWriteRoute_eq { fabric with writeRoutes := fabric.writeRoutes.setFront done }
            done done routes (fabric.writeRoutes.toList_setFront done front) room
        have updated :
            Kept fabric { fabric with writeRoutes := fabric.writeRoutes.setFront done } :=
          .of_ports rfl rfl rfl rfl
        rw [doneEq]
        refine .took [.complete done] ⟨outputs, trace, view ▸ ?_, by simp [Event.internal]⟩
          (updated.trans keptLater) (by simp [Event.commits]) (by simp)
        have taken : Pipeline.Step env fabric.view _ _ :=
          .completeForced route routes front complete room regular untargeted
        exact taken
      next mapping targeted =>
        refine ends_attempt_bind (fun fault failed => ⟨suppressed, kept, .staged failed⟩)
          fun staged stagedEq => ?_
        obtain ⟨data, strobe⟩ := staged
        refine ends_attempt_bind
          (fun fault failed => ⟨suppressed, kept, .device mapping data strobe failed⟩)
          fun access written => ?_
        have samePort : access.route.port = route.port := by
          obtain ⟨exitResponse, exitCode, routeEq⟩ := writeDeviceBeat_route written
          rw [routeEq]
        split
        next done =>
          refine finish_turn env fabric route routes
            { access with route := access.route.afterBeat access.response cursor.beats } front
            (by simpa [WriteRoute.afterBeat, samePort] using room) ?_
          exact .commitLast route routes cursor mapping data strobe access front built complete
            room regular targeted stagedEq written done
        next more =>
          refine .took (Pipeline.writeEvents route access) ⟨rfl, rfl, ?_, ?_⟩
            (.of_ports rfl rfl rfl rfl)
            (fun event member => commits_writeEvents [] (by simpa using member)) fun _ _ _ => rfl
          · have taken : Pipeline.Step env fabric.view _ _ :=
              .commitBeat route routes cursor mapping data strobe access front built complete
                room regular targeted stagedEq written more
            have list := fabric.writeRoutes.toList_setFront
              (access.route.afterBeat access.response cursor.beats) front
            change Pipeline.Step env fabric.view _
              { fabric.view with
                writeRoutes := (fabric.writeRoutes.setFront _).toList
                world := access.world
                monitors := access.monitors }
            rw [list]
            exact taken
          · exact fun event member => Event.internal_of_writeEngine
              (Event.ofWriteEngine_of_commits (commits_writeEvents [] (by simpa using member)))

/-- What `process_write_beat` does when it returns.  The cycle that stages the
last beat of a burst also commits. -/
inductive WriteTurn (env : FabricEnv W) (before : AxiFabric c W) : AxiFabric c W → Prop where
  | empty (empty : before.view.writeRoutes = []) : WriteTurn env before before
  | starved (route : WriteRoute c) (routes : List (WriteRoute c))
      (front : before.view.writeRoutes = route :: routes)
      (incomplete : route.dataComplete = false)
      (none : (before.view.ports route.port).w = []) : WriteTurn env before before
  | commit {after : AxiFabric c W} (route : WriteRoute c) (routes : List (WriteRoute c))
      (front : before.view.writeRoutes = route :: routes)
      (complete : route.dataComplete = true)
      (turn : CommitTurn env before route after) : WriteTurn env before after
  | stage {middle after : AxiFabric c W} (route done : WriteRoute c) (beat : c.WriteBeat)
      (staged : Took env before middle [.stage route beat]) (kept : Kept before middle)
      (unsuppressed : middle.suppressRead = before.suppressRead)
      (turn : after = middle ∨ CommitTurn env middle done after) : WriteTurn env before after

/-- What `process_write_beat` finds when it throws. -/
inductive WriteThrow (env : FabricEnv W) (before : AxiFabric c W) (route : WriteRoute c) :
    Fault → Prop where
  | cursor {fault : Fault}
      (refused : (BurstCursor.new route.payload : Except Fault (BurstCursor c.dataBytes)) =
        .error fault) : WriteThrow env before route fault
  | commit {fault : Fault} (cursor : BurstCursor c.dataBytes)
      (built : BurstCursor.new route.payload = .ok cursor) (complete : route.dataComplete = true)
      (thrown : CommitThrow env before.world before.monitors route cursor fault) :
      WriteThrow env before route fault
  | last (cursor : BurstCursor c.dataBytes) (beat : c.WriteBeat) (rest : List c.WriteBeat)
      (built : BurstCursor.new route.payload = .ok cursor)
      (incomplete : route.dataComplete = false)
      (queue : (before.view.ports route.port).w = beat :: rest)
      (misplaced : beat.last ≠ (route.beat + 1 == cursor.beats)) :
      WriteThrow env before route
        (protocolError before.cycle route.port .w
          (if route.beat + 1 == cursor.beats then "WLAST missing on final beat"
            else "WLAST asserted before final beat")
          (some route.payload))
  | mask {fault : Fault} (cursor : BurstCursor c.dataBytes)
      (built : BurstCursor.new route.payload = .ok cursor)
      (incomplete : route.dataComplete = false)
      (failed : cursor.laneMask route.beat = .error fault) : WriteThrow env before route fault
  | strobe (cursor : BurstCursor c.dataBytes) (beat : c.WriteBeat) (rest : List c.WriteBeat)
      (lanes : Lanes c.dataBytes) (lane : Fin c.dataBytes)
      (built : BurstCursor.new route.payload = .ok cursor)
      (incomplete : route.dataComplete = false)
      (queue : (before.view.ports route.port).w = beat :: rest)
      (mask : cursor.laneMask route.beat = .ok lanes)
      (strobed : beat.strobe lane ≠ 0) (illegal : lanes lane = 0) :
      WriteThrow env before route
        (protocolError before.cycle route.port .w "WSTRB selects an illegal byte lane"
          (some route.payload))
  | index (incomplete : route.dataComplete = false) (beyond : ¬route.beat < 256) :
      WriteThrow env before route (.outOfBounds "staged_data")
  | stagedCommit {fault : Fault} (cursor : BurstCursor c.dataBytes) (beat : c.WriteBeat)
      (index : Fin 256) (middle : AxiFabric c W)
      (built : BurstCursor.new route.payload = .ok cursor)
      (incomplete : route.dataComplete = false)
      (staged : Took env before middle [.stage route beat])
      (front : ∃ routes, middle.view.writeRoutes =
        route.stageBeat beat index (route.beat + 1 == cursor.beats) :: routes)
      (thrown : CommitThrow env middle.world middle.monitors
        (route.stageBeat beat index (route.beat + 1 == cursor.beats)) cursor fault) :
      WriteThrow env before route fault

/-- A throw of the write engine concerns the front route. -/
def WriteFailed (env : FabricEnv W) (before : AxiFabric c W) (fault : Fault)
    (after : AxiFabric c W) : Prop :=
  Prepared env before after ∧ Kept before after ∧ ∃ route routes,
    before.view.writeRoutes = route :: routes ∧ WriteThrow env before route fault

/-- Staging one beat, and what the rest of the cycle sees of it. -/
private theorem stage_took (env : FabricEnv W) (fabric : AxiFabric c W) (route : WriteRoute c)
    (routes : List (WriteRoute c)) (beat : c.WriteBeat)
    (popped : RingBuffer c.writeDataDepth c.WriteBeat) (cursor : BurstCursor c.dataBytes)
    (lanes : Lanes c.dataBytes) (index : Fin 256)
    (front : fabric.writeRoutes.toList = route :: routes)
    (built : BurstCursor.new route.payload = .ok cursor)
    (incomplete : route.dataComplete = false)
    (queue : (fabric.ports route.port).w.toList = beat :: popped.toList)
    (last : beat.last = (route.beat + 1 == cursor.beats))
    (mask : cursor.laneMask route.beat = .ok lanes)
    (legal : ∀ lane, beat.strobe lane ≠ 0 → lanes lane ≠ 0) (indexEq : index.val = route.beat) :
    let middle : AxiFabric c W :=
      { fabric.setPort route.port { fabric.ports route.port with w := popped } with
        writeRoutes := fabric.writeRoutes.setFront
          (route.stageBeat beat index (route.beat + 1 == cursor.beats))
        trace := fabric.trace ++ [.stage route beat] }
    Took env fabric middle [.stage route beat] ∧ Kept fabric middle := by
  refine ⟨⟨rfl, rfl, ?_, by simp [Event.internal]⟩, .of_setPort rfl rfl rfl rfl rfl, rfl, rfl⟩
  have taken : Pipeline.Step env fabric.view _ _ :=
    .stage route routes beat popped.toList cursor lanes index front built incomplete queue last
      mask legal indexEq
  change Pipeline.Step env fabric.view _
    { (fabric.setPort route.port { fabric.ports route.port with w := popped }).view with
      writeRoutes := (fabric.writeRoutes.setFront _).toList }
  rw [view_setPort, fabric.writeRoutes.toList_setFront _ front]
  exact taken

theorem processWriteBeat_turn (env : FabricEnv W) (fabric : AxiFabric c W) :
    Ends (processWriteBeat env fabric) (WriteTurn env fabric) (WriteFailed env fabric) := by
  simp only [processWriteBeat]
  refine ends_ite (fun empty => .empty (fabric.writeRoutes.empty_iff.mp empty)) fun nonempty => ?_
  have nonempty := fabric.writeRoutes.empty_eq_false_iff.mp (Bool.eq_false_iff.mpr nonempty)
  obtain ⟨route, routes, front⟩ := List.exists_cons_of_ne_nil nonempty
  -- Up to the staging of a beat a throw leaves the fabric as it was.
  have threw : ∀ {fault : Fault}, WriteThrow env fabric route fault →
      WriteFailed env fabric fault fabric :=
    fun thrown => ⟨.refl fabric, .refl fabric, route, routes, front, thrown⟩
  rw [fabric.writeRoutes.front_eq front]
  refine ends_attempt_bind (fun _ impossible => nomatch impossible) fun first found => ?_
  obtain rfl := Except.ok.inj found
  refine ends_attempt_bind (fun fault refused => threw (.cursor refused)) fun cursor built => ?_
  refine ends_ite (fun complete => ?_) fun incomplete => ends_ite (fun none => ?_) fun waiting => ?_
  · refine (processWriteCommit_turn env fabric route routes cursor front built complete).mono
      (fun after turn => .commit route routes front complete turn) ?_
    rintro fault after ⟨unseen, kept, thrown⟩
    exact ⟨⟨[], .of_unseen unseen, by simp⟩, kept, route, routes, front,
      .commit cursor built complete thrown⟩
  · exact .starved route routes front (Bool.eq_false_iff.mpr incomplete)
      ((fabric.ports route.port).w.empty_iff.mp none)
  · have incomplete : route.dataComplete = false := Bool.eq_false_iff.mpr incomplete
    have waiting :=
      (fabric.ports route.port).w.empty_eq_false_iff.mp (Bool.eq_false_iff.mpr waiting)
    obtain ⟨beat, rest, queue⟩ := List.exists_cons_of_ne_nil waiting
    obtain ⟨popped, popEq, rfl⟩ := (fabric.ports route.port).w.pop_eq queue
    rw [(fabric.ports route.port).w.front_eq queue, popEq]
    refine ends_attempt_bind (fun _ impossible => nomatch impossible) fun head found => ?_
    obtain rfl := Except.ok.inj found
    refine ends_ite (fun misplaced => ?_) fun last => ?_
    · exact threw (.last cursor beat popped.toList built incomplete queue misplaced)
    refine ends_attempt_bind (fun fault failed => threw (.mask cursor built incomplete failed))
      fun lanes mask => ends_ite (fun illegal => ?_) fun legal => ?_
    · simp only [List.any_eq_true, Bool.and_eq_true, bne_iff_ne, beq_iff_eq] at illegal
      obtain ⟨lane, -, strobed, disabled⟩ := illegal
      exact threw (.strobe cursor beat popped.toList lanes lane built incomplete queue mask
        strobed disabled)
    split
    next inside =>
      obtain ⟨staged, kept⟩ := stage_took env fabric route routes beat popped cursor lanes
        ⟨route.beat, inside⟩ front built incomplete queue (not_not.mp last) mask
        (by simpa using legal) rfl
      refine ends_attempt_bind (fun _ impossible => nomatch impossible) fun left found => ?_
      obtain rfl := Except.ok.inj found
      have list := fabric.writeRoutes.toList_setFront
        (route.stageBeat beat ⟨route.beat, inside⟩ (route.beat + 1 == cursor.beats)) front
      refine ends_ite (fun final => ?_) fun _ =>
        .stage route route beat staged kept rfl (.inl rfl)
      refine (processWriteCommit_turn env _
        (route.stageBeat beat ⟨route.beat, inside⟩ (route.beat + 1 == cursor.beats))
        routes cursor list built final).mono
        (fun after turn => .stage route _ beat staged kept rfl (.inr turn)) ?_
      rintro fault after ⟨unseen, keptLater, thrown⟩
      have prepared : Prepared env fabric after :=
        ⟨_, staged.advances.trans (.of_unseen unseen), by simp [Event.prepares]⟩
      exact ⟨prepared, kept.trans keptLater, route, routes, front,
        .stagedCommit cursor beat ⟨route.beat, inside⟩ _ built incomplete staged
          ⟨routes, list⟩ thrown⟩
    next beyond => exact threw (.index incomplete beyond)

theorem CommitTurn.kept {env : FabricEnv W} {before after : AxiFabric c W} {route : WriteRoute c}
    (turn : CommitTurn env before route after) : Kept before after := by
  cases turn with
  | blocked => exact .refl _
  | took _ _ kept => exact kept

theorem WriteTurn.kept {env : FabricEnv W} {before after : AxiFabric c W}
    (turn : WriteTurn env before after) : Kept before after := by
  cases turn with
  | empty | starved => exact .refl _
  | commit _ _ _ _ turn => exact turn.kept
  | stage _ _ _ _ kept _ turn =>
      rcases turn with rfl | turn
      · exact kept
      · exact kept.trans turn.kept

/-! ## Events of the engines -/

theorem CommitTurn.advances {env : FabricEnv W} {before after : AxiFabric c W}
    {route : WriteRoute c} (turn : CommitTurn env before route after) :
    ∃ events, Advances env before after events ∧ ∀ event ∈ events, event.ofWriteEngine = true := by
  cases turn with
  | blocked => exact ⟨[], .refl _, by simp⟩
  | took events took _ commits =>
      exact ⟨events, took.advances, fun event member =>
        Event.ofWriteEngine_of_commits (commits event member)⟩

theorem WriteTurn.advances {env : FabricEnv W} {before after : AxiFabric c W}
    (turn : WriteTurn env before after) :
    ∃ events, Advances env before after events ∧ ∀ event ∈ events, event.ofWriteEngine = true := by
  cases turn with
  | empty | starved => exact ⟨[], .refl _, by simp⟩
  | commit _ _ _ _ turn => exact turn.advances
  | stage route done beat staged _ _ turn =>
      have first : ∀ event ∈ [Event.stage route beat], event.ofWriteEngine = true := by
        simp [Event.ofWriteEngine]
      rcases turn with rfl | turn
      · exact ⟨_, staged.advances, first⟩
      · obtain ⟨events, advances, writes⟩ := turn.advances
        exact ⟨_, staged.advances.trans advances, List.forall_mem_append.mpr ⟨first, writes⟩⟩

theorem ReadTurn.advances {env : FabricEnv W} {before after : AxiFabric c W}
    (turn : ReadTurn env before after) :
    ∃ events, Advances env before after events ∧ ∀ event ∈ events, event.ofReadEngine = true := by
  cases turn with
  | empty | blocked => exact ⟨[], .refl _, by simp⟩
  | beat route access took => exact ⟨_, took.advances, fun event => Event.ofReadEngine_of_beat⟩
  | reserved route access reserve took =>
      refine ⟨_, reserve.advances.trans took.advances,
        List.forall_mem_append.mpr ⟨?_, fun event => Event.ofReadEngine_of_beat⟩⟩
      simp [Event.ofReadEngine]

theorem WriteTurn.works {env : FabricEnv W} {before after : AxiFabric c W}
    (turn : WriteTurn env before after) : Works env before after := by
  obtain ⟨events, advances, writes⟩ := turn.advances
  exact ⟨events, advances, fun event member => Event.internal_of_writeEngine (writes event member)⟩

theorem ReadTurn.works {env : FabricEnv W} {before after : AxiFabric c W}
    (turn : ReadTurn env before after) : Works env before after := by
  obtain ⟨events, advances, reads⟩ := turn.advances
  exact ⟨events, advances, fun event member => Event.internal_of_readEngine (reads event member)⟩

end AxiFabric

end AxiTestbench
