import AxiTestbench.Lib.Transition
import AxiTestbench.Fabric.Step

/-!
# The fabric as a transition system over queues

`Pipeline` keeps what the fabric stores and forgets how: ring buffers become
lists, and the arbitration pointers, watches, driven outputs and stall generator
are dropped.  `Step` lists everything that can happen to a pipeline, one
constructor for each action of the code, with the events it records.

A whole `commit` is a sequence of such steps, also when it throws; this is shown
in `Fabric.Refinement`.  Invariants of the fabric are proved over `Step`.
-/

namespace AxiTestbench

open Lib

/-- Contents of the FIFOs of one port, oldest first. -/
structure Queues (c : Config) where
  aw : List AddressPayload := []
  w : List c.WriteBeat := []
  ar : List AddressPayload := []
  b : List WriteResponsePayload := []
  r : List c.ReadBeat := []

structure Pipeline (c : Config) (W : Type) where
  ports : c.Port → Queues c
  writeRoutes : List (WriteRoute c)
  readRoutes : List (ReadRoute c)
  monitors : Monitors c
  exitCompleted : Bool
  exitCode : UInt32
  world : W

def PortState.queues {c : Config} (state : PortState c) : Queues c where
  aw := state.aw.toList
  w := state.w.toList
  ar := state.ar.toList
  b := state.b.toList
  r := state.r.toList

/-- The pipeline that a fabric object represents. -/
def AxiFabric.view {c : Config} {W : Type} (fabric : AxiFabric c W) : Pipeline c W where
  ports port := (fabric.ports port).queues
  writeRoutes := fabric.writeRoutes.toList
  readRoutes := fabric.readRoutes.toList
  monitors := fabric.monitors
  exitCompleted := fabric.exitCompleted
  exitCode := fabric.exitCode
  world := fabric.world

namespace Pipeline

variable {c : Config} {W : Type}

/-- A pipeline that holds nothing. -/
def empty (c : Config) (world : W) : Pipeline c W where
  ports _ := {}
  writeRoutes := []
  readRoutes := []
  monitors _ := {}
  exitCompleted := false
  exitCode := 0
  world

def setPort (state : Pipeline c W) (port : c.Port) (queues : Queues c) : Pipeline c W :=
  { state with ports := Function.update state.ports port queues }

@[simp] theorem setPort_ports (state : Pipeline c W) (port other : c.Port) (queues : Queues c) :
    (state.setPort port queues).ports other =
      if other = port then queues else state.ports other := by
  simp [setPort, Function.update_apply]

section Frame

/-! An update of one port keeps the queues it copies. -/

variable {ports : c.Port → Queues c} {port other : c.Port} {queues : Queues c}

@[simp] theorem ite_aw (same : queues.aw = (ports port).aw) :
    (if other = port then queues else ports other).aw = (ports other).aw := by
  by_cases here : other = port <;> simp [here, same]

@[simp] theorem ite_w (same : queues.w = (ports port).w) :
    (if other = port then queues else ports other).w = (ports other).w := by
  by_cases here : other = port <;> simp [here, same]

@[simp] theorem ite_ar (same : queues.ar = (ports port).ar) :
    (if other = port then queues else ports other).ar = (ports other).ar := by
  by_cases here : other = port <;> simp [here, same]

@[simp] theorem ite_b (same : queues.b = (ports port).b) :
    (if other = port then queues else ports other).b = (ports other).b := by
  by_cases here : other = port <;> simp [here, same]

@[simp] theorem ite_r (same : queues.r = (ports port).r) :
    (if other = port then queues else ports other).r = (ports other).r := by
  by_cases here : other = port <;> simp [here, same]

end Frame

@[simp] theorem setPort_writeRoutes (state : Pipeline c W) (port : c.Port) (queues : Queues c) :
    (state.setPort port queues).writeRoutes = state.writeRoutes := rfl

@[simp] theorem setPort_readRoutes (state : Pipeline c W) (port : c.Port) (queues : Queues c) :
    (state.setPort port queues).readRoutes = state.readRoutes := rfl

@[simp] theorem setPort_monitors (state : Pipeline c W) (port : c.Port) (queues : Queues c) :
    (state.setPort port queues).monitors = state.monitors := rfl

@[simp] theorem setPort_world (state : Pipeline c W) (port : c.Port) (queues : Queues c) :
    (state.setPort port queues).world = state.world := rfl

/-- Latch the exit code of the first exit response that is handshaken. -/
def latchExit (state : Pipeline c W) (response : WriteResponsePayload) : Pipeline c W :=
  if response.exitResponse && !state.exitCompleted then
    { state with exitCompleted := true, exitCode := response.exitCode }
  else
    state

@[simp] theorem latchExit_ports (state : Pipeline c W) (response : WriteResponsePayload) :
    (state.latchExit response).ports = state.ports := by
  simp only [latchExit]
  split <;> rfl

@[simp] theorem latchExit_writeRoutes (state : Pipeline c W) (response : WriteResponsePayload) :
    (state.latchExit response).writeRoutes = state.writeRoutes := by
  simp only [latchExit]
  split <;> rfl

@[simp] theorem latchExit_readRoutes (state : Pipeline c W) (response : WriteResponsePayload) :
    (state.latchExit response).readRoutes = state.readRoutes := by
  simp only [latchExit]
  split <;> rfl

@[simp] theorem latchExit_monitors (state : Pipeline c W) (response : WriteResponsePayload) :
    (state.latchExit response).monitors = state.monitors := by
  simp only [latchExit]
  split <;> rfl

@[simp] theorem latchExit_world (state : Pipeline c W) (response : WriteResponsePayload) :
    (state.latchExit response).world = state.world := by
  simp only [latchExit]
  split <;> rfl

/-- Answer a write: push its B response and drop its route. -/
def respond (state : Pipeline c W) (route : WriteRoute c) (routes : List (WriteRoute c)) :
    Pipeline c W :=
  { state.setPort route.port
      { state.ports route.port with
        b := (state.ports route.port).b ++ [route.responsePayload] } with
    writeRoutes := routes }

/-- The device calls of a write access as events. -/
def writeEvents (route : WriteRoute c) (access : WriteAccess c W) : List (Event c) :=
  (access.call.map (Event.deviceWrite route)).toList

/-- The device calls of a read access as events. -/
def readEvents (route : ReadRoute c) (access : ReadAccess c W) : List (Event c) :=
  (access.call.map (Event.deviceRead route)).toList

/-- Push a produced R beat. -/
def deliver (state : Pipeline c W) (route : ReadRoute c) (access : ReadAccess c W)
    (routes : List (ReadRoute c)) : Pipeline c W :=
  { state.setPort route.port
      { state.ports route.port with r := (state.ports route.port).r ++ [access.beat] } with
    readRoutes := routes
    world := access.world }

/-- The actions of the fabric. -/
inductive Step (env : FabricEnv W) :
    Pipeline c W → List (Event c) → Pipeline c W → Prop where
  | acceptAw {state : Pipeline c W} (port : c.Port) (payload : AddressPayload)
      (room : (state.ports port).aw.length < c.addressDepth) :
      Step env state [.aw port payload]
        (state.setPort port
          { state.ports port with aw := (state.ports port).aw ++ [payload] })
  | acceptW {state : Pipeline c W} (port : c.Port) (beat : c.WriteBeat)
      (room : (state.ports port).w.length < c.writeDataDepth) :
      Step env state [.w port beat]
        (state.setPort port { state.ports port with w := (state.ports port).w ++ [beat] })
  | acceptAr {state : Pipeline c W} (port : c.Port) (payload : AddressPayload)
      (room : (state.ports port).ar.length < c.addressDepth) :
      Step env state [.ar port payload]
        (state.setPort port
          { state.ports port with ar := (state.ports port).ar ++ [payload] })
  | retireB {state : Pipeline c W} (port : c.Port) (response : WriteResponsePayload)
      (rest : List WriteResponsePayload) (queue : (state.ports port).b = response :: rest) :
      Step env state [.b port response]
        ((state.latchExit response).setPort port { state.ports port with b := rest })
  | retireR {state : Pipeline c W} (port : c.Port) (beat : c.ReadBeat)
      (rest : List c.ReadBeat) (queue : (state.ports port).r = beat :: rest) :
      Step env state [.r port beat]
        (state.setPort port { state.ports port with r := rest })
  | routeAw {state : Pipeline c W} (port : c.Port) (payload : AddressPayload)
      (rest : List AddressPayload) (cycle : UInt64) (base : RouteBase c)
      (queue : (state.ports port).aw = payload :: rest)
      (room : state.writeRoutes.length < c.routeDepth)
      (routed : initializeRoute env cycle state.world port payload .aw = .ok base) :
      Step env state [.routeWrite { toRouteBase := base }]
        { state.setPort port { state.ports port with aw := rest } with
          writeRoutes := state.writeRoutes ++ [{ toRouteBase := base }] }
  | routeAr {state : Pipeline c W} (port : c.Port) (payload : AddressPayload)
      (rest : List AddressPayload) (cycle : UInt64) (base : RouteBase c)
      (queue : (state.ports port).ar = payload :: rest)
      (room : state.readRoutes.length < c.routeDepth)
      (routed : initializeRoute env cycle state.world port payload .ar = .ok base) :
      Step env state [.routeRead { toRouteBase := base }]
        { state.setPort port { state.ports port with ar := rest } with
          readRoutes := state.readRoutes ++ [{ toRouteBase := base }] }
  | stage {state : Pipeline c W} (route : WriteRoute c) (routes : List (WriteRoute c))
      (beat : c.WriteBeat) (rest : List c.WriteBeat) (cursor : BurstCursor c.dataBytes)
      (lanes : Lanes c.dataBytes) (index : Fin 256)
      (front : state.writeRoutes = route :: routes)
      (built : BurstCursor.new route.payload = .ok cursor)
      (incomplete : route.dataComplete = false)
      (queue : (state.ports route.port).w = beat :: rest)
      (last : beat.last = (route.beat + 1 == cursor.beats))
      (mask : cursor.laneMask route.beat = .ok lanes)
      (legal : ∀ lane, beat.strobe lane ≠ 0 → lanes lane ≠ 0)
      (indexEq : index.val = route.beat) :
      Step env state [.stage route beat]
        { state.setPort route.port { state.ports route.port with w := rest } with
          writeRoutes := route.stageBeat beat index (route.beat + 1 == cursor.beats) :: routes }
  | completeForced {state : Pipeline c W} (route : WriteRoute c) (routes : List (WriteRoute c))
      (front : state.writeRoutes = route :: routes)
      (complete : route.dataComplete = true)
      (room : (state.ports route.port).b.length < c.responseDepth)
      (regular : route.exclusive = false)
      (untargeted : route.target = none) :
      Step env state
        [.complete
          { route with response := combineResponse route.response route.forcedResponse }]
        (state.respond
          { route with response := combineResponse route.response route.forcedResponse } routes)
  | commitExclusive {state : Pipeline c W} (route : WriteRoute c) (routes : List (WriteRoute c))
      (cursor : BurstCursor c.dataBytes) (access : WriteAccess c W)
      (front : state.writeRoutes = route :: routes)
      (built : BurstCursor.new route.payload = .ok cursor)
      (complete : route.dataComplete = true)
      (room : (state.ports route.port).b.length < c.responseDepth)
      (exclusive : route.exclusive = true)
      (finished : finishExclusiveWrite env state.world state.monitors route cursor = .ok access) :
      Step env state (writeEvents route access ++ [.complete access.route])
        { state.respond access.route routes with
          world := access.world
          monitors := access.monitors }
  | commitBeat {state : Pipeline c W} (route : WriteRoute c) (routes : List (WriteRoute c))
      (cursor : BurstCursor c.dataBytes) (mapping : Mapping) (data strobe : Lanes c.dataBytes)
      (access : WriteAccess c W)
      (front : state.writeRoutes = route :: routes)
      (built : BurstCursor.new route.payload = .ok cursor)
      (complete : route.dataComplete = true)
      (room : (state.ports route.port).b.length < c.responseDepth)
      (regular : route.exclusive = false)
      (targeted : route.target = some mapping)
      (staged : route.staged route.commitBeat = .ok (data, strobe))
      (written : writeDeviceBeat env state.world state.monitors route mapping cursor
        route.commitBeat data strobe = .ok access)
      (more : (access.route.afterBeat access.response cursor.beats).commitBeat ≠ cursor.beats) :
      Step env state (writeEvents route access)
        { state with
          writeRoutes := access.route.afterBeat access.response cursor.beats :: routes
          world := access.world
          monitors := access.monitors }
  | commitLast {state : Pipeline c W} (route : WriteRoute c) (routes : List (WriteRoute c))
      (cursor : BurstCursor c.dataBytes) (mapping : Mapping) (data strobe : Lanes c.dataBytes)
      (access : WriteAccess c W)
      (front : state.writeRoutes = route :: routes)
      (built : BurstCursor.new route.payload = .ok cursor)
      (complete : route.dataComplete = true)
      (room : (state.ports route.port).b.length < c.responseDepth)
      (regular : route.exclusive = false)
      (targeted : route.target = some mapping)
      (staged : route.staged route.commitBeat = .ok (data, strobe))
      (written : writeDeviceBeat env state.world state.monitors route mapping cursor
        route.commitBeat data strobe = .ok access)
      (done : (access.route.afterBeat access.response cursor.beats).commitBeat = cursor.beats) :
      Step env state
        (writeEvents route access ++
          [.complete (access.route.afterBeat access.response cursor.beats)])
        { state.respond (access.route.afterBeat access.response cursor.beats) routes with
          world := access.world
          monitors := access.monitors }
  | reserve {state : Pipeline c W} (route : ReadRoute c) (routes : List (ReadRoute c))
      (monitors : Monitors c)
      (front : state.readRoutes = route :: routes)
      (exclusive : route.exclusive = true)
      (first : route.beat = 0)
      (okay : route.forcedResponse = .okay)
      (established : establishMonitor state.monitors route = some monitors) :
      Step env state [.reserve route] { state with monitors }
  | readBeat {state : Pipeline c W} (route : ReadRoute c) (routes : List (ReadRoute c))
      (cursor : BurstCursor c.dataBytes) (access : ReadAccess c W)
      (front : state.readRoutes = route :: routes)
      (built : BurstCursor.new route.payload = .ok cursor)
      (room : (state.ports route.port).r.length < c.responseDepth)
      (accessed : readDeviceBeat env state.world route cursor = .ok access)
      (more : route.beat + 1 ≠ cursor.beats) :
      Step env state (readEvents route access ++ [.produce route access.beat])
        (state.deliver route access ({ route with beat := route.beat + 1 } :: routes))
  | readLast {state : Pipeline c W} (route : ReadRoute c) (routes : List (ReadRoute c))
      (cursor : BurstCursor c.dataBytes) (access : ReadAccess c W)
      (front : state.readRoutes = route :: routes)
      (built : BurstCursor.new route.payload = .ok cursor)
      (room : (state.ports route.port).r.length < c.responseDepth)
      (accessed : readDeviceBeat env state.world route cursor = .ok access)
      (done : route.beat + 1 = cursor.beats) :
      Step env state (readEvents route access ++ [.produce route access.beat])
        (state.deliver route access routes)
  | reset {state : Pipeline c W} : Step env state [.reset] (.empty c state.world)
  | resetDevices {state : Pipeline c W} :
      Step env state [.resetDevices]
        { state with world := env.space.reset env.bank state.world }
  | tick {state : Pipeline c W} : Step env state [.tick] state

end Pipeline

end AxiTestbench
