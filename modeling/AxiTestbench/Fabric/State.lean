import AxiTestbench.Device
import AxiTestbench.RingBuffer
import AxiTestbench.BurstCursor

/-!
# State of the AXI fabric

The template parameters and data members of `AxiFabric` (`fabric.hpp`).  The
static assertions of the class template are fields of `Config`.

Besides the data members the state holds the device world and a trace.  The
trace is a history variable: it records handshakes, routing decisions, device
calls and responses at the place where the code performs them, and no function
of the fabric reads it.
-/

namespace AxiTestbench

/-- Template parameters of `AxiFabric`. -/
structure Config where
  numPorts : Nat
  addressBits : Nat
  dataBits : Nat
  idBits : Nat
  addressDepth : Nat := 16
  writeDataDepth : Nat := 512
  responseDepth : Nat := 4
  routeDepth : Nat := 64
  numPorts_pos : 0 < numPorts := by decide
  addressBits_eq : addressBits = 32 ∨ addressBits = 64 := by decide
  dataBits_eq : dataBits = 32 ∨ dataBits = 64 ∨ dataBits = 128 := by decide
  idBits_range : 1 ≤ idBits ∧ idBits ≤ 32 := by decide
  addressDepth_pos : 0 < addressDepth := by decide
  writeDataDepth_pos : 0 < writeDataDepth := by decide
  responseDepth_pos : 0 < responseDepth := by decide
  routeDepth_pos : 0 < routeDepth := by decide

namespace Config

def dataBytes (c : Config) : Nat := c.dataBits / 8

theorem dataBytes_eq (c : Config) : c.dataBytes = 4 ∨ c.dataBytes = 8 ∨ c.dataBytes = 16 := by
  have := c.dataBits_eq
  simp only [dataBytes]
  omega

/-- A port number. -/
abbrev Port (c : Config) := Fin c.numPorts

/-- The port `offset` places after `start`, cyclically. -/
def rotate (c : Config) (start : c.Port) (offset : Nat) : c.Port :=
  ⟨(start + offset) % c.numPorts, Nat.mod_lt _ c.numPorts_pos⟩

abbrev WriteBeat (c : Config) := WriteDataPayload c.dataBytes

abbrev ReadBeat (c : Config) := ReadDataPayload c.dataBytes

/-- What the initiators drive in one cycle. -/
abbrev Inputs (c : Config) := c.Port → MasterSignals c.dataBytes

/-- What the fabric drives in one cycle. -/
abbrev Outputs (c : Config) := c.Port → SlaveSignals c.dataBytes

end Config

/-- A stalled VALID and the payload it has to hold. -/
structure Watch (T : Type) where
  blocked : Bool
  payload : T

/-- The value-initialized watch. -/
def Watch.idle {T : Type} [Inhabited T] : Watch T := ⟨false, default⟩

/-- FIFOs and watches of one port. -/
structure PortState (c : Config) where
  aw : RingBuffer c.addressDepth AddressPayload
  w : RingBuffer c.writeDataDepth c.WriteBeat
  ar : RingBuffer c.addressDepth AddressPayload
  b : RingBuffer c.responseDepth WriteResponsePayload
  r : RingBuffer c.responseDepth c.ReadBeat
  awWatch : Watch AddressPayload
  wWatch : Watch c.WriteBeat
  arWatch : Watch AddressPayload

def PortState.fresh (c : Config) : PortState c where
  aw := .fresh c.addressDepth_pos
  w := .fresh c.writeDataDepth_pos
  ar := .fresh c.addressDepth_pos
  b := .fresh c.responseDepth_pos
  r := .fresh c.responseDepth_pos
  awWatch := .idle
  wWatch := .idle
  arWatch := .idle

/-- A routed request. -/
structure RouteBase (c : Config) where
  port : c.Port := ⟨0, c.numPorts_pos⟩
  payload : AddressPayload := {}
  beat : Nat := 0
  mapping : Option Mapping := none
  forcedResponse : Response := .okay
  exclusive : Bool := false

/-- The window whose device the route may access: the test
`forced_response == Okay && mapping != nullptr`. -/
def RouteBase.target {c : Config} (route : RouteBase c) : Option Mapping :=
  if route.forcedResponse = .okay then route.mapping else none

structure ReadRoute (c : Config) extends RouteBase c

structure WriteRoute (c : Config) extends RouteBase c where
  response : Response := .okay
  exitResponse : Bool := false
  exitCode : UInt32 := 0
  commitBeat : Nat := 0
  dataComplete : Bool := false
  stagedData : Fin 256 → Lanes c.dataBytes := fun _ _ => 0
  stagedStrobe : Fin 256 → Lanes c.dataBytes := fun _ _ => 0

instance {c : Config} : Inhabited (ReadRoute c) := ⟨{}⟩
instance {c : Config} : Inhabited (WriteRoute c) := ⟨{}⟩

/-- A reservation made by an exclusive read. -/
structure ExclusiveMonitor (c : Config) where
  valid : Bool := false
  port : c.Port := ⟨0, c.numPorts_pos⟩
  id : UInt64 := 0
  payload : AddressPayload := {}
  first : Nat := 0
  last : Nat := 0

/-- The monitor table. -/
abbrev Monitors (c : Config) := Fin c.routeDepth → ExclusiveMonitor c

/-- `stall_probability_` as `allow_ready` uses it: never stall, always stall, or
stall while the generator is below a threshold. -/
inductive Stall where
  | never
  | always
  | below (threshold : UInt64)

/-! ## Trace -/

/-- One call of `Device::write`.  `address` is the bus address of the first byte
of the span. -/
structure DeviceWrite where
  device : DeviceId
  address : Nat
  offset : Nat
  data : List UInt8
  strobe : List UInt8
  response : Response

/-- One call of `Device::read`. -/
structure DeviceRead where
  device : DeviceId
  address : Nat
  offset : Nat
  /-- The length of the data span. -/
  length : Nat
  enable : List UInt8
  response : Response
  data : List UInt8

/-- What happens in a run.  Routes are recorded as they are when the event
takes place. -/
inductive Event (c : Config) where
  | aw (port : c.Port) (payload : AddressPayload)
  | w (port : c.Port) (beat : c.WriteBeat)
  | ar (port : c.Port) (payload : AddressPayload)
  | b (port : c.Port) (response : WriteResponsePayload)
  | r (port : c.Port) (beat : c.ReadBeat)
  | routeWrite (route : WriteRoute c)
  | routeRead (route : ReadRoute c)
  | stage (route : WriteRoute c) (beat : c.WriteBeat)
  | deviceWrite (route : WriteRoute c) (call : DeviceWrite)
  | complete (route : WriteRoute c)
  | reserve (route : ReadRoute c)
  | deviceRead (route : ReadRoute c) (call : DeviceRead)
  | produce (route : ReadRoute c) (beat : c.ReadBeat)
  | reset
  | resetDevices
  | tick

/-! ## The fabric object -/

structure AxiFabric (c : Config) (W : Type) where
  ports : c.Port → PortState c
  outputs : c.Outputs
  readRoutes : RingBuffer c.routeDepth (ReadRoute c)
  writeRoutes : RingBuffer c.routeDepth (WriteRoute c)
  monitors : Monitors c
  nextAwPort : c.Port
  nextArPort : c.Port
  cycle : UInt64
  randomState : UInt64
  stall : Stall
  wasReset : Bool
  suppressRead : Bool
  exitCompleted : Bool
  exitCode : UInt32
  world : W
  trace : List (Event c)

/-- What the fabric is connected to. -/
structure FabricEnv (W : Type) where
  bank : DeviceBank W
  space : AddressSpace
  resetDevices : Bool := true

namespace AxiFabric

variable {c : Config} {W : Type}

/-- A constructed fabric after `set_seed` and `set_stall_probability`. -/
def fresh (c : Config) (randomState : UInt64) (stall : Stall) (world : W) : AxiFabric c W where
  ports := fun _ => .fresh c
  outputs := fun _ => {}
  readRoutes := .fresh c.routeDepth_pos
  writeRoutes := .fresh c.routeDepth_pos
  monitors := fun _ => {}
  nextAwPort := ⟨0, c.numPorts_pos⟩
  nextArPort := ⟨0, c.numPorts_pos⟩
  cycle := 0
  randomState
  stall
  wasReset := false
  suppressRead := false
  exitCompleted := false
  exitCode := 0
  world
  trace := []

def setPort (fabric : AxiFabric c W) (port : c.Port) (state : PortState c) : AxiFabric c W :=
  { fabric with ports := Function.update fabric.ports port state }

/-- Record events in the trace. -/
def emit (fabric : AxiFabric c W) (events : List (Event c)) : AxiFabric c W :=
  { fabric with trace := fabric.trace ++ events }

def idle (fabric : AxiFabric c W) : Bool :=
  fabric.readRoutes.empty && fabric.writeRoutes.empty &&
    (List.finRange c.numPorts).all fun port =>
      (fabric.ports port).aw.empty && (fabric.ports port).w.empty && (fabric.ports port).ar.empty &&
        (fabric.ports port).b.empty && (fabric.ports port).r.empty

end AxiFabric

end AxiTestbench
