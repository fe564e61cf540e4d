import AxiTestbench.Lib.Outcome
import AxiTestbench.Fabric.State

/-!
# The fabric's code

The member functions of `AxiFabric` in the order of one cycle: `drive`, then the
phases of `commit`.  Functions that touch only the monitor table or a device
take and return just that part of the state; the phases pass the whole object.
-/

namespace AxiTestbench

open Lib Outcome

variable {c : Config} {W : Type}

/-- `protocol_error`. -/
def protocolError (cycle : UInt64) (port : c.Port) (channel : Channel) (detail : String)
    (payload : Option AddressPayload := none) : Fault :=
  .protocol (some { cycle, port := port.val, channel, payload }) detail

/-! ## Monitor table -/

def findMonitor (monitors : Monitors c) (port : c.Port) (id : UInt64) : Option (Fin c.routeDepth) :=
  (List.finRange c.routeDepth).find? fun slot =>
    (monitors slot).valid && decide ((monitors slot).port = port) &&
      decide ((monitors slot).id = id)

def clearMonitor (monitors : Monitors c) (port : c.Port) (id : UInt64) : Monitors c :=
  match findMonitor monitors port id with
  | none => monitors
  | some slot => Function.update monitors slot { monitors slot with valid := false }

def invalidateMonitors (monitors : Monitors c) (byteAddress : Nat) : Monitors c := fun slot =>
  let monitor := monitors slot
  if monitor.valid ∧ byteAddress ≥ monitor.first ∧ byteAddress < monitor.last then
    { monitor with valid := false }
  else
    monitor

/-- The slot an exclusive read reserves: its own, else the first free one. -/
def monitorSlot (monitors : Monitors c) (route : ReadRoute c) : Option (Fin c.routeDepth) :=
  match findMonitor monitors route.port route.payload.id with
  | some slot => some slot
  | none => (List.finRange c.routeDepth).find? fun slot => !(monitors slot).valid

/-- Enter a reservation; `none` if the table is exhausted. -/
def establishMonitor (monitors : Monitors c) (route : ReadRoute c) : Option (Monitors c) :=
  (monitorSlot monitors route).map fun slot =>
    Function.update monitors slot
      { valid := true
        port := route.port
        id := route.payload.id
        payload := route.payload
        first := route.payload.address.toNat
        last := add64 route.payload.address.toNat route.payload.total }

/-! ## Routing -/

def makeCursor (cycle : UInt64) (port : c.Port) (channel : Channel) (payload : AddressPayload) :
    Except Fault (BurstCursor c.dataBytes) :=
  let checked : Except Fault (BurstCursor c.dataBytes) := do
    let cursor ← BurstCursor.new payload
    cursor.validate4kBoundary
    return cursor
  match checked with
  | .error (.protocol none detail) =>
      .error (protocolError cycle port channel detail (some payload))
  | other => other

def validateExclusive (cycle : UInt64) (port : c.Port) (channel : Channel)
    (payload : AddressPayload) (cursor : BurstCursor c.dataBytes) : Except Fault Unit :=
  let total := cursor.beats * cursor.beatBytes
  if payload.burst ≠ .increment ∨ cursor.beats > 16 ∨ total = 0 ∨ total > 128 ∨
      total &&& (total - 1) ≠ 0 ∨ payload.address.toNat &&& (total - 1) ≠ 0 then
    .error (protocolError cycle port channel "illegal AXI exclusive transfer shape" (some payload))
  else
    .ok ()

/-- `address_limit` of `initialize_route`. -/
def addressLimit (c : Config) : Nat :=
  if c.addressBits < 64 then 2 ^ c.addressBits - 1 else 2 ^ 64 - 1

/-- What the decoding loop of `initialize_route` accumulates. -/
structure Decoding where
  mapping : Option Mapping := none
  decodeError : Bool := false

/-- Decode one enabled byte of a burst. -/
def decodeByte (space : AddressSpace) (decoding : Decoding) (address : Nat) : Decoding :=
  let current := space.resolve address 1
  if current = none ∨ (decoding.mapping ≠ none ∧ current ≠ decoding.mapping) then
    { decoding with decodeError := true }
  else if decoding.mapping = none then
    { decoding with mapping := current }
  else
    decoding

/-- The lane loop of `initialize_route` for one beat. -/
def decodeBeat (space : AddressSpace) (overflow : Fault) (cursor : BurstCursor c.dataBytes)
    (decoding : Decoding) (beat : Nat) : Except Fault Decoding := do
  let base ← cursor.busWordAddress beat
  let mask ← cursor.laneMask beat
  (List.finRange c.dataBytes).foldlM
    (fun decoding lane =>
      if mask lane = 0 then
        .ok decoding
      else if base > addressLimit c ∨ lane.val > addressLimit c - base then
        .error overflow
      else
        .ok (decodeByte space decoding (add64 base lane)))
    decoding

/-- The double loop over beats and lanes of `initialize_route`. -/
def decodeBurst (space : AddressSpace) (cycle : UInt64) (port : c.Port) (channel : Channel)
    (payload : AddressPayload) (cursor : BurstCursor c.dataBytes) : Except Fault Decoding :=
  (List.range cursor.beats).foldlM
    (decodeBeat space
      (protocolError cycle port channel "address overflows configured width" (some payload)) cursor)
    {}

def initializeRoute (env : FabricEnv W) (cycle : UInt64) (world : W) (port : c.Port)
    (payload : AddressPayload) (channel : Channel) : Except Fault (RouteBase c) := do
  let cursor ← makeCursor cycle port channel payload
  let decoding ← decodeBurst env.space cycle port channel payload cursor
  let mapping := if decoding.decodeError then none else decoding.mapping
  let forcedResponse : Response :=
    match mapping with
    | none => .decodeError
    | some mapping =>
        if cursor.beats > 1 ∧ env.bank.supportsBurst mapping.device world = false then .slaveError
        else .okay
  let route : RouteBase c :=
    { port, payload, mapping, forcedResponse, exclusive := payload.lock }
  if payload.lock then
    validateExclusive cycle port channel payload cursor
    match mapping with
    | none => return { route with forcedResponse := .slaveError }
    | some mapping =>
        if env.bank.supportsExclusive mapping.device world = false then
          return { route with forcedResponse := .slaveError }
        else
          return route
  else
    return route

/-! ## Device accesses -/

/-- The smallest span that holds every enabled lane. -/
def enabledExtent {size : Nat} (mask : Lanes size) : Nat × Nat :=
  let (first, last) := (List.finRange size).foldl
    (fun (first, last) index =>
      if mask index ≠ 0 then (min first index.val, index.val + 1) else (first, last))
    (size, 0)
  if first = size then (0, 0) else (first, last - first)

/-- `subspan(first, count)` of a lane array. -/
def span {size : Nat} (lanes : Lanes size) (first count : Nat) : List UInt8 :=
  ((List.ofFn lanes).drop first).take count

/-- Result of the device part of `process_read_beat`. -/
structure ReadAccess (c : Config) (W : Type) where
  world : W
  beat : c.ReadBeat
  call : Option DeviceRead

/-- The device part of `process_read_beat`. -/
def readDeviceBeat (env : FabricEnv W) (world : W) (route : ReadRoute c)
    (cursor : BurstCursor c.dataBytes) : Except Fault (ReadAccess c W) := do
  let beat : c.ReadBeat :=
    { id := route.payload.id
      last := route.beat + 1 == cursor.beats
      response := route.forcedResponse }
  match route.target with
  | none => return { world, beat, call := none }
  | some mapping =>
      let mask ← cursor.laneMask route.beat
      let base ← cursor.busWordAddress route.beat
      let (first, count) := enabledExtent mask
      let exclusive (response : Response) : Response :=
        if route.exclusive ∧ response = .okay then .exclusiveOkay else response
      if count = 0 then
        return { world, beat := { beat with response := exclusive .okay }, call := none }
      else
        let offset := sub64 (add64 base first) mapping.base
        let enable := span mask first count
        let (world, response, data) ← env.bank.read mapping.device world offset count enable
        return {
          world
          beat :=
            { beat with
              response := exclusive response
              data := fun lane =>
                if first ≤ lane.val ∧ lane.val < first + count then
                  (data[lane.val - first]?).getD 0
                else
                  0 }
          call := some
            { device := mapping.device, address := add64 base first, offset, length := count,
              enable, response, data } }

/-- Result of a device write: the route with its new response and exit fields,
and the parts of the fabric the write changes. -/
structure WriteAccess (c : Config) (W : Type) where
  route : WriteRoute c
  world : W
  monitors : Monitors c
  response : Response
  call : Option DeviceWrite

/-- The staged data and strobes of one beat; the arrays hold 256 beats. -/
def WriteRoute.staged (route : WriteRoute c) (beat : Nat) :
    Except Fault (Lanes c.dataBytes × Lanes c.dataBytes) :=
  if inside : beat < 256 then
    .ok (route.stagedData ⟨beat, inside⟩, route.stagedStrobe ⟨beat, inside⟩)
  else
    .error (.outOfBounds "staged_data")

namespace WriteRoute

/-- The route after one more W beat is staged. -/
def stageBeat (route : WriteRoute c) (beat : c.WriteBeat) (index : Fin 256)
    (final : Bool) : WriteRoute c :=
  { route with
    stagedData := Function.update route.stagedData index beat.data
    stagedStrobe := Function.update route.stagedStrobe index beat.strobe
    beat := route.beat + 1
    dataComplete := final }

/-- The route after a device write of one regular beat was answered. -/
def afterBeat (route : WriteRoute c) (response : Response) (beats : Nat) :
    WriteRoute c :=
  { route with
    response := combineResponse route.response response
    commitBeat := if responseIsSuccess response then route.commitBeat + 1 else beats }

def responsePayload (route : WriteRoute c) : WriteResponsePayload where
  id := route.payload.id
  response := route.response
  exitResponse := route.exitResponse
  exitCode := route.exitCode

end WriteRoute

def writeDeviceBeat (env : FabricEnv W) (world : W) (monitors : Monitors c)
    (route : WriteRoute c) (mapping : Mapping) (cursor : BurstCursor c.dataBytes)
    (beatIndex : Nat) (data strobe : Lanes c.dataBytes) : Except Fault (WriteAccess c W) := do
  let base ← cursor.busWordAddress beatIndex
  let lanes ← cursor.laneMask beatIndex
  let effective : Lanes c.dataBytes := fun lane =>
    if lanes lane ≠ 0 ∧ strobe lane ≠ 0 then 1 else 0
  let (first, count) := enabledExtent lanes
  if count = 0 then
    return { route, world, monitors, response := .okay, call := none }
  else
    let offset := sub64 (add64 base first) mapping.base
    let bytes := span data first count
    let enables := span effective first count
    let (world, response) ← env.bank.write mapping.device world offset bytes enables
    let call : DeviceWrite :=
      { device := mapping.device, address := add64 base first, offset, data := bytes,
        strobe := enables, response }
    if responseIsSuccess response then
      let monitors := (List.finRange c.dataBytes).foldl
        (fun monitors lane =>
          if first ≤ lane.val ∧ lane.val < first + count ∧ effective lane ≠ 0 then
            invalidateMonitors monitors (add64 base lane)
          else
            monitors)
        monitors
      let route :=
        if env.bank.isExit mapping.device world then
          { route with exitResponse := true, exitCode := env.bank.exitCode mapping.device world }
        else
          route
      return { route, world, monitors, response, call := some call }
    else
      return { route, world, monitors, response, call := some call }

/-- Copy the enabled lanes of one staged beat into the arrays of
`finish_exclusive_write`. -/
def copyBeat (route : WriteRoute c) (cursor : BurstCursor c.dataBytes)
    (image : Lanes 128 × Lanes 128) (beat : Nat) : Except Fault (Lanes 128 × Lanes 128) := do
  let base ← cursor.busWordAddress beat
  let lanes ← cursor.laneMask beat
  let (data, strobe) ← route.staged beat
  (List.finRange c.dataBytes).foldlM
    (fun image lane =>
      if lanes lane = 0 then
        .ok image
      else
        let index := sub64 (add64 base lane) route.payload.address.toNat
        if inside : index < 128 then
          .ok (Function.update image.1 ⟨index, inside⟩ (data lane),
            Function.update image.2 ⟨index, inside⟩ (if strobe lane ≠ 0 then 1 else 0))
        else
          .error (.outOfBounds "atomic_data"))
    image

/-- The loop of `finish_exclusive_write` that flattens the staged beats into one
array of data and one of strobes. -/
def atomicImage (route : WriteRoute c) (cursor : BurstCursor c.dataBytes) :
    Except Fault (Lanes 128 × Lanes 128) :=
  (List.range cursor.beats).foldlM (copyBeat route cursor) (fun _ => 0, fun _ => 0)

def finishExclusiveWrite (env : FabricEnv W) (world : W) (monitors : Monitors c)
    (route : WriteRoute c) (cursor : BurstCursor c.dataBytes) : Except Fault (WriteAccess c W) :=
  let cleared (monitors : Monitors c) := clearMonitor monitors route.port route.payload.id
  match route.target with
  | none =>
      .ok
        { route := { route with response := route.forcedResponse }, world,
          monitors := cleared monitors, response := route.forcedResponse, call := none }
  | some mapping =>
      match (findMonitor monitors route.port route.payload.id).filter
          fun slot => decide ((monitors slot).payload = route.payload) with
      | none =>
          .ok
            { route := { route with response := .okay }, world,
              monitors := cleared monitors, response := .okay, call := none }
      | some _ => do
          let (atomicData, atomicStrobe) ← atomicImage route cursor
          let total := cursor.beats * cursor.beatBytes
          let offset := sub64 route.payload.address.toNat mapping.base
          let bytes := span atomicData 0 total
          let enables := span atomicStrobe 0 total
          let (world, response) ← env.bank.write mapping.device world offset bytes enables
          let call : DeviceWrite :=
            { device := mapping.device, address := route.payload.address.toNat, offset,
              data := bytes, strobe := enables, response }
          let monitors :=
            if responseIsSuccess response then
              (List.finRange 128).foldl
                (fun monitors index =>
                  if index.val < total ∧ atomicStrobe index ≠ 0 then
                    invalidateMonitors monitors (add64 route.payload.address.toNat index)
                  else
                    monitors)
                monitors
            else
              monitors
          return {
            route :=
              { route with
                response := if responseIsSuccess response then .exclusiveOkay else response }
            world
            monitors := cleared monitors
            response
            call := some call }

/-! ## Driving the outputs -/

/-- One draw of the READY throttle, with the generator's next state. -/
def allowReady (stall : Stall) (random : UInt64) : Bool × UInt64 :=
  match stall with
  | .never => (true, random)
  | .always => (false, random)
  | .below threshold =>
      let random := random ^^^ (random <<< 13)
      let random := random ^^^ (random >>> 7)
      let random := random ^^^ (random <<< 17)
      (decide (random ≥ threshold), random)

/-- `!full && allow_ready()`; a full FIFO draws nothing. -/
def readyUnlessFull (full : Bool) (stall : Stall) (random : UInt64) : Bool × UInt64 :=
  if full then (false, random) else allowReady stall random

/-- The signals of one port. -/
def drivePort (state : PortState c) (stall : Stall) (random : UInt64) :
    SlaveSignals c.dataBytes × UInt64 :=
  let (awReady, random) := readyUnlessFull state.aw.full stall random
  let (wReady, random) := readyUnlessFull state.w.full stall random
  let (arReady, random) := readyUnlessFull state.ar.full stall random
  let (bValid, b) : Bool × WriteResponsePayload :=
    match state.b.front with
    | .ok response => (true, response)
    | .error _ => (false, {})
  let (rValid, r) : Bool × c.ReadBeat :=
    match state.r.front with
    | .ok beat => (true, beat)
    | .error _ => (false, {})
  ({ awReady, wReady, bValid, b, arReady, rValid, r }, random)

namespace AxiFabric

def drive (resetActive : Bool) (fabric : AxiFabric c W) : AxiFabric c W :=
  let blank : AxiFabric c W := { fabric with outputs := fun _ => {} }
  if resetActive then
    blank
  else
    (List.finRange c.numPorts).foldl
      (fun fabric port =>
        let (signals, random) := drivePort (fabric.ports port) fabric.stall fabric.randomState
        { fabric with
          outputs := Function.update fabric.outputs port signals
          randomState := random })
      blank

/-! ## Checking and moving the channels -/

def checkWatch {T : Type} [DecidableEq T] (fault : Fault) (watch : Watch T) (valid ready : Bool)
    (payload : T) : Except Fault (Watch T) :=
  if watch.blocked ∧ (valid = false ∨ payload ≠ watch.payload) then
    .error fault
  else
    let blocked := valid && !ready
    .ok { blocked, payload := if blocked then payload else watch.payload }

def checkAddressWatch (cycle : UInt64) (port : c.Port) (channel : Channel)
    (watch : Watch AddressPayload) (valid ready : Bool) (payload : AddressPayload) :
    Except Fault (Watch AddressPayload) :=
  checkWatch
    (protocolError cycle port channel "VALID or payload changed while stalled" (some watch.payload))
    watch valid ready payload

/-- The body of the loop of `check_stability`. -/
def checkPort (inputs : c.Inputs) (fabric : AxiFabric c W) (port : c.Port) :
    Outcome Fault (AxiFabric c W) (AxiFabric c W) := do
  let input := inputs port
  let state := fabric.ports port
  let outputs := fabric.outputs port
  let awWatch ← attempt fabric
    (checkAddressWatch fabric.cycle port .aw state.awWatch input.awValid outputs.awReady input.aw)
  let state := { state with awWatch }
  let fabric := fabric.setPort port state
  let wWatch ← attempt fabric
    (checkWatch (protocolError fabric.cycle port .w "VALID or payload changed while stalled")
      state.wWatch input.wValid outputs.wReady input.w)
  let state := { state with wWatch }
  let fabric := fabric.setPort port state
  let arWatch ← attempt fabric
    (checkAddressWatch fabric.cycle port .ar state.arWatch input.arValid outputs.arReady input.ar)
  return fabric.setPort port { state with arWatch }

def checkStability (inputs : c.Inputs) (fabric : AxiFabric c W) :
    Outcome Fault (AxiFabric c W) (AxiFabric c W) :=
  (List.finRange c.numPorts).foldlM (checkPort inputs) fabric

/-- The exit latch of `retire_responses`. -/
def latchExit (fabric : AxiFabric c W) (response : WriteResponsePayload) : AxiFabric c W :=
  if response.exitResponse && !fabric.exitCompleted then
    { fabric with exitCompleted := true, exitCode := response.exitCode }
  else
    fabric

/-- The B half of the loop body of `retire_responses`. -/
def retireWrite (inputs : c.Inputs) (fabric : AxiFabric c W) (port : c.Port) :
    Outcome Fault (AxiFabric c W) (AxiFabric c W) := do
  let state := fabric.ports port
  if (fabric.outputs port).bValid && (inputs port).bReady then
    let response ← attempt fabric state.b.front
    let fabric := fabric.latchExit response
    let b ← attempt fabric state.b.pop
    return (fabric.setPort port { state with b }).emit [.b port (fabric.outputs port).b]
  else
    return fabric

/-- The R half of the loop body of `retire_responses`. -/
def retireRead (inputs : c.Inputs) (fabric : AxiFabric c W) (port : c.Port) :
    Outcome Fault (AxiFabric c W) (AxiFabric c W) := do
  let state := fabric.ports port
  if (fabric.outputs port).rValid && (inputs port).rReady then
    let r ← attempt fabric state.r.pop
    return (fabric.setPort port { state with r }).emit [.r port (fabric.outputs port).r]
  else
    return fabric

def retirePort (inputs : c.Inputs) (fabric : AxiFabric c W) (port : c.Port) :
    Outcome Fault (AxiFabric c W) (AxiFabric c W) := do
  let fabric ← retireWrite inputs fabric port
  retireRead inputs fabric port

def retireResponses (inputs : c.Inputs) (fabric : AxiFabric c W) :
    Outcome Fault (AxiFabric c W) (AxiFabric c W) :=
  (List.finRange c.numPorts).foldlM (retirePort inputs) fabric

def acceptAw (inputs : c.Inputs) (fabric : AxiFabric c W) (port : c.Port) :
    Outcome Fault (AxiFabric c W) (AxiFabric c W) :=
  let state := fabric.ports port
  let input := inputs port
  if input.awValid && (fabric.outputs port).awReady then
    match state.aw.push input.aw with
    | (true, aw) => .ok ((fabric.setPort port { state with aw }).emit [.aw port input.aw])
    | (false, _) =>
        .error
          (protocolError fabric.cycle port .aw "internal address FIFO overflow" (some input.aw),
            fabric)
  else
    .ok fabric

def acceptW (inputs : c.Inputs) (fabric : AxiFabric c W) (port : c.Port) :
    Outcome Fault (AxiFabric c W) (AxiFabric c W) :=
  let state := fabric.ports port
  let input := inputs port
  if input.wValid && (fabric.outputs port).wReady then
    match state.w.push input.w with
    | (true, w) => .ok ((fabric.setPort port { state with w }).emit [.w port input.w])
    | (false, _) =>
        .error
          (protocolError fabric.cycle port .w "internal write-data FIFO overflow", fabric)
  else
    .ok fabric

def acceptAr (inputs : c.Inputs) (fabric : AxiFabric c W) (port : c.Port) :
    Outcome Fault (AxiFabric c W) (AxiFabric c W) :=
  let state := fabric.ports port
  let input := inputs port
  if input.arValid && (fabric.outputs port).arReady then
    match state.ar.push input.ar with
    | (true, ar) => .ok ((fabric.setPort port { state with ar }).emit [.ar port input.ar])
    | (false, _) =>
        .error
          (protocolError fabric.cycle port .ar "internal address FIFO overflow" (some input.ar),
            fabric)
  else
    .ok fabric

def acceptPort (inputs : c.Inputs) (fabric : AxiFabric c W) (port : c.Port) :
    Outcome Fault (AxiFabric c W) (AxiFabric c W) := do
  let fabric ← acceptAw inputs fabric port
  let fabric ← acceptW inputs fabric port
  acceptAr inputs fabric port

def acceptIngress (inputs : c.Inputs) (fabric : AxiFabric c W) :
    Outcome Fault (AxiFabric c W) (AxiFabric c W) :=
  (List.finRange c.numPorts).foldlM (acceptPort inputs) fabric

/-! ## Arbitration -/

/-- The first waiting port in cyclic order from `start`. -/
def nextGrant (start : c.Port) (waiting : c.Port → Bool) : Option c.Port :=
  (List.range c.numPorts).findSome? fun offset =>
    if waiting (c.rotate start offset) then some (c.rotate start offset) else none

def arbitrateWrites (env : FabricEnv W) (fabric : AxiFabric c W) :
    Outcome Fault (AxiFabric c W) (AxiFabric c W) := do
  if fabric.writeRoutes.full then
    return fabric
  match nextGrant fabric.nextAwPort fun port => !(fabric.ports port).aw.empty with
  | none => return fabric
  | some port =>
      let state := fabric.ports port
      let payload ← attempt fabric state.aw.front
      let base ← attempt fabric
        (initializeRoute env fabric.cycle fabric.world port payload .aw)
      let aw ← attempt fabric state.aw.pop
      let route : WriteRoute c := { toRouteBase := base }
      return { fabric.setPort port { state with aw } with
        writeRoutes := (fabric.writeRoutes.push route).2
        nextAwPort := c.rotate port 1
        trace := fabric.trace ++ [.routeWrite route] }

def arbitrateReads (env : FabricEnv W) (fabric : AxiFabric c W) :
    Outcome Fault (AxiFabric c W) (AxiFabric c W) := do
  if fabric.readRoutes.full then
    return fabric
  match nextGrant fabric.nextArPort fun port => !(fabric.ports port).ar.empty with
  | none => return fabric
  | some port =>
      let state := fabric.ports port
      let payload ← attempt fabric state.ar.front
      let base ← attempt fabric
        (initializeRoute env fabric.cycle fabric.world port payload .ar)
      let ar ← attempt fabric state.ar.pop
      let route : ReadRoute c := { toRouteBase := base }
      return { fabric.setPort port { state with ar } with
        readRoutes := (fabric.readRoutes.push route).2
        nextArPort := c.rotate port 1
        trace := fabric.trace ++ [.routeRead route] }

def arbitrateAddresses (env : FabricEnv W) (fabric : AxiFabric c W) :
    Outcome Fault (AxiFabric c W) (AxiFabric c W) := do
  let fabric ← arbitrateWrites env fabric
  arbitrateReads env fabric

/-! ## Reads -/

/-- The call of `establish_monitor` in `process_read_beat`. -/
def reserve (fabric : AxiFabric c W) (route : ReadRoute c) :
    Outcome Fault (AxiFabric c W) (AxiFabric c W) :=
  if route.exclusive ∧ route.beat = 0 ∧ route.forcedResponse = .okay then
    match establishMonitor fabric.monitors route with
    | some monitors => .ok ({ fabric with monitors }.emit [.reserve route])
    | none =>
        .error
          (protocolError fabric.cycle route.port .ar "exclusive monitor table exhausted"
            (some route.payload), fabric)
  else
    .ok fabric

def processReadBeat (env : FabricEnv W) (fabric : AxiFabric c W) :
    Outcome Fault (AxiFabric c W) (AxiFabric c W) := do
  if fabric.readRoutes.empty then
    return fabric
  let route ← attempt fabric fabric.readRoutes.front
  if (fabric.ports route.port).r.full then
    return fabric
  let cursor ← attempt fabric (BurstCursor.new route.payload)
  let fabric ← reserve fabric route
  let access ← attempt fabric (readDeviceBeat env fabric.world route cursor)
  let state := fabric.ports route.port
  let routes := fabric.readRoutes.setFront
    { route with beat := route.beat + 1 }
  let routes ←
    if route.beat + 1 = cursor.beats then attempt fabric routes.pop else pure routes
  return { fabric.setPort route.port { state with r := (state.r.push access.beat).2 } with
    readRoutes := routes
    world := access.world
    trace := fabric.trace ++ (access.call.map (Event.deviceRead route)).toList ++
      [.produce route access.beat] }

/-! ## Writes -/

/-- `complete_write_route`, with the front route already updated to `route`. -/
def completeWriteRoute (fabric : AxiFabric c W) (route : WriteRoute c) :
    Outcome Fault (AxiFabric c W) (AxiFabric c W) := do
  let state := fabric.ports route.port
  let fabric := fabric.setPort route.port
    { state with b := (state.b.push route.responsePayload).2 }
  let routes ← attempt fabric fabric.writeRoutes.pop
  return { fabric with writeRoutes := routes }.emit [.complete route]

/-- Store what a device write changed.  `route` is the front route. -/
def applyAccess (fabric : AxiFabric c W) (route : WriteRoute c) (access : WriteAccess c W) :
    AxiFabric c W :=
  { fabric with
    writeRoutes := fabric.writeRoutes.setFront access.route
    world := access.world
    monitors := access.monitors
    suppressRead := true
    trace := fabric.trace ++ (access.call.map (Event.deviceWrite route)).toList }

def processWriteCommit (env : FabricEnv W) (fabric : AxiFabric c W) (route : WriteRoute c)
    (cursor : BurstCursor c.dataBytes) : Outcome Fault (AxiFabric c W) (AxiFabric c W) := do
  if (fabric.ports route.port).b.full then
    return fabric
  if route.exclusive then
    let access ← attempt { fabric with suppressRead := true }
      (finishExclusiveWrite env fabric.world fabric.monitors route cursor)
    completeWriteRoute (applyAccess fabric route access) access.route
  else
    match route.target with
    | none =>
        let done :=
          { route with response := combineResponse route.response route.forcedResponse }
        completeWriteRoute { fabric with writeRoutes := fabric.writeRoutes.setFront done } done
    | some mapping =>
        let suppressed := { fabric with suppressRead := true }
        let (data, strobe) ← attempt suppressed (route.staged route.commitBeat)
        let access ← attempt suppressed
          (writeDeviceBeat env fabric.world fabric.monitors route mapping cursor route.commitBeat
            data strobe)
        let done := access.route.afterBeat access.response cursor.beats
        let fabric := applyAccess fabric route { access with route := done }
        if done.commitBeat = cursor.beats then
          completeWriteRoute fabric done
        else
          return fabric

def processWriteBeat (env : FabricEnv W) (fabric : AxiFabric c W) :
    Outcome Fault (AxiFabric c W) (AxiFabric c W) := do
  if fabric.writeRoutes.empty then
    return fabric
  let route ← attempt fabric fabric.writeRoutes.front
  let state := fabric.ports route.port
  let cursor ← attempt fabric (BurstCursor.new route.payload)
  if route.dataComplete then
    processWriteCommit env fabric route cursor
  else if state.w.empty then
    return fabric
  else
    let final := route.beat + 1 == cursor.beats
    let beat ← attempt fabric state.w.front
    if beat.last ≠ final then
      throw
        (protocolError fabric.cycle route.port .w
          (if final then "WLAST missing on final beat" else "WLAST asserted before final beat")
          (some route.payload), fabric)
    let lanes ← attempt fabric (cursor.laneMask route.beat)
    if (List.finRange c.dataBytes).any fun lane => beat.strobe lane != 0 && lanes lane == 0 then
      throw
        (protocolError fabric.cycle route.port .w "WSTRB selects an illegal byte lane"
          (some route.payload), fabric)
    if inside : route.beat < 256 then
      let w ← attempt fabric state.w.pop
      let staged := route.stageBeat beat ⟨route.beat, inside⟩ final
      let fabric : AxiFabric c W :=
        { fabric.setPort route.port { state with w } with
          writeRoutes := fabric.writeRoutes.setFront staged
          trace := fabric.trace ++ [.stage route beat] }
      if final then
        processWriteCommit env fabric staged cursor
      else
        return fabric
    else
      throw (.outOfBounds "staged_data", fabric)

/-! ## Reset and the clock edge -/

def resetState (fabric : AxiFabric c W) : AxiFabric c W :=
  { fabric with
    ports := fun port =>
      { aw := (fabric.ports port).aw.clear
        w := (fabric.ports port).w.clear
        ar := (fabric.ports port).ar.clear
        b := (fabric.ports port).b.clear
        r := (fabric.ports port).r.clear
        awWatch := .idle
        wWatch := .idle
        arWatch := .idle }
    readRoutes := fabric.readRoutes.clear
    writeRoutes := fabric.writeRoutes.clear
    monitors := fun _ => {}
    nextAwPort := ⟨0, c.numPorts_pos⟩
    nextArPort := ⟨0, c.numPorts_pos⟩
    suppressRead := false
    exitCompleted := false
    exitCode := 0 }

/-- The reset branch of `commit`. -/
def commitReset (env : FabricEnv W) (fabric : AxiFabric c W) : AxiFabric c W :=
  let fabric :=
    if fabric.wasReset then
      fabric
    else
      let cleared := (resetState fabric).emit [.reset]
      if env.resetDevices then
        { cleared with world := env.space.reset env.bank cleared.world }.emit [.resetDevices]
      else
        cleared
  { fabric with wasReset := true, cycle := fabric.cycle + 1 }.emit [.tick]

def commit (env : FabricEnv W) (inputs : c.Inputs) (resetActive : Bool) (fabric : AxiFabric c W) :
    Outcome Fault (AxiFabric c W) (AxiFabric c W) := do
  if resetActive then
    return commitReset env fabric
  let fabric := { fabric with wasReset := false }
  let fabric ← checkStability inputs fabric
  let fabric ← retireResponses inputs fabric
  let fabric ← acceptIngress inputs fabric
  let fabric ← arbitrateAddresses env fabric
  let fabric ← processWriteBeat env { fabric with suppressRead := false }
  let fabric ← if fabric.suppressRead then pure fabric else processReadBeat env fabric
  return { fabric with cycle := fabric.cycle + 1 }.emit [.tick]

/-- One clock cycle as the simulation loop runs it. -/
def cycleWith (env : FabricEnv W) (fabric : AxiFabric c W) (input : c.Inputs × Bool) :
    Outcome Fault (AxiFabric c W) (AxiFabric c W) :=
  commit env input.1 input.2 (drive input.2 fabric)

/-- A run of clock cycles; it ends at the first exception. -/
def run (env : FabricEnv W) (cycles : List (c.Inputs × Bool)) (fabric : AxiFabric c W) :
    Outcome Fault (AxiFabric c W) (AxiFabric c W) :=
  cycles.foldlM (cycleWith env) fabric

/-- A run without reset. -/
def runActive (env : FabricEnv W) (cycles : List c.Inputs) (fabric : AxiFabric c W) :
    Outcome Fault (AxiFabric c W) (AxiFabric c W) :=
  run env (cycles.map fun inputs => (inputs, false)) fabric

end AxiFabric

end AxiTestbench
