import AxiTestbench.Ram
import AxiTestbench.RingBuffer

/-!
# The UART

`UartDevice` of `devices.cpp`, a 16550 with a receive FIFO, loopback, and interrupts for
received data, the transmitter, overruns and the modem lines.  The backend is a parameter:
`host n` answers the call number `n` of `try_read`, so bytes may arrive at any time.  The
history is a ghost field that no branch reads.
-/

namespace AxiTestbench

/-- The configuration that the setters accept. -/
structure UartConfig where
  characterCycles : UInt64 := 16
  inputPollCycles : UInt64 := 1
  characterCycles_pos : 0 < characterCycles := by decide
  characterCycles_le : characterCycles ≤ 0xffffffffffffffff / 4 := by decide
  inputPollCycles_pos : 0 < inputPollCycles := by decide

/-- What happens to the device, register by register. -/
inductive UartEvent where
  | reset
  | tick
  /-- A byte from the backend is stored. -/
  | received (byte : UInt8)
  /-- A byte written to THR in loopback is stored. -/
  | looped (byte : UInt8)
  /-- A byte written to THR in loopback finds no room. -/
  | overrun (byte : UInt8)
  /-- A read of RBR returns a byte of the FIFO. -/
  | popped (byte : UInt8)
  /-- A write of FCR clears the receiver. -/
  | cleared
  /-- THR is written. -/
  | transmitted
  /-- FCR is written with bit 2 set. -/
  | transmitterCleared
  /-- Bit 1 of IER rises. -/
  | threEnabled
  /-- A read of IIR reports THRE. -/
  | threReported
  | lineStatusRead
  | modemStatusRead
  /-- A write of MCR raises a delta bit. -/
  | modemChanged
  deriving DecidableEq

structure UartDevice where
  receiveFifo : RingBuffer 16 UInt8
  divisorLow : UInt8
  divisorHigh : UInt8
  interruptEnable : UInt8
  lineControl : UInt8
  modemControl : UInt8
  scratch : UInt8
  fifoControl : UInt8
  irq : UInt64
  receiveIdleCycles : UInt64
  inputPollRemaining : UInt64
  threPending : Bool
  txPending : Bool
  overrun : Bool
  modemStatus : UInt8
  modemDelta : UInt8
  /-- The number of calls of `try_read`. -/
  probes : Nat
  /-- The bytes that the backend was given. -/
  output : List UInt8
  /-- The newest event comes first. -/
  history : List UartEvent

namespace UartDevice

def registerSpan : Nat := 8

def lsrDataReady : UInt8 := 1

def lsrThrEmpty : UInt8 := 0x20

def lsrTransmitterEmpty : UInt8 := 0x40

def lcrDlab : UInt8 := 0x80

/-- Is a bit of a register set? -/
def bit (register mask : UInt8) : Bool := register &&& mask != 0

def reset (device : UartDevice) : UartDevice :=
  { device with
    receiveFifo := device.receiveFifo.clear
    divisorLow := 0
    divisorHigh := 0
    interruptEnable := 0
    lineControl := 0
    modemControl := 0
    scratch := 0
    fifoControl := 0
    irq := 0
    receiveIdleCycles := 0
    inputPollRemaining := 0
    threPending := true
    txPending := false
    overrun := false
    modemStatus := 0xb0
    modemDelta := 0
    history := .reset :: device.history }

theorem receiveDepth_pos : 0 < 16 := by decide

/-- The constructors call `reset`. -/
def fresh : UartDevice :=
  reset
    { receiveFifo := .fresh receiveDepth_pos
      divisorLow := 0
      divisorHigh := 0
      interruptEnable := 0
      lineControl := 0
      modemControl := 0
      scratch := 0
      fifoControl := 0
      irq := 0
      receiveIdleCycles := 0
      inputPollRemaining := 0
      threPending := true
      txPending := false
      overrun := false
      modemStatus := 0xb0
      modemDelta := 0
      probes := 0
      output := []
      history := [] }

/-- The capacity that the FIFO mode gives to the receiver. -/
def capacity (device : UartDevice) : Nat := if bit device.fifoControl 1 then 16 else 1

theorem capacity_le (device : UartDevice) : device.capacity ≤ 16 := by
  rw [capacity]
  split <;> omega

def triggers (level : UInt8) : Nat :=
  if level = 0 then 1 else if level = 1 then 4 else if level = 2 then 8 else 14

def trigger (device : UartDevice) : Nat :=
  if bit device.fifoControl 1 then triggers (device.fifoControl >>> 6) else 1

section Config

variable (config : UartConfig)

def interruptIdentification (device : UartDevice) : UInt8 :=
  let fifoBits : UInt8 := if bit device.fifoControl 1 then 0xc0 else 0
  if bit device.interruptEnable 4 ∧ device.overrun then
    fifoBits ||| 0x06
  else if bit device.interruptEnable 1 ∧ device.receiveFifo.size ≥ device.trigger then
    fifoBits ||| 0x04
  else if bit device.interruptEnable 1 ∧ device.receiveFifo.empty = false ∧
      bit device.fifoControl 1 ∧ device.receiveIdleCycles ≥ 4 * config.characterCycles then
    fifoBits ||| 0x0c
  else if bit device.interruptEnable 2 ∧ device.threPending then
    fifoBits ||| 0x02
  else if bit device.interruptEnable 8 ∧ device.modemDelta ≠ 0 then
    fifoBits ||| 0x00
  else
    fifoBits ||| 0x01

def settle (device : UartDevice) : UartDevice :=
  { device with irq := if device.interruptIdentification config &&& 1 = 0 then 1 else 0 }

variable (host : Nat → Option UInt8)

/-- The loop of `poll_input`.  Each iteration but the last stores a byte, so that the FIFO is
full when the fuel of 16 is used up. -/
def pollLoop : Nat → UartDevice → UartDevice
  | 0, device => device
  | fuel + 1, device =>
      if device.receiveFifo.size < device.capacity then
        match host device.probes with
        | none =>
            { device with
              probes := device.probes + 1
              inputPollRemaining :=
                if config.inputPollCycles = 1 then 0 else config.inputPollCycles }
        | some value =>
            match device.receiveFifo.push value with
            | (false, _) => { device with probes := device.probes + 1 }
            | (true, fifo) =>
                pollLoop fuel
                  { device with
                    probes := device.probes + 1
                    receiveFifo := fifo
                    receiveIdleCycles := 0
                    history := .received value :: device.history }
      else device

def pollInput (device : UartDevice) : UartDevice :=
  if bit device.modemControl 0x10 ∨ device.inputPollRemaining ≠ 0 then device
  else pollLoop config host 16 device

/-- `tick` up to the call of `poll_input`. -/
def countTick (device : UartDevice) : UartDevice :=
  { device with
    inputPollRemaining :=
      if device.inputPollRemaining ≠ 0 then device.inputPollRemaining - 1
      else device.inputPollRemaining
    threPending := if device.txPending then true else device.threPending
    txPending := false
    receiveIdleCycles :=
      if device.receiveFifo.empty = false ∧
          device.receiveIdleCycles < 4 * config.characterCycles then
        device.receiveIdleCycles + 1
      else device.receiveIdleCycles
    history := .tick :: device.history }

def tick (device : UartDevice) : UartDevice :=
  ((device.countTick config).pollInput config host).settle config

/-- A read of RBR. -/
def readBuffer (device : UartDevice) : UartDevice × UInt8 :=
  if device.receiveFifo.empty then (device, 0)
  else
    match device.receiveFifo.front, device.receiveFifo.pop with
    | .ok value, .ok fifo =>
        ({ device with
            receiveFifo := fifo
            receiveIdleCycles := 0
            history := .popped value :: device.history }, value)
    -- `front` and `pop` throw on an empty buffer only.
    | _, _ => (device, 0)

def lineStatus (device : UartDevice) : UInt8 :=
  (if device.txPending then 0 else lsrThrEmpty ||| lsrTransmitterEmpty) |||
    (if device.overrun then 2 else 0) ||| (if device.receiveFifo.empty then 0 else lsrDataReady)

def readRegister (device : UartDevice) (index : Nat) : UartDevice × UInt8 :=
  match index with
  | 0 => if bit device.lineControl lcrDlab then (device, device.divisorLow) else device.readBuffer
  | 1 =>
      (device, if bit device.lineControl lcrDlab then device.divisorHigh
        else device.interruptEnable)
  | 2 =>
      let value := device.interruptIdentification config
      if value &&& 0x0f = 2 then
        ({ device with threPending := false, history := .threReported :: device.history }, value)
      else (device, value)
  | 3 => (device, device.lineControl)
  | 4 => (device, device.modemControl)
  | 5 =>
      ({ device with overrun := false, history := .lineStatusRead :: device.history },
        device.lineStatus)
  | 6 =>
      ({ device with modemDelta := 0, history := .modemStatusRead :: device.history },
        device.modemStatus ||| device.modemDelta)
  | 7 => (device, device.scratch)
  | _ => (device, 0)

end Config

def transmit (device : UartDevice) (value : UInt8) : UartDevice :=
  let sent : UartDevice :=
    { device with
      threPending := false
      txPending := true
      history := .transmitted :: device.history }
  if bit device.modemControl 0x10 then
    if device.receiveFifo.size ≥ device.capacity then
      { sent with
        overrun := true
        receiveIdleCycles := 0
        history := .overrun value :: sent.history }
    else
      { sent with
        receiveFifo := (device.receiveFifo.push value).2
        receiveIdleCycles := 0
        history := .looped value :: sent.history }
  else
    { sent with output := sent.output ++ [value] }

/-- The modem lines for a value of MCR. -/
def modemLines (value : UInt8) : UInt8 :=
  if value &&& 0x10 = 0 then 0xb0
  else
    (value &&& 2) <<< 3 ||| (value &&& 1) <<< 5 ||| (value &&& 4) <<< 4 ||| (value &&& 8) <<< 4

/-- The delta bits that a change of the modem lines raises. -/
def raisedDelta (previous status : UInt8) : UInt8 :=
  ((previous ^^^ status) >>> 4) &&& 0x0b |||
    if previous &&& 0x40 ≠ 0 ∧ status &&& 0x40 = 0 then 4 else 0

def setModemControl (device : UartDevice) (value : UInt8) : UartDevice :=
  let status := modemLines value
  let raised := raisedDelta device.modemStatus status
  { device with
    modemControl := value &&& 0x1f
    modemStatus := status
    modemDelta := device.modemDelta ||| raised
    history := if raised ≠ 0 then .modemChanged :: device.history else device.history }

/-- A write of IER. -/
def enableInterrupts (device : UartDevice) (value : UInt8) : UartDevice :=
  let rising := bit value 2 && !bit device.interruptEnable 2
  { device with
    threPending := if rising ∧ device.txPending = false then true else device.threPending
    interruptEnable := value &&& 0x0f
    history := if rising then .threEnabled :: device.history else device.history }

/-- The part of a write of FCR that is about the receiver. -/
def clearReceiver (device : UartDevice) (value : UInt8) : UartDevice :=
  if bit value 2 ∨ bit (value ^^^ device.fifoControl) 1 then
    { device with
      receiveFifo := device.receiveFifo.clear
      receiveIdleCycles := 0
      history := .cleared :: device.history }
  else device

/-- The part of a write of FCR that is about the transmitter. -/
def clearTransmitter (device : UartDevice) (value : UInt8) : UartDevice :=
  if bit value 4 then
    { device with
      txPending := false
      threPending := true
      history := .transmitterCleared :: device.history }
  else device

def controlFifo (device : UartDevice) (value : UInt8) : UartDevice :=
  { (device.clearReceiver value).clearTransmitter value with fifoControl := value &&& 0xc9 }

def writeRegister (device : UartDevice) (index : Nat) (value : UInt8) : UartDevice :=
  match index with
  | 0 =>
      if bit device.lineControl lcrDlab then { device with divisorLow := value }
      else device.transmit value
  | 1 =>
      if bit device.lineControl lcrDlab then { device with divisorHigh := value }
      else device.enableInterrupts value
  | 2 => device.controlFifo value
  | 3 => { device with lineControl := value }
  | 4 => device.setModemControl value
  | 7 => { device with scratch := value }
  -- LSR and MSR are read only.
  | _ => device

section Bus

variable (config : UartConfig) (host : Nat → Option UInt8)

/-- One iteration of the lane loop of `read_impl`. -/
def readLane (offset : Nat) (enable : List UInt8) (state : UartDevice × List UInt8) (lane : Nat) :
    UartDevice × List UInt8 :=
  if byteAt enable lane ≠ 0 then
    let (device, value) := state.1.readRegister config (offset + lane)
    (device, state.2 ++ [value])
  else (state.1, state.2 ++ [0])

def readImpl (device : UartDevice) (offset : Nat) (enable : List UInt8) :
    UartDevice × Response × List UInt8 :=
  if inBounds offset enable.length registerSpan then
    let (read, data) := (List.range enable.length).foldl (readLane config offset enable)
      (device.pollInput config host, [])
    (read.settle config, .okay, data)
  else (device, .slaveError, List.replicate enable.length 0)

/-- One iteration of the lane loop of `write_impl`. -/
def writeLane (offset : Nat) (data strobe : List UInt8) (device : UartDevice) (lane : Nat) :
    UartDevice :=
  if byteAt strobe lane ≠ 0 then device.writeRegister (offset + lane) (byteAt data lane)
  else device

def writeImpl (device : UartDevice) (offset : Nat) (data strobe : List UInt8) :
    UartDevice × Response :=
  if inBounds offset data.length registerSpan then
    (((List.range data.length).foldl (writeLane offset data strobe) device).settle config, .okay)
  else (device, .slaveError)

/-- The calls of the platform and of the bus. -/
inductive Operation where
  | reset
  | tick
  | settle
  | read (offset : Nat) (enable : List UInt8)
  | write (offset : Nat) (data strobe : List UInt8)

/-- `Device::read` and `Device::write` do not reach the device with an empty span, and they
throw for spans of different lengths. -/
def apply (device : UartDevice) : Operation → UartDevice
  | .reset => device.reset
  | .tick => device.tick config host
  | .settle => device.settle config
  | .read offset enable =>
      if enable = [] then device else (device.readImpl config host offset enable).1
  | .write offset data strobe =>
      if data.length ≠ strobe.length ∨ data = [] then device
      else (device.writeImpl config offset data strobe).1

/-- The device after a sequence of operations. -/
def run (operations : List Operation) : UartDevice :=
  operations.foldl (apply config host) fresh

end Bus

/-! ## Invariants of runs -/

/-- A property that the register reads keep holds after a read of the bus. -/
theorem readLanes_induct {config : UartConfig} {property : UartDevice → Prop}
    (each : ∀ device index, property device → property (device.readRegister config index).1)
    (offset : Nat) (enable : List UInt8) (lanes : List Nat) (state : UartDevice × List UInt8)
    (holds : property state.1) :
    property (lanes.foldl (readLane config offset enable) state).1 := by
  induction lanes generalizing state with
  | nil => exact holds
  | cons lane lanes ih =>
      refine ih _ ?_
      rw [readLane]
      split
      · exact each state.1 _ holds
      · exact holds

theorem writeLanes_induct {property : UartDevice → Prop}
    (each : ∀ device index value, property device → property (device.writeRegister index value))
    (offset : Nat) (data strobe : List UInt8) (lanes : List Nat) (device : UartDevice)
    (holds : property device) :
    property (lanes.foldl (writeLane offset data strobe) device) := by
  induction lanes generalizing device with
  | nil => exact holds
  | cons lane lanes ih =>
      refine ih _ ?_
      rw [writeLane]
      split
      · exact each device _ _ holds
      · exact holds

/-- A property that every register access and the other parts of the operations keep. -/
structure Kept (config : UartConfig) (host : Nat → Option UInt8) (property : UartDevice → Prop) :
    Prop where
  reset : ∀ device, property device → property device.reset
  settle : ∀ device, property device → property (device.settle config)
  countTick : ∀ device, property device → property (device.countTick config)
  pollInput : ∀ device, property device → property (device.pollInput config host)
  readRegister : ∀ device index, property device → property (device.readRegister config index).1
  writeRegister : ∀ device index value, property device →
    property (device.writeRegister index value)

namespace Kept

variable {config : UartConfig} {host : Nat → Option UInt8} {property : UartDevice → Prop}
  (kept : Kept config host property)

include kept

theorem apply (device : UartDevice) (operation : Operation) (holds : property device) :
    property (device.apply config host operation) := by
  cases operation with
  | reset => exact kept.reset device holds
  | tick =>
      have counted := kept.countTick device holds
      exact kept.settle _ (kept.pollInput _ counted)
  | settle => exact kept.settle device holds
  | read offset enable =>
      rw [UartDevice.apply]
      split
      · exact holds
      · rw [readImpl]
        split
        · exact kept.settle _
            (readLanes_induct kept.readRegister offset enable _ _ (kept.pollInput device holds))
        · exact holds
  | write offset data strobe =>
      rw [UartDevice.apply]
      split
      · exact holds
      · rw [writeImpl]
        split
        · exact kept.settle _
            (writeLanes_induct kept.writeRegister offset data strobe _ device holds)
        · exact holds

/-- A kept property of the fresh device holds after every sequence of operations. -/
theorem run (operations : List Operation) (start : property fresh) :
    property (run config host operations) := by
  rw [UartDevice.run]
  generalize fresh = device at start
  induction operations generalizing device with
  | nil => exact start
  | cons operation operations ih => exact ih _ (kept.apply device operation start)

end Kept

end UartDevice

end AxiTestbench
