import AxiTestbench.Lib.History
import AxiTestbench.Uart.Events

/-!
# The receive stream

Every byte that the backend hands out is stored, and the bytes that have been accepted since
the receiver was last cleared are those that RBR has returned, followed by the FIFO.
-/

namespace AxiTestbench

open Lib

namespace UartEvent

/-- The receiver is cleared. -/
def clears : UartEvent → Bool
  | .reset => true
  | .cleared => true
  | _ => false

/-- The byte that the receiver accepts. -/
def accepted : UartEvent → Option UInt8
  | .received byte => some byte
  | .looped byte => some byte
  | _ => none

/-- The byte that comes from the backend. -/
def fromHost : UartEvent → Option UInt8
  | .received byte => some byte
  | _ => none

/-- The byte that a read of RBR returns. -/
def returned : UartEvent → Option UInt8
  | .popped byte => some byte
  | _ => none

/-- The event is not about the receive stream. -/
structure Neutral (event : UartEvent) : Prop where
  clears : event.clears = false
  accepted : event.accepted = none
  fromHost : event.fromHost = none
  returned : event.returned = none

end UartEvent

namespace UartDevice

/-- The bytes accepted since the receiver was last cleared. -/
def acceptedBytes (device : UartDevice) : List UInt8 :=
  (recent UartEvent.clears device.history).filterMap UartEvent.accepted

/-- The bytes that RBR has returned since the receiver was last cleared. -/
def returnedBytes (device : UartDevice) : List UInt8 :=
  (recent UartEvent.clears device.history).filterMap UartEvent.returned

/-- The bytes that the backend has handed out. -/
def takenBytes (host : Nat → Option UInt8) (device : UartDevice) : List UInt8 :=
  (List.range device.probes).filterMap host

/-- The bytes from the backend that were stored, since the device was made. -/
def storedBytes (device : UartDevice) : List UInt8 :=
  device.history.reverse.filterMap UartEvent.fromHost

structure Conserved (host : Nat → Option UInt8) (device : UartDevice) : Prop where
  bounded : device.receiveFifo.toList.length ≤ device.capacity
  stored : device.takenBytes host = device.storedBytes
  stream : device.acceptedBytes = device.returnedBytes ++ device.receiveFifo.toList

theorem bit_one (register : UInt8) : bit register 1 = register.toNat.testBit 0 := by
  have low : register.toNat &&& (1 : UInt8).toNat = register.toNat % 2 := Nat.and_one_is_mod _
  rw [bit, Nat.testBit_zero, Bool.eq_iff_iff, bne_iff_ne, decide_eq_true_eq, ne_eq,
    ← UInt8.toNat_inj, UInt8.toNat_and, low]
  simp

/-- Where bit 0 of FCR is not changed, the FIFO mode stays. -/
theorem bit_mask_of_xor {value control : UInt8} (same : bit (value ^^^ control) 1 = false) :
    bit (value &&& 0xc9) 1 = bit control 1 := by
  have mask : (0xc9 : UInt8).toNat.testBit 0 = true := by decide
  rw [bit_one, UInt8.toNat_xor, Nat.testBit_xor] at same
  rw [bit_one, bit_one, UInt8.toNat_and, Nat.testBit_and, mask, Bool.and_true]
  simpa using same

namespace Conserved

variable {host : Nat → Option UInt8} {device next : UartDevice}

/-- A step that does not touch the receiver. -/
theorem frame (conserved : Conserved host device)
    (fifo : next.receiveFifo = device.receiveFifo) (control : next.capacity = device.capacity)
    (probes : next.probes = device.probes)
    (history : next.history = device.history ∨
      ∃ event : UartEvent, event.Neutral ∧ next.history = event :: device.history) :
    Conserved host next := by
  obtain ⟨bounded, stored, stream⟩ := conserved
  rcases history with same | ⟨event, neutral, longer⟩
  · refine ⟨?_, ?_, ?_⟩
    · rw [fifo, control]
      exact bounded
    · rw [takenBytes, probes, storedBytes, same]
      exact stored
    · rw [acceptedBytes, returnedBytes, same, fifo]
      exact stream
  · have clears : ¬event.clears = true := by simp [neutral.clears]
    refine ⟨?_, ?_, ?_⟩
    · rw [fifo, control]
      exact bounded
    · rw [takenBytes, probes, storedBytes, longer, List.reverse_cons, List.filterMap_append,
        List.filterMap_cons, neutral.fromHost, List.filterMap_nil, List.append_nil]
      exact stored
    · rw [acceptedBytes, returnedBytes, longer, recent_cons, if_neg clears, List.filterMap_append,
        List.filterMap_append, List.filterMap_cons, List.filterMap_cons, neutral.accepted,
        neutral.returned, List.filterMap_nil, List.filterMap_nil, List.append_nil,
        List.append_nil, fifo]
      exact stream

/-- A step that clears the receiver. -/
theorem clear (conserved : Conserved host device) {event : UartEvent}
    (clears : event.clears = true) (own : event.fromHost = none)
    (fifo : next.receiveFifo.toList = []) (probes : next.probes = device.probes)
    (history : next.history = event :: device.history) : Conserved host next := by
  refine ⟨?_, ?_, ?_⟩
  · rw [fifo]
    exact Nat.zero_le _
  · rw [takenBytes, probes, storedBytes, history, List.reverse_cons, List.filterMap_append,
      List.filterMap_cons, own, List.filterMap_nil, List.append_nil]
    exact conserved.stored
  · rw [acceptedBytes, returnedBytes, history, recent_cons, if_pos clears, fifo]
    rfl

/-- A byte is appended to the FIFO. -/
theorem accept (conserved : Conserved host device) {event : UartEvent} {byte : UInt8}
    (clears : event.clears = false) (accepted : event.accepted = some byte)
    (returned : event.returned = none) (room : device.receiveFifo.toList.length < device.capacity)
    (fifo : next.receiveFifo.toList = device.receiveFifo.toList ++ [byte])
    (control : next.capacity = device.capacity)
    (history : next.history = event :: device.history)
    (stored : next.takenBytes host = device.takenBytes host ++ event.fromHost.toList) :
    Conserved host next := by
  refine ⟨?_, ?_, ?_⟩
  · rw [fifo, control, List.length_append, List.length_singleton]
    omega
  · rw [stored, conserved.stored, storedBytes, storedBytes, history, List.reverse_cons,
      List.filterMap_append]
    cases source : event.fromHost <;> simp [source]
  · have notClears : ¬event.clears = true := by simp [clears]
    rw [acceptedBytes, returnedBytes, history, recent_cons, if_neg notClears, fifo]
    simp only [List.filterMap_append, List.filterMap_cons, List.filterMap_nil, accepted, returned,
      List.append_nil]
    rw [← List.append_assoc]
    exact congrArg (· ++ [byte]) conserved.stream

/-- The first byte of the FIFO is returned. -/
theorem give (conserved : Conserved host device) {byte : UInt8} {rest : List UInt8}
    (queue : device.receiveFifo.toList = byte :: rest) (fifo : next.receiveFifo.toList = rest)
    (control : next.capacity = device.capacity) (probes : next.probes = device.probes)
    (history : next.history = .popped byte :: device.history) : Conserved host next := by
  have bounded := conserved.bounded
  have stream := conserved.stream
  rw [queue] at bounded stream
  refine ⟨?_, ?_, ?_⟩
  · rw [fifo, control]
    rw [List.length_cons] at bounded
    omega
  · rw [takenBytes, probes, storedBytes, history, List.reverse_cons, List.filterMap_append]
    simp only [List.filterMap_cons, List.filterMap_nil, UartEvent.fromHost, List.append_nil]
    exact conserved.stored
  · rw [acceptedBytes, returnedBytes, history, recent_cons, fifo]
    simp only [UartEvent.clears, Bool.false_eq_true, if_false, List.filterMap_append,
      List.filterMap_cons, List.filterMap_nil, UartEvent.accepted, UartEvent.returned,
      List.append_nil, List.append_assoc, List.singleton_append]
    exact stream

/-- The bytes that an iteration of `poll_input` takes are stored. -/
theorem pollLoop (config : UartConfig) (fuel : Nat) (conserved : Conserved host device) :
    Conserved host (pollLoop config host fuel device) := by
  induction fuel generalizing device with
  | zero => exact conserved
  | succ fuel ih =>
      rw [UartDevice.pollLoop]
      split
      next room =>
        rw [← RingBuffer.length_toList] at room
        have limit := device.capacity_le
        split
        next unanswered =>
          refine ⟨conserved.bounded, ?_, conserved.stream⟩
          rw [takenBytes, List.range_succ, List.filterMap_append, List.filterMap_cons, unanswered,
            List.filterMap_nil, List.append_nil]
          exact conserved.stored
        next value answered =>
          obtain ⟨pushed, push, queue⟩ :=
            device.receiveFifo.push_eq value (by omega)
          rw [push]
          refine ih (conserved.accept rfl rfl rfl room queue rfl rfl ?_)
          simp only [takenBytes, List.range_succ, List.filterMap_append, List.filterMap_cons,
            answered, List.filterMap_nil, UartEvent.fromHost, Option.toList_some]
      next => exact conserved

theorem pollInput (config : UartConfig) (conserved : Conserved host device) :
    Conserved host (device.pollInput config host) := by
  rw [UartDevice.pollInput]
  split
  · exact conserved
  · exact conserved.pollLoop config 16

theorem readBuffer (conserved : Conserved host device) : Conserved host device.readBuffer.1 := by
  cases queue : device.receiveFifo.toList with
  | nil =>
      rw [readBuffer_nil queue]
      exact conserved
  | cons value rest =>
      obtain ⟨popped, pop, fifo⟩ := device.receiveFifo.pop_eq queue
      have nonempty : ¬device.receiveFifo.empty = true := by simp [queue]
      rw [UartDevice.readBuffer, if_neg nonempty, device.receiveFifo.front_eq queue, pop]
      exact conserved.give queue fifo rfl rfl rfl

theorem readRegister (config : UartConfig) (index : Nat) (conserved : Conserved host device) :
    Conserved host (device.readRegister config index).1 := by
  unfold UartDevice.readRegister
  split
  next =>
    split
    · exact conserved
    · exact conserved.readBuffer
  next => exact conserved
  next =>
    simp only
    split
    · exact conserved.frame rfl rfl rfl (.inr ⟨_, ⟨rfl, rfl, rfl, rfl⟩, rfl⟩)
    · exact conserved
  next => exact conserved
  next => exact conserved
  next => exact conserved.frame rfl rfl rfl (.inr ⟨_, ⟨rfl, rfl, rfl, rfl⟩, rfl⟩)
  next => exact conserved.frame rfl rfl rfl (.inr ⟨_, ⟨rfl, rfl, rfl, rfl⟩, rfl⟩)
  next => exact conserved
  next => exact conserved

/-- In loopback a byte is stored where there is room and dropped where there is none. -/
theorem transmit (value : UInt8) (conserved : Conserved host device) :
    Conserved host (device.transmit value) := by
  have sent : Conserved host
      { device with
        threPending := false
        txPending := true
        history := .transmitted :: device.history } :=
    conserved.frame rfl rfl rfl (.inr ⟨_, ⟨rfl, rfl, rfl, rfl⟩, rfl⟩)
  rw [UartDevice.transmit]
  simp only
  split
  next =>
    split
    next => exact sent.frame rfl rfl rfl (.inr ⟨_, ⟨rfl, rfl, rfl, rfl⟩, rfl⟩)
    next full =>
      have room : device.receiveFifo.toList.length < device.capacity := by
        rw [RingBuffer.length_toList]
        omega
      have limit := device.capacity_le
      have queue := device.receiveFifo.toList_push value (by omega)
      exact sent.accept rfl rfl rfl room queue rfl rfl (List.append_nil _).symm
  next => exact sent.frame rfl rfl rfl (.inl rfl)

theorem controlFifo (value : UInt8) (conserved : Conserved host device) :
    Conserved host (device.controlFifo value) := by
  have receiver : Conserved host (device.clearReceiver value) ∧
      (device.clearReceiver value).receiveFifo.toList.length ≤
        (device.controlFifo value).capacity := by
    rw [UartDevice.clearReceiver]
    split
    next => exact ⟨conserved.clear rfl rfl rfl rfl rfl, Nat.zero_le _⟩
    next kept =>
      rw [not_or, Bool.not_eq_true, Bool.not_eq_true] at kept
      refine ⟨conserved, ?_⟩
      have same : (device.controlFifo value).capacity = device.capacity := by
        rw [capacity, capacity, UartDevice.controlFifo, bit_mask_of_xor kept.2]
      rw [same]
      exact conserved.bounded
  have transmitter : Conserved host ((device.clearReceiver value).clearTransmitter value) ∧
      ((device.clearReceiver value).clearTransmitter value).receiveFifo =
        (device.clearReceiver value).receiveFifo := by
    rw [clearTransmitter]
    split
    · exact ⟨receiver.1.frame rfl rfl rfl (.inr ⟨_, ⟨rfl, rfl, rfl, rfl⟩, rfl⟩), rfl⟩
    · exact ⟨receiver.1, rfl⟩
  refine ⟨?_, transmitter.1.stored, transmitter.1.stream⟩
  rw [UartDevice.controlFifo] at receiver ⊢
  simp only [transmitter.2]
  exact receiver.2

theorem writeRegister (index : Nat) (value : UInt8) (conserved : Conserved host device) :
    Conserved host (device.writeRegister index value) := by
  unfold UartDevice.writeRegister
  split
  next =>
    split
    · exact conserved.frame rfl rfl rfl (.inl rfl)
    · exact conserved.transmit value
  next =>
    split
    · exact conserved.frame rfl rfl rfl (.inl rfl)
    · refine conserved.frame rfl rfl rfl ?_
      simp only [enableInterrupts]
      split
      · exact .inr ⟨_, ⟨rfl, rfl, rfl, rfl⟩, rfl⟩
      · exact .inl rfl
  next => exact conserved.controlFifo value
  next => exact conserved.frame rfl rfl rfl (.inl rfl)
  next =>
    refine conserved.frame rfl rfl rfl ?_
    simp only [setModemControl]
    split
    · exact .inr ⟨_, ⟨rfl, rfl, rfl, rfl⟩, rfl⟩
    · exact .inl rfl
  next => exact conserved.frame rfl rfl rfl (.inl rfl)
  next => exact conserved

/-- The receive stream is conserved by every operation. -/
theorem kept (config : UartConfig) (host : Nat → Option UInt8) :
    Kept config host (Conserved host) where
  reset _ conserved := conserved.clear rfl rfl rfl rfl rfl
  settle _ conserved := conserved.frame rfl rfl rfl (.inl rfl)
  countTick _ conserved := conserved.frame rfl rfl rfl (.inr ⟨_, ⟨rfl, rfl, rfl, rfl⟩, rfl⟩)
  pollInput _ conserved := conserved.pollInput config
  readRegister _ index conserved := conserved.readRegister config index
  writeRegister _ index value conserved := conserved.writeRegister index value

end Conserved

/-! ## The bytes on the bus -/

/-- All bytes that RBR has returned, the newest first. -/
def givenBytes (device : UartDevice) : List UInt8 := device.history.filterMap UartEvent.returned

theorem givenBytes_pollInput (config : UartConfig) (host : Nat → Option UInt8)
    (device : UartDevice) : (device.pollInput config host).givenBytes = device.givenBytes := by
  have none : (device.pollEvents host).filterMap UartEvent.returned = [] := by
    rw [pollEvents]
    split
    · rfl
    · simp [List.filterMap_eq_nil_iff, UartEvent.returned]
  rw [givenBytes, history_pollInput, List.filterMap_append, none, List.nil_append, givenBytes]

/-- Only register 0 returns a byte of the stream. -/
theorem givenBytes_readRegister (config : UartConfig) (device : UartDevice) {index : Nat}
    (other : index ≠ 0) : (device.readRegister config index).1.givenBytes = device.givenBytes := by
  have none : (device.readEvents config index).filterMap UartEvent.returned = [] := by
    unfold readEvents
    split
    next => exact absurd rfl other
    next => split <;> rfl
    all_goals rfl
  rw [givenBytes, history_readRegister, List.filterMap_append, none, List.nil_append, givenBytes]

theorem givenBytes_readBuffer (device : UartDevice) :
    device.readBuffer.1.givenBytes = device.givenBytes ∨
      device.readBuffer.1.givenBytes = device.readBuffer.2 :: device.givenBytes := by
  cases queue : device.receiveFifo.toList with
  | nil => exact .inl (by rw [readBuffer_nil queue])
  | cons byte rest =>
      obtain ⟨value, -, history⟩ := readBuffer_cons queue
      exact .inr (by rw [givenBytes, history, value]; rfl)

/-- The lanes after the first one append to the data and leave the stream alone. -/
theorem readLanes_given (config : UartConfig) (offset : Nat) (enable : List UInt8)
    (lanes : List Nat) (others : ∀ lane ∈ lanes, offset + lane ≠ 0)
    (state : UartDevice × List UInt8) :
    (lanes.foldl (readLane config offset enable) state).1.givenBytes = state.1.givenBytes ∧
      state.2 <+: (lanes.foldl (readLane config offset enable) state).2 := by
  induction lanes generalizing state with
  | nil => exact ⟨rfl, List.prefix_refl _⟩
  | cons lane lanes ih =>
      obtain ⟨given, extended⟩ := ih (fun other member => others other (by simp [member]))
        (readLane config offset enable state lane)
      have first : (readLane config offset enable state lane).1.givenBytes = state.1.givenBytes ∧
          state.2 <+: (readLane config offset enable state lane).2 := by
        rw [readLane]
        split
        · exact ⟨givenBytes_readRegister config state.1 (others lane (by simp)),
            List.prefix_append _ _⟩
        · exact ⟨rfl, List.prefix_append _ _⟩
      exact ⟨given.trans first.1, first.2.trans extended⟩

/-- The lanes of a read give at most one byte of the stream, as the first byte of the data. -/
theorem readLanes_first (config : UartConfig) (offset : Nat) (enable : List UInt8) (count : Nat)
    (start : UartDevice) :
    let last := (List.range count).foldl (readLane config offset enable) (start, [])
    last.1.givenBytes = start.givenBytes ∨
      offset = 0 ∧ ∃ byte, last.2.head? = some byte ∧
        last.1.givenBytes = byte :: start.givenBytes := by
  cases count with
  | zero => exact .inl rfl
  | succ count =>
      intro last
      obtain ⟨given, extended⟩ := readLanes_given config offset enable
        ((List.range count).map Nat.succ) (by simp) (readLane config offset enable (start, []) 0)
      have whole : last = ((List.range count).map Nat.succ).foldl (readLane config offset enable)
          (readLane config offset enable (start, []) 0) := by
        rw [← List.foldl_cons, ← List.range_succ_eq_map]
      rw [← whole] at given extended
      rw [given]
      by_cases enabled : byteAt enable 0 ≠ 0
      · by_cases first : offset = 0
        · subst first
          have lane : readLane config 0 enable (start, []) 0 =
              ((start.readRegister config 0).1, [(start.readRegister config 0).2]) := by
            rw [readLane, if_pos enabled]
            rfl
          rw [lane] at extended ⊢
          obtain ⟨more, data⟩ := extended
          have head : last.2.head? = some (start.readRegister config 0).2 := by simp [← data]
          have register : start.readRegister config 0 =
              if bit start.lineControl lcrDlab then (start, start.divisorLow)
              else start.readBuffer := rfl
          rw [register] at head ⊢
          split at head
          next latch =>
            rw [if_pos latch]
            exact .inl rfl
          next buffer =>
            rw [if_neg buffer]
            rcases start.givenBytes_readBuffer with same | popped
            · exact .inl same
            · exact .inr ⟨rfl, _, head, popped⟩
        · rw [readLane, if_pos enabled]
          exact .inl (givenBytes_readRegister config start (by simpa using first))
      · rw [readLane, if_neg enabled]
        exact .inl rfl

/-- A read gives at most one byte of the stream, as the first byte of its data. -/
theorem readImpl_given (config : UartConfig) (host : Nat → Option UInt8) (device : UartDevice)
    (offset : Nat) (enable : List UInt8) :
    (device.readImpl config host offset enable).1.givenBytes = device.givenBytes ∨
      offset = 0 ∧ ∃ byte, (device.readImpl config host offset enable).2.2.head? = some byte ∧
        (device.readImpl config host offset enable).1.givenBytes =
          byte :: device.givenBytes := by
  rw [readImpl]
  split
  next =>
    have read := readLanes_first config offset enable enable.length (device.pollInput config host)
    rw [givenBytes_pollInput] at read
    exact read
  next => exact .inl rfl

/-- A byte that is written to THR in loopback. -/
theorem transmit_loopback {device : UartDevice} (loopback : bit device.modemControl 0x10 = true)
    (bounded : device.receiveFifo.toList.length ≤ device.capacity) (byte : UInt8) :
    (device.receiveFifo.toList.length = device.capacity →
      (device.transmit byte).receiveFifo = device.receiveFifo ∧
        (device.transmit byte).overrun = true ∧
        (device.transmit byte).history = .overrun byte :: .transmitted :: device.history) ∧
    (device.receiveFifo.toList.length ≠ device.capacity →
      (device.transmit byte).receiveFifo.toList = device.receiveFifo.toList ++ [byte] ∧
        (device.transmit byte).overrun = device.overrun ∧
        (device.transmit byte).history = .looped byte :: .transmitted :: device.history) := by
  have limit := device.capacity_le
  have room := device.receiveFifo.toList_push byte
  rw [RingBuffer.length_toList] at bounded room ⊢
  constructor
  · intro full
    rw [transmit, if_pos loopback, if_pos (by omega)]
    exact ⟨rfl, rfl, rfl⟩
  · intro free
    rw [transmit, if_pos loopback, if_neg (by omega)]
    exact ⟨room (by omega), rfl, rfl⟩

end UartDevice

open UartDevice in
/-- After every sequence of operations and for all arrival times of the host bytes: the FIFO
is within the capacity of its mode; the bytes taken from the backend are all stored; the
bytes accepted since the last clear are those returned by RBR and then the FIFO, where a read
returns a byte of the stream as the first byte of its data; and a loopback byte is dropped, as
an overrun, if and only if the FIFO is at its capacity.  The history grows by what the
accesses stand for, and a read of RBR takes the first byte of the FIFO and no other. -/
theorem uart_stream_conserved (config : UartConfig) (host : Nat → Option UInt8)
    (operations : List Operation) :
    let device := UartDevice.run config host operations
    device.receiveFifo.toList.length ≤ (if bit device.fifoControl 1 then 16 else 1) ∧
    device.takenBytes host = device.storedBytes ∧
    device.acceptedBytes = device.returnedBytes ++ device.receiveFifo.toList ∧
    (∀ offset enable,
      (device.readImpl config host offset enable).1.givenBytes = device.givenBytes ∨
        offset = 0 ∧ ∃ byte, (device.readImpl config host offset enable).2.2.head? = some byte ∧
          (device.readImpl config host offset enable).1.givenBytes =
            byte :: device.givenBytes) ∧
    (∀ byte, bit device.lineControl lcrDlab = false → bit device.modemControl 0x10 = true →
      let next := device.writeRegister 0 byte
      (device.receiveFifo.toList.length = device.capacity →
        next.receiveFifo = device.receiveFifo ∧ next.overrun = true ∧
          next.history = .overrun byte :: .transmitted :: device.history) ∧
      (device.receiveFifo.toList.length ≠ device.capacity →
        next.receiveFifo.toList = device.receiveFifo.toList ++ [byte] ∧
          next.overrun = device.overrun ∧
          next.history = .looped byte :: .transmitted :: device.history)) ∧
    (∀ operation, (UartDevice.run config host (operations ++ [operation])).history =
      device.appended config host operation ++ device.history) ∧
    (bit device.lineControl lcrDlab = false →
      (∀ byte rest, device.receiveFifo.toList = byte :: rest →
        (device.readRegister config 0).2 = byte ∧
          (device.readRegister config 0).1.receiveFifo.toList = rest ∧
          (device.readRegister config 0).1.history = .popped byte :: device.history) ∧
      (device.receiveFifo.toList = [] → device.readRegister config 0 = (device, 0))) := by
  intro device
  have conserved : UartDevice.Conserved host device :=
    (UartDevice.Conserved.kept config host).run operations ⟨Nat.zero_le _, rfl, rfl⟩
  refine ⟨conserved.bounded, conserved.stored, conserved.stream,
    device.readImpl_given config host, fun byte noLatch loopback => ?_,
    history_run_append config host operations, fun noLatch => ?_⟩
  · have sent : device.writeRegister 0 byte = device.transmit byte := by
      rw [writeRegister, noLatch]
      rfl
    rw [sent]
    exact transmit_loopback loopback conserved.bounded byte
  · rw [readRegister_zero config noLatch]
    exact ⟨fun _ _ queue => readBuffer_cons queue, readBuffer_nil⟩

/-- Loopback is turned on and one byte is written, without FIFO mode. -/
def loopOnce : List UartDevice.Operation := [.write 4 [0x10] [1], .write 0 [65] [1]]

open UartDevice in
theorem uart_stream_conserved_overrun :
    (UartDevice.run {} (fun _ => none) loopOnce).receiveFifo.toList = [65] ∧
      ((UartDevice.run {} (fun _ => none) loopOnce).writeRegister 0 66).overrun = true ∧
      ((UartDevice.run {} (fun _ => none) loopOnce).writeRegister 0 66).receiveFifo.toList =
        [65] := by
  have queue : (UartDevice.run {} (fun _ => none) loopOnce).receiveFifo.toList = [65] := by
    decide +kernel
  obtain ⟨-, -, -, -, loopback, -⟩ := uart_stream_conserved {} (fun _ => none) loopOnce
  obtain ⟨same, overrun, -⟩ := (loopback 66 (by decide +kernel) (by decide +kernel)).1
    (by decide +kernel)
  exact ⟨queue, overrun, by rw [same, queue]⟩

end AxiTestbench
