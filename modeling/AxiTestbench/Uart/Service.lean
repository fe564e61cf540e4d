import AxiTestbench.Uart.Interrupts
import AxiTestbench.Uart.Stream
import Mathlib.Data.Nat.Nth

/-!
# Status registers and interrupt service

IIR, LSR and MSR never contradict each other, and a driver that acknowledges what IIR reports
comes to an end: every acknowledgement uses up a byte or a flag, and the bytes that the reads
fetch on the way are no longer left in the backend.
-/

namespace AxiTestbench

namespace UartDevice

/-! ## Status registers -/

/-- A transmission and its completion are not pending together; the delta bits are the low
half of MSR. -/
structure Exclusive (device : UartDevice) : Prop where
  thre : device.txPending = true → device.threPending = false
  delta : device.modemDelta &&& 0x0f = device.modemDelta

theorem Exclusive.frame {device next : UartDevice} (exclusive : device.Exclusive)
    (tx : next.txPending = device.txPending) (thre : next.threPending = device.threPending)
    (delta : next.modemDelta = device.modemDelta) : next.Exclusive :=
  ⟨tx ▸ thre ▸ exclusive.thre, delta ▸ exclusive.delta⟩

/-- The number of bytes that the backend hands out in its first `calls` calls. -/
def handedOut (host : Nat → Option UInt8) (calls : Nat) : Nat :=
  Nat.count (fun call => (host call).isSome = true) calls

/-- `poll_input` stores what it takes from the backend; it changes no flag and no control
register. -/
structure Polled (host : Nat → Option UInt8) (before after : UartDevice) : Prop where
  interruptEnable : after.interruptEnable = before.interruptEnable
  lineControl : after.lineControl = before.lineControl
  threPending : after.threPending = before.threPending
  txPending : after.txPending = before.txPending
  overrun : after.overrun = before.overrun
  modemDelta : after.modemDelta = before.modemDelta
  probes : before.probes ≤ after.probes
  stored : after.receiveFifo.size + handedOut host before.probes =
    before.receiveFifo.size + handedOut host after.probes

namespace Polled

variable {host : Nat → Option UInt8} {first second third : UartDevice}

theorem refl (device : UartDevice) : Polled host device device :=
  ⟨rfl, rfl, rfl, rfl, rfl, rfl, Nat.le_refl _, rfl⟩

theorem trans (earlier : Polled host first second) (later : Polled host second third) :
    Polled host first third where
  interruptEnable := later.interruptEnable.trans earlier.interruptEnable
  lineControl := later.lineControl.trans earlier.lineControl
  threPending := later.threPending.trans earlier.threPending
  txPending := later.txPending.trans earlier.txPending
  overrun := later.overrun.trans earlier.overrun
  modemDelta := later.modemDelta.trans earlier.modemDelta
  probes := earlier.probes.trans later.probes
  stored := by
    have := earlier.stored
    have := later.stored
    omega

/-- The FIFO does not shrink. -/
theorem size_le (polled : Polled host first second) :
    first.receiveFifo.size ≤ second.receiveFifo.size := by
  have grown : handedOut host first.probes ≤ handedOut host second.probes :=
    Nat.count_monotone _ polled.probes
  have := polled.stored
  omega

end Polled

theorem handedOut_succ_of_none {host : Nat → Option UInt8} {call : Nat} (none : host call = none) :
    handedOut host (call + 1) = handedOut host call := by
  simp [handedOut, Nat.count_succ, none]

theorem handedOut_succ_of_some {host : Nat → Option UInt8} {call : Nat} {value : UInt8}
    (some : host call = some value) : handedOut host (call + 1) = handedOut host call + 1 := by
  simp [handedOut, Nat.count_succ, some]

section Poll

variable (config : UartConfig) (host : Nat → Option UInt8)

theorem polled_pollLoop (fuel : Nat) (device : UartDevice) :
    Polled host device (pollLoop config host fuel device) := by
  induction fuel generalizing device with
  | zero => exact .refl device
  | succ fuel ih =>
      rw [pollLoop]
      split
      next room =>
        split
        next empty =>
          refine ⟨rfl, rfl, rfl, rfl, rfl, rfl, Nat.le_succ _, ?_⟩
          change _ = _ + handedOut host (device.probes + 1)
          rw [handedOut_succ_of_none empty]
        next value found =>
          rw [← RingBuffer.length_toList] at room
          have limit := device.capacity_le
          obtain ⟨fifo, pushed, -⟩ := device.receiveFifo.push_eq value (by omega)
          have size := RingBuffer.size_of_push pushed
          rw [pushed]
          refine Polled.trans ?_ (ih _)
          refine ⟨rfl, rfl, rfl, rfl, rfl, rfl, Nat.le_succ _, ?_⟩
          change fifo.size + _ = _ + handedOut host (device.probes + 1)
          rw [handedOut_succ_of_some found, size]
          omega
      next => exact .refl device

theorem polled_pollInput (device : UartDevice) :
    Polled host device (device.pollInput config host) := by
  rw [pollInput]
  split
  · exact .refl device
  · exact polled_pollLoop config host 16 device

end Poll

namespace Exclusive

variable {device : UartDevice}

theorem enableInterrupts (value : UInt8) (exclusive : device.Exclusive) :
    (device.enableInterrupts value).Exclusive := by
  refine ⟨fun tx => ?_, exclusive.delta⟩
  have sending : device.txPending = true := tx
  rw [UartDevice.enableInterrupts]
  simp [sending, exclusive.thre sending]

theorem transmit (value : UInt8) (exclusive : device.Exclusive) :
    (device.transmit value).Exclusive := by
  rw [UartDevice.transmit]
  simp only
  split
  · split
    · exact ⟨fun _ => rfl, exclusive.delta⟩
    · exact ⟨fun _ => rfl, exclusive.delta⟩
  · exact ⟨fun _ => rfl, exclusive.delta⟩

theorem controlFifo (value : UInt8) (exclusive : device.Exclusive) :
    (device.controlFifo value).Exclusive := by
  have receiver : (device.clearReceiver value).Exclusive := by
    rw [clearReceiver]
    split
    · exact exclusive.frame rfl rfl rfl
    · exact exclusive
  have transmitter : ((device.clearReceiver value).clearTransmitter value).Exclusive := by
    rw [clearTransmitter]
    split
    · exact ⟨fun sending => by simp at sending, receiver.delta⟩
    · exact receiver
  exact transmitter.frame rfl rfl rfl

theorem or_and_low (left right : UInt8) :
    (left ||| right) &&& 0x0f = (left &&& 0x0f) ||| (right &&& 0x0f) := by
  rw [← UInt8.toNat_inj]
  simp only [UInt8.toNat_and, UInt8.toNat_or, Nat.and_or_distrib_right]

theorem raisedDelta_low (previous status : UInt8) :
    raisedDelta previous status &&& 0x0f = raisedDelta previous status := by
  have mask : (0x0b : UInt8) &&& 0x0f = 0x0b := by decide
  rw [raisedDelta, or_and_low, UInt8.and_assoc, mask]
  congr 1
  split <;> decide

theorem setModemControl (value : UInt8) (exclusive : device.Exclusive) :
    (device.setModemControl value).Exclusive := by
  refine ⟨exclusive.thre, ?_⟩
  simp only [UartDevice.setModemControl, or_and_low, exclusive.delta, raisedDelta_low]

theorem writeRegister (index : Nat) (value : UInt8) (exclusive : device.Exclusive) :
    (device.writeRegister index value).Exclusive := by
  unfold UartDevice.writeRegister
  split
  · split
    · exact exclusive.frame rfl rfl rfl
    · exact exclusive.transmit value
  · split
    · exact exclusive.frame rfl rfl rfl
    · exact exclusive.enableInterrupts value
  · exact exclusive.controlFifo value
  · exact exclusive.frame rfl rfl rfl
  · exact exclusive.setModemControl value
  · exact exclusive.frame rfl rfl rfl
  · exact exclusive

theorem readRegister (config : UartConfig) (index : Nat) (exclusive : device.Exclusive) :
    (device.readRegister config index).1.Exclusive := by
  unfold UartDevice.readRegister
  split
  · split
    · exact exclusive
    · rw [readBuffer]
      split
      · exact exclusive
      · split
        · exact exclusive.frame rfl rfl rfl
        · exact exclusive
  · exact exclusive
  · simp only
    split
    · exact ⟨fun _ => rfl, exclusive.delta⟩
    · exact exclusive
  · exact exclusive
  · exact exclusive
  · exact exclusive.frame rfl rfl rfl
  · exact ⟨exclusive.thre, UInt8.zero_and⟩
  · exact exclusive
  · exact exclusive

theorem kept (config : UartConfig) (host : Nat → Option UInt8) :
    Kept config host Exclusive where
  reset _ _ := ⟨fun sending => by simp [UartDevice.reset] at sending, UInt8.zero_and⟩
  settle _ exclusive := exclusive.frame rfl rfl rfl
  countTick _ exclusive :=
    ⟨fun sending => by simp [UartDevice.countTick] at sending, exclusive.delta⟩
  pollInput device exclusive :=
    let polled := polled_pollInput config host device
    exclusive.frame polled.txPending polled.threPending polled.modemDelta
  readRegister _ index exclusive := exclusive.readRegister config index
  writeRegister _ index value exclusive := exclusive.writeRegister index value

end Exclusive

/-- The register values that a driver sees in a state, IIR with its cause in the low half. -/
structure Consistent (config : UartConfig) (device : UartDevice) : Prop where
  exclusive : ¬(device.txPending = true ∧ device.threPending = true)
  thre : (device.readRegister config 2).2 &&& 0x0f = 2 →
    (device.readRegister config 5).2 &&& lsrThrEmpty ≠ 0 ∧
      (device.readRegister config 5).2 &&& lsrTransmitterEmpty ≠ 0
  data : (device.readRegister config 2).2 &&& 0x0f = 4 ∨
      (device.readRegister config 2).2 &&& 0x0f = 0x0c →
    (device.readRegister config 5).2 &&& lsrDataReady ≠ 0
  line : (device.readRegister config 2).2 &&& 0x0f = 6 →
    (device.readRegister config 5).2 &&& 2 ≠ 0
  modem : (device.readRegister config 2).2 &&& 0x0f = 0 →
    (device.readRegister config 6).2 &&& 0x0f ≠ 0

theorem trigger_pos (device : UartDevice) : 0 < device.trigger := by
  rw [trigger, triggers]
  repeat' split
  all_goals decide

/-- The code of a cause and what it stands for. -/
inductive Reports (device : UartDevice) : UInt8 → Prop where
  | line (overrun : device.overrun = true) : Reports device 6
  | data (filled : 0 < device.receiveFifo.size) : Reports device 4
  | timeout (filled : 0 < device.receiveFifo.size) : Reports device 0x0c
  | thre (pending : device.threPending = true) : Reports device 2
  | modem (changed : device.modemDelta ≠ 0) : Reports device 0
  | nothing : Reports device 1

theorem Reports.settle (config : UartConfig) {device : UartDevice} {cause : UInt8}
    (reported : Reports device cause) : Reports (device.settle config) cause := by
  cases reported with
  | line overrun => exact .line overrun
  | data filled => exact .data filled
  | timeout filled => exact .timeout filled
  | thre pending => exact .thre pending
  | modem changed => exact .modem changed
  | nothing => exact .nothing

/-- The low half of IIR is the code of a cause that is present. -/
theorem reports (config : UartConfig) (device : UartDevice) :
    Reports device (device.interruptIdentification config &&& 0x0f) := by
  have low : ∀ code : UInt8, code &&& 0x0f = code →
      ((if bit device.fifoControl 1 then 0xc0 else 0) ||| code) &&& 0x0f = code := by
    intro code half
    have mode : (if bit device.fifoControl 1 then 0xc0 else 0 : UInt8) &&& 0x0f = 0 := by
      split <;> decide
    rw [Exclusive.or_and_low, mode, half, UInt8.zero_or]
  rw [interruptIdentification]
  split
  next cause =>
    rw [low _ (by decide)]
    exact .line cause.2
  next =>
    split
    next cause =>
      rw [low _ (by decide)]
      exact .data (Nat.lt_of_lt_of_le device.trigger_pos cause.2)
    next =>
      split
      next cause =>
        rw [low _ (by decide)]
        refine .timeout ?_
        have filled := (RingBuffer.empty_eq_false_iff _).mp cause.2.1
        rw [← RingBuffer.length_toList]
        exact List.length_pos_iff.mpr filled
      next =>
        split
        next cause =>
          rw [low _ (by decide)]
          exact .thre cause.2
        next =>
          split
          next cause =>
            rw [low _ (by decide)]
            exact .modem cause.2
          next =>
            rw [low _ (by decide)]
            exact .nothing

theorem readRegister_iir (config : UartConfig) (device : UartDevice) :
    (device.readRegister config 2).2 = device.interruptIdentification config := by
  simp only [readRegister]
  split <;> rfl

theorem empty_of_size {device : UartDevice} (filled : 0 < device.receiveFifo.size) :
    device.receiveFifo.empty = false := by
  simp [RingBuffer.empty, Nat.ne_of_gt filled]

theorem Exclusive.consistent (config : UartConfig) {device : UartDevice}
    (exclusive : device.Exclusive) : Consistent config device := by
  have reported := device.reports config
  refine ⟨fun both => ?_, ?_, ?_, ?_, ?_⟩
  · rw [exclusive.thre both.1] at both
    exact absurd both.2 (by decide)
  all_goals rw [readRegister_iir]
  · intro cause
    rw [cause] at reported
    cases reported with
    | thre pending =>
      have idle : device.txPending = false := by
        by_contra sending
        rw [exclusive.thre (by simpa using sending)] at pending
        exact absurd pending (by decide)
      simp only [UartDevice.readRegister, lineStatus, idle]
      cases device.overrun <;> cases device.receiveFifo.empty <;> decide
  · intro cause
    have filled : 0 < device.receiveFifo.size := by
      rcases cause with cause | cause <;> rw [cause] at reported <;> cases reported <;> assumption
    simp only [UartDevice.readRegister, lineStatus, empty_of_size filled]
    cases device.txPending <;> cases device.overrun <;> decide
  · intro cause
    rw [cause] at reported
    cases reported with
    | line overrun =>
      simp only [UartDevice.readRegister, lineStatus, overrun]
      cases device.txPending <;> cases device.receiveFifo.empty <;> decide
  · intro cause
    rw [cause] at reported
    cases reported with
    | modem changed =>
      change (device.modemStatus ||| device.modemDelta) &&& 0x0f ≠ 0
      rw [or_and_low, exclusive.delta]
      exact fun zero => changed (UInt8.or_eq_zero_iff.mp zero).2

/-! ## The service loop -/

section Driver

variable (config : UartConfig) (host : Nat → Option UInt8)

/-- A read of one register over the bus. -/
def readByte (device : UartDevice) (offset : Nat) : UartDevice × UInt8 :=
  let read := device.readImpl config host offset [1]
  (read.1, byteAt read.2.2 0)

/-- What the driver does about a cause.  The read of IIR has acknowledged THRE. -/
def acknowledge (device : UartDevice) (cause : UInt8) : UartDevice :=
  if cause = 6 then (device.readByte config host 5).1
  else if cause = 4 ∨ cause = 0x0c then (device.readByte config host 0).1
  else if cause = 0 then (device.readByte config host 6).1
  else device

/-- The interrupt handler of a driver; `none` if the fuel is used up. -/
def service : Nat → UartDevice → Option UartDevice
  | 0, _ => none
  | fuel + 1, device =>
      let (read, value) := device.readByte config host 2
      if value &&& 1 ≠ 0 then some read
      else service fuel (read.acknowledge config host (value &&& 0x0f))

theorem readByte_eq (device : UartDevice) {offset : Nat} (register : offset < 8) :
    device.readByte config host offset =
      (((device.pollInput config host).readRegister config offset).1.settle config,
        ((device.pollInput config host).readRegister config offset).2) := by
  have inside : inBounds offset 1 registerSpan = true := inBounds_iff.mpr register
  simp only [readByte, readImpl, List.length_singleton, inside, if_true]
  rfl

/-- The work that is left: bytes in the backend and in the FIFO, and flags.  The backend hands
out at most `total` bytes. -/
def work (total : Nat) (device : UartDevice) : Nat :=
  (total - handedOut host device.probes) + device.receiveFifo.size +
    device.overrun.toNat + device.threPending.toNat + (if device.modemDelta ≠ 0 then 1 else 0)

variable {host} {total : Nat} {device : UartDevice}

theorem work_settle : work host total (device.settle config) = work host total device := rfl

/-- Fetching bytes from the backend is not work. -/
theorem Polled.work_eq (bounded : ∀ calls, handedOut host calls ≤ total) {after : UartDevice}
    (polled : Polled host device after) : work host total after = work host total device := by
  have before := bounded device.probes
  have later := bounded after.probes
  have stored := polled.stored
  simp only [work, polled.overrun, polled.threPending, polled.modemDelta]
  omega

theorem work_readBuffer (filled : 0 < device.receiveFifo.size) :
    work host total device.readBuffer.1 + 1 = work host total device := by
  obtain ⟨value, rest, queue⟩ : ∃ value rest, device.receiveFifo.toList = value :: rest :=
    ⟨_, _, device.receiveFifo.toList_eq_cons filled⟩
  obtain ⟨fifo, popped, remaining⟩ := device.receiveFifo.pop_eq queue
  have size : fifo.size + 1 = device.receiveFifo.size := by
    rw [← RingBuffer.length_toList, ← RingBuffer.length_toList, remaining, queue]
    rfl
  rw [readBuffer, empty_of_size filled, device.receiveFifo.front_eq queue, popped]
  simp only [Bool.false_eq_true, if_false, work]
  omega

theorem work_lineStatus (overrun : device.overrun = true) :
    work host total (device.readRegister config 5).1 + 1 = work host total device := by
  simp only [readRegister, work, overrun, Bool.toNat_false, Bool.toNat_true]
  omega

theorem work_modemStatus (changed : device.modemDelta ≠ 0) :
    work host total (device.readRegister config 6).1 + 1 = work host total device := by
  simp [readRegister, work, changed]

theorem work_identification (thre : device.interruptIdentification config &&& 0x0f = 2)
    (waiting : device.threPending = true) :
    work host total (device.readRegister config 2).1 + 1 = work host total device := by
  simp only [readRegister, thre, if_true, work, waiting, Bool.toNat_true, Bool.toNat_false]
  omega

theorem acknowledge_thre : device.acknowledge config host 2 = device := rfl

theorem lineControl_readRegister (index : Nat) :
    (device.readRegister config index).1.lineControl = device.lineControl := by
  unfold readRegister
  split
  · split
    · rfl
    · rw [readBuffer]
      split
      · rfl
      · split <;> rfl
  · rfl
  · simp only
    split <;> rfl
  all_goals rfl

theorem lineControl_readByte {offset : Nat} (register : offset < 8) :
    (device.readByte config host offset).1.lineControl = device.lineControl := by
  rw [readByte_eq config host device register]
  exact (lineControl_readRegister config offset).trans
    (polled_pollInput config host device).lineControl

theorem lineControl_acknowledge (cause : UInt8) :
    (device.acknowledge config host cause).lineControl = device.lineControl := by
  rw [acknowledge]
  split
  · exact lineControl_readByte config (by decide)
  · split
    · exact lineControl_readByte config (by decide)
    · split
      · exact lineControl_readByte config (by decide)
      · rfl

/-- The reported cause is odd if and only if it is none. -/
theorem identification_odd (pending : device.interruptIdentification config &&& 1 = 0) :
    device.interruptIdentification config &&& 0x0f ≠ 1 := by
  intro one
  have low : device.interruptIdentification config &&& 1 = 1 := by
    rw [show (1 : UInt8) = 0x0f &&& 1 by decide, ← UInt8.and_assoc, one]
    decide
  rw [low] at pending
  exact absurd pending (by decide)

/-- A read of IIR that does not report THRE changes nothing. -/
theorem readRegister_iir_state
    (other : device.interruptIdentification config &&& 0x0f ≠ 2) :
    (device.readRegister config 2).1 = device := by
  simp only [readRegister, other, if_false]

/-- A read of IIR that reports no cause leaves the output low. -/
theorem irq_readByte (idle : ¬(device.readByte config host 2).2 &&& 1 = 0) :
    (device.readByte config host 2).1.irq = 0 := by
  rw [readByte_eq config host device (by decide)] at idle ⊢
  simp only [readRegister_iir] at idle ⊢
  have other : (device.pollInput config host).interruptIdentification config &&& 0x0f ≠ 2 := by
    intro two
    refine idle ?_
    rw [show (1 : UInt8) = 0x0f &&& 1 by decide, ← UInt8.and_assoc, two]
    decide
  rw [readRegister_iir_state config other, settle, if_neg idle]

variable (bounded : ∀ calls, handedOut host calls ≤ total)

include bounded

theorem work_readByte {offset : Nat} (register : offset < 8) {spent : Nat}
    (read : work host total ((device.pollInput config host).readRegister config offset).1 + spent =
      work host total (device.pollInput config host)) :
    work host total (device.readByte config host offset).1 + spent = work host total device := by
  rw [readByte_eq config host device register, work_settle, read,
    (polled_pollInput config host device).work_eq bounded]

/-- Acknowledging a cause does one unit of work. -/
theorem work_acknowledge (dlab : bit device.lineControl lcrDlab = false) {cause : UInt8}
    (reported : Reports device cause) (present : cause ≠ 1) (unread : cause ≠ 2) :
    work host total (device.acknowledge config host cause) + 1 = work host total device := by
  have polled := polled_pollInput config host device
  have buffer : 0 < device.receiveFifo.size →
      work host total (device.readByte config host 0).1 + 1 = work host total device := by
    intro filled
    refine work_readByte config bounded (by decide) ?_
    have dlab' : bit (device.pollInput config host).lineControl lcrDlab = false := by
      rw [polled.lineControl, dlab]
    simp only [readRegister, dlab', Bool.false_eq_true, if_false]
    exact work_readBuffer (Nat.lt_of_lt_of_le filled polled.size_le)
  cases reported with
  | line overrun =>
      exact work_readByte config bounded (by decide)
        (work_lineStatus config (polled.overrun.trans overrun))
  | data filled => exact buffer filled
  | timeout filled => exact buffer filled
  | thre => exact absurd rfl unread
  | modem changed =>
      exact work_readByte config bounded (by decide)
        (work_modemStatus config (by rw [polled.modemDelta]; exact changed))
  | nothing => exact absurd rfl present

/-- An iteration that does not stop does one unit of work. -/
theorem work_iteration (dlab : bit device.lineControl lcrDlab = false)
    (pending : (device.readByte config host 2).2 &&& 1 = 0) :
    work host total ((device.readByte config host 2).1.acknowledge config host
      ((device.readByte config host 2).2 &&& 0x0f)) + 1 = work host total device := by
  have polled := polled_pollInput config host device
  have sameWork := polled.work_eq bounded
  rw [readByte_eq config host device (by decide)] at pending ⊢
  simp only [readRegister_iir] at pending ⊢
  have reported := (device.pollInput config host).reports config
  have present := identification_odd config pending
  by_cases thre : (device.pollInput config host).interruptIdentification config &&& 0x0f = 2
  · rw [thre] at reported ⊢
    cases reported with
    | thre waiting =>
        rw [acknowledge_thre, work_settle, work_identification config thre waiting, sameWork]
  · rw [← sameWork]
    rw [readRegister_iir_state config thre, ← work_settle config]
    refine work_acknowledge config bounded ?_ ?_ present thre
    · change bit (device.pollInput config host).lineControl lcrDlab = false
      rw [polled.lineControl, dlab]
    · exact reported.settle config

theorem service_terminates (dlab : bit device.lineControl lcrDlab = false) (fuel : Nat)
    (enough : work host total device < fuel) :
    ∃ final, service config host fuel device = some final ∧ final.irq = 0 := by
  induction fuel generalizing device with
  | zero => exact absurd enough (Nat.not_lt_zero _)
  | succ fuel ih =>
      rw [service]
      by_cases pending : (device.readByte config host 2).2 &&& 1 = 0
      · simp only [pending, ne_eq, not_true_eq_false, if_false]
        have spent := work_iteration config bounded dlab pending
        refine ih ?_ (by omega)
        rw [lineControl_acknowledge, lineControl_readByte config (by decide), dlab]
      · simp only [ne_eq, pending, not_false_eq_true, if_true]
        exact ⟨_, rfl, irq_readByte config pending⟩

end Driver

end UartDevice

open UartDevice in
/-- In every reachable state the status registers agree about what IIR reports, also after the
poll that precedes every read, and a driver that services the interrupt until IIR reports no
cause comes to an end with the output low. -/
theorem uart_service_terminates (config : UartConfig) (host : Nat → Option UInt8)
    (operations : List Operation) :
    let device := UartDevice.run config host operations
    Consistent config device ∧ Consistent config (device.pollInput config host) ∧
      (bit device.lineControl lcrDlab = false →
        {call | device.probes ≤ call ∧ host call ≠ none}.Finite →
        ∃ bound, ∀ fuel ≥ bound, ∃ final,
          service config host fuel device = some final ∧ final.irq = 0) := by
  intro device
  have kept := Exclusive.kept config host
  have exclusive : device.Exclusive :=
    kept.run operations
      ⟨fun sending => by simp [fresh, UartDevice.reset] at sending, UInt8.zero_and⟩
  refine ⟨exclusive.consistent config, (kept.pollInput device exclusive).consistent config, ?_⟩
  intro dlab finite
  have all : {call | (host call).isSome = true}.Finite := by
    refine ((Set.finite_lt_nat device.probes).union finite).subset fun call some => ?_
    rcases Nat.lt_or_ge call device.probes with before | after
    · exact .inl before
    · exact .inr ⟨after, Option.isSome_iff_ne_none.mp some⟩
  have bounded : ∀ calls, handedOut host calls ≤ all.toFinset.card :=
    fun calls => Nat.count_le_card all calls
  exact ⟨work host all.toFinset.card device + 1,
    fun fuel enough => service_terminates config bounded dlab fuel enough⟩

/-- A backend with three bytes. -/
def threeBytes (call : Nat) : Option UInt8 := if call < 3 then some 0x41 else none

open UartDevice in
theorem uart_service_terminates_three_bytes :
    ∃ bound, ∀ fuel ≥ bound, ∃ final,
      service {} threeBytes fuel (UartDevice.run {} threeBytes [.write 1 [0x0f] [1], .tick]) =
        some final ∧ final.irq = 0 := by
  obtain ⟨-, -, terminates⟩ :=
    uart_service_terminates {} threeBytes [.write 1 [0x0f] [1], .tick]
  refine terminates (by decide) ((Set.finite_lt_nat 3).subset fun call left => ?_)
  by_contra beyond
  have ended : threeBytes call = none := if_neg beyond
  exact left.2 ended

end AxiTestbench
