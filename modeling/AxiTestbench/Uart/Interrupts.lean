import AxiTestbench.Lib.History
import AxiTestbench.Uart.Events

/-!
# The interrupt output

The level of `irq` in terms of what has happened to the device: the flags and the idle
counter of the code stand for questions about the history.
-/

namespace AxiTestbench

open Lib

namespace UartEvent

/-- The receiver stores, gives, drops or loses bytes. -/
def receiver : UartEvent → Bool
  | .reset => true
  | .received _ => true
  | .looped _ => true
  | .overrun _ => true
  | .popped _ => true
  | .cleared => true
  | _ => false

/-- An overrun has happened since the last read of LSR or reset. -/
def Overrun (history : List UartEvent) : Prop :=
  Since (fun event _ => ∃ byte, event = .overrun byte)
    (fun event => event = .lineStatusRead ∨ event = .reset) history

/-- A byte written to THR has not been completed or discarded. -/
def Transmitting (history : List UartEvent) : Prop :=
  Since (fun event _ => event = .transmitted)
    (fun event => event = .tick ∨ event = .transmitterCleared ∨ event = .reset) history

/-- The transmitter becomes empty, or its interrupt is enabled while it is. -/
def RaisesThre (event : UartEvent) (older : List UartEvent) : Prop :=
  event = .reset ∨ event = .tick ∧ Transmitting older ∨ event = .transmitterCleared ∨
    event = .threEnabled ∧ ¬Transmitting older

/-- The last event that raises THRE is newer than the last write of THR and the last read of
IIR that reported it. -/
def ThreRaised (history : List UartEvent) : Prop :=
  Since RaisesThre (fun event => event = .transmitted ∨ event = .threReported) history

/-- A modem delta has been raised since the last read of MSR or reset. -/
def ModemChanged (history : List UartEvent) : Prop :=
  Since (fun event _ => event = .modemChanged)
    (fun event => event = .modemStatusRead ∨ event = .reset) history

/-- The number of ticks since the last receiver event. -/
def idleTicks (history : List UartEvent) : Nat := (recent receiver history).count .tick

variable (event : UartEvent) (history : List UartEvent)

theorem overrun_cons : Overrun (event :: history) ↔
    (∃ byte, event = .overrun byte) ∨
      ¬(event = .lineStatusRead ∨ event = .reset) ∧ Overrun history := since_cons

theorem transmitting_cons : Transmitting (event :: history) ↔
    event = .transmitted ∨
      ¬(event = .tick ∨ event = .transmitterCleared ∨ event = .reset) ∧
        Transmitting history := since_cons

theorem threRaised_cons : ThreRaised (event :: history) ↔
    RaisesThre event history ∨
      ¬(event = .transmitted ∨ event = .threReported) ∧ ThreRaised history := since_cons

theorem modemChanged_cons : ModemChanged (event :: history) ↔
    event = .modemChanged ∨
      ¬(event = .modemStatusRead ∨ event = .reset) ∧ ModemChanged history := since_cons

theorem idleTicks_cons : idleTicks (event :: history) =
    if event.receiver then 0 else idleTicks history + if event = .tick then 1 else 0 := by
  rw [idleTicks, recent_cons]
  split
  · rfl
  · rw [List.count_append, List.count_singleton, idleTicks]
    simp

end UartEvent

namespace UartDevice

open UartEvent

/-- The causes of the interrupt. -/
def Interrupting (config : UartConfig) (device : UartDevice) : Prop :=
  bit device.interruptEnable 4 = true ∧ Overrun device.history ∨
  bit device.interruptEnable 1 = true ∧ device.trigger ≤ device.receiveFifo.toList.length ∨
  bit device.interruptEnable 1 = true ∧ bit device.fifoControl 1 = true ∧
    device.receiveFifo.toList ≠ [] ∧
      4 * config.characterCycles.toNat ≤ idleTicks device.history ∨
  bit device.interruptEnable 2 = true ∧ ThreRaised device.history ∨
  bit device.interruptEnable 8 = true ∧ ModemChanged device.history

/-- The flags and the idle counter agree with the history. -/
structure Tracks (config : UartConfig) (device : UartDevice) : Prop where
  overrun : device.overrun = true ↔ Overrun device.history
  transmitting : device.txPending = true ↔ Transmitting device.history
  thre : device.threPending = true ↔ ThreRaised device.history
  modem : device.modemDelta ≠ 0 ↔ ModemChanged device.history
  idle_le : device.receiveIdleCycles.toNat ≤ 4 * config.characterCycles.toNat
  idle : device.receiveFifo.toList ≠ [] → device.receiveIdleCycles.toNat =
    min (idleTicks device.history) (4 * config.characterCycles.toNat)

end UartDevice

/-- The timeout of four characters fits the counter. -/
theorem UartConfig.timeout_lt (config : UartConfig) :
    4 * config.characterCycles.toNat < 2 ^ 64 := by
  have bounded := UInt64.le_iff_toNat_le.mp config.characterCycles_le
  have limit : (0xffffffffffffffff / 4 : UInt64).toNat = (2 ^ 64 - 1) / 4 := by decide
  omega

theorem UartConfig.toNat_timeout (config : UartConfig) :
    (4 * config.characterCycles).toNat = 4 * config.characterCycles.toNat := by
  have fits := config.timeout_lt
  rw [UInt64.toNat_mul]
  exact Nat.mod_eq_of_lt fits

namespace UartDevice

open UartEvent

namespace Tracks

variable {config : UartConfig} {device next : UartDevice}

/-- A step that records nothing and leaves the flags alone. -/
theorem frame (tracks : Tracks config device)
    (overrun : next.overrun = device.overrun) (tx : next.txPending = device.txPending)
    (thre : next.threPending = device.threPending) (modem : next.modemDelta = device.modemDelta)
    (idle : next.receiveIdleCycles = device.receiveIdleCycles)
    (fifo : next.receiveFifo = device.receiveFifo) (history : next.history = device.history) :
    Tracks config next := by
  obtain ⟨h1, h2, h3, h4, h5, h6⟩ := tracks
  exact ⟨overrun ▸ history ▸ h1, tx ▸ history ▸ h2, thre ▸ history ▸ h3, modem ▸ history ▸ h4,
    idle ▸ h5, idle ▸ fifo ▸ history ▸ h6⟩

theorem reset : Tracks config device.reset where
  overrun := by simp [UartDevice.reset, overrun_cons]
  transmitting := by simp [UartDevice.reset, transmitting_cons]
  thre := by simp [UartDevice.reset, threRaised_cons, RaisesThre]
  modem := by simp [UartDevice.reset, modemChanged_cons]
  idle_le := Nat.zero_le _
  idle := fun nonempty => absurd rfl nonempty

theorem toNat_idle (device : UartDevice) :
    (device.countTick config).receiveIdleCycles.toNat =
      if device.receiveFifo.toList ≠ [] ∧
          device.receiveIdleCycles.toNat < 4 * config.characterCycles.toNat then
        device.receiveIdleCycles.toNat + 1
      else device.receiveIdleCycles.toNat := by
  have fits := config.timeout_lt
  rw [UartDevice.countTick, ← config.toNat_timeout]
  simp only [RingBuffer.empty_eq_false_iff, UInt64.lt_iff_toNat_lt]
  split
  next counts =>
    rw [config.toNat_timeout] at counts
    rw [UInt64.toNat_add]
    exact Nat.mod_eq_of_lt (by simp only [UInt64.toNat_one]; omega)
  next => rfl

theorem countTick (tracks : Tracks config device) : Tracks config (device.countTick config) where
  overrun := by simp [UartDevice.countTick, overrun_cons, tracks.overrun]
  transmitting := by simp [UartDevice.countTick, transmitting_cons]
  thre := by
    simp only [UartDevice.countTick, threRaised_cons, RaisesThre, ← tracks.transmitting,
      ← tracks.thre]
    cases device.txPending <;> simp
  modem := by simp [UartDevice.countTick, modemChanged_cons, tracks.modem]
  idle_le := by
    have bounded := tracks.idle_le
    rw [toNat_idle]
    split <;> omega
  idle := by
    intro nonempty
    have before := tracks.idle nonempty
    have ticks : idleTicks (device.countTick config).history = idleTicks device.history + 1 :=
      idleTicks_cons .tick device.history
    have filled : device.receiveFifo.toList ≠ [] := nonempty
    rw [toNat_idle, ticks]
    simp only [ne_eq, filled, not_false_eq_true, true_and]
    split <;> omega

/-- A receiver event restarts the idle count. -/
theorem idle_of_receiver {event : UartEvent} (receives : event.receiver = true)
    (idle : next.receiveIdleCycles = 0) (history : next.history = event :: device.history) :
    next.receiveIdleCycles.toNat =
      min (idleTicks next.history) (4 * config.characterCycles.toNat) := by
  rw [history, idle, idleTicks_cons, if_pos receives, Nat.zero_min]
  rfl

/-- The receiver stores, gives or discards bytes. -/
theorem receive (tracks : Tracks config device) {event : UartEvent}
    (kind : (∃ byte, event = .received byte) ∨ (∃ byte, event = .looped byte) ∨
      (∃ byte, event = .popped byte) ∨ event = .cleared)
    (overrun : next.overrun = device.overrun) (tx : next.txPending = device.txPending)
    (thre : next.threPending = device.threPending) (modem : next.modemDelta = device.modemDelta)
    (idle : next.receiveIdleCycles = 0) (history : next.history = event :: device.history) :
    Tracks config next where
  overrun := by
    rw [history, overrun, overrun_cons, tracks.overrun]
    rcases kind with ⟨byte, rfl⟩ | ⟨byte, rfl⟩ | ⟨byte, rfl⟩ | rfl <;> simp
  transmitting := by
    rw [history, tx, transmitting_cons, tracks.transmitting]
    rcases kind with ⟨byte, rfl⟩ | ⟨byte, rfl⟩ | ⟨byte, rfl⟩ | rfl <;> simp
  thre := by
    rw [history, thre, threRaised_cons, tracks.thre]
    rcases kind with ⟨byte, rfl⟩ | ⟨byte, rfl⟩ | ⟨byte, rfl⟩ | rfl <;> simp [RaisesThre]
  modem := by
    rw [history, modem, modemChanged_cons, tracks.modem]
    rcases kind with ⟨byte, rfl⟩ | ⟨byte, rfl⟩ | ⟨byte, rfl⟩ | rfl <;> simp
  idle_le := idle ▸ Nat.zero_le _
  idle := by
    have receives : event.receiver = true := by
      rcases kind with ⟨byte, rfl⟩ | ⟨byte, rfl⟩ | ⟨byte, rfl⟩ | rfl <;> rfl
    exact fun _ => idle_of_receiver receives idle history

theorem pollLoop (host : Nat → Option UInt8) (fuel : Nat) (tracks : Tracks config device) :
    Tracks config (pollLoop config host fuel device) := by
  induction fuel generalizing device with
  | zero => exact tracks
  | succ fuel ih =>
      rw [UartDevice.pollLoop]
      split
      · split
        · exact tracks.frame rfl rfl rfl rfl rfl rfl rfl
        next value _ =>
          split
          · exact tracks.frame rfl rfl rfl rfl rfl rfl rfl
          · exact ih (tracks.receive (.inl ⟨value, rfl⟩) rfl rfl rfl rfl rfl rfl)
      · exact tracks

theorem pollInput (host : Nat → Option UInt8) (tracks : Tracks config device) :
    Tracks config (device.pollInput config host) := by
  rw [UartDevice.pollInput]
  split
  · exact tracks
  · exact tracks.pollLoop host 16

theorem readBuffer (tracks : Tracks config device) : Tracks config device.readBuffer.1 := by
  rw [UartDevice.readBuffer]
  split
  · exact tracks
  · split
    next value _ _ _ =>
      exact tracks.receive (.inr (.inr (.inl ⟨value, rfl⟩))) rfl rfl rfl rfl rfl rfl
    · exact tracks

/-- An event that is not about the receiver and is no tick keeps the idle count. -/
theorem idle_of_quiet (tracks : Tracks config device) {event : UartEvent}
    (quiet : event.receiver = false) (noTick : event ≠ .tick)
    (idle : next.receiveIdleCycles = device.receiveIdleCycles)
    (fifo : next.receiveFifo = device.receiveFifo)
    (history : next.history = event :: device.history) :
    next.receiveFifo.toList ≠ [] → next.receiveIdleCycles.toNat =
      min (idleTicks next.history) (4 * config.characterCycles.toNat) := by
  intro nonempty
  rw [history, idle, idleTicks_cons, quiet, if_neg noTick]
  exact tracks.idle (fifo ▸ nonempty)

/-- A read of IIR that reports THRE. -/
theorem reportThre (tracks : Tracks config device) :
    Tracks config
      { device with threPending := false, history := .threReported :: device.history } where
  overrun := by simp [overrun_cons, tracks.overrun]
  transmitting := by simp [transmitting_cons, tracks.transmitting]
  thre := by simp [threRaised_cons, RaisesThre]
  modem := by simp [modemChanged_cons, tracks.modem]
  idle_le := tracks.idle_le
  idle := tracks.idle_of_quiet rfl (by decide) rfl rfl rfl

theorem readLineStatus (tracks : Tracks config device) :
    Tracks config
      { device with overrun := false, history := .lineStatusRead :: device.history } where
  overrun := by simp [overrun_cons]
  transmitting := by simp [transmitting_cons, tracks.transmitting]
  thre := by simp [threRaised_cons, RaisesThre, tracks.thre]
  modem := by simp [modemChanged_cons, tracks.modem]
  idle_le := tracks.idle_le
  idle := tracks.idle_of_quiet rfl (by decide) rfl rfl rfl

theorem readModemStatus (tracks : Tracks config device) :
    Tracks config
      { device with modemDelta := 0, history := .modemStatusRead :: device.history } where
  overrun := by simp [overrun_cons, tracks.overrun]
  transmitting := by simp [transmitting_cons, tracks.transmitting]
  thre := by simp [threRaised_cons, RaisesThre, tracks.thre]
  modem := by simp [modemChanged_cons]
  idle_le := tracks.idle_le
  idle := tracks.idle_of_quiet rfl (by decide) rfl rfl rfl

theorem readRegister (index : Nat) (tracks : Tracks config device) :
    Tracks config (device.readRegister config index).1 := by
  unfold UartDevice.readRegister
  split
  next =>
    split
    · exact tracks
    · exact tracks.readBuffer
  next => exact tracks
  next =>
    simp only
    split
    · exact tracks.reportThre
    · exact tracks
  next => exact tracks
  next => exact tracks
  next => exact tracks.readLineStatus
  next => exact tracks.readModemStatus
  next => exact tracks
  next => exact tracks

/-- THR is written. -/
theorem send (tracks : Tracks config device) :
    Tracks config
      { device with
        threPending := false
        txPending := true
        history := .transmitted :: device.history } where
  overrun := by simp [overrun_cons, tracks.overrun]
  transmitting := by simp [transmitting_cons]
  thre := by simp [threRaised_cons, RaisesThre]
  modem := by simp [modemChanged_cons, tracks.modem]
  idle_le := tracks.idle_le
  idle := tracks.idle_of_quiet rfl (by decide) rfl rfl rfl

theorem drop (byte : UInt8) (tracks : Tracks config device) :
    Tracks config
      { device with
        overrun := true
        receiveIdleCycles := 0
        history := .overrun byte :: device.history } where
  overrun := by simp [overrun_cons]
  transmitting := by simp [transmitting_cons, tracks.transmitting]
  thre := by simp [threRaised_cons, RaisesThre, tracks.thre]
  modem := by simp [modemChanged_cons, tracks.modem]
  idle_le := Nat.zero_le _
  idle _ := idle_of_receiver rfl rfl rfl

theorem transmit (value : UInt8) (tracks : Tracks config device) :
    Tracks config (device.transmit value) := by
  rw [UartDevice.transmit]
  simp only
  split
  · split
    · exact tracks.send.drop value
    · exact tracks.send.receive (.inr (.inl ⟨value, rfl⟩)) rfl rfl rfl rfl rfl rfl
  · exact tracks.send.frame rfl rfl rfl rfl rfl rfl rfl

theorem enableInterrupts (value : UInt8) (tracks : Tracks config device) :
    Tracks config (device.enableInterrupts value) := by
  rw [UartDevice.enableInterrupts]
  cases rising : bit value 2 && !bit device.interruptEnable 2 with
  | false => exact tracks.frame rfl rfl (by simp) rfl rfl rfl rfl
  | true =>
      exact
        { overrun := by simp [overrun_cons, tracks.overrun]
          transmitting := by simp [transmitting_cons, tracks.transmitting]
          thre := by
            simp only [if_true, threRaised_cons, RaisesThre, ← tracks.transmitting, ← tracks.thre]
            cases device.txPending <;> simp
          modem := by simp [modemChanged_cons, tracks.modem]
          idle_le := tracks.idle_le
          idle := tracks.idle_of_quiet rfl (by decide) rfl rfl rfl }

theorem controlFifo (value : UInt8) (tracks : Tracks config device) :
    Tracks config (device.controlFifo value) := by
  have receiver : Tracks config (device.clearReceiver value) := by
    rw [clearReceiver]
    split
    · exact tracks.receive (.inr (.inr (.inr rfl))) rfl rfl rfl rfl rfl rfl
    · exact tracks
  have transmitter : Tracks config ((device.clearReceiver value).clearTransmitter value) := by
    rw [clearTransmitter]
    split
    · exact
        { overrun := by simp [overrun_cons, receiver.overrun]
          transmitting := by simp [transmitting_cons]
          thre := by simp [threRaised_cons, RaisesThre]
          modem := by simp [modemChanged_cons, receiver.modem]
          idle_le := receiver.idle_le
          idle := receiver.idle_of_quiet rfl (by decide) rfl rfl rfl }
    · exact receiver
  exact transmitter.frame rfl rfl rfl rfl rfl rfl rfl

theorem setModemControl (value : UInt8) (tracks : Tracks config device) :
    Tracks config (device.setModemControl value) := by
  rw [UartDevice.setModemControl]
  generalize raisedDelta device.modemStatus (modemLines value) = raised
  by_cases quiet : raised = 0
  · subst quiet
    exact tracks.frame rfl rfl rfl (UInt8.or_zero) rfl rfl rfl
  · exact
      { overrun := by simp [quiet, overrun_cons, tracks.overrun]
        transmitting := by simp [quiet, transmitting_cons, tracks.transmitting]
        thre := by simp [quiet, threRaised_cons, RaisesThre, tracks.thre]
        modem := by simp [quiet, modemChanged_cons]
        idle_le := tracks.idle_le
        idle := tracks.idle_of_quiet rfl (by decide) rfl rfl (if_pos quiet) }

theorem writeRegister (index : Nat) (value : UInt8) (tracks : Tracks config device) :
    Tracks config (device.writeRegister index value) := by
  unfold UartDevice.writeRegister
  split
  next =>
    split
    · exact tracks.frame rfl rfl rfl rfl rfl rfl rfl
    · exact tracks.transmit value
  next =>
    split
    · exact tracks.frame rfl rfl rfl rfl rfl rfl rfl
    · exact tracks.enableInterrupts value
  next => exact tracks.controlFifo value
  next => exact tracks.frame rfl rfl rfl rfl rfl rfl rfl
  next => exact tracks.setModemControl value
  next => exact tracks.frame rfl rfl rfl rfl rfl rfl rfl
  next => exact tracks

theorem kept (config : UartConfig) (host : Nat → Option UInt8) :
    Kept config host (Tracks config) where
  reset _ _ := .reset
  settle _ tracks := tracks.frame rfl rfl rfl rfl rfl rfl rfl
  countTick _ tracks := tracks.countTick
  pollInput _ tracks := tracks.pollInput host
  readRegister _ index tracks := tracks.readRegister index
  writeRegister _ index value tracks := tracks.writeRegister index value

end Tracks

/-- The code that IIR reports is even if and only if there is a cause. -/
theorem interruptIdentification_even_iff (config : UartConfig) (device : UartDevice) :
    device.interruptIdentification config &&& 1 = 0 ↔
      (bit device.interruptEnable 4 = true ∧ device.overrun = true) ∨
      (bit device.interruptEnable 1 = true ∧ device.receiveFifo.size ≥ device.trigger) ∨
      (bit device.interruptEnable 1 = true ∧ device.receiveFifo.empty = false ∧
        bit device.fifoControl 1 = true ∧
          device.receiveIdleCycles ≥ 4 * config.characterCycles) ∨
      (bit device.interruptEnable 2 = true ∧ device.threPending = true) ∨
      (bit device.interruptEnable 8 = true ∧ device.modemDelta ≠ 0) := by
  have codes : ∀ fifoBits : UInt8, fifoBits = 0xc0 ∨ fifoBits = 0 →
      (fifoBits ||| 0x06) &&& 1 = 0 ∧ (fifoBits ||| 0x04) &&& 1 = 0 ∧
        (fifoBits ||| 0x0c) &&& 1 = 0 ∧ (fifoBits ||| 0x02) &&& 1 = 0 ∧
        (fifoBits ||| 0x00) &&& 1 = 0 ∧ (fifoBits ||| 0x01) &&& 1 ≠ 0 := by
    rintro fifoBits (rfl | rfl) <;> decide
  have mode : (if bit device.fifoControl 1 then 0xc0 else 0 : UInt8) = 0xc0 ∨
      (if bit device.fifoControl 1 then 0xc0 else 0 : UInt8) = 0 := by
    split
    · exact .inl rfl
    · exact .inr rfl
  obtain ⟨overrun, data, timeout, thre, modem, none⟩ := codes _ mode
  rw [interruptIdentification]
  split
  next cause => exact iff_of_true overrun (.inl cause)
  next noOverrun =>
    split
    next cause => exact iff_of_true data (.inr (.inl cause))
    next noData =>
      split
      next cause => exact iff_of_true timeout (.inr (.inr (.inl cause)))
      next noTimeout =>
        split
        next cause => exact iff_of_true thre (.inr (.inr (.inr (.inl cause))))
        next noThre =>
          split
          next cause => exact iff_of_true modem (.inr (.inr (.inr (.inr cause))))
          next noModem =>
            refine iff_of_false none ?_
            rintro (cause | cause | cause | cause | cause)
            · exact noOverrun cause
            · exact noData cause
            · exact noTimeout cause
            · exact noThre cause
            · exact noModem cause

/-- The flags stand for the history. -/
theorem Tracks.identification_iff {config : UartConfig} {device : UartDevice}
    (tracks : Tracks config device) :
    device.interruptIdentification config &&& 1 = 0 ↔ device.Interrupting config := by
  have timeout : (device.receiveFifo.empty = false ∧ bit device.fifoControl 1 = true ∧
        device.receiveIdleCycles ≥ 4 * config.characterCycles) ↔
      (bit device.fifoControl 1 = true ∧ device.receiveFifo.toList ≠ [] ∧
        4 * config.characterCycles.toNat ≤ idleTicks device.history) := by
    rw [RingBuffer.empty_eq_false_iff, ge_iff_le, UInt64.le_iff_toNat_le, config.toNat_timeout]
    constructor
    · rintro ⟨nonempty, mode, elapsed⟩
      rw [tracks.idle nonempty] at elapsed
      exact ⟨mode, nonempty, by omega⟩
    · rintro ⟨mode, nonempty, elapsed⟩
      rw [tracks.idle nonempty]
      exact ⟨nonempty, mode, by omega⟩
  rw [interruptIdentification_even_iff, Interrupting, tracks.overrun, tracks.thre, tracks.modem,
    RingBuffer.length_toList, timeout]

/-- The output is the level that `settle()` computes. -/
def Settled (config : UartConfig) (device : UartDevice) : Prop :=
  device.irq = if device.interruptIdentification config &&& 1 = 0 then 1 else 0

theorem settled_settle (config : UartConfig) (device : UartDevice) :
    (device.settle config).Settled config := rfl

theorem settled_reset (config : UartConfig) (device : UartDevice) :
    device.reset.Settled config := by
  have idle : ¬device.reset.interruptIdentification config &&& 1 = 0 := by
    rw [interruptIdentification_even_iff]
    simp [reset, bit]
  rw [Settled, if_neg idle]
  rfl

theorem Settled.apply {config : UartConfig} {device : UartDevice} (host : Nat → Option UInt8)
    (operation : Operation) (settled : device.Settled config) :
    (device.apply config host operation).Settled config := by
  cases operation with
  | reset => exact settled_reset config device
  | tick => exact settled_settle config _
  | settle => exact settled_settle config _
  | read offset enable =>
      rw [UartDevice.apply]
      split
      · exact settled
      · rw [readImpl]
        split
        · exact settled_settle config _
        · exact settled
  | write offset data strobe =>
      rw [UartDevice.apply]
      split
      · exact settled
      · rw [writeImpl]
        split
        · exact settled_settle config _
        · exact settled

theorem settled_run (config : UartConfig) (host : Nat → Option UInt8)
    (operations : List Operation) : (run config host operations).Settled config := by
  have start : fresh.Settled config := settled_reset config _
  rw [run]
  generalize fresh = device at start
  induction operations generalizing device with
  | nil => exact start
  | cons operation operations ih => exact ih _ (start.apply host operation)

end UartDevice

open UartDevice in
/-- The interrupt output after every operation: it is high if and only if the history and the
registers give one of the five causes.  The idle counter stays within the timeout of four
characters, which does not overflow.  The next operation adds to the history what its register
accesses and the answers of the backend stand for. -/
theorem uart_irq_matches_history (config : UartConfig) (host : Nat → Option UInt8)
    (operations : List Operation) :
    let device := UartDevice.run config host operations
    (device.irq = 1 ↔ device.Interrupting config) ∧ (device.irq = 0 ∨ device.irq = 1) ∧
      device.receiveIdleCycles.toNat ≤ 4 * config.characterCycles.toNat ∧
      4 * config.characterCycles.toNat < 2 ^ 64 ∧
      ∀ operation, (UartDevice.run config host (operations ++ [operation])).history =
        device.appended config host operation ++ device.history := by
  intro device
  have tracks : Tracks config device := (Tracks.kept config host).run operations .reset
  have settled : device.irq = _ := settled_run config host operations
  refine ⟨?_, ?_, tracks.idle_le, config.timeout_lt, history_run_append config host operations⟩
  · rw [← tracks.identification_iff, settled]
    split
    next even => exact iff_of_true rfl even
    next odd => exact iff_of_false (by decide) odd
  · rw [settled]
    split
    · exact .inr rfl
    · exact .inl rfl

end AxiTestbench
