import AxiTestbench.Uart.Device

/-!
# What an operation records

The events that each operation adds to the history, from the registers that it finds, the
bytes of the access and the answers of the backend.  The newest event comes first, as in the
history.
-/

namespace AxiTestbench

namespace UartDevice

/-- The bytes that the backend has ready from a call number on, at most `count`. -/
def ready (host : Nat → Option UInt8) (probes : Nat) : Nat → List UInt8
  | 0 => []
  | count + 1 =>
      match host probes with
      | none => []
      | some value => value :: ready host (probes + 1) count

/-- A poll of the backend stores what is ready, up to the capacity. -/
def pollEvents (host : Nat → Option UInt8) (device : UartDevice) : List UartEvent :=
  if bit device.modemControl 0x10 ∨ device.inputPollRemaining ≠ 0 then []
  else
    ((ready host device.probes
      (device.capacity - device.receiveFifo.toList.length)).map .received).reverse

/-- A read of RBR gives the first byte, IIR reports THRE if that is the cause, and LSR and MSR
are always noted. -/
def readEvents (config : UartConfig) (device : UartDevice) (index : Nat) : List UartEvent :=
  match index with
  | 0 =>
      if bit device.lineControl lcrDlab then []
      else (device.receiveFifo.toList.take 1).map .popped
  | 2 => if device.interruptIdentification config &&& 0x0f = 2 then [.threReported] else []
  | 5 => [.lineStatusRead]
  | 6 => [.modemStatusRead]
  | _ => []

/-- A byte written to THR comes back in loopback.  A write of IER counts where bit 1 rises, one
of FCR for what it clears, and one of MCR for the delta bits that it raises. -/
def writeEvents (device : UartDevice) (index : Nat) (value : UInt8) : List UartEvent :=
  match index with
  | 0 =>
      if bit device.lineControl lcrDlab then []
      else if bit device.modemControl 0x10 then
        if device.receiveFifo.toList.length < device.capacity then [.looped value, .transmitted]
        else [.overrun value, .transmitted]
      else [.transmitted]
  | 1 =>
      if bit device.lineControl lcrDlab then []
      else if bit value 2 ∧ bit device.interruptEnable 2 = false then [.threEnabled]
      else []
  | 2 =>
      (if bit value 4 then [.transmitterCleared] else []) ++
        if bit value 2 ∨ bit (value ^^^ device.fifoControl) 1 then [.cleared] else []
  | 4 =>
      if raisedDelta device.modemStatus (modemLines value) ≠ 0 then [.modemChanged] else []
  | _ => []

section Bus

variable (config : UartConfig) (host : Nat → Option UInt8) (offset : Nat)

/-- The device that a lane of a read finds. -/
def readAt (device : UartDevice) (enable : List UInt8) (lane : Nat) : UartDevice :=
  ((List.range lane).foldl (readLane config offset enable) (device.pollInput config host, [])).1

/-- The device that a lane of a write finds. -/
def writeAt (device : UartDevice) (data strobe : List UInt8) (lane : Nat) : UartDevice :=
  (List.range lane).foldl (writeLane offset data strobe) device

/-- The events of an operation. -/
def appended (device : UartDevice) : Operation → List UartEvent
  | .reset => [.reset]
  | .tick => (device.countTick config).pollEvents host ++ [.tick]
  | .settle => []
  | .read offset enable =>
      if enable ≠ [] ∧ inBounds offset enable.length registerSpan then
        ((List.range enable.length).reverse.flatMap fun lane =>
          if byteAt enable lane ≠ 0 then
            (device.readAt config host offset enable lane).readEvents config (offset + lane)
          else []) ++ device.pollEvents host
      else []
  | .write offset data strobe =>
      if data.length = strobe.length ∧ data ≠ [] ∧
          inBounds offset data.length registerSpan then
        (List.range data.length).reverse.flatMap fun lane =>
          if byteAt strobe lane ≠ 0 then
            (device.writeAt offset data strobe lane).writeEvents (offset + lane)
              (byteAt data lane)
          else []
      else []

end Bus

/-! ## Registers -/

/-- Reading RBR takes the first byte of the FIFO. -/
theorem readBuffer_cons {device : UartDevice} {byte : UInt8} {rest : List UInt8}
    (queue : device.receiveFifo.toList = byte :: rest) :
    device.readBuffer.2 = byte ∧ device.readBuffer.1.receiveFifo.toList = rest ∧
      device.readBuffer.1.history = .popped byte :: device.history := by
  have nonempty : ¬device.receiveFifo.empty = true := by
    rw [Bool.not_eq_true, RingBuffer.empty_eq_false_iff, queue]
    exact List.cons_ne_nil byte rest
  obtain ⟨popped, pop, fifo⟩ := device.receiveFifo.pop_eq queue
  rw [readBuffer, if_neg nonempty, device.receiveFifo.front_eq queue, pop]
  exact ⟨rfl, fifo, rfl⟩

/-- Reading RBR returns zero and changes nothing when the FIFO is empty. -/
theorem readBuffer_nil {device : UartDevice} (queue : device.receiveFifo.toList = []) :
    device.readBuffer = (device, 0) := by
  rw [readBuffer, if_pos ((RingBuffer.empty_iff _).mpr queue)]

theorem history_readBuffer (device : UartDevice) : device.readBuffer.1.history =
    (device.receiveFifo.toList.take 1).map .popped ++ device.history := by
  cases queue : device.receiveFifo.toList with
  | nil =>
      rw [readBuffer_nil queue]
      rfl
  | cons byte rest => exact (readBuffer_cons queue).2.2

/-- With DLAB clear, register 0 is RBR. -/
theorem readRegister_zero {device : UartDevice} (config : UartConfig)
    (noLatch : bit device.lineControl lcrDlab = false) :
    device.readRegister config 0 = device.readBuffer := by
  rw [readRegister, noLatch]
  rfl

theorem history_readRegister (config : UartConfig) (device : UartDevice) (index : Nat) :
    (device.readRegister config index).1.history =
      device.readEvents config index ++ device.history := by
  match index with
  | 0 =>
      rw [readRegister, readEvents]
      split
      · rfl
      · exact device.history_readBuffer
  | 2 =>
      simp only [readRegister, readEvents]
      split <;> rfl
  | 1 | 3 | 4 | 5 | 6 | 7 => rfl
  | _ + 8 => rfl

theorem history_transmit (device : UartDevice) (value : UInt8) :
    (device.transmit value).history =
      (if bit device.modemControl 0x10 then
        if device.receiveFifo.toList.length < device.capacity then [.looped value, .transmitted]
        else [.overrun value, .transmitted]
      else [.transmitted]) ++ device.history := by
  rw [transmit, RingBuffer.length_toList]
  simp only
  split
  · split
    next full =>
      rw [if_neg (Nat.not_lt.mpr full)]
      rfl
    next free =>
      rw [if_pos (Nat.not_le.mp free)]
      rfl
  · rfl

theorem history_enableInterrupts (device : UartDevice) (value : UInt8) :
    (device.enableInterrupts value).history =
      (if bit value 2 ∧ bit device.interruptEnable 2 = false then [.threEnabled] else []) ++
        device.history := by
  simp only [enableInterrupts, Bool.and_eq_true, Bool.not_eq_true']
  split <;> rfl

theorem history_controlFifo (device : UartDevice) (value : UInt8) :
    (device.controlFifo value).history =
      ((if bit value 4 then [.transmitterCleared] else []) ++
        if bit value 2 ∨ bit (value ^^^ device.fifoControl) 1 then [.cleared] else []) ++
          device.history := by
  simp only [controlFifo, clearTransmitter, clearReceiver]
  split
  · split <;> rfl
  · split <;> rfl

theorem history_writeRegister (device : UartDevice) (index : Nat) (value : UInt8) :
    (device.writeRegister index value).history =
      device.writeEvents index value ++ device.history := by
  match index with
  | 0 =>
      rw [writeRegister, writeEvents]
      split
      · rfl
      · exact device.history_transmit value
  | 1 =>
      rw [writeRegister, writeEvents]
      split
      · rfl
      · exact device.history_enableInterrupts value
  | 2 => exact device.history_controlFifo value
  | 4 =>
      simp only [writeRegister, setModemControl, writeEvents]
      split <;> rfl
  | 3 | 5 | 6 | 7 => rfl
  | _ + 8 => rfl

/-! ## Operations -/

/-- The loop of `poll_input` with fuel for the free places. -/
theorem history_pollLoop (config : UartConfig) (host : Nat → Option UInt8) (fuel : Nat)
    (device : UartDevice)
    (enough : device.capacity - device.receiveFifo.toList.length ≤ fuel) :
    (pollLoop config host fuel device).history =
      ((ready host device.probes
        (device.capacity - device.receiveFifo.toList.length)).map .received).reverse ++
          device.history := by
  induction fuel generalizing device with
  | zero =>
      rw [Nat.le_zero.mp enough]
      rfl
  | succ fuel ih =>
      rw [pollLoop, ← RingBuffer.length_toList]
      split
      next room =>
        have limit := device.capacity_le
        obtain ⟨free, places⟩ : ∃ free,
            device.capacity - device.receiveFifo.toList.length = free + 1 :=
          ⟨_, (Nat.succ_pred_eq_of_pos (Nat.sub_pos_of_lt room)).symm⟩
        rw [places, ready]
        cases answered : host device.probes with
        | none => rfl
        | some value =>
            obtain ⟨pushed, push, queue⟩ := device.receiveFifo.push_eq value (by omega)
            have left : device.capacity - pushed.toList.length = free := by
              rw [queue, List.length_append, List.length_singleton]
              omega
            have rest := ih
              { device with
                probes := device.probes + 1
                receiveFifo := pushed
                receiveIdleCycles := 0
                history := .received value :: device.history } (left.le.trans (by omega))
            have unfolded : (if bit device.fifoControl 1 then 16 else 1) - pushed.toList.length =
              free := left
            rw [capacity, unfolded] at rest
            simp only [push, rest, List.map_cons, List.reverse_cons, List.append_assoc,
              List.singleton_append]
      next full =>
        rw [Nat.sub_eq_zero_of_le (Nat.not_lt.mp full)]
        rfl

theorem history_pollInput (config : UartConfig) (host : Nat → Option UInt8)
    (device : UartDevice) : (device.pollInput config host).history =
      device.pollEvents host ++ device.history := by
  rw [pollInput, pollEvents]
  split
  · rfl
  · have enough : device.capacity - device.receiveFifo.toList.length ≤ 16 :=
      (Nat.sub_le _ _).trans device.capacity_le
    exact history_pollLoop config host 16 device enough

section Lanes

variable (config : UartConfig) (host : Nat → Option UInt8) (device : UartDevice) (offset : Nat)

/-- The lanes of a read. -/
theorem history_readLanes (enable : List UInt8) (count : Nat) :
    ((List.range count).foldl (readLane config offset enable)
        (device.pollInput config host, [])).1.history =
      ((List.range count).reverse.flatMap fun lane =>
        if byteAt enable lane ≠ 0 then
          (device.readAt config host offset enable lane).readEvents config (offset + lane)
        else []) ++ (device.pollInput config host).history := by
  induction count with
  | zero => rfl
  | succ count ih =>
      simp only [List.range_succ, List.foldl_append, List.foldl_cons, List.foldl_nil,
        List.reverse_append, List.reverse_cons, List.reverse_nil, List.nil_append,
        List.flatMap_append, List.flatMap_cons, List.flatMap_nil, List.append_nil]
      rw [readLane]
      split
      · rw [history_readRegister, ih, readAt, List.append_assoc]
      · exact ih

/-- The lanes of a write. -/
theorem history_writeLanes (data strobe : List UInt8) (count : Nat) :
    ((List.range count).foldl (writeLane offset data strobe) device).history =
      ((List.range count).reverse.flatMap fun lane =>
        if byteAt strobe lane ≠ 0 then
          (device.writeAt offset data strobe lane).writeEvents (offset + lane)
            (byteAt data lane)
        else []) ++ device.history := by
  induction count with
  | zero => rfl
  | succ count ih =>
      simp only [List.range_succ, List.foldl_append, List.foldl_cons, List.foldl_nil,
        List.reverse_append, List.reverse_cons, List.reverse_nil, List.nil_append,
        List.flatMap_append, List.flatMap_cons, List.flatMap_nil, List.append_nil]
      rw [writeLane]
      split
      · rw [history_writeRegister, ih, writeAt, List.append_assoc]
      · exact ih

end Lanes

/-- The history after an operation. -/
theorem history_apply (config : UartConfig) (host : Nat → Option UInt8) (device : UartDevice)
    (operation : Operation) : (device.apply config host operation).history =
      device.appended config host operation ++ device.history := by
  cases operation with
  | reset => rfl
  | tick =>
      rw [appended, List.append_assoc]
      exact history_pollInput config host (device.countTick config)
  | settle => rfl
  | read offset enable =>
      rw [apply, appended]
      by_cases none : enable = []
      · rw [if_pos none, if_neg (fun accepted => accepted.1 none)]
        rfl
      · rw [if_neg none, readImpl]
        split
        next inside =>
          rw [if_pos ⟨none, inside⟩, List.append_assoc, ← history_pollInput config]
          exact history_readLanes config host device offset enable _
        next outside =>
          rw [if_neg (fun accepted => outside accepted.2)]
          rfl
  | write offset data strobe =>
      rw [apply, appended]
      by_cases refused : data.length ≠ strobe.length ∨ data = []
      · rw [if_pos refused, if_neg (fun accepted =>
          refused.elim (· accepted.1) accepted.2.1)]
        rfl
      · rw [if_neg refused, writeImpl]
        rw [not_or, not_not] at refused
        split
        next inside =>
          rw [if_pos ⟨refused.1, refused.2, inside⟩]
          exact history_writeLanes device offset data strobe _
        next outside =>
          rw [if_neg (fun accepted => outside accepted.2.2)]
          rfl

/-- The history of a run that is one operation longer. -/
theorem history_run_append (config : UartConfig) (host : Nat → Option UInt8)
    (operations : List Operation) (operation : Operation) :
    (run config host (operations ++ [operation])).history =
      (run config host operations).appended config host operation ++
        (run config host operations).history := by
  rw [run, List.foldl_append]
  exact history_apply config host _ operation

end UartDevice

end AxiTestbench
