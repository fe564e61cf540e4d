import AxiTestbench.Uart.Service

/-!
# Polling of the host input

`poll_input` runs in every tick and before every read.  After a call of the backend that found
no byte, the countdown keeps it from calling again until `input_poll_cycles` ticks have passed.
-/

namespace AxiTestbench

open Lib

namespace UartDevice

def Operation.isTick : Operation → Bool
  | .tick => true
  | _ => false

section Poll

variable {config : UartConfig} {host : Nat → Option UInt8} {device : UartDevice}

/-- The loop calls the backend at most once for each free place of the FIFO. -/
theorem probes_pollLoop_le (config : UartConfig) (host : Nat → Option UInt8) (fuel : Nat)
    (device : UartDevice) :
    (pollLoop config host fuel device).probes ≤
      device.probes + (device.capacity - device.receiveFifo.size) := by
  induction fuel generalizing device with
  | zero => exact Nat.le_add_right _ _
  | succ fuel ih =>
      rw [pollLoop]
      split
      next room =>
        split
        next =>
          change device.probes + 1 ≤ _
          omega
        next value _ =>
          split
          next =>
            change device.probes + 1 ≤ _
            omega
          next fifo pushed =>
            have size := RingBuffer.size_of_push pushed
            refine (ih _).trans ?_
            change device.probes + 1 + (device.capacity - fifo.size) ≤ _
            omega
      next => exact Nat.le_add_right _ _

/-- A loop that starts below the capacity calls the backend. -/
theorem probes_lt_pollLoop (fuel : Nat) (room : device.receiveFifo.size < device.capacity) :
    device.probes < (pollLoop config host (fuel + 1) device).probes := by
  rw [pollLoop, if_pos room]
  split
  next => exact Nat.lt_succ_self _
  next value _ =>
    split
    next => exact Nat.lt_succ_self _
    next fifo _ =>
      refine Nat.lt_of_lt_of_le ?_ (polled_pollLoop config host fuel _).probes
      exact Nat.lt_succ_self _

/-- A call that finds no byte is the last of its loop, and starts the countdown. -/
theorem remaining_pollLoop (fuel : Nat) {call : Nat} (made : device.probes ≤ call)
    (below : call < (pollLoop config host fuel device).probes) (empty : host call = none) :
    call + 1 = (pollLoop config host fuel device).probes ∧
      (pollLoop config host fuel device).inputPollRemaining =
        if config.inputPollCycles = 1 then 0 else config.inputPollCycles := by
  induction fuel generalizing device with
  | zero => exact absurd below (Nat.not_lt_of_le made)
  | succ fuel ih =>
      revert below
      rw [pollLoop]
      split
      next =>
        split
        next =>
          intro below
          exact ⟨Nat.le_antisymm below (Nat.succ_le_succ made), rfl⟩
        next value found =>
          have later : device.probes + 1 ≤ call := by
            refine Nat.lt_of_le_of_ne made ?_
            rintro rfl
            rw [found] at empty
            contradiction
          split
          next => exact fun below => absurd below (Nat.not_lt_of_le later)
          next fifo _ => exact fun below => ih later below
      next => exact fun below => absurd below (Nat.not_lt_of_le made)

theorem probes_pollInput_of_loopback (loopback : bit device.modemControl 0x10 = true) :
    (device.pollInput config host).probes = device.probes := by
  rw [pollInput, if_pos (.inl loopback)]

theorem pollInput_of_remaining (waiting : device.inputPollRemaining ≠ 0) :
    device.pollInput config host = device := by
  rw [pollInput, if_pos (.inr waiting)]

theorem probes_pollInput_le (config : UartConfig) (host : Nat → Option UInt8)
    (device : UartDevice) :
    (device.pollInput config host).probes ≤
      device.probes + (device.capacity - device.receiveFifo.size) := by
  rw [pollInput]
  split
  · exact Nat.le_add_right _ _
  · exact probes_pollLoop_le config host 16 device

theorem remaining_pollInput {call : Nat} (made : device.probes ≤ call)
    (below : call < (device.pollInput config host).probes) (empty : host call = none) :
    call + 1 = (device.pollInput config host).probes ∧
      (device.pollInput config host).inputPollRemaining =
        if config.inputPollCycles = 1 then 0 else config.inputPollCycles := by
  revert below
  rw [pollInput]
  split
  · exact fun below => absurd below (Nat.not_lt_of_le made)
  · exact fun below => remaining_pollLoop 16 made below empty

end Poll

/-! ## Register accesses -/

/-- The countdown and the number of calls stay. -/
structure Idle (before after : UartDevice) : Prop where
  remaining : after.inputPollRemaining = before.inputPollRemaining
  probes : after.probes = before.probes

theorem Idle.trans {first second third : UartDevice} (earlier : Idle first second)
    (later : Idle second third) : Idle first third :=
  ⟨later.remaining.trans earlier.remaining, later.probes.trans earlier.probes⟩

theorem idle_readRegister (config : UartConfig) (device : UartDevice) (index : Nat) :
    Idle device (device.readRegister config index).1 := by
  unfold readRegister
  split
  · split
    · exact ⟨rfl, rfl⟩
    · rw [readBuffer]
      split
      · exact ⟨rfl, rfl⟩
      · split <;> exact ⟨rfl, rfl⟩
  · exact ⟨rfl, rfl⟩
  · simp only
    split <;> exact ⟨rfl, rfl⟩
  all_goals exact ⟨rfl, rfl⟩

theorem idle_writeRegister (device : UartDevice) (index : Nat) (value : UInt8) :
    Idle device (device.writeRegister index value) := by
  unfold writeRegister
  split
  · split
    · exact ⟨rfl, rfl⟩
    · simp only [transmit]
      split
      · split <;> exact ⟨rfl, rfl⟩
      · exact ⟨rfl, rfl⟩
  · split <;> exact ⟨rfl, rfl⟩
  · simp only [controlFifo, clearTransmitter, clearReceiver]
    split <;> split <;> exact ⟨rfl, rfl⟩
  all_goals exact ⟨rfl, rfl⟩

/-- What an operation does to the countdown and the backend, `reset` apart. -/
inductive Polls (config : UartConfig) (host : Nat → Option UInt8) (device : UartDevice) :
    Operation → UartDevice → Prop where
  | tick {after : UartDevice} (idle : Idle ((device.countTick config).pollInput config host) after) :
      Polls config host device .tick after
  | read {offset : Nat} {enable : List UInt8} {after : UartDevice}
      (idle : Idle (device.pollInput config host) after) :
      Polls config host device (.read offset enable) after
  | other {operation : Operation} {after : UartDevice} (noTick : operation.isTick = false)
      (idle : Idle device after) : Polls config host device operation after

theorem polls_apply (config : UartConfig) (host : Nat → Option UInt8) (device : UartDevice)
    {operation : Operation} (running : operation ≠ .reset) :
    Polls config host device operation (device.apply config host operation) := by
  cases operation with
  | reset => exact absurd rfl running
  | tick => exact .tick ⟨rfl, rfl⟩
  | settle => exact .other rfl ⟨rfl, rfl⟩
  | read offset enable =>
      rw [apply]
      split
      · exact .other rfl ⟨rfl, rfl⟩
      · rw [readImpl]
        split
        · refine .read ?_
          have lanes := @readLanes_induct config (Idle (device.pollInput config host))
            (fun later index holds => holds.trans (idle_readRegister config later index))
            offset enable (List.range enable.length) (device.pollInput config host, []) ⟨rfl, rfl⟩
          exact ⟨lanes.remaining, lanes.probes⟩
        · exact .other rfl ⟨rfl, rfl⟩
  | write offset data strobe =>
      rw [apply]
      split
      · exact .other rfl ⟨rfl, rfl⟩
      · rw [writeImpl]
        split
        · refine .other rfl ?_
          have lanes := @writeLanes_induct (Idle device)
            (fun later index value holds => holds.trans (idle_writeRegister later index value))
            offset data strobe (List.range data.length) device ⟨rfl, rfl⟩
          exact ⟨lanes.remaining, lanes.probes⟩
        · exact .other rfl ⟨rfl, rfl⟩

/-! ## The countdown -/

/-- `elapsed` ticks have passed since the backend was found empty, and it was not called. -/
structure Waiting (config : UartConfig) (probes elapsed : Nat) (device : UartDevice) : Prop where
  remaining : device.inputPollRemaining.toNat + elapsed = config.inputPollCycles.toNat
  probes : device.probes = probes

theorem toNat_countTick (config : UartConfig) (device : UartDevice)
    (waiting : 0 < device.inputPollRemaining.toNat) :
    (device.countTick config).inputPollRemaining.toNat + 1 = device.inputPollRemaining.toNat := by
  have nonzero : device.inputPollRemaining ≠ 0 := by
    intro zero
    rw [zero] at waiting
    exact absurd waiting (by decide)
  have one : (1 : UInt64) ≤ device.inputPollRemaining := by
    rw [UInt64.le_iff_toNat_le]
    exact waiting
  simp only [countTick, nonzero, ne_eq, not_false_eq_true, if_true]
  rw [UInt64.toNat_sub_of_le _ _ one, UInt64.toNat_one]
  omega

theorem Waiting.nonzero {config : UartConfig} {probes elapsed : Nat} {device : UartDevice}
    (waiting : Waiting config probes elapsed device)
    (early : elapsed < config.inputPollCycles.toNat) : device.inputPollRemaining ≠ 0 := by
  intro zero
  have remaining := waiting.remaining
  rw [zero, UInt64.toNat_zero] at remaining
  omega

/-- An operation of the waiting period. -/
theorem Waiting.step {config : UartConfig} {host : Nat → Option UInt8} {probes elapsed : Nat}
    {device after : UartDevice} {operation : Operation}
    (waiting : Waiting config probes elapsed device)
    (polls : Polls config host device operation after)
    (early : elapsed + operation.isTick.toNat < config.inputPollCycles.toNat) :
    Waiting config probes (elapsed + operation.isTick.toNat) after := by
  have nonzero := waiting.nonzero (by omega)
  cases polls with
  | tick idle =>
      have later : elapsed + 1 < config.inputPollCycles.toNat := early
      have remaining := waiting.remaining
      have counted := toNat_countTick config device (by omega)
      have ticked : Waiting config probes (elapsed + 1) (device.countTick config) :=
        ⟨by omega, waiting.probes⟩
      rw [pollInput_of_remaining (ticked.nonzero later)] at idle
      exact ⟨idle.remaining ▸ ticked.remaining, idle.probes.trans ticked.probes⟩
  | read idle =>
      rw [pollInput_of_remaining nonzero] at idle
      exact ⟨idle.remaining ▸ waiting.remaining, idle.probes.trans waiting.probes⟩
  | other noTick idle =>
      rw [noTick]
      exact ⟨idle.remaining ▸ waiting.remaining, idle.probes.trans waiting.probes⟩

theorem Waiting.run {config : UartConfig} {host : Nat → Option UInt8} {probes elapsed : Nat}
    {device : UartDevice} (waiting : Waiting config probes elapsed device)
    (operations : List Operation) (running : ∀ operation ∈ operations, operation ≠ .reset)
    (early : elapsed + operations.countP Operation.isTick < config.inputPollCycles.toNat) :
    Waiting config probes (elapsed + operations.countP Operation.isTick)
      (operations.foldl (apply config host) device) := by
  induction operations generalizing device elapsed with
  | nil => exact waiting
  | cons operation operations ih =>
      rw [countP_cons_toNat, ← Nat.add_assoc] at early ⊢
      have polls := polls_apply config host device (running operation (by simp))
      exact ih (waiting.step polls (by omega)) (fun other member => running other (by simp [member]))
        early

/-- An operation that finds the backend empty starts to wait. -/
theorem Waiting.start {config : UartConfig} {host : Nat → Option UInt8} {device after : UartDevice}
    {operation : Operation} (slow : 2 ≤ config.inputPollCycles.toNat)
    (polls : Polls config host device operation after) {call : Nat} (made : device.probes ≤ call)
    (below : call < after.probes) (empty : host call = none) :
    call + 1 = after.probes ∧ Waiting config after.probes 0 after := by
  have several : config.inputPollCycles ≠ 1 := by
    intro one
    rw [one] at slow
    exact absurd slow (by decide)
  have waits : ∀ {polled : UartDevice}, Idle (polled.pollInput config host) after →
      polled.probes = device.probes →
      call + 1 = after.probes ∧ Waiting config after.probes 0 after := by
    intro polled idle start
    rw [idle.probes] at below
    obtain ⟨last, remaining⟩ := remaining_pollInput (start ▸ made) below empty
    refine ⟨last.trans idle.probes.symm, ?_, rfl⟩
    rw [idle.remaining, remaining, if_neg several, Nat.add_zero]
  cases polls with
  | tick idle => exact waits idle rfl
  | read idle => exact waits idle rfl
  | other _ idle => exact absurd below (Nat.not_lt_of_le (idle.probes ▸ made))

/-- The tick at the end of the countdown calls the backend. -/
theorem Waiting.over {config : UartConfig} {host : Nat → Option UInt8} {probes elapsed : Nat}
    {device : UartDevice} (waiting : Waiting config probes elapsed device)
    (last : elapsed + 1 = config.inputPollCycles.toNat)
    (free : bit device.modemControl 0x10 = false)
    (room : device.receiveFifo.size < device.capacity) :
    device.probes < (device.tick config host).probes := by
  have remaining := waiting.remaining
  have counted := toNat_countTick config device (by omega)
  have zero : (device.countTick config).inputPollRemaining = 0 := by
    rw [← UInt64.toNat_inj, UInt64.toNat_zero]
    omega
  have polls : ¬(bit (device.countTick config).modemControl 0x10 = true ∨
      (device.countTick config).inputPollRemaining ≠ 0) := by
    rintro (loopback | nonzero)
    · exact absurd (free.symm.trans loopback) (by decide)
    · exact nonzero zero
  have below : (device.countTick config).receiveFifo.size < (device.countTick config).capacity :=
    room
  change (device.countTick config).probes < ((device.countTick config).pollInput config host).probes
  rw [pollInput, if_neg polls]
  exact probes_lt_pollLoop 15 below

/-- No operation calls the backend in loopback, or more often than the FIFO has room. -/
theorem probes_apply (config : UartConfig) (host : Nat → Option UInt8) (device : UartDevice)
    (operation : Operation) :
    (bit device.modemControl 0x10 = true →
      (device.apply config host operation).probes = device.probes) ∧
    (device.apply config host operation).probes ≤
      device.probes + (device.capacity - device.receiveFifo.size) := by
  by_cases running : operation = .reset
  · subst running
    exact ⟨fun _ => rfl, Nat.le_add_right _ _⟩
  · cases polls_apply config host device running with
    | tick idle =>
        rw [idle.probes]
        exact ⟨fun loopback => probes_pollInput_of_loopback loopback, probes_pollInput_le _ _ _⟩
    | read idle =>
        rw [idle.probes]
        exact ⟨probes_pollInput_of_loopback, probes_pollInput_le _ _ _⟩
    | other _ idle =>
        rw [idle.probes]
        exact ⟨fun _ => rfl, Nat.le_add_right _ _⟩

end UartDevice

open UartDevice in
/-- In every reachable state, an operation calls the backend only with loopback off, and at most
once for each free place of the FIFO: every call but the last fills one, so none is made while
the FIFO is full.  A call that finds no byte is the last of its operation, and the backend is
called again in the `input_poll_cycles`-th tick, if the receiver can take a byte then, and not
before. -/
theorem uart_input_backoff_exact (config : UartConfig) (host : Nat → Option UInt8)
    (slow : 2 ≤ config.inputPollCycles.toNat) (operations : List Operation)
    (operation : Operation) :
    let before := UartDevice.run config host operations
    let after := before.apply config host operation
    (bit before.modemControl 0x10 = true → after.probes = before.probes) ∧
    after.probes ≤ before.probes + (before.capacity - before.receiveFifo.size) ∧
    (∀ call, before.probes ≤ call → call < after.probes → host call = none →
      call + 1 = after.probes ∧ ∀ rest : List Operation, (∀ other ∈ rest, other ≠ .reset) →
        let final := rest.foldl (apply config host) after
        (rest.countP Operation.isTick < config.inputPollCycles.toNat →
          final.probes = after.probes) ∧
        (rest.countP Operation.isTick + 1 = config.inputPollCycles.toNat →
          bit final.modemControl 0x10 = false → final.receiveFifo.size < final.capacity →
          final.probes < (final.tick config host).probes)) := by
  intro before after
  obtain ⟨loopback, room⟩ := probes_apply config host before operation
  refine ⟨loopback, room, ?_⟩
  intro call made below empty
  have live : operation ≠ .reset := by
    rintro rfl
    exact absurd below (Nat.not_lt_of_le made)
  obtain ⟨last, waiting⟩ :=
    Waiting.start slow (polls_apply config host before live) made below empty
  refine ⟨last, ?_⟩
  intro rest running final
  refine ⟨fun early => ?_, fun last free space => ?_⟩
  · exact (waiting.run rest running (by omega)).probes
  · exact (waiting.run rest running (by omega)).over (by omega) free space

/-- A backend without a byte is asked again in the fourth tick. -/
theorem uart_input_backoff_exact_four :
    let config : UartConfig := { inputPollCycles := 4 }
    let host : Nat → Option UInt8 := fun _ => none
    let after := (UartDevice.run config host []).apply config host .tick
    let reads : List UartDevice.Operation := [.read 5 [1], .tick, .read 0 [1], .tick, .tick]
    let final := reads.foldl (UartDevice.apply config host) after
    final.probes = after.probes ∧ final.probes < (final.tick config host).probes := by
  intro config host after reads final
  obtain ⟨-, -, backoff⟩ := uart_input_backoff_exact config host (by decide) [] .tick
  obtain ⟨-, waits⟩ := backoff 0 (by decide) (by decide) rfl
  obtain ⟨quiet, again⟩ := waits reads (by simp [reads])
  exact ⟨quiet (by decide), again (by decide) (by decide) (by decide)⟩

end AxiTestbench
