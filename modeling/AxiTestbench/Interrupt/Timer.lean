import AxiTestbench.Interrupt.Lanes
import AxiTestbench.Lib.History

/-!
# The timer of the CLINT

The prescaler, the 64-bit time and compare registers, which the guest also reaches in halves,
and the timer interrupt.
-/

namespace AxiTestbench

open Lib

/-- A call of the platform or an access of the bus. -/
inductive ClintOperation where
  | reset
  | tick
  | settle
  | read (offset : Nat) (lanes : List UInt8)
  | write (offset : Nat) (data lanes : List UInt8)

namespace ClintOperation

def isTick : ClintOperation → Bool
  | .tick => true
  | _ => false

/-- The operation sets `mtime`: a reset, or a write that reaches the register. -/
def SetsTime : ClintOperation → Prop
  | .reset => True
  | .write offset _ lanes => ∃ found, access offset lanes = some found ∧ found.size ≠ 0 ∧
      Clint.timerRegister found.address found.size ∧ 0x8000 ≤ found.address
  | _ => False

end ClintOperation

namespace Clint

/-- The device after an operation.  `Device::write` throws for spans of different lengths. -/
def apply (divider : UInt64) (device : Clint) : ClintOperation → Clint
  | .reset => device.reset
  | .tick => device.tick divider
  | .settle => device.settle
  | .read _ _ => device
  | .write offset data lanes =>
      if data.length = lanes.length then (device.writeImpl offset data lanes).1 else device

def run (divider : UInt64) (device : Clint) (operations : List ClintOperation) : Clint :=
  operations.foldl (apply divider) device

/-- The prescaler is within its range, and the interrupt compares time and compare register. -/
structure Timed (divider : UInt64) (device : Clint) : Prop where
  phase : device.phase < divider
  timer : device.timer = if device.time ≥ device.compare then 1 else 0

variable {divider : UInt64} {device : Clint}

theorem timed_reset (positive : 0 < divider) (device : Clint) : device.reset.Timed divider where
  phase := positive
  timer := rfl

theorem timed_settle {device : Clint} (phase : device.phase < divider) :
    device.settle.Timed divider := ⟨phase, rfl⟩

/-- The counters after a tick. -/
theorem toNat_tick (phase : device.phase < divider) :
    (device.tick divider).phase.toNat = (device.phase.toNat + 1) % divider.toNat ∧
      (device.tick divider).time.toNat =
        (device.time.toNat + (device.phase.toNat + 1) / divider.toNat) % 2 ^ 64 := by
  have below := UInt64.lt_iff_toNat_lt.mp phase
  have small := divider.toNat_lt
  have next : (device.phase + 1).toNat = device.phase.toNat + 1 := by
    rw [UInt64.toNat_add, UInt64.toNat_one]
    exact Nat.mod_eq_of_lt (by omega)
  rw [tick]
  split
  next wraps =>
    have full : device.phase.toNat + 1 = divider.toNat := by
      rw [← next, wraps]
    refine ⟨?_, ?_⟩
    · rw [full, Nat.mod_self]
      rfl
    · rw [full, Nat.div_self (by omega)]
      exact UInt64.toNat_add _ _
  next counts =>
    have less : device.phase.toNat + 1 < divider.toNat := by
      refine Nat.lt_of_le_of_ne below fun equal => counts ?_
      rw [← UInt64.toNat_inj, next, equal]
    refine ⟨?_, ?_⟩
    · rw [Nat.mod_eq_of_lt less]
      exact next
    · rw [Nat.div_eq_of_lt less, Nat.add_zero, Nat.mod_eq_of_lt (UInt64.toNat_lt _)]
      rfl

theorem Timed.tick (timed : device.Timed divider) : (device.tick divider).Timed divider := by
  have phase : (device.tick divider).phase < divider := by
    rw [UInt64.lt_iff_toNat_lt, (toNat_tick timed.phase).1]
    have below := UInt64.lt_iff_toNat_lt.mp timed.phase
    exact Nat.mod_lt _ (by omega)
  refine ⟨phase, ?_⟩
  rw [Clint.tick]
  split <;> rfl

theorem store_phase (address size : Nat) (value : UInt64) :
    (device.store address size value).phase = device.phase := by
  rw [store]
  split
  · rfl
  · split <;> rfl

theorem store_timer (address size : Nat) (value : UInt64) :
    (device.store address size value).timer =
      if (device.store address size value).time ≥ (device.store address size value).compare then 1
      else 0 := by
  rw [store]
  split
  · rfl
  · split <;> rfl

/-- What a write does: nothing, or the store of one register. -/
theorem writeImpl_cases (device : Clint) (offset : Nat) (data lanes : List UInt8) :
    (device.writeImpl offset data lanes).1 = device ∨ ∃ found,
      access offset lanes = some found ∧ found.size ≠ 0 ∧ Mapped found.address found.size ∧
        (device.writeImpl offset data lanes).1 =
          device.store found.address found.size (UInt64.ofNat (found.get data)) := by
  cases accepted : access offset lanes with
  | none => exact .inl (by simp only [writeImpl, accepted])
  | some found =>
      by_cases active : found.size = 0
      · exact .inl (by simp only [writeImpl, accepted, active, if_true])
      · rw [device.writeImpl_of_active accepted active data]
        by_cases mapped : Mapped found.address found.size
        · exact .inr ⟨found, rfl, active, mapped, by rw [if_pos mapped]⟩
        · exact .inl (by rw [if_neg mapped])

theorem Timed.apply (positive : 0 < divider) (timed : device.Timed divider)
    (operation : ClintOperation) : (device.apply divider operation).Timed divider := by
  cases operation with
  | reset => exact timed_reset positive device
  | tick => exact timed.tick
  | settle => exact timed_settle timed.phase
  | read offset lanes => exact timed
  | write offset data lanes =>
      rw [Clint.apply]
      split
      · rcases device.writeImpl_cases offset data lanes with same | ⟨found, -, -, -, stored⟩
        · rw [same]
          exact timed
        · rw [stored]
          exact ⟨by rw [store_phase]; exact timed.phase, store_timer _ _ _⟩
      · exact timed

theorem timed_run (positive : 0 < divider) (earlier : Clint) (operations : List ClintOperation) :
    (earlier.reset.run divider operations).Timed divider := by
  have start := timed_reset positive earlier
  rw [run]
  generalize earlier.reset = device at start
  induction operations generalizing device with
  | nil => exact start
  | cons operation operations ih => exact ih _ (start.apply positive operation)

/-! ## Time between writes -/

/-- `ticks` ticks have passed since the counters of `start`. -/
structure Advanced (divider : UInt64) (start : Clint) (ticks : Nat) (device : Clint) : Prop where
  phase : device.phase.toNat = (start.phase.toNat + ticks) % divider.toNat
  time : device.time.toNat =
    (start.time.toNat + (start.phase.toNat + ticks) / divider.toNat) % 2 ^ 64

theorem Timed.advanced (timed : device.Timed divider) : Advanced divider device 0 device := by
  have below := UInt64.lt_iff_toNat_lt.mp timed.phase
  constructor
  · rw [Nat.add_zero, Nat.mod_eq_of_lt below]
  · rw [Nat.add_zero, Nat.div_eq_of_lt below, Nat.add_zero, Nat.mod_eq_of_lt (UInt64.toNat_lt _)]

theorem Advanced.tick {start : Clint} {ticks : Nat} (timed : device.Timed divider)
    (advanced : Advanced divider start ticks device) :
    Advanced divider start (ticks + 1) (device.tick divider) := by
  obtain ⟨phase, time⟩ := toNat_tick timed.phase
  have below := UInt64.lt_iff_toNat_lt.mp timed.phase
  have carry : (start.phase.toNat + ticks + 1) / divider.toNat =
      (start.phase.toNat + ticks) / divider.toNat +
        ((start.phase.toNat + ticks) % divider.toNat + 1) / divider.toNat := by
    conv_lhs => rw [← Nat.div_add_mod (start.phase.toNat + ticks) divider.toNat, Nat.add_assoc]
    exact Nat.mul_add_div (by omega) _ _
  constructor
  · rw [phase, advanced.phase, Nat.mod_add_mod, Nat.add_assoc]
  · rw [time, advanced.time, advanced.phase, Nat.mod_add_mod, ← Nat.add_assoc, carry,
      ← Nat.add_assoc]

/-- A write that does not reach `mtime` leaves the counters alone. -/
theorem writeImpl_counters (device : Clint) {offset : Nat} {data lanes : List UInt8}
    (other : ¬(ClintOperation.write offset data lanes).SetsTime) :
    (device.writeImpl offset data lanes).1.phase = device.phase ∧
      (device.writeImpl offset data lanes).1.time = device.time := by
  rcases device.writeImpl_cases offset data lanes with
    same | ⟨found, accepted, active, mapped, stored⟩
  · rw [same]
    exact ⟨rfl, rfl⟩
  · rw [stored]
    refine ⟨store_phase _ _ _, ?_⟩
    rw [store]
    split
    · rfl
    next notSoftware =>
      split
      · rfl
      next high =>
        refine absurd ⟨found, accepted, active, ?_, Nat.le_of_not_lt high⟩ other
        exact mapped.resolve_left notSoftware

theorem Advanced.apply {start : Clint} {ticks : Nat} (timed : device.Timed divider)
    (advanced : Advanced divider start ticks device) {operation : ClintOperation}
    (other : ¬operation.SetsTime) :
    Advanced divider start (ticks + operation.isTick.toNat) (device.apply divider operation) := by
  cases operation with
  | reset => exact absurd trivial other
  | tick => exact advanced.tick timed
  | settle => exact ⟨advanced.phase, advanced.time⟩
  | read offset lanes => exact advanced
  | write offset data lanes =>
      rw [Clint.apply]
      split
      · obtain ⟨phase, time⟩ := device.writeImpl_counters other
        exact ⟨phase ▸ advanced.phase, time ▸ advanced.time⟩
      · exact advanced

theorem Advanced.run (positive : 0 < divider) {start : Clint} {ticks : Nat}
    (timed : device.Timed divider) (advanced : Advanced divider start ticks device)
    (operations : List ClintOperation) (others : ∀ operation ∈ operations, ¬operation.SetsTime) :
    Advanced divider start (ticks + operations.countP ClintOperation.isTick)
      (device.run divider operations) := by
  induction operations generalizing device ticks with
  | nil => exact advanced
  | cons operation operations ih =>
      rw [countP_cons_toNat, ← Nat.add_assoc]
      exact ih (timed.apply positive operation) (advanced.apply timed (others operation (by simp)))
        fun later member => others later (by simp [member])

/-! ## Halves of the registers -/

/-- The registers of 64 bits. -/
inductive TimerRegister where
  | compare
  | time
  deriving DecidableEq

namespace TimerRegister

def base : TimerRegister → Nat
  | .compare => 0x4000
  | .time => 0xbff8

def value (device : Clint) : TimerRegister → UInt64
  | .compare => device.compare
  | .time => device.time

/-- The device with a new value of the register. -/
def set (device : Clint) (value : UInt64) : TimerRegister → Clint
  | .compare => { device with compare := value }.settle
  | .time => { device with time := value }.settle

def other : TimerRegister → TimerRegister
  | .compare => .time
  | .time => .compare

variable (register : TimerRegister)

@[simp] theorem value_set (device : Clint) (value : UInt64) :
    register.value (register.set device value) = value := by
  cases register <;> rfl

@[simp] theorem set_set (device : Clint) (first second : UInt64) :
    register.set (register.set device first) second = register.set device second := by
  cases register <;> rfl

end TimerRegister

/-- A bus write of `size` bytes with all lanes enabled. -/
def writeRun (device : Clint) (address size value : Nat) : Clint :=
  (device.writeImpl address (leBytes size value) (List.replicate size 1)).1

/-- The number that a bus read of `size` bytes returns. -/
def readRun (device : Clint) (address size : Nat) : Nat :=
  leValue (device.readImpl address (List.replicate size 1)).2

theorem alone_replicate (size : Nat) : Alone (List.replicate size 1) size where
  length := List.length_replicate
  nonzero lane member := by
    rw [List.eq_of_mem_replicate member]
    decide

theorem get_whole (address : Nat) (bytes : List UInt8) :
    (⟨address, 0, bytes.length⟩ : Access).get bytes = leValue bytes := by
  rw [Access.get_eq]
  refine congrArg leValue (List.ext_getElem (by simp) fun index below inside => ?_)
  simp [byteAt, inside]

theorem writeRun_eq (device : Clint) {address size : Nat} (value : Nat)
    (word : size = 4 ∨ size = 8) (aligned : address % size = 0) (mapped : Mapped address size) :
    device.writeRun address size value =
      device.store address size (UInt64.ofNat (value % 256 ^ size)) := by
  have accepted := access_alone (alone_replicate size) word aligned (mapped.bounds word).1
  have active : size ≠ 0 := by omega
  have got := get_whole address (leBytes size value)
  rw [length_leBytes, leValue_leBytes] at got
  rw [writeRun, device.writeImpl_of_active accepted active, if_pos mapped, got]

theorem readRun_eq (device : Clint) {address size : Nat} (word : size = 4 ∨ size = 8)
    (aligned : address % size = 0) (mapped : Mapped address size) :
    device.readRun address size = device.registerValue address size % 256 ^ size := by
  have accepted := access_alone (alone_replicate size) word aligned (mapped.bounds word).1
  have active : size ≠ 0 := by omega
  have fits : (⟨address, 0, size⟩ : Access).lane + (⟨address, 0, size⟩ : Access).size ≤ size :=
    Nat.le_of_eq (Nat.zero_add size)
  have put := Access.get_put _ (device.registerValue address size) fits
  have length : ((⟨address, 0, size⟩ : Access).put size
      (device.registerValue address size)).length = size := by simp [Access.put]
  have got := get_whole address ((⟨address, 0, size⟩ : Access).put size
    (device.registerValue address size))
  rw [length] at got
  rw [readRun, device.readImpl_of_active accepted active, if_pos mapped, List.length_replicate,
    ← got, put]

theorem toNat_merge_low {target value : UInt64} {address : Nat} (half : value.toNat < 2 ^ 32)
    (low : address &&& 4 = 0) :
    (merge target value address 4).toNat = target.toNat / 2 ^ 32 * 2 ^ 32 + value.toNat := by
  have offset : shift address = 0 := by simp [shift, low]
  have mask : (~~~(0xffffffff <<< (0 : UInt64)) : UInt64).toNat = (2 ^ 32 - 1) <<< 32 := by decide
  have bounded := target.toNat_lt
  have quotient : (target.toNat &&& (2 ^ 32 - 1) <<< 32) / 2 ^ 32 = target.toNat / 2 ^ 32 := by
    rw [Nat.and_div_two_pow, show ((2 ^ 32 - 1) <<< 32) / 2 ^ 32 = 2 ^ 32 - 1 by decide,
      Nat.and_two_pow_sub_one_eq_mod]
    exact Nat.mod_eq_of_lt (by omega)
  have remainder : (target.toNat &&& (2 ^ 32 - 1) <<< 32) % 2 ^ 32 = 0 := by
    rw [Nat.and_mod_two_pow, show ((2 ^ 32 - 1) <<< 32) % 2 ^ 32 = 0 by decide, Nat.and_zero]
  have upper : target.toNat &&& (2 ^ 32 - 1) <<< 32 = (target.toNat / 2 ^ 32) <<< 32 := by
    rw [Nat.shiftLeft_eq (target.toNat / 2 ^ 32), ← quotient]
    omega
  rw [merge, if_neg (by decide), offset, UInt64.toNat_or, UInt64.toNat_and, mask,
    show value <<< (0 : UInt64) = value by simp, upper, ← Nat.shiftLeft_add_eq_or_of_lt half,
    Nat.shiftLeft_eq]

theorem toNat_merge_high {target value : UInt64} {address : Nat} (half : value.toNat < 2 ^ 32)
    (high : address &&& 4 ≠ 0) :
    (merge target value address 4).toNat = value.toNat * 2 ^ 32 + target.toNat % 2 ^ 32 := by
  have offset : shift address = 32 := by simp [shift, high]
  have mask : (~~~(0xffffffff <<< (32 : UInt64)) : UInt64).toNat = 2 ^ 32 - 1 := by decide
  have shifted : (value <<< (32 : UInt64)).toNat = value.toNat <<< 32 := by
    rw [UInt64.toNat_shiftLeft, show (32 : UInt64).toNat % 64 = 32 from rfl, Nat.shiftLeft_eq]
    exact Nat.mod_eq_of_lt (by omega)
  rw [merge, if_neg (by decide), offset, UInt64.toNat_or, UInt64.toNat_and, mask, shifted,
    Nat.and_two_pow_sub_one_eq_mod, Nat.or_comm,
    ← Nat.shiftLeft_add_eq_or_of_lt (Nat.mod_lt _ (by decide)), Nat.shiftLeft_eq]

theorem store_low (register : TimerRegister) (device : Clint) (value : UInt64) :
    device.store register.base 4 value =
      register.set device (merge (register.value device) value register.base 4) := by
  cases register <;> rfl

theorem store_high (register : TimerRegister) (device : Clint) (value : UInt64) :
    device.store (register.base + 4) 4 value =
      register.set device (merge (register.value device) value (register.base + 4) 4) := by
  cases register <;> rfl

theorem store_whole (register : TimerRegister) (device : Clint) (value : UInt64) :
    device.store register.base 8 value = register.set device value := by
  cases register <;> rfl

theorem toNat_ofNat_half (value : Nat) : (UInt64.ofNat (value % 256 ^ 4)).toNat = value % 2 ^ 32 := by
  rw [UInt64.toNat_ofNat', show 256 ^ 4 = 2 ^ 32 by decide]
  omega

/-- A write of the low half keeps the high half. -/
theorem writeRun_low (register : TimerRegister) (device : Clint) (value : Nat) :
    ∃ merged, device.writeRun register.base 4 value = register.set device merged ∧
      merged.toNat = (register.value device).toNat / 2 ^ 32 * 2 ^ 32 + value % 2 ^ 32 := by
  have aligned : register.base % 4 = 0 := by cases register <;> rfl
  have mapped : Mapped register.base 4 := by cases register <;> decide
  have low : register.base &&& 4 = 0 := by cases register <;> rfl
  refine ⟨_, (device.writeRun_eq value (.inl rfl) aligned mapped).trans (store_low _ _ _), ?_⟩
  have half : (UInt64.ofNat (value % 256 ^ 4)).toNat < 2 ^ 32 := by
    rw [toNat_ofNat_half]
    exact Nat.mod_lt _ (by decide)
  rw [toNat_merge_low half low, toNat_ofNat_half]

theorem writeRun_high (register : TimerRegister) (device : Clint) (value : Nat) :
    ∃ merged, device.writeRun (register.base + 4) 4 value = register.set device merged ∧
      merged.toNat = value % 2 ^ 32 * 2 ^ 32 + (register.value device).toNat % 2 ^ 32 := by
  have aligned : (register.base + 4) % 4 = 0 := by cases register <;> rfl
  have mapped : Mapped (register.base + 4) 4 := by cases register <;> decide
  have high : register.base + 4 &&& 4 ≠ 0 := by cases register <;> decide
  refine ⟨_, (device.writeRun_eq value (.inl rfl) aligned mapped).trans (store_high _ _ _), ?_⟩
  have half : (UInt64.ofNat (value % 256 ^ 4)).toNat < 2 ^ 32 := by
    rw [toNat_ofNat_half]
    exact Nat.mod_lt _ (by decide)
  rw [toNat_merge_high half high, toNat_ofNat_half]

theorem writeRun_whole (register : TimerRegister) (device : Clint) (value : Nat) :
    device.writeRun register.base 8 value = register.set device (UInt64.ofNat value) := by
  have aligned : register.base % 8 = 0 := by cases register <;> rfl
  have mapped : Mapped register.base 8 := by cases register <;> decide
  rw [device.writeRun_eq value (.inr rfl) aligned mapped, store_whole]
  congr 1
  rw [← UInt64.toNat_inj, UInt64.toNat_ofNat', UInt64.toNat_ofNat', show 256 ^ 8 = 2 ^ 64 by decide,
    Nat.mod_mod]

/-- The two halves may be written in either order. -/
theorem writeRun_halves (register : TimerRegister) (device : Clint) (value : Nat) :
    (device.writeRun register.base 4 value).writeRun (register.base + 4) 4 (value / 2 ^ 32) =
        device.writeRun register.base 8 value ∧
      (device.writeRun (register.base + 4) 4 (value / 2 ^ 32)).writeRun register.base 4 value =
        device.writeRun register.base 8 value := by
  rw [writeRun_whole]
  constructor
  · obtain ⟨low, first, lowEq⟩ := writeRun_low register device value
    obtain ⟨both, second, bothEq⟩ :=
      writeRun_high register (register.set device low) (value / 2 ^ 32)
    rw [first, second, TimerRegister.set_set]
    congr 1
    rw [TimerRegister.value_set] at bothEq
    rw [← UInt64.toNat_inj, UInt64.toNat_ofNat', bothEq, lowEq]
    omega
  · obtain ⟨high, first, highEq⟩ := writeRun_high register device (value / 2 ^ 32)
    obtain ⟨both, second, bothEq⟩ := writeRun_low register (register.set device high) value
    rw [first, second, TimerRegister.set_set]
    congr 1
    rw [TimerRegister.value_set] at bothEq
    rw [← UInt64.toNat_inj, UInt64.toNat_ofNat', bothEq, highEq]
    omega

theorem registerValue_low (register : TimerRegister) (device : Clint) {size : Nat} :
    device.registerValue register.base size = (register.value device).toNat := by
  cases register <;> simp [registerValue, TimerRegister.base, TimerRegister.value, shift]

theorem registerValue_high (register : TimerRegister) (device : Clint) :
    device.registerValue (register.base + 4) 4 = (register.value device).toNat / 2 ^ 32 := by
  have shifted : ∀ value : UInt64, (value >>> (32 : UInt64)).toNat = value.toNat / 2 ^ 32 := by
    intro value
    rw [UInt64.toNat_shiftRight, show (32 : UInt64).toNat % 64 = 32 from rfl,
      Nat.shiftRight_eq_div_pow]
  cases register with
  | compare => exact shifted device.compare
  | time => exact shifted device.time

/-- The reads of the halves and of the whole register. -/
theorem readRun_halves (register : TimerRegister) (device : Clint) :
    device.readRun register.base 4 = (register.value device).toNat % 2 ^ 32 ∧
      device.readRun (register.base + 4) 4 = (register.value device).toNat / 2 ^ 32 ∧
      device.readRun register.base 8 = (register.value device).toNat := by
  have bounded := (register.value device).toNat_lt
  refine ⟨?_, ?_, ?_⟩
  · rw [device.readRun_eq (.inl rfl) (by cases register <;> rfl) (by cases register <;> decide),
      registerValue_low, show 256 ^ 4 = 2 ^ 32 by decide]
  · rw [device.readRun_eq (.inl rfl) (by cases register <;> rfl) (by cases register <;> decide),
      registerValue_high]
    exact Nat.mod_eq_of_lt (by omega)
  · rw [device.readRun_eq (.inr rfl) (by cases register <;> rfl) (by cases register <;> decide),
      registerValue_low]
    exact Nat.mod_eq_of_lt (by omega)

/-- A write of a register touches neither the other one nor the other fields. -/
theorem set_frame (register : TimerRegister) (device : Clint) (value : UInt64) :
    register.other.value (register.set device value) = register.other.value device ∧
      (register.set device value).phase = device.phase ∧
      (register.set device value).software = device.software := by
  cases register <;> exact ⟨rfl, rfl, rfl⟩

end Clint

open Clint in
/-- In every run of a CLINT with a positive divider: the prescaler stays below the divider and
the interrupt is high if and only if `mtime` has reached `mtimecmp`; ticks advance the counters
as a prescaled clock does, whatever else happens that does not set `mtime`; and the halves of
the two registers are written and read independently. -/
theorem clint_time_keeping (divider : UInt64) (positive : 1 ≤ divider) (earlier : Clint)
    (operations : List ClintOperation) :
    let device := earlier.reset.run divider operations
    device.phase < divider ∧ (device.timer = 1 ↔ device.time ≥ device.compare) ∧
    (device.timer = 0 ∨ device.timer = 1) ∧
    (∀ segment : List ClintOperation, (∀ operation ∈ segment, ¬operation.SetsTime) →
      let ticks := segment.countP ClintOperation.isTick
      let later := device.run divider segment
      later.time.toNat =
          (device.time.toNat + (device.phase.toNat + ticks) / divider.toNat) % 2 ^ 64 ∧
        later.phase.toNat = (device.phase.toNat + ticks) % divider.toNat) ∧
    ∀ register : TimerRegister,
      (∀ value,
        (∃ merged, device.writeRun register.base 4 value = register.set device merged ∧
          merged.toNat = (register.value device).toNat / 2 ^ 32 * 2 ^ 32 + value % 2 ^ 32) ∧
        (∃ merged, device.writeRun (register.base + 4) 4 value = register.set device merged ∧
          merged.toNat = value % 2 ^ 32 * 2 ^ 32 + (register.value device).toNat % 2 ^ 32) ∧
        (device.writeRun register.base 4 value).writeRun (register.base + 4) 4 (value / 2 ^ 32) =
          device.writeRun register.base 8 value ∧
        (device.writeRun (register.base + 4) 4 (value / 2 ^ 32)).writeRun register.base 4 value =
          device.writeRun register.base 8 value ∧
        device.writeRun register.base 8 value = register.set device (UInt64.ofNat value)) ∧
      (∀ value, register.value (register.set device value) = value ∧
        register.other.value (register.set device value) = register.other.value device ∧
        (register.set device value).phase = device.phase ∧
        (register.set device value).software = device.software) ∧
      device.readRun register.base 4 = (register.value device).toNat % 2 ^ 32 ∧
      device.readRun (register.base + 4) 4 = (register.value device).toNat / 2 ^ 32 ∧
      device.readRun register.base 8 = (register.value device).toNat := by
  intro device
  have above : 0 < divider := by
    rw [UInt64.lt_iff_toNat_lt]
    exact UInt64.le_iff_toNat_le.mp positive
  have timed : device.Timed divider := timed_run above earlier operations
  have level := timed.timer
  refine ⟨timed.phase, ?_, ?_, ?_, fun register => ⟨fun value => ?_, fun value => ?_,
    readRun_halves register device⟩⟩
  · rw [level]
    split
    next reached => exact iff_of_true rfl reached
    next before => exact iff_of_false (by decide) before
  · rw [level]
    split
    · exact .inr rfl
    · exact .inl rfl
  · intro segment others ticks later
    have advanced := timed.advanced.run above timed segment others
    rw [Nat.zero_add] at advanced
    exact ⟨advanced.time, advanced.phase⟩
  · exact ⟨writeRun_low register device value, writeRun_high register device value,
      (writeRun_halves register device value).1, (writeRun_halves register device value).2,
      writeRun_whole register device value⟩
  · exact ⟨register.value_set device value, set_frame register device value⟩

theorem clint_time_keeping_third :
    let device := (Clint.reset ⟨5, 5, 5, 5, 5⟩).run 3
      [.write 0x4000 [2, 0, 0, 0] [1, 1, 1, 1], .tick]
    (device.run 3 [.tick, .read 0 [1, 1, 1, 1], .tick]).time.toNat = 1 := by
  have keeping := clint_time_keeping 3 (by decide) ⟨5, 5, 5, 5, 5⟩
    [.write 0x4000 [2, 0, 0, 0] [1, 1, 1, 1], .tick]
  have advanced := (keeping.2.2.2.1 [.tick, .read 0 [1, 1, 1, 1], .tick]
    (by simp [ClintOperation.SetsTime])).1
  refine advanced.trans ?_
  decide +kernel

end AxiTestbench
