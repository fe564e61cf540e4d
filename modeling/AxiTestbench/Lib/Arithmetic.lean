import Mathlib.Data.Nat.Bitwise
import Mathlib.Tactic.IntervalCases

/-!
# Fixed-width arithmetic on natural numbers

Masking, addition and subtraction of machine words of a given width, and the
loop rule for checks that either pass every item or fail.
-/

namespace AxiTestbench.Lib

/-- `value & ~mask` on words of `width` bits. -/
def andNot (width value mask : Nat) : Nat := value &&& (2 ^ width - 1 - mask)

/-- Clearing the low bits of a word rounds it down to a multiple. -/
theorem andNot_two_pow {width exponent value : Nat} (fits : exponent ≤ width)
    (inWord : value < 2 ^ width) :
    andNot width value (2 ^ exponent - 1) = value / 2 ^ exponent * 2 ^ exponent := by
  have powerLe : 2 ^ exponent ≤ 2 ^ width := Nat.pow_le_pow_right (by decide) fits
  have positive : 0 < 2 ^ exponent := Nat.two_pow_pos exponent
  have maskEq : 2 ^ width - 1 - (2 ^ exponent - 1) = 2 ^ width - ((2 ^ exponent - 1) + 1) := by
    omega
  rw [andNot, maskEq]
  apply Nat.eq_of_testBit_eq
  intro index
  rw [Nat.testBit_and, Nat.testBit_two_pow_sub_succ (by omega), Nat.testBit_two_pow_sub_one,
    Nat.mul_comm, Nat.testBit_two_pow_mul, Nat.testBit_div_two_pow]
  by_cases low : index < exponent
  · simp [low]
  · simp only [low, decide_false, Bool.not_false, Bool.and_true, not_lt.mp low, decide_true,
      Bool.true_and, Nat.sub_add_cancel (not_lt.mp low)]
    by_cases high : index < width
    · simp [high]
    · have overflow : value.testBit index = false :=
        Nat.testBit_lt_two_pow
          (Nat.lt_of_lt_of_le inWord (Nat.pow_le_pow_right (by decide) (not_lt.mp high)))
      simp [overflow]

/-- Addition of 64-bit words. -/
def add64 (left right : Nat) : Nat := (left + right) % 2 ^ 64

/-- Subtraction of 64-bit words. -/
def sub64 (left right : Nat) : Nat := (left + 2 ^ 64 - right) % 2 ^ 64

theorem add64_eq {left right : Nat} (inWord : left + right < 2 ^ 64) :
    add64 left right = left + right :=
  Nat.mod_eq_of_lt inWord

theorem sub64_eq {left right : Nat} (ordered : right ≤ left) (inWord : left < 2 ^ 64) :
    sub64 left right = left - right := by
  rw [sub64]
  omega

/-- A checking loop passes exactly when every item passes. -/
theorem forM_eq_ok_iff {ε : Type} {ι : Type} (items : List ι) (check : ι → Except ε Unit) :
    forM items check = .ok () ↔ ∀ item ∈ items, check item = .ok () := by
  induction items with
  | nil => simp [pure, Except.pure]
  | cons item rest ih =>
      rw [List.forM_cons, List.forall_mem_cons, ← ih]
      cases result : check item with
      | ok value => simp [bind, Except.bind]
      | error fault => simp [bind, Except.bind]

/-- A checking loop that fails does so on one of its items. -/
theorem exists_of_forM_error {ε : Type} {ι : Type} {items : List ι} {check : ι → Except ε Unit}
    {fault : ε} (failed : forM items check = .error fault) :
    ∃ item ∈ items, check item = .error fault := by
  induction items with
  | nil => simp [pure, Except.pure] at failed
  | cons item rest ih =>
      rw [List.forM_cons] at failed
      cases result : check item with
      | ok value =>
          rw [result] at failed
          obtain ⟨other, member, found⟩ := ih failed
          exact ⟨other, by simp [member], found⟩
      | error other =>
          rw [result] at failed
          cases failed
          exact ⟨item, by simp, result⟩

end AxiTestbench.Lib
