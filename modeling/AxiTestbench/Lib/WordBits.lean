import Mathlib.Data.Nat.Bitwise

/-!
# Bits of 32-bit words

Words that are assembled bit by bit, and the test of one bit with a shifted mask.
-/

namespace AxiTestbench.Lib

theorem toNat_one_shiftLeft {bit : Nat} (small : bit < 32) :
    (1 <<< UInt32.ofNat bit : UInt32).toNat = 2 ^ bit := by
  have power : 2 ^ bit < 2 ^ 32 := Nat.pow_lt_pow_right (by decide) small
  have shift : (UInt32.ofNat bit).toNat % 32 = bit := by
    rw [UInt32.toNat_ofNat']
    omega
  rw [UInt32.toNat_shiftLeft, shift, UInt32.toNat_one, Nat.one_shiftLeft, Nat.mod_eq_of_lt power]

/-- The mask `1 << bit` selects one bit. -/
theorem and_one_shiftLeft_ne_zero (word : UInt32) {bit : Nat} (small : bit < 32) :
    (word &&& (1 <<< UInt32.ofNat bit) != 0) = word.toNat.testBit bit := by
  rw [Bool.eq_iff_iff, bne_iff_ne, ne_eq, ← UInt32.toNat_inj, UInt32.toNat_and,
    toNat_one_shiftLeft small, Nat.and_two_pow, UInt32.toNat_zero]
  cases word.toNat.testBit bit <;> simp

/-- A word that collects the chosen bits of a list. -/
theorem testBit_foldl_or (chosen : Nat → Prop) [DecidablePred chosen] (bits : List Nat)
    (small : ∀ bit ∈ bits, bit < 32) (word : UInt32) (index : Nat) :
    (bits.foldl (fun word bit =>
      if chosen bit then word ||| 1 <<< UInt32.ofNat bit else word) word).toNat.testBit index =
        (word.toNat.testBit index || decide (index ∈ bits ∧ chosen index)) := by
  induction bits generalizing word with
  | nil => simp
  | cons bit bits ih =>
      rw [List.foldl_cons, ih fun other member => small other (by simp [member])]
      by_cases isChosen : chosen bit
      · rw [if_pos isChosen, UInt32.toNat_or, toNat_one_shiftLeft (small bit (by simp)),
          Nat.testBit_or, Nat.testBit_two_pow, Bool.or_assoc]
        congr 1
        by_cases same : bit = index
        · subst same
          simp [isChosen]
        · simp [same, Ne.symm same]
      · rw [if_neg isChosen]
        congr 2
        by_cases same : bit = index
        · subst same
          simp [isChosen]
        · simp [Ne.symm same]

/-- The loop over the bits that stops at a limit. -/
theorem takeWhile_range (count base limit : Nat) :
    (List.range count).takeWhile (fun bit => base + bit ≤ limit) =
      List.range (min count (limit + 1 - base)) := by
  induction count with
  | zero => simp
  | succ count ih =>
      rw [List.range_succ, List.takeWhile_append, ih, List.length_range, List.length_range]
      by_cases below : base + count ≤ limit
      · rw [if_pos (by omega), show min (count + 1) (limit + 1 - base) = count + 1 by omega,
          List.range_succ]
        simp [below]
      · rw [show min (count + 1) (limit + 1 - base) = min count (limit + 1 - base) by omega]
        split
        next whole =>
          rw [whole]
          simp [below]
        next => rfl

end AxiTestbench.Lib
