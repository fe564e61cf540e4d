import Mathlib.Data.Fintype.EquivFin

/-!
# Shift and xor

A word that is combined with a shifted copy of itself loses no information: the bits that are
shifted in are zero, so that the others can be recovered one after the other.
-/

namespace AxiTestbench.Lib

variable {width amount : Nat}

theorem injective_xor_shiftLeft (positive : 0 < amount) :
    Function.Injective fun word : BitVec width => word ^^^ word <<< amount := by
  intro left right same
  -- The low bits are known first.
  suffices bits : ∀ index, left.getLsbD index = right.getLsbD index from
    BitVec.eq_of_getLsbD_eq fun index _ => bits index
  intro index
  induction index using Nat.strong_induction_on with
  | _ index ih =>
      have here := congrArg (fun word => word.getLsbD index) same
      simp only [BitVec.getLsbD_xor, BitVec.getLsbD_shiftLeft] at here
      by_cases shifted : amount ≤ index
      · rw [ih (index - amount) (by omega)] at here
        exact Bool.xor_left_inj.mp here
      · simpa [show index < amount by omega] using here

theorem injective_xor_shiftRight (positive : 0 < amount) :
    Function.Injective fun word : BitVec width => word ^^^ word >>> amount := by
  intro left right same
  -- The high bits are known first.
  suffices bits : ∀ rest index, width ≤ index + rest →
      left.getLsbD index = right.getLsbD index from
    BitVec.eq_of_getLsbD_eq fun index _ => bits width index (Nat.le_add_left _ _)
  intro rest
  induction rest using Nat.strong_induction_on with
  | _ rest ih =>
      intro index bound
      by_cases outside : width ≤ index
      · rw [BitVec.getLsbD_of_ge _ _ outside, BitVec.getLsbD_of_ge _ _ outside]
      · have here := congrArg (fun word => word.getLsbD index) same
        simp only [BitVec.getLsbD_xor, BitVec.getLsbD_ushiftRight] at here
        rw [ih (rest - 1) (by omega) (amount + index) (by omega)] at here
        exact Bool.xor_left_inj.mp here

end AxiTestbench.Lib
