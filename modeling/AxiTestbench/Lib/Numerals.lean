import Mathlib.Algebra.Group.Nat.Defs
import Mathlib.Data.List.Basic
import Mathlib.Data.List.Induction
import Mathlib.Data.List.TakeWhile

/-!
# Numerals

Positional notation as text, and the scanner of the standard library that reads it: the
longest run of digits, its value, and what follows.
-/

namespace AxiTestbench.Lib

/-- The value of a character as a digit.  Letters of either case count from ten. -/
def digitValue (ch : Char) : Option Nat :=
  if '0' ≤ ch ∧ ch ≤ '9' then some (ch.toNat - '0'.toNat)
  else if 'a' ≤ ch ∧ ch ≤ 'z' then some (ch.toNat - 'a'.toNat + 10)
  else if 'A' ≤ ch ∧ ch ≤ 'Z' then some (ch.toNat - 'A'.toNat + 10)
  else none

def digitIn (base : Nat) (ch : Char) : Option Nat := (digitValue ch).filter (· < base)

/-- The text is a numeral of the value. -/
inductive Numeral (base : Nat) : List Char → Nat → Prop where
  | digit {ch : Char} {value : Nat} (isDigit : digitIn base ch = some value) :
      Numeral base [ch] value
  | snoc {front : List Char} {value low : Nat} {ch : Char} (numeral : Numeral base front value)
      (isDigit : digitIn base ch = some low) : Numeral base (front ++ [ch]) (value * base + low)

/-- The value of a run of digits. -/
def scanned (base : Nat) (digits : List Char) : Nat :=
  digits.foldl (fun value ch => value * base + (digitIn base ch).getD 0) 0

/-- `std::from_chars` into an unsigned type of `bits` bits: the value and the rest of the text.
Without digits and out of range it reports an error. -/
def fromChars (base bits : Nat) (text : List Char) : Option (Nat × List Char) :=
  let digits := text.takeWhile fun ch => (digitIn base ch).isSome
  let rest := text.dropWhile fun ch => (digitIn base ch).isSome
  if digits = [] then none
  else if scanned base digits < 2 ^ bits then some (scanned base digits, rest)
  else none

variable {base bits : Nat}

theorem scanned_snoc (front : List Char) (ch : Char) :
    scanned base (front ++ [ch]) = scanned base front * base + (digitIn base ch).getD 0 := by
  rw [scanned, List.foldl_append]
  rfl

theorem numeral_iff {digits : List Char} {value : Nat} :
    Numeral base digits value ↔
      digits ≠ [] ∧ (∀ ch ∈ digits, (digitIn base ch).isSome) ∧ value = scanned base digits := by
  constructor
  · intro numeral
    induction numeral with
    | digit isDigit => simp [isDigit, scanned]
    | snoc numeral isDigit ih =>
        obtain ⟨-, digits, rfl⟩ := ih
        refine ⟨by simp, ?_, by rw [scanned_snoc, isDigit, Option.getD_some]⟩
        intro ch member
        rcases List.mem_append.mp member with old | new
        · exact digits ch old
        · rw [List.mem_singleton.mp new, isDigit]
          rfl
  · rintro ⟨nonempty, all, rfl⟩
    induction digits using List.reverseRecOn with
    | nil => exact absurd rfl nonempty
    | append_singleton front ch ih =>
        obtain ⟨low, isDigit⟩ := Option.isSome_iff_exists.mp (all ch (by simp))
        rcases List.eq_nil_or_concat' front with rfl | ⟨more, last, rfl⟩
        · simpa [scanned, isDigit] using Numeral.digit isDigit
        · have front := ih (by simp) fun other member => all other (List.mem_append_left _ member)
          rw [scanned_snoc, isDigit, Option.getD_some]
          exact front.snoc isDigit

/-- The scanner reads a whole text exactly if it is a numeral in range. -/
theorem fromChars_eq_whole_iff {text : List Char} {value : Nat} :
    fromChars base bits text = some (value, []) ↔ Numeral base text value ∧ value < 2 ^ bits := by
  rw [numeral_iff]
  simp only [fromChars]
  constructor
  · intro read
    split at read
    next => cases read
    next nonempty =>
      split at read
      next small =>
        obtain ⟨rfl, rest⟩ := Prod.mk.inj (Option.some.inj read)
        have all := List.dropWhile_eq_nil_iff.mp rest
        rw [List.takeWhile_eq_self_iff.mpr all] at nonempty small ⊢
        exact ⟨⟨nonempty, all, rfl⟩, small⟩
      next => cases read
  · rintro ⟨⟨nonempty, digits, rfl⟩, small⟩
    rw [List.takeWhile_eq_self_iff.mpr digits, List.dropWhile_eq_nil_iff.mpr digits,
      if_neg nonempty, if_pos small]

theorem Numeral.unique {text : List Char} {left right : Nat} (first : Numeral base text left)
    (second : Numeral base text right) : left = right :=
  (numeral_iff.mp first).2.2.trans (numeral_iff.mp second).2.2.symm

theorem digitIn_digitChar {digit : Nat} (below : digit < base) (small : base ≤ 16) :
    digitIn base digit.digitChar = some digit := by
  have values : ∀ digit < 16, digitValue digit.digitChar = some digit := by decide
  simp [digitIn, values digit (by omega), below]

/-- Printing a number gives a numeral of it. -/
theorem numeral_toDigits (large : 1 < base) (small : base ≤ 16) (value : Nat) :
    Numeral base (Nat.toDigits base value) value := by
  induction value using Nat.strong_induction_on with
  | h value ih =>
      by_cases single : value < base
      · rw [Nat.toDigits_of_lt_base single]
        exact .digit (digitIn_digitChar single small)
      · have high : 0 < value / base := Nat.div_pos (by omega) (by omega)
        have low : value % base < base := Nat.mod_lt _ (by omega)
        have split := Nat.toDigits_append_toDigits large high low
        rw [Nat.div_add_mod, Nat.toDigits_of_lt_base low] at split
        rw [← split]
        have front := ih (value / base) (Nat.div_lt_self (by omega) large)
        have whole := front.snoc (digitIn_digitChar low small)
        rwa [Nat.mul_comm, Nat.div_add_mod] at whole

end AxiTestbench.Lib
