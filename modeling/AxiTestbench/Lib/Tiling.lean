import Mathlib.Data.Set.Basic
import Mathlib.Order.Interval.Set.Basic

/-!
# Tilings

A family of sets of numbers that follow each other without gap or overlap, and the
rule for families of blocks of one size, the first of which may be cut off at its
beginning.
-/

namespace AxiTestbench.Lib

/-- The first `count` sets are in increasing order and make up `whole`. -/
structure Tiles (sets : Nat → Set Nat) (count : Nat) (whole : Set Nat) : Prop where
  covers : ∀ point, point ∈ whole ↔ ∃ index < count, point ∈ sets index
  ascends : ∀ left right, left < right → right < count →
    ∀ low ∈ sets left, ∀ high ∈ sets right, low < high

theorem Tiles.congr {sets others : Nat → Set Nat} {count : Nat} {whole : Set Nat}
    (tiles : Tiles sets count whole) (same : ∀ index < count, others index = sets index) :
    Tiles others count whole where
  covers point := by
    rw [tiles.covers]
    refine exists_congr fun index => and_congr_right fun inRange => ?_
    rw [same index inRange]
  ascends left right ordered inRange := by
    rw [same left (ordered.trans inRange), same right inRange]
    exact tiles.ascends left right ordered inRange

theorem Tiles.existsUnique {sets : Nat → Set Nat} {count : Nat} {whole : Set Nat}
    (tiles : Tiles sets count whole) {point : Nat} (member : point ∈ whole) :
    ∃! index, index < count ∧ point ∈ sets index := by
  obtain ⟨index, inRange, inSet⟩ := (tiles.covers point).mp member
  refine ⟨index, ⟨inRange, inSet⟩, ?_⟩
  rintro other ⟨otherRange, otherSet⟩
  rcases Nat.lt_trichotomy other index with before | equal | after
  · exact absurd (tiles.ascends other index before inRange point otherSet point inSet)
      (Nat.lt_irrefl point)
  · exact equal
  · exact absurd (tiles.ascends index other after otherRange point inSet point otherSet)
      (Nat.lt_irrefl point)

/-- Blocks of `size` numbers from `base` on, without the numbers below `start`. -/
theorem tiles_blocks {base start size : Nat} (lower : base ≤ start) (upper : start < base + size)
    (count : Nat) :
    Tiles (fun index => Set.Ico (max start (base + index * size)) (base + (index + 1) * size))
      count (Set.Ico start (base + count * size)) where
  covers point := by
    have positive : 0 < size := by omega
    simp only [Set.mem_Ico]
    constructor
    · rintro ⟨fromStart, below⟩
      have division := Nat.div_add_mod (point - base) size
      have remainder := Nat.mod_lt (point - base) positive
      have inRange : (point - base) / size < count := by
        rw [Nat.div_lt_iff_lt_mul positive]
        omega
      refine ⟨(point - base) / size, inRange, ?_, ?_⟩
      · rw [Nat.mul_comm]
        omega
      · rw [Nat.add_mul, Nat.one_mul, Nat.mul_comm]
        omega
    · rintro ⟨index, inRange, lowest, highest⟩
      have last : (index + 1) * size ≤ count * size := Nat.mul_le_mul_right size inRange
      omega
  ascends left right ordered inRange low lowIn high highIn := by
    have between : (left + 1) * size ≤ right * size := Nat.mul_le_mul_right size ordered
    simp only [Set.mem_Ico] at lowIn highIn
    omega

end AxiTestbench.Lib
