import Mathlib.Data.List.Chain
import Mathlib.Data.List.Pairwise

/-!
# Disjoint ranges

Half-open ranges of numbers, given by a start and a size.  Sorted by start, nonempty
ranges are pairwise disjoint exactly when each ends before the next begins.
-/

namespace AxiTestbench.Lib

universe u

variable {α : Type u} (start size : α → Nat)

/-- Two ranges have no point in common. -/
def Apart (left right : α) : Prop :=
  ∀ point, ¬((start left ≤ point ∧ point < start left + size left) ∧
    start right ≤ point ∧ point < start right + size right)

variable {start size}

theorem Apart.symm {left right : α} (apart : Apart start size left right) :
    Apart start size right left :=
  fun point both => apart point both.symm

/-- Nonempty ranges are disjoint when one ends before the other begins. -/
theorem apart_iff {left right : α} (leftPositive : 0 < size left) (rightPositive : 0 < size right) :
    Apart start size left right ↔
      start left + size left ≤ start right ∨ start right + size right ≤ start left := by
  constructor
  · intro apart
    by_contra overlapping
    exact apart (max (start left) (start right)) (by omega)
  · intro ordered point both
    omega

/-- Consecutive elements are the elements of a list beside those of its tail. -/
theorem isChain_iff_forall_mem_zip_tail {R : α → α → Prop} (items : List α) :
    items.IsChain R ↔ ∀ pair ∈ items.zip items.tail, R pair.1 pair.2 := by
  induction items with
  | nil => simp
  | cons first rest ih =>
      cases rest with
      | nil => simp
      | cons second rest =>
          simp only [List.isChain_cons_cons, ih, List.tail_cons, List.zip_cons_cons,
            List.forall_mem_cons]

/-- Comparing neighbours of a sorted list compares all of its elements. -/
theorem isChain_iff_pairwise_apart (start size : α → Nat) {items sorted : List α}
    (perm : sorted.Perm items) (ordered : sorted.Pairwise fun left right => start left ≤ start right)
    (positive : ∀ item ∈ items, 0 < size item) :
    (sorted.IsChain fun left right => start left + size left ≤ start right) ↔
      items.Pairwise (Apart start size) := by
  have transitive : Trans (fun left right : α => start left + size left ≤ start right)
      (fun left right => start left + size left ≤ start right)
      (fun left right => start left + size left ≤ start right) := ⟨by intros; omega⟩
  rw [List.isChain_iff_pairwise, ← perm.pairwise_iff Apart.symm]
  have positiveSorted : ∀ item ∈ sorted, 0 < size item := fun item member =>
    positive item (perm.mem_iff.mp member)
  constructor
  · intro before
    refine before.imp_of_mem fun leftMember rightMember ends => ?_
    exact (apart_iff (positiveSorted _ leftMember) (positiveSorted _ rightMember)).mpr (.inl ends)
  · intro apart
    refine (ordered.and apart).imp_of_mem fun leftMember rightMember both => ?_
    have leftPositive := positiveSorted _ leftMember
    rcases (apart_iff leftPositive (positiveSorted _ rightMember)).mp both.2 with ends | ends
    · exact ends
    · have := both.1
      have := positiveSorted _ rightMember
      omega

end AxiTestbench.Lib
