import Mathlib.Data.List.Induction
import Mathlib.Order.Lattice

/-!
# Scans for a maximum

A scan that keeps the qualifying item of the highest rank it has met.  An item replaces the
selected one only if its rank is higher, so that the first of several maxima wins.
-/

namespace AxiTestbench.Lib

universe u v

variable {α : Type u} {β : Type v} [LinearOrder β] (qualifies : α → Prop)
  [DecidablePred qualifies] (rank : α → β)

/-- One step of the scan. -/
def keepHigher (selected item : α) : α :=
  if qualifies item ∧ rank selected < rank item then item else selected

/-- What the scan has selected: its start, or the first of the highest qualifying items. -/
inductive Scanned (start : α) (items : List α) (selected : α) : Prop where
  | kept (same : selected = start)
      (bound : ∀ item ∈ items, qualifies item → rank item ≤ rank start)
  | found (before after : List α) (split : items = before ++ selected :: after)
      (fits : qualifies selected) (above : rank start < rank selected)
      (lower : ∀ item ∈ before, qualifies item → rank item < rank selected)
      (bound : ∀ item ∈ after, qualifies item → rank item ≤ rank selected)

namespace Scanned

variable {qualifies : α → Prop} {rank : α → β} {start selected last : α} {items : List α}

theorem start_le (scanned : Scanned qualifies rank start items selected) :
    rank start ≤ rank selected := by
  cases scanned with
  | kept same bound => exact (congrArg rank same).ge
  | found before after split fits above lower bound => exact above.le

theorem le (scanned : Scanned qualifies rank start items selected) {item : α}
    (member : item ∈ items) (fits : qualifies item) : rank item ≤ rank selected := by
  cases scanned with
  | kept same bound => exact same ▸ bound item member fits
  | found before after split _ above lower bound =>
      rw [split] at member
      rcases List.mem_append.mp member with earlier | later
      · exact (lower item earlier fits).le
      · rcases List.mem_cons.mp later with rfl | later
        · exact le_rfl
        · exact bound item later fits

/-- A higher item replaces the selected one, and is above all that qualify before it. -/
theorem replace (scanned : Scanned qualifies rank start items selected) (fits : qualifies last)
    (higher : rank selected < rank last) : Scanned qualifies rank start (items ++ [last]) last :=
  .found items [] rfl fits (scanned.start_le.trans_lt higher)
    (fun _ member qualified => (scanned.le member qualified).trans_lt higher) (by simp)

theorem keep (scanned : Scanned qualifies rank start items selected)
    (notAbove : qualifies last → rank last ≤ rank selected) :
    Scanned qualifies rank start (items ++ [last]) selected := by
  cases scanned with
  | kept same bound =>
      refine .kept same fun item member fits => ?_
      rcases List.mem_append.mp member with earlier | final
      · exact bound item earlier fits
      · obtain rfl := List.mem_singleton.mp final
        exact same ▸ notAbove fits
  | found before after split fits above lower bound =>
      refine .found before (after ++ [last]) (by simp [split]) fits above lower ?_
      intro item member fits
      rcases List.mem_append.mp member with earlier | final
      · exact bound item earlier fits
      · obtain rfl := List.mem_singleton.mp final
        exact notAbove fits

end Scanned

theorem scanned_foldl (items : List α) (start : α) :
    Scanned qualifies rank start items (items.foldl (keepHigher qualifies rank) start) := by
  induction items using List.reverseRecOn with
  | nil => exact .kept rfl (by simp)
  | append_singleton items last ih =>
      rw [List.foldl_append, List.foldl_cons, List.foldl_nil, keepHigher]
      split
      next higher => exact ih.replace higher.1 higher.2
      next lower => exact ih.keep fun fits => not_lt.mp fun above => lower ⟨fits, above⟩

end AxiTestbench.Lib
