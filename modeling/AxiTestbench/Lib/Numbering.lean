import Mathlib.Data.List.Induction

/-!
# Numbered blocks

A log that is made of one block of entries for each item of a list, where the
entries of a block carry the position of the item.
-/

namespace AxiTestbench.Lib

variable {α : Type u} {β : Type v} {number : β → Nat} {block : α → Nat → List β}
  (numbered : ∀ item position, ∀ entry ∈ block item position, number entry = position)

/-- What stands before and after an item. -/
theorem split_of_getElem? {items : List α} {position : Nat} {item : α}
    (found : items[position]? = some item) :
    ∃ before after, items = before ++ item :: after ∧ before.length = position := by
  obtain ⟨inRange, rfl⟩ := List.getElem?_eq_some_iff.mp found
  refine ⟨items.take position, items.drop (position + 1), ?_, ?_⟩
  · rw [← List.drop_eq_getElem_cons inRange, List.take_append_drop]
  · rw [List.length_take, Nat.min_eq_left (Nat.le_of_lt inRange)]

/-- The blocks of all items, in order. -/
def blocks (block : α → Nat → List β) (items : List α) : List β :=
  items.zipIdx.flatMap fun item => block item.1 item.2

@[simp] theorem blocks_snoc (items : List α) (item : α) :
    blocks block (items ++ [item]) = blocks block items ++ block item items.length := by
  simp [blocks, List.zipIdx_append]

include numbered

theorem mem_blocks {items : List α} {entry : β} (member : entry ∈ blocks block items) :
    ∃ item, items[number entry]? = some item ∧ entry ∈ block item (number entry) := by
  obtain ⟨⟨item, position⟩, inItems, inBlock⟩ := List.mem_flatMap.mp member
  obtain rfl := numbered item position entry inBlock
  exact ⟨item, List.mk_mem_zipIdx_iff_getElem?.mp inItems, inBlock⟩

theorem number_lt_of_mem_blocks {items : List α} {entry : β} (member : entry ∈ blocks block items) :
    number entry < items.length := by
  obtain ⟨item, found, -⟩ := mem_blocks numbered member
  exact (List.getElem?_eq_some_iff.mp found).1

theorem blocks_sorted (items : List α) :
    (blocks block items).Pairwise fun left right => number left ≤ number right := by
  induction items using List.reverseRecOn with
  | nil => simp [blocks]
  | append_singleton items item ih =>
      rw [blocks_snoc]
      refine List.pairwise_append.mpr ⟨ih, ?_, ?_⟩
      · refine List.pairwise_of_forall_mem_list fun left inLeft right inRight => ?_
        exact Nat.le_of_eq
          ((numbered item _ left inLeft).trans (numbered item _ right inRight).symm)
      · intro left inItems right inBlock
        rw [numbered item _ right inBlock]
        exact Nat.le_of_lt (number_lt_of_mem_blocks numbered inItems)

theorem blocks_filter {items : List α} {item : α} {position : Nat}
    (found : items[position]? = some item) :
    (blocks block items).filter (fun entry => number entry = position) = block item position := by
  induction items using List.reverseRecOn with
  | nil => simp at found
  | append_singleton items last ih =>
      rw [blocks_snoc, List.filter_append]
      rcases Nat.lt_or_ge position items.length with earlier | here
      · rw [List.getElem?_append_left earlier] at found
        have none : (block last items.length).filter (fun entry => number entry = position) = [] := by
          refine List.filter_eq_nil_iff.mpr fun entry inBlock => ?_
          have := numbered last _ entry inBlock
          simp only [decide_eq_true_eq]
          omega
        rw [ih found, none, List.append_nil]
      · obtain ⟨rfl, rfl⟩ : position = items.length ∧ last = item := by
          have inRange := (List.getElem?_eq_some_iff.mp found).1
          simp only [List.length_append, List.length_singleton] at inRange
          obtain rfl : position = items.length := by omega
          simpa using found
        have none : (blocks block items).filter (fun entry => number entry = items.length) = [] := by
          refine List.filter_eq_nil_iff.mpr fun entry inBlocks => ?_
          have := number_lt_of_mem_blocks numbered inBlocks
          simp only [decide_eq_true_eq]
          omega
        have all : (block last items.length).filter (fun entry => number entry = items.length) =
            block last items.length :=
          List.filter_eq_self.mpr fun entry inBlock => by simp [numbered last _ entry inBlock]
        rw [none, all, List.nil_append]

end AxiTestbench.Lib
