import Mathlib.Data.List.Induction

/-!
# Overlays

A store gives new values to some keys of a memory and leaves the others alone.
When stores are applied one after the other, a key holds the value of the last
store that gives it one.
-/

namespace AxiTestbench.Lib

universe u v w

variable {σ : Type u} {κ : Type v} {β : Type w} (value : σ → κ → Option β)

/-- The memory after one store. -/
def overlay (memory : κ → β) (store : σ) : κ → β := fun key =>
  (value store key).getD (memory key)

/-- The memory after a sequence of stores. -/
def replay (memory : κ → β) (stores : List σ) : κ → β := stores.foldl (overlay value) memory

@[simp] theorem replay_nil (memory : κ → β) : replay value memory [] = memory := rfl

@[simp] theorem replay_append (memory : κ → β) (stores more : List σ) :
    replay value memory (stores ++ more) = replay value (replay value memory stores) more :=
  List.foldl_append

@[simp] theorem replay_singleton (memory : κ → β) (store : σ) :
    replay value memory [store] = overlay value memory store := rfl

variable {value} {memory : κ → β} {stores : List σ} {key : κ}

theorem replay_of_untouched (untouched : ∀ store ∈ stores, value store key = none) :
    replay value memory stores key = memory key := by
  induction stores generalizing memory with
  | nil => rfl
  | cons store stores ih =>
      have first : value store key = none := untouched store (by simp)
      have rest : ∀ other ∈ stores, value other key = none :=
        fun other member => untouched other (by simp [member])
      change replay value (overlay value memory store) stores key = memory key
      rw [ih rest, overlay, first, Option.getD_none]

/-- The last store to a key decides. -/
theorem replay_of_last {before after : List σ} {store : σ} {item : β}
    (stored : value store key = some item) (untouched : ∀ later ∈ after, value later key = none) :
    replay value memory (before ++ store :: after) key = item := by
  rw [replay_append]
  change replay value (overlay value (replay value memory before) store) after key = item
  rw [replay_of_untouched untouched, overlay, stored, Option.getD_some]

/-- Some store to a key is the last one, unless there is none. -/
theorem untouched_or_last (value : σ → κ → Option β) (stores : List σ) (key : κ) :
    (∀ store ∈ stores, value store key = none) ∨
      ∃ before store after item, stores = before ++ store :: after ∧
        value store key = some item ∧ ∀ later ∈ after, value later key = none := by
  induction stores using List.reverseRecOn with
  | nil => exact .inl (by simp)
  | append_singleton stores store ih =>
      cases stored : value store key with
      | some item => exact .inr ⟨stores, store, [], item, rfl, stored, by simp⟩
      | none =>
          rcases ih with untouched | ⟨before, last, after, item, rfl, lastStored, untouched⟩
          · refine .inl fun other member => ?_
            rcases List.mem_append.mp member with old | new
            · exact untouched other old
            · rw [List.mem_singleton.mp new, stored]
          · refine .inr ⟨before, last, after ++ [store], item, by simp, lastStored, ?_⟩
            intro other member
            rcases List.mem_append.mp member with old | new
            · exact untouched other old
            · rw [List.mem_singleton.mp new, stored]

/-- Stores that agree on a key. -/
theorem replay_of_agreed {store : σ} {item : β} (member : store ∈ stores)
    (stored : value store key = some item)
    (agreed : ∀ other ∈ stores, ∀ found, value other key = some found → found = item) :
    replay value memory stores key = item := by
  rcases untouched_or_last value stores key with
    untouched | ⟨before, last, after, found, rfl, lastStored, untouched⟩
  · rw [untouched store member] at stored
    contradiction
  · rw [replay_of_last lastStored untouched]
    exact agreed last (by simp) found lastStored

end AxiTestbench.Lib
