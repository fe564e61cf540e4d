import Mathlib.Data.List.Basic

/-!
# Histories

Lists of events, the newest first, and what has happened since some other event.
-/

namespace AxiTestbench.Lib

universe u

variable {α : Type u}

/-- An event that sets has happened, and no event that clears has happened since.  Whether an
event sets may depend on what was before it. -/
def Since (sets : α → List α → Prop) (clears : α → Prop) (history : List α) : Prop :=
  ∃ newer event older, history = newer ++ event :: older ∧ sets event older ∧
    ∀ other ∈ newer, ¬clears other

section Since

variable {sets : α → List α → Prop} {clears : α → Prop}

theorem since_cons {event : α} {history : List α} :
    Since sets clears (event :: history) ↔
      sets event history ∨ ¬clears event ∧ Since sets clears history := by
  constructor
  · rintro ⟨newer, found, older, split, set, kept⟩
    cases newer with
    | nil =>
        cases split
        exact .inl set
    | cons first newer =>
        cases split
        exact .inr ⟨kept event (by simp), newer, found, older, rfl, set,
          fun other member => kept other (by simp [member])⟩
  · rintro (set | ⟨keeps, newer, found, older, rfl, set, kept⟩)
    · exact ⟨[], event, history, rfl, set, by simp⟩
    · refine ⟨event :: newer, found, older, rfl, set, fun other member => ?_⟩
      rcases List.mem_cons.mp member with rfl | later
      · exact keeps
      · exact kept other later

end Since

/-- The events since the last one that clears, the oldest first. -/
def recent (clears : α → Bool) (history : List α) : List α :=
  (history.takeWhile fun event => !clears event).reverse

theorem recent_cons (clears : α → Bool) (event : α) (history : List α) :
    recent clears (event :: history) =
      if clears event then [] else recent clears history ++ [event] := by
  rw [recent, List.takeWhile_cons]
  cases clears event with
  | true => rfl
  | false => simp [recent]

theorem countP_cons_toNat (marked : α → Bool) (event : α) (events : List α) :
    (event :: events).countP marked = (marked event).toNat + events.countP marked := by
  rw [List.countP_cons, Nat.add_comm]
  cases marked event <;> rfl

end AxiTestbench.Lib
