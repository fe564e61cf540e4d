import Mathlib.Data.Fintype.Card
import Mathlib.Data.Fintype.EquivFin

/-!
# Round-robin selection

A pointer moves around a cycle of places.  Each grant goes to a place that is not
farther ahead of the pointer than the places that wait, and moves the pointer
behind itself.  While one place waits without being granted, the grants come
strictly nearer to it, so none is repeated.
-/

namespace AxiTestbench.Lib.RoundRobin

variable {n : Nat}

/-- The number of places from `start` forward to `place`. -/
def ahead (start place : Fin n) : Nat := (place.val + n - start.val) % n

/-- The place that follows. -/
def following (place : Fin n) : Fin n :=
  ⟨(place.val + 1) % n, Nat.mod_lt _ (Nat.zero_lt_of_lt place.isLt)⟩

theorem ahead_eq (start place : Fin n) :
    ahead start place =
      if start.val ≤ place.val then place.val - start.val else place.val + n - start.val := by
  have placeLt := place.isLt
  rw [ahead]
  split
  · rw [show place.val + n - start.val = place.val - start.val + n by omega, Nat.add_mod_right,
      Nat.mod_eq_of_lt (by omega)]
  · exact Nat.mod_eq_of_lt (by omega)

theorem ahead_lt (start place : Fin n) : ahead start place < n :=
  Nat.mod_lt _ (Nat.zero_lt_of_lt place.isLt)

/-- Going `ahead` places forward arrives. -/
theorem add_ahead (start place : Fin n) : (start.val + ahead start place) % n = place.val := by
  have placeLt := place.isLt
  rw [ahead, Nat.add_mod_mod, show start.val + (place.val + n - start.val) = place.val + n by omega,
    Nat.add_mod_right, Nat.mod_eq_of_lt placeLt]

/-- A place reached in fewer than a whole turn is that far ahead. -/
theorem ahead_of_add {start place : Fin n} {distance : Nat} (short : distance < n)
    (reached : (start.val + distance) % n = place.val) : ahead start place = distance := by
  have startLt := start.isLt
  have placeLt := place.isLt
  rw [ahead_eq]
  by_cases wraps : start.val + distance < n
  · rw [Nat.mod_eq_of_lt wraps] at reached
    rw [if_pos (by omega)]
    omega
  · rw [Nat.mod_eq_sub_mod (by omega), Nat.mod_eq_of_lt (by omega)] at reached
    rw [if_neg (by omega)]
    omega

theorem following_val (place : Fin n) :
    (following place).val = if place.val + 1 = n then 0 else place.val + 1 := by
  have placeLt := place.isLt
  change (place.val + 1) % n = _
  split
  next last => rw [last, Nat.mod_self]
  next inner => exact Nat.mod_eq_of_lt (by omega)

/-- A grant on the way to `waiting` is no farther from it than the pointer was, and
the pointer ends up nearer than the grant. -/
theorem nearer {pointer grant waiting : Fin n}
    (first : ahead pointer grant ≤ ahead pointer waiting) (other : grant ≠ waiting) :
    ahead grant waiting ≤ ahead pointer waiting ∧
      ahead (following grant) waiting < ahead grant waiting := by
  have pointerLt := pointer.isLt
  have grantLt := grant.isLt
  have waitingLt := waiting.isLt
  have different : grant.val ≠ waiting.val := fun equal => other (Fin.ext equal)
  have next := following_val grant
  simp only [ahead_eq] at first ⊢
  constructor
  · split_ifs at first ⊢ <;> omega
  · split_ifs at next <;> split_ifs <;> omega

/-- `Passed waiting pointer grants finish`: the grants lead the pointer to `finish`,
and none of them is `waiting` or jumps over it. -/
inductive Passed (waiting : Fin n) : Fin n → List (Fin n) → Fin n → Prop where
  | nil (pointer : Fin n) : Passed waiting pointer [] pointer
  | cons {pointer grant finish : Fin n} {grants : List (Fin n)}
      (first : ahead pointer grant ≤ ahead pointer waiting) (other : grant ≠ waiting)
      (rest : Passed waiting (following grant) grants finish) :
      Passed waiting pointer (grant :: grants) finish

namespace Passed

variable {waiting pointer finish : Fin n} {grants : List (Fin n)}

theorem ahead_le (passed : Passed waiting pointer grants finish) :
    ∀ grant ∈ grants, ahead grant waiting ≤ ahead pointer waiting := by
  induction passed with
  | nil => simp
  | cons first other _ ih =>
      obtain ⟨near, nearer⟩ := nearer first other
      intro place member
      rcases List.mem_cons.mp member with rfl | later
      · exact near
      · have := ih place later
        omega

theorem nodup (passed : Passed waiting pointer grants finish) : grants.Nodup := by
  induction passed with
  | nil => exact List.nodup_nil
  | cons first other rest ih =>
      refine List.nodup_cons.mpr ⟨fun again => ?_, ih⟩
      have := rest.ahead_le _ again
      have := (nearer first other).2
      omega

theorem not_mem (passed : Passed waiting pointer grants finish) : waiting ∉ grants := by
  induction passed with
  | nil => simp
  | cons _ other _ ih => simpa using ⟨other.symm, ih⟩

/-- Fewer grants than places pass a waiting place. -/
theorem length_lt (passed : Passed waiting pointer grants finish) : grants.length < n := by
  have nodup : (waiting :: grants).Nodup := List.nodup_cons.mpr ⟨passed.not_mem, passed.nodup⟩
  have bound := nodup.length_le_card
  rw [Fintype.card_fin, List.length_cons] at bound
  exact bound

end Passed

end AxiTestbench.Lib.RoundRobin
