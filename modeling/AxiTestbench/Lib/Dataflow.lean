import Mathlib.Data.List.Induction
import Mathlib.Data.List.Nodup
import Mathlib.Logic.Function.Basic

/-!
# One pass through a dataflow graph

Nodes with a state each; firing a node replaces its state by a value that depends on its
own state and on the states of the nodes it reads.  One pass in which every node is
fired after the nodes it reads computes, for each node, the value for the final states
of the nodes it reads.  The result does not depend on the order of the pass.
-/

namespace AxiTestbench.Lib

universe u v

variable {α : Type u} [DecidableEq α] {S : α → Type v}

/-- Fire one node. -/
def fire (act : (node : α) → (∀ node, S node) → S node) (state : ∀ node, S node) (node : α) :
    ∀ node, S node :=
  Function.update state node (act node state)

/-- Fire the nodes of a list in order. -/
def pass (act : (node : α) → (∀ node, S node) → S node) (order : List α)
    (state : ∀ node, S node) : ∀ node, S node :=
  order.foldl (fire act) state

/-- A node acts on its own state and on those of the nodes it reads. -/
structure Local (act : (node : α) → (∀ node, S node) → S node) (reads : α → α → Prop) : Prop where
  congr : ∀ node left right, left node = right node →
    (∀ source, reads node source → left source = right source) → act node left = act node right

/-- Distinct nodes, each after the nodes it reads. -/
structure Scheduled (reads : α → α → Prop) (order : List α) : Prop where
  nodup : order.Nodup
  before : ∀ front node rest, order = front ++ node :: rest →
    ∀ source, reads node source → source ∈ front

variable {act : (node : α) → (∀ node, S node) → S node} {reads : α → α → Prop}

theorem pass_of_notMem {order : List α} {node : α} (unfired : node ∉ order)
    (state : ∀ node, S node) : pass act order state node = state node := by
  induction order generalizing state with
  | nil => rfl
  | cons first rest ih =>
      obtain ⟨different, later⟩ := not_or.mp (mt List.mem_cons.mpr unfired)
      rw [pass, List.foldl_cons, ← pass, ih later, fire, Function.update_of_ne different]

/-- A node is fired at its turn, when its own state is still the old one. -/
theorem exists_pass_eq {order : List α} (nodup : order.Nodup) {node : α} (member : node ∈ order)
    (state : ∀ node, S node) :
    ∃ seen, seen node = state node ∧ pass act order state node = act node seen := by
  obtain ⟨front, rest, rfl⟩ := List.append_of_mem member
  rw [List.nodup_append, List.nodup_cons] at nodup
  obtain ⟨-, ⟨notRest, -⟩, apart⟩ := nodup
  have notFront : node ∉ front := fun early => apart node early node (by simp) rfl
  refine ⟨pass act front state, pass_of_notMem notFront state, ?_⟩
  have whole : pass act (front ++ node :: rest) state =
      pass act rest (fire act (pass act front state) node) := by
    rw [pass, List.foldl_append, List.foldl_cons]
    rfl
  rw [whole, pass_of_notMem notRest, fire, Function.update_self]

section Scheduled

variable {order : List α}

/-- A fired node has the value for its own old state and the final states of the nodes it
reads. -/
theorem pass_eq (isLocal : Local act reads) (scheduled : Scheduled reads order) {node : α}
    (member : node ∈ order) (state : ∀ node, S node) :
    pass act order state node =
      act node (Function.update (pass act order state) node (state node)) := by
  obtain ⟨front, rest, split⟩ := List.append_of_mem member
  have nodup := scheduled.nodup
  rw [split, List.nodup_append, List.nodup_cons] at nodup
  obtain ⟨-, ⟨notRest, -⟩, apart⟩ := nodup
  have notFront : node ∉ front := fun early => apart node early node (by simp) rfl
  have whole : pass act order state = pass act rest (fire act (pass act front state) node) := by
    rw [split, pass, List.foldl_append, List.foldl_cons]
    rfl
  have fired : pass act order state node = act node (pass act front state) := by
    rw [whole, pass_of_notMem notRest, fire, Function.update_self]
  rw [fired]
  refine isLocal.congr node _ _ ?_ fun source read => ?_
  · rw [pass_of_notMem notFront, Function.update_self]
  · have early := scheduled.before front node rest split source read
    have different : source ≠ node := fun same => notFront (same ▸ early)
    have notLater : source ∉ rest := fun late => apart source early source (by simp [late]) rfl
    rw [Function.update_of_ne different, whole, pass_of_notMem notLater, fire,
      Function.update_of_ne different]

/-- Two passes over the same nodes agree. -/
theorem pass_unique {other : List α} (isLocal : Local act reads)
    (scheduled : Scheduled reads order) (otherScheduled : Scheduled reads other)
    (same : ∀ node, node ∈ other ↔ node ∈ order) (state : ∀ node, S node) :
    pass act other state = pass act order state := by
  -- Induction on the part of one order that has been compared.
  have agree : ∀ front rest, order = front ++ rest → ∀ node ∈ front,
      pass act other state node = pass act order state node := by
    intro front
    induction front using List.reverseRecOn with
    | nil => simp
    | append_singleton front last ih =>
        intro rest split node member
        rw [List.append_assoc] at split
        have earlier := ih (last :: rest) split
        rcases List.mem_append.mp member with old | new
        · exact earlier node old
        · obtain rfl := List.mem_singleton.mp new
          have inOrder : node ∈ order := by simp [split]
          rw [pass_eq isLocal scheduled inOrder,
            pass_eq isLocal otherScheduled ((same node).mpr inOrder)]
          refine isLocal.congr node _ _ ?_ fun source read => ?_
          · rw [Function.update_self, Function.update_self]
          · have early := scheduled.before front node rest split source read
            by_cases equal : source = node
            · subst equal
              rw [Function.update_self, Function.update_self]
            · rw [Function.update_of_ne equal, Function.update_of_ne equal, earlier source early]
  funext node
  by_cases member : node ∈ order
  · exact agree order [] (by simp) node member
  · rw [pass_of_notMem member, pass_of_notMem fun listed => member ((same node).mp listed)]

/-- Where firing changes nothing, a pass changes nothing. -/
theorem pass_of_fixed {other : List α} {state : ∀ node, S node}
    (fixed : ∀ node ∈ other, act node state = state node) : pass act other state = state := by
  induction other with
  | nil => rfl
  | cons first rest ih =>
      have unchanged : fire act state first = state := by
        rw [fire, fixed first (by simp), Function.update_eq_self]
      rw [pass, List.foldl_cons, unchanged, ← pass]
      exact ih fun node member => fixed node (by simp [member])

end Scheduled

end AxiTestbench.Lib
