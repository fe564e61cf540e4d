import Mathlib.Data.Fintype.EquivFin
import Mathlib.Data.List.Perm.Subperm
import Mathlib.Logic.Function.Basic
import Mathlib.Logic.Relation
import Mathlib.Order.WellFounded

/-!
# Topological sorting with counters

Kahn's algorithm on a list of edges, repeated edges included: a worklist that grows
while it is read, and for each node a counter of the edges that lead to it from nodes
not yet read.  The counters may be of any type that counts down correctly from the
largest number of edges into one node.

The algorithm is correct for every finite graph: the worklist is free of repetitions,
lists the source of an edge before its target, and ends up with all nodes exactly if the
graph has no cycle.
-/

namespace AxiTestbench.Lib

universe u v

/-- Numbers up to `bound`, counted down. -/
structure Counter (γ : Type v) where
  ofNat : Nat → γ
  bound : Nat
  pred : γ → γ
  isZero : γ → Bool
  pred_ofNat : ∀ number < bound, pred (ofNat (number + 1)) = ofNat number
  isZero_ofNat : ∀ number ≤ bound, isZero (ofNat number) = true ↔ number = 0

namespace Kahn

variable {α : Type u} {γ : Type v} [DecidableEq α]

/-- Targets of the edges from a node. -/
def successors (edges : List (α × α)) (node : α) : List α :=
  (edges.filter fun edge => edge.1 = node).map Prod.snd

/-- Number of edges to a node whose source is not among `read`. -/
def pending (edges : List (α × α)) (read : List α) (node : α) : Nat :=
  edges.countP fun edge => edge.2 = node ∧ edge.1 ∉ read

/-- One node leads back to itself. -/
def Cyclic (edges : List (α × α)) : Prop :=
  ∃ node, Relation.TransGen (fun source target => (source, target) ∈ edges) node node

/-- Every node is listed after the sources of its edges. -/
def Sorted (edges : List (α × α)) (order : List α) : Prop :=
  ∀ before node after, order = before ++ node :: after →
    ∀ source, (source, node) ∈ edges → source ∈ before

variable (counter : Counter γ)

/-- Count one edge to `node` as read; a node without further edges joins the list. -/
def release (state : (α → γ) × List α) (node : α) : (α → γ) × List α :=
  let left := counter.pred (state.1 node)
  (Function.update state.1 node left,
    if counter.isZero left then state.2 ++ [node] else state.2)

/-- Read the worklist from position `index` on; `none` if the fuel does not suffice. -/
def visit (next : α → List α) : Nat → Nat → (α → γ) × List α → Option (List α)
  | 0, _, _ => none
  | fuel + 1, index, state =>
      match state.2[index]? with
      | none => some state.2
      | some node => visit next fuel (index + 1) ((next node).foldl (release counter) state)

/-! ## The list after some edges were counted -/

/-- The counters hold `owed`, and the nodes that are owed nothing are listed, each after
the sources of its edges. -/
structure Invariant (edges : List (α × α)) (nodes : List α) (owed : α → Nat)
    (state : (α → γ) × List α) : Prop where
  counts : ∀ node ∈ nodes, state.1 node = counter.ofNat (owed node)
  nodup : state.2.Nodup
  mem_iff : ∀ node, node ∈ state.2 ↔ node ∈ nodes ∧ owed node = 0
  sorted : Sorted edges state.2

omit [DecidableEq α] in
theorem Sorted.snoc {edges : List (α × α)} {order : List α} {node : α}
    (sorted : Sorted edges order) (sources : ∀ source, (source, node) ∈ edges → source ∈ order) :
    Sorted edges (order ++ [node]) := by
  intro before other after split source edge
  rcases List.eq_nil_or_concat' after with rfl | ⟨front, last, rfl⟩
  · obtain ⟨rfl, same⟩ := List.append_inj' split rfl
    obtain rfl := List.singleton_inj.mp same
    exact sources source edge
  · rw [← List.cons_append, ← List.append_assoc] at split
    obtain ⟨rfl, -⟩ := List.append_inj' split rfl
    exact sorted before other front rfl source edge

variable {counter}

theorem Invariant.release {edges : List (α × α)} {nodes : List α} {owed : α → Nat}
    {state : (α → γ) × List α} (invariant : Invariant counter edges nodes owed state) {node : α}
    (member : node ∈ nodes) (positive : 0 < owed node) (bounded : owed node ≤ counter.bound)
    (sources : owed node = 1 → ∀ source, (source, node) ∈ edges → source ∈ state.2) :
    Invariant counter edges nodes (Function.update owed node (owed node - 1))
      (release counter state node) := by
  have left : counter.pred (state.1 node) = counter.ofNat (owed node - 1) := by
    rw [invariant.counts node member]
    have lower := counter.pred_ofNat (owed node - 1) (by omega)
    rwa [Nat.sub_add_cancel positive] at lower
  have zeroIff := counter.isZero_ofNat (owed node - 1) (by omega)
  have unlisted : node ∉ state.2 := by
    intro listed
    have := ((invariant.mem_iff node).mp listed).2
    omega
  have counts : ∀ other ∈ nodes, Function.update state.1 node (counter.ofNat (owed node - 1)) other =
      counter.ofNat (Function.update owed node (owed node - 1) other) := by
    intro other otherIn
    by_cases same : other = node
    · subst same
      simp
    · simp [same, invariant.counts other otherIn]
  simp only [Kahn.release, left]
  by_cases last : owed node = 1
  · have zero : counter.isZero (counter.ofNat (owed node - 1)) = true := zeroIff.mpr (by omega)
    rw [if_pos zero]
    refine ⟨counts, ?_, fun other => ?_, invariant.sorted.snoc (sources last)⟩
    · exact List.nodup_append.mpr ⟨invariant.nodup, List.nodup_singleton node, by
        rintro old oldIn new newIn rfl
        exact unlisted (List.mem_singleton.mp newIn ▸ oldIn)⟩
    · rw [List.mem_append, List.mem_singleton, invariant.mem_iff]
      by_cases same : other = node
      · subst same
        simp [member, last]
      · simp [same]
  · have notZero : ¬counter.isZero (counter.ofNat (owed node - 1)) = true := by
      rw [zeroIff]
      omega
    rw [if_neg notZero]
    refine ⟨counts, invariant.nodup, fun other => ?_, invariant.sorted⟩
    rw [invariant.mem_iff]
    by_cases same : other = node
    · subst same
      simp only [Function.update_self]
      omega
    · simp [same]

variable (counter) in
theorem prefix_foldl_release (nodes : List α) (state : (α → γ) × List α) :
    state.2 <+: (nodes.foldl (release counter) state).2 := by
  induction nodes generalizing state with
  | nil => exact List.prefix_refl _
  | cons node rest ih =>
      refine List.IsPrefix.trans ?_ (ih (release counter state node))
      simp only [release]
      split
      · exact List.prefix_append _ _
      · exact List.prefix_refl _

/-- Counting all edges of one node. -/
theorem Invariant.foldl {edges : List (α × α)} {nodes : List α} {rest : α → Nat}
    (targets : List α) {state : (α → γ) × List α}
    (invariant : Invariant counter edges nodes (fun node => rest node + targets.count node) state)
    (known : ∀ node ∈ targets, node ∈ nodes)
    (bounded : ∀ node ∈ nodes, rest node + targets.count node ≤ counter.bound)
    (sources : ∀ node, rest node = 0 → ∀ source, (source, node) ∈ edges → source ∈ state.2) :
    Invariant counter edges nodes rest (targets.foldl (Kahn.release counter) state) := by
  induction targets generalizing state with
  | nil => simpa using invariant
  | cons target targets ih =>
      have member := known target (by simp)
      have here : rest target + (target :: targets).count target =
          rest target + targets.count target + 1 := by
        rw [List.count_cons_self, Nat.add_assoc]
      have released := invariant.release member (by omega) (bounded target member)
        (fun last => sources target (by omega))
      have lowered : Function.update (fun node => rest node + (target :: targets).count node) target
          (rest target + (target :: targets).count target - 1) =
          fun node => rest node + targets.count node := by
        funext node
        by_cases same : node = target
        · subst same
          rw [Function.update_self, here, Nat.add_sub_cancel]
        · rw [Function.update_of_ne same, List.count_cons_of_ne (Ne.symm same)]
      rw [lowered] at released
      refine ih released (fun node nodeIn => known node (by simp [nodeIn])) (fun node nodeIn => ?_) ?_
      · have more : targets.count node ≤ (target :: targets).count node :=
          List.count_le_count_cons
        exact (Nat.add_le_add_left more _).trans (bounded node nodeIn)
      · intro node none source edge
        have grown := prefix_foldl_release counter [target] state
        exact grown.subset (sources node none source edge)

/-! ## Edges that are left to count -/

theorem pending_eq_zero_iff {edges : List (α × α)} {read : List α} {node : α} :
    pending edges read node = 0 ↔ ∀ source, (source, node) ∈ edges → source ∈ read := by
  simp only [pending, List.countP_eq_zero, decide_eq_true_eq, not_and, not_not, Prod.forall]
  constructor
  · intro all source edge
    exact all source node edge rfl
  · rintro all source target edge rfl
    exact all source edge

theorem pending_cons (edge : α × α) (edges : List (α × α)) (read : List α) (node : α) :
    pending (edge :: edges) read node =
      pending edges read node + if edge.2 = node ∧ edge.1 ∉ read then 1 else 0 := by
  simp [pending, List.countP_cons]

theorem count_successors_cons (edge : α × α) (edges : List (α × α)) (node target : α) :
    (successors (edge :: edges) node).count target =
      (successors edges node).count target +
        if edge.2 = target ∧ edge.1 = node then 1 else 0 := by
  simp only [successors, List.filter_cons]
  by_cases here : edge.1 = node
  · simp [here, List.count_cons]
  · simp [here]

/-- Reading one more node settles the edges from it. -/
theorem pending_snoc (edges : List (α × α)) {read : List α} {node : α} (fresh : node ∉ read)
    (target : α) :
    pending edges read target =
      pending edges (read ++ [node]) target + (successors edges node).count target := by
  induction edges with
  | nil => rfl
  | cons edge edges ih =>
      rw [pending_cons, pending_cons, count_successors_cons, ih]
      by_cases same : edge.2 = target
      · by_cases here : edge.1 = node
        · simp [same, here, fresh]
          omega
        · simp [same, here]
          omega
      · simp [same]

section Worklist

variable {edges : List (α × α)} {nodes : List α}

omit [DecidableEq α] in
theorem Invariant.length_le {owed : α → Nat} {state : (α → γ) × List α}
    (invariant : Invariant counter edges nodes owed state) : state.2.length ≤ nodes.length :=
  (invariant.nodup.subperm fun node member => ((invariant.mem_iff node).mp member).1).length_le

/-- Reading the rest of the worklist. -/
theorem visit_spec (closed : ∀ edge ∈ edges, edge.2 ∈ nodes)
    (bounded : ∀ node, pending edges [] node ≤ counter.bound) (fuel : Nat) {index : Nat}
    {state : (α → γ) × List α} (enough : nodes.length < fuel + index)
    (inRange : index ≤ state.2.length)
    (invariant : Invariant counter edges nodes (pending edges (state.2.take index)) state) :
    ∃ order, visit counter (successors edges) fuel index state = some order ∧ order.Nodup ∧
      Sorted edges order ∧ ∀ node, node ∈ order ↔ node ∈ nodes ∧ pending edges order node = 0 := by
  induction fuel generalizing index state with
  | zero =>
      have := invariant.length_le
      omega
  | succ fuel ih =>
      cases found : state.2[index]? with
      | none =>
          have whole : state.2.take index = state.2 :=
            List.take_of_length_le (List.getElem?_eq_none_iff.mp found)
          rw [whole] at invariant
          exact ⟨state.2, by simp [visit, found], invariant.nodup, invariant.sorted,
            invariant.mem_iff⟩
      | some node =>
          obtain ⟨below, nodeEq⟩ := List.getElem?_eq_some_iff.mp found
          have taken : state.2.take (index + 1) = state.2.take index ++ [node] := by
            rw [List.take_succ_eq_append_getElem below, nodeEq]
          have fresh : node ∉ state.2.take index := by
            intro early
            have nodup := invariant.nodup.sublist (List.take_sublist (index + 1) state.2)
            rw [taken, List.nodup_append] at nodup
            exact nodup.2.2 node early node (by simp) rfl
          have split : pending edges (state.2.take index) = fun target =>
              pending edges (state.2.take (index + 1)) target +
                (successors edges node).count target := by
            funext target
            rw [taken]
            exact pending_snoc edges fresh target
          rw [split] at invariant
          have known : ∀ target ∈ successors edges node, target ∈ nodes := by
            intro target member
            obtain ⟨edge, edgeIn, rfl⟩ := List.mem_map.mp member
            exact closed edge (List.mem_of_mem_filter edgeIn)
          have small : ∀ target ∈ nodes, pending edges (state.2.take (index + 1)) target +
              (successors edges node).count target ≤ counter.bound := by
            intro target _
            rw [← congrFun split target]
            refine le_trans ?_ (bounded target)
            exact List.countP_mono_left fun edge _ => by simp +contextual
          have counted := invariant.foldl (successors edges node) known small
            fun target none source edge =>
              List.mem_of_mem_take (pending_eq_zero_iff.mp none source edge)
          have grown := prefix_foldl_release counter (successors edges node) state
          have sameTake : ((successors edges node).foldl (release counter) state).2.take (index + 1) =
              state.2.take (index + 1) := by
            obtain ⟨more, moreEq⟩ := grown
            rw [← moreEq, List.take_append_of_le_length below]
          rw [← sameTake] at counted
          have longer := below.trans_le grown.length_le
          obtain ⟨order, done, rest⟩ := ih (by omega) longer counted
          refine ⟨order, ?_, rest⟩
          simpa [visit, found] using done

theorem Sorted.idxOf_lt {order : List α} (sorted : Sorted edges order) {source target : α}
    (edge : (source, target) ∈ edges) (listed : target ∈ order) :
    order.idxOf source < order.idxOf target := by
  obtain ⟨before, after, split, fresh⟩ := List.eq_append_cons_of_mem listed
  have early := sorted before target after split source edge
  rw [split, List.idxOf_append_of_mem early, List.idxOf_append_of_notMem fresh,
    List.idxOf_cons_self, Nat.add_zero]
  exact List.idxOf_lt_length_of_mem early

/-- A list of all nodes in which sources come first rules out cycles. -/
theorem Sorted.not_cyclic {order : List α} (sorted : Sorted edges order)
    (all : ∀ edge ∈ edges, edge.2 ∈ order) : ¬Cyclic edges := by
  rintro ⟨node, path⟩
  have ascends : ∀ target, Relation.TransGen (fun source target => (source, target) ∈ edges) node
      target → order.idxOf node < order.idxOf target := by
    intro target path
    induction path with
    | single edge => exact sorted.idxOf_lt edge (all _ edge)
    | tail path edge ih => exact ih.trans (sorted.idxOf_lt edge (all _ edge))
  exact Nat.lt_irrefl _ (ascends node path)

/-- Without cycles every node is owed nothing in the end. -/
theorem mem_of_not_cyclic {order : List α} (closed : ∀ edge ∈ edges, edge.1 ∈ nodes)
    (listed : ∀ node, node ∈ nodes → pending edges order node = 0 → node ∈ order)
    (acyclic : ¬Cyclic edges) : ∀ node ∈ nodes, node ∈ order := by
  let reaches (left right : { node // node ∈ nodes }) : Prop :=
    Relation.TransGen (fun source target => (source, target) ∈ edges) left.1 right.1
  have irreflexive : Std.Irrefl reaches := ⟨fun node path => acyclic ⟨node.1, path⟩⟩
  have transitive : IsTrans _ reaches := ⟨fun _ _ _ left right => left.trans right⟩
  have founded : WellFounded reaches := Finite.wellFounded_of_trans_of_irrefl reaches
  suffices all : ∀ node : { node // node ∈ nodes }, node.1 ∈ order from
    fun node member => all ⟨node, member⟩
  intro node
  induction node using founded.induction with
  | _ node ih =>
      refine listed node.1 node.2 (pending_eq_zero_iff.mpr fun source edge => ?_)
      exact ih ⟨source, closed _ edge⟩ (.single edge)

/-- The algorithm returns a list of distinct nodes in which sources come first; it has all
nodes exactly if there is no cycle. -/
theorem sort_spec {left : α → γ} {fuel : Nat} (nodup : nodes.Nodup)
    (closed : ∀ edge ∈ edges, edge.1 ∈ nodes ∧ edge.2 ∈ nodes)
    (bounded : ∀ node, pending edges [] node ≤ counter.bound)
    (counts : ∀ node ∈ nodes, left node = counter.ofNat (pending edges [] node))
    (enough : nodes.length < fuel) :
    ∃ order, visit counter (successors edges) fuel 0
        (left, nodes.filter fun node => counter.isZero (left node)) = some order ∧
      order.Nodup ∧ order ⊆ nodes ∧ Sorted edges order ∧
      (order.length = nodes.length ↔ ¬Cyclic edges) := by
  have zeroIff : ∀ node ∈ nodes, counter.isZero (left node) = true ↔ pending edges [] node = 0 := by
    intro node member
    rw [counts node member, counter.isZero_ofNat _ (bounded node)]
  have start : Invariant counter edges nodes (pending edges [])
      (left, nodes.filter fun node => counter.isZero (left node)) := by
    have memIff : ∀ node, node ∈ (nodes.filter fun node => counter.isZero (left node)) ↔
        node ∈ nodes ∧ pending edges [] node = 0 := by
      intro node
      rw [List.mem_filter]
      exact and_congr_right fun member => zeroIff node member
    refine ⟨counts, nodup.filter _, memIff, ?_⟩
    intro before node after split source edge
    have split : (nodes.filter fun node => counter.isZero (left node)) =
        before ++ node :: after := split
    have member : node ∈ nodes.filter fun node => counter.isZero (left node) := by simp [split]
    have none := ((memIff node).mp member).2
    exact absurd (pending_eq_zero_iff.mp none source edge) (by simp)
  obtain ⟨order, done, orderNodup, sorted, memIff⟩ := visit_spec (fun edge member =>
    (closed edge member).2) bounded fuel enough (Nat.zero_le _) start
  have subset : order ⊆ nodes := fun node member => ((memIff node).mp member).1
  refine ⟨order, done, orderNodup, subset, sorted, ?_, ?_⟩
  · intro full
    have perm := (orderNodup.subperm subset).perm_of_length_le full.ge
    exact sorted.not_cyclic fun edge member => perm.mem_iff.mpr (closed edge member).2
  · intro acyclic
    have all := mem_of_not_cyclic (fun edge member => (closed edge member).1)
      (fun node member none => (memIff node).mpr ⟨member, none⟩) acyclic
    exact Nat.le_antisymm (orderNodup.subperm subset).length_le (nodup.subperm all).length_le

end Worklist

end Kahn

end AxiTestbench.Lib
