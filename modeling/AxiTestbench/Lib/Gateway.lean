import Mathlib.Data.List.Basic

/-!
# Level-sensitive interrupt gateways

The gateway of one interrupt source.  A sample of a high input makes the source pending
unless an earlier request is outstanding, a claim takes the pending request, and a
completion lets the next sample through.  Completions need not follow claims: a request
can still be pending when its gateway is released.
-/

namespace AxiTestbench.Lib.Gateway

inductive Event where
  | sample (high : Bool)
  | claim
  | complete
  deriving DecidableEq

structure State where
  pending : Bool := false
  busy : Bool := false

/-- A sample of the input. -/
def State.sample (state : State) (high : Bool) : State :=
  if high = true ∧ state.busy = false then ⟨true, true⟩ else state

/-- A run of the gateway.  Only a pending request can be claimed. -/
inductive Run : State → List Event → State → Prop where
  | nil {state : State} : Run state [] state
  | sample {state last : State} {events : List Event} {high : Bool}
      (rest : Run (state.sample high) events last) : Run state (.sample high :: events) last
  | claim {state last : State} {events : List Event} (pending : state.pending = true)
      (rest : Run { state with pending := false } events last) :
      Run state (.claim :: events) last
  | complete {state last : State} {events : List Event}
      (rest : Run { state with busy := false } events last) :
      Run state (.complete :: events) last

theorem Run.append {first middle last : State} {front back : List Event}
    (left : Run first front middle) (right : Run middle back last) :
    Run first (front ++ back) last := by
  induction left with
  | nil => exact right
  | sample _ ih => exact .sample (ih right)
  | claim pending _ ih => exact .claim pending (ih right)
  | complete _ ih => exact .complete (ih right)

theorem Run.split {first last : State} {front back : List Event}
    (run : Run first (front ++ back) last) :
    ∃ middle, Run first front middle ∧ Run middle back last := by
  induction front generalizing first with
  | nil => exact ⟨first, .nil, run⟩
  | cons event front ih =>
      cases run with
      | sample rest =>
          obtain ⟨middle, left, right⟩ := ih rest
          exact ⟨middle, .sample left, right⟩
      | claim pending rest =>
          obtain ⟨middle, left, right⟩ := ih rest
          exact ⟨middle, .claim pending left, right⟩
      | complete rest =>
          obtain ⟨middle, left, right⟩ := ih rest
          exact ⟨middle, .complete left, right⟩

theorem State.pending_sample {state : State} {high : Bool} (pending : state.pending = true) :
    (state.sample high).pending = true := by
  rw [sample]
  split
  · rfl
  · exact pending

theorem State.sample_sample (state : State) (high : Bool) :
    (state.sample high).sample high = state.sample high := by
  by_cases fires : high = true ∧ state.busy = false
  · rw [sample, sample, if_pos fires, if_neg (by simp)]
  · rw [sample, sample, if_neg fires, if_neg fires]

/-- Claims and a pending request are paid for by completions and an outstanding request. -/
theorem Run.claims_le {first last : State} {events : List Event} (run : Run first events last) :
    events.count .claim + last.pending.toNat + first.busy.toNat ≤
      events.count .complete + last.busy.toNat + first.pending.toNat := by
  induction run with
  | nil =>
      rw [List.count_nil, List.count_nil]
      omega
  | @sample state last events high _ ih =>
      have sampled : (state.sample high).pending.toNat + state.busy.toNat ≤
          (state.sample high).busy.toNat + state.pending.toNat := by
        rw [State.sample]
        split
        next fires => simp [fires.2]
        next => omega
      simp only [List.count_cons, beq_iff_eq, reduceCtorEq, if_false]
      omega
  | @claim state last events pending _ ih =>
      simp only [List.count_cons, beq_iff_eq, reduceCtorEq, if_true, if_false, pending,
        Bool.toNat_true, Bool.toNat_false] at ih ⊢
      omega
  | @complete state last events _ ih =>
      have atMostOne := Bool.toNat_le state.busy
      simp only [List.count_cons, beq_iff_eq, reduceCtorEq, if_true, if_false,
        Bool.toNat_false] at ih ⊢
      omega

/-- A request stays pending until it is claimed. -/
theorem Run.pending {first last : State} {events : List Event} (run : Run first events last)
    (pending : first.pending = true) (unclaimed : .claim ∉ events) : last.pending = true := by
  induction run with
  | nil => exact pending
  | sample _ ih =>
      exact ih (State.pending_sample pending) fun later => unclaimed (List.mem_cons_of_mem _ later)
  | claim _ _ _ => exact absurd List.mem_cons_self unclaimed
  | complete _ ih => exact ih pending fun later => unclaimed (List.mem_cons_of_mem _ later)

/-- A request that was not pending is claimed only after a high input was sampled. -/
theorem Run.sampled {first last : State} {middle after : List Event}
    (run : Run first (middle ++ .claim :: after) last) (idle : first.pending = false) :
    .sample true ∈ middle := by
  induction middle generalizing first with
  | nil =>
      cases run with
      | claim pending _ => cases idle.symm.trans pending
  | cons event middle ih =>
      cases run with
      | @sample _ _ _ high rest =>
          cases high with
          | true => exact List.mem_cons_self
          | false =>
              have unchanged : first.sample false = first := by simp [State.sample]
              exact List.mem_cons_of_mem _ (ih (unchanged ▸ rest) idle)
      | claim _ rest => exact List.mem_cons_of_mem _ (ih rest rfl)
      | complete rest => exact List.mem_cons_of_mem _ (ih rest idle)

end AxiTestbench.Lib.Gateway
