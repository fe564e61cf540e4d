import Mathlib.Logic.Basic

/-!
# Stateful steps that may throw

A step of an imperative program either returns a new state or throws.  A throw
does not roll anything back, so the exception carries the state in which it was
raised.  The module gives the invariant rules for sequences and loops of such
steps.
-/

namespace AxiTestbench.Lib

universe u v

/-- Results of stateful code: a value, or an exception together with the state
left behind by the code that ran before the throw.  A whole step returns its
final state, `Outcome ε σ σ`. -/
abbrev Outcome (ε σ : Type u) := Except (ε × σ)

namespace Outcome

variable {ε σ τ : Type u} {ι : Type v}

/-- The state after a step, whether it returned or threw. -/
def state : Outcome ε σ σ → σ
  | .ok state => state
  | .error thrown => thrown.2

/-- Whether a step returned normally. -/
def isOk : Outcome ε σ σ → Bool
  | .ok _ => true
  | .error _ => false

@[simp] theorem state_ok (state : σ) :
    Outcome.state (.ok state : Outcome ε σ σ) = state := rfl

@[simp] theorem state_error (fault : ε) (state : σ) :
    Outcome.state (.error (fault, state) : Outcome ε σ σ) = state := rfl

theorem ok_bind {α β : Type u} (value : α) (next : α → Except ε β) :
    ((.ok value : Except ε α) >>= next) = next value := rfl

theorem error_bind {α β : Type u} (fault : ε) (next : α → Except ε β) :
    ((.error fault : Except ε α) >>= next) = .error fault := rfl

theorem mapM_ok {α β : Type u} {f : α → Except ε β} {g : α → β} {items : List α}
    (each : ∀ item ∈ items, f item = .ok (g item)) : items.mapM f = .ok (items.map g) := by
  induction items with
  | nil => rfl
  | cons item items ih =>
      have rest := ih fun other member => each other (by simp [member])
      rw [List.mapM_cons, each item (by simp), ok_bind, rest]
      rfl

/-- The loop over `0, …, n - 1`, with an invariant that says how far it has come. -/
theorem foldlM_finRange_ok {α : Type u} {n : Nat} {f : α → Fin n → Except ε α}
    {Holds : Nat → α → Prop}
    (step : ∀ (index : Fin n) value, Holds index value →
      ∃ next, f value index = .ok next ∧ Holds (index + 1) next)
    {value : α} (start : Holds 0 value) :
    ∃ final, (List.finRange n).foldlM f value = .ok final ∧ Holds n final := by
  induction n with
  | zero => exact ⟨value, by rw [List.finRange_zero]; rfl, start⟩
  | succ n ih =>
      obtain ⟨middle, reached, holds⟩ :=
        @ih (fun value index => f value index.castSucc) fun index => step index.castSucc
      obtain ⟨final, last, done⟩ := step (Fin.last n) middle holds
      refine ⟨final, ?_, done⟩
      rw [List.finRange_succ_last, List.foldlM_append, List.foldlM_map, reached, ok_bind,
        List.foldlM_cons, last]
      rfl

/-- Run a fallible pure computation; its failure is thrown in `state`. -/
def attempt (state : σ) (value : Except ε τ) : Outcome ε σ τ :=
  match value with
  | .ok value => .ok value
  | .error fault => .error (fault, state)

/-- Postcondition of a step with one assertion for each way of ending. -/
def Ends (outcome : Outcome ε σ σ) (done : σ → Prop) (thrown : ε → σ → Prop) : Prop :=
  match outcome with
  | .ok state => done state
  | .error (fault, state) => thrown fault state

variable {done done' : σ → Prop} {thrown thrown' : ε → σ → Prop}

@[simp] theorem ends_ok {state : σ} :
    Ends (.ok state : Outcome ε σ σ) done thrown ↔ done state := Iff.rfl

@[simp] theorem ends_pure {state : σ} :
    Ends (pure state : Outcome ε σ σ) done thrown ↔ done state := Iff.rfl

@[simp] theorem ends_error {fault : ε} {state : σ} :
    Ends (.error (fault, state) : Outcome ε σ σ) done thrown ↔ thrown fault state := Iff.rfl

theorem Ends.mono {outcome : Outcome ε σ σ} (ends : Ends outcome done thrown)
    (weakenDone : ∀ state, done state → done' state)
    (weakenThrown : ∀ fault state, thrown fault state → thrown' fault state) :
    Ends outcome done' thrown' := by
  cases outcome with
  | ok state => exact weakenDone state ends
  | error pair =>
      obtain ⟨fault, state⟩ := pair
      exact weakenThrown fault state ends

/-- Sequencing rule: the second step starts from what the first established. -/
theorem Ends.bind {outcome : Outcome ε σ σ} {next : σ → Outcome ε σ σ}
    {middle : σ → Prop} (first : Ends outcome middle thrown)
    (second : ∀ state, middle state → Ends (next state) done thrown) :
    Ends (outcome >>= next) done thrown := by
  cases outcome with
  | ok state => exact second state first
  | error pair => exact first

/-- A fallible pure computation changes no state, so only its value matters to
the rest of the step. -/
theorem ends_attempt_bind {state : σ} {value : Except ε τ}
    {next : τ → Outcome ε σ σ}
    (failed : ∀ fault, value = .error fault → thrown fault state)
    (succeeded : ∀ result, value = .ok result → Ends (next result) done thrown) :
    Ends (attempt state value >>= next) done thrown := by
  cases value with
  | ok result => exact succeeded result rfl
  | error fault => exact failed fault rfl

/-- Branching rule. -/
theorem ends_ite {branch : Prop} [Decidable branch] {yes no : Outcome ε σ σ}
    (taken : branch → Ends yes done thrown) (skipped : ¬branch → Ends no done thrown) :
    Ends (if branch then yes else no) done thrown := by
  by_cases here : branch
  · rw [if_pos here]
    exact taken here
  · rw [if_neg here]
    exact skipped here

/-- Loop rule.  The invariant is indexed by the items still to be visited. -/
theorem ends_foldlM {body : σ → ι → Outcome ε σ σ} (invariant : List ι → σ → Prop)
    (step : ∀ item rest state, invariant (item :: rest) state →
      Ends (body state item) (invariant rest) thrown) :
    ∀ (items : List ι) (state : σ), invariant items state →
      Ends (items.foldlM body state) (invariant []) thrown := by
  intro items
  induction items with
  | nil => exact fun state holds => holds
  | cons item rest ih =>
      intro state holds
      rw [List.foldlM_cons]
      exact (step item rest state holds).bind fun next nextHolds => ih next nextHolds

/-- A normal return exposes the state that satisfies the postcondition. -/
theorem Ends.of_isOk {outcome : Outcome ε σ σ} (ends : Ends outcome done thrown)
    (returned : outcome.isOk = true) : done outcome.state := by
  cases outcome with
  | ok state => exact ends
  | error pair => simp [isOk] at returned

/-- An assertion that covers both ways of ending holds of the final state. -/
theorem Ends.state_of_both {outcome : Outcome ε σ σ}
    (ends : Ends outcome done fun _ => done) : done outcome.state := by
  cases outcome with
  | ok state => exact ends
  | error pair => exact ends

theorem eq_ok_of_isOk {outcome : Outcome ε σ σ} (returned : outcome.isOk = true) :
    outcome = .ok outcome.state := by
  cases outcome with
  | ok state => rfl
  | error pair => simp [isOk] at returned

/-- Termination rule for a loop over an endless supply of items: a body that
returns, and lowers a measure unless the loop is finished, finishes the loop. -/
theorem foldlM_finishes (body : σ → ι → Outcome ε σ σ) (items : Nat → ι) (invariant : σ → Prop)
    (measure : σ → Nat) (finished : σ → Prop)
    (step : ∀ state index, invariant state → ¬finished state →
      ∃ next, body state (items index) = .ok next ∧ invariant next ∧ measure next < measure state) :
    ∀ (state : σ), invariant state → ∃ count ≤ measure state, ∃ final,
      ((List.range count).map items).foldlM body state = .ok final ∧ finished final := by
  -- The items are numbered from where the loop stands.
  have fromIndex : ∀ (bound start : Nat) (state : σ), measure state = bound → invariant state →
      ∃ count ≤ bound, ∃ final,
        ((List.range' start count).map items).foldlM body state = .ok final ∧ finished final := by
    intro bound
    induction bound using Nat.strongRecOn with
    | ind bound ih =>
        intro start state measureEq holds
        by_cases ended : finished state
        · exact ⟨0, Nat.zero_le _, state, rfl, ended⟩
        · obtain ⟨next, returned, nextHolds, less⟩ := step state start holds ended
          obtain ⟨count, countLe, final, loop, done⟩ :=
            ih (measure next) (measureEq ▸ less) (start + 1) next rfl nextHolds
          refine ⟨count + 1, by omega, final, ?_, done⟩
          rw [List.range'_succ, List.map_cons, List.foldlM_cons, returned]
          exact loop
  intro state holds
  obtain ⟨count, countLe, final, loop, done⟩ := fromIndex (measure state) 0 state rfl holds
  exact ⟨count, countLe, final, by rw [List.range_eq_range']; exact loop, done⟩

end Outcome

end AxiTestbench.Lib
