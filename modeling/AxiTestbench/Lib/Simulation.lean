import AxiTestbench.Lib.Outcome

/-!
# Two computations in step

Relational reasoning about pairs of fallible computations: both return related
values, or both throw related exceptions.  The rules follow the constructs of
the code, so that a proof about a pair of runs follows the code once.
-/

namespace AxiTestbench.Lib

universe u v w

/-- Two computations return related values or throw related exceptions. -/
inductive InStep {ε : Type u} {α β : Type v} (thrown : ε → ε → Prop) (values : α → β → Prop) :
    Except ε α → Except ε β → Prop where
  | ok {left : α} {right : β} (related : values left right) :
      InStep thrown values (.ok left) (.ok right)
  | error {left right : ε} (related : thrown left right) :
      InStep thrown values (.error left) (.error right)

namespace InStep

variable {ε : Type u} {α β γ δ : Type v} {thrown : ε → ε → Prop} {values : α → β → Prop}
  {results : γ → δ → Prop}

theorem of_eq {outcome other : Except ε α} (same : ∀ fault, thrown fault fault)
    (equal : outcome = other) : InStep thrown Eq outcome other := by
  subst equal
  cases outcome with
  | ok value => exact .ok rfl
  | error fault => exact .error (same fault)

theorem bind {left : Except ε α} {right : Except ε β} {next : α → Except ε γ}
    {nextRight : β → Except ε δ} (first : InStep thrown values left right)
    (second : ∀ value other, values value other →
      InStep thrown results (next value) (nextRight other)) :
    InStep thrown results (left >>= next) (right >>= nextRight) := by
  cases first with
  | ok related => exact second _ _ related
  | error related => exact .error related

/-- Two loops over the same items. -/
theorem foldlM {ι : Type w} {body : α → ι → Except ε α} {bodyRight : β → ι → Except ε β}
    (step : ∀ item value other, values value other →
      InStep thrown values (body value item) (bodyRight other item)) :
    ∀ (items : List ι) (value : α) (other : β), values value other →
      InStep thrown values (items.foldlM body value) (items.foldlM bodyRight other) := by
  intro items
  induction items with
  | nil => exact fun value other related => .ok related
  | cons item items ih =>
      intro value other related
      rw [List.foldlM_cons, List.foldlM_cons]
      exact (step item value other related).bind ih

end InStep

namespace InStep

variable {ε σ τ ρ : Type u} {faults : ε → ε → Prop} {states : σ → σ → Prop}
  {values : τ → ρ → Prop}

/-- Both sides run a fallible pure computation in related states. -/
theorem attempt {left right : σ} {value : Except ε τ} {other : Except ε ρ}
    (related : states left right) (pure : InStep faults values value other) :
    InStep (fun l r => faults l.1 r.1 ∧ states l.2 r.2) values
      (Outcome.attempt left value) (Outcome.attempt right other) := by
  cases pure with
  | ok valuesRelated => exact .ok valuesRelated
  | error faultsRelated => exact .error ⟨faultsRelated, related⟩

end InStep

end AxiTestbench.Lib
