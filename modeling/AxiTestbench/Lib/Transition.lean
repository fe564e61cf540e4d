import Mathlib.Data.List.Basic

/-!
# Traces of labelled transition systems

A step of the system emits a list of events.  A trace is the concatenation of
the events of a sequence of steps.  Invariants relate the events so far to the
state that has been reached.
-/

namespace AxiTestbench.Lib

universe u v

variable {σ : Type u} {ε : Type v} {step : σ → List ε → σ → Prop}

/-- `Traces step start events state`: some sequence of steps leads from `start`
to `state` and emits `events`. -/
inductive Traces (step : σ → List ε → σ → Prop) : σ → List ε → σ → Prop where
  | refl (state : σ) : Traces step state [] state
  | snoc {start state next : σ} {events more : List ε} :
      Traces step start events state → step state more next →
      Traces step start (events ++ more) next

namespace Traces

theorem single {state next : σ} {events : List ε} (taken : step state events next) :
    Traces step state events next :=
  snoc (refl state) taken

theorem trans {start middle finish : σ} {before after : List ε}
    (first : Traces step start before middle) (second : Traces step middle after finish) :
    Traces step start (before ++ after) finish := by
  induction second with
  | refl => simpa using first
  | snoc _ taken ih => exact List.append_assoc _ _ _ ▸ snoc ih taken

/-- A relation between history and state that every step extends holds of every
trace. -/
theorem invariant {start finish : σ} {events : List ε} (holds : List ε → σ → Prop)
    (initial : holds [] start)
    (preserved : ∀ history state more next, holds history state → step state more next →
      holds (history ++ more) next)
    (trace : Traces step start events finish) : holds events finish := by
  induction trace with
  | refl => exact initial
  | snoc _ taken ih => exact preserved _ _ _ _ ih taken

/-- A trace whose events all satisfy a predicate uses only steps whose events do. -/
theorem restrict {start finish : σ} {events : List ε} {allowed : ε → Prop}
    (trace : Traces step start events finish) (all : ∀ event ∈ events, allowed event) :
    Traces (fun state more next => step state more next ∧ ∀ event ∈ more, allowed event)
      start events finish := by
  induction trace with
  | refl => exact refl _
  | snoc _ taken ih =>
      exact snoc (ih fun event member => all event (List.mem_append_left _ member))
        ⟨taken, fun event member => all event (List.mem_append_right _ member)⟩

/-- The step that emits a given event of a trace, with what came before. -/
theorem split {start finish : σ} {before after : List ε} {event : ε}
    (trace : Traces step start (before ++ event :: after) finish) :
    ∃ history state front back next rest,
      Traces step start history state ∧ step state (front ++ event :: back) next ∧
        Traces step next rest finish ∧ before = history ++ front ∧ after = back ++ rest := by
  generalize eventsEq : before ++ event :: after = events at trace
  induction trace generalizing after with
  | refl => simp at eventsEq
  | @snoc state next events more prior taken ih =>
      rcases List.append_eq_append_iff.mp eventsEq with
        ⟨front, eventsSplit, moreSplit⟩ | ⟨rest, beforeSplit, restSplit⟩
      · -- `before` ends within the earlier steps or at their border.
        cases front with
        | nil =>
            refine ⟨events, state, [], after, next, [], prior, ?_, refl next, ?_, by simp⟩
            · simpa [moreSplit] using taken
            · simpa using eventsSplit.symm
        | cons first front =>
            simp only [List.cons_append, List.cons.injEq] at moreSplit
            obtain ⟨rfl, rfl⟩ := moreSplit
            obtain ⟨history, inner, innerFront, back, innerNext, tail, historyTrace, innerStep,
              tailTrace, beforeEq, afterEq⟩ := ih eventsSplit.symm
            exact ⟨history, inner, innerFront, back, innerNext, tail ++ more, historyTrace,
              innerStep, snoc tailTrace taken, beforeEq, by rw [afterEq, List.append_assoc]⟩
      · exact ⟨events, state, rest, after, next, [], prior, restSplit ▸ taken, refl next,
          beforeSplit, by simp⟩

end Traces

end AxiTestbench.Lib
