import AxiTestbench.Lib.Outcome

/-!
# Running against foreseen answers

Two versions of one program: in the second, a part of the state is replaced, such as the
partners that the program talks to by a script of their answers.  Whoever knows how the first
version ends can choose the script at the start of the second, so that both do the same.  The
rules follow the constructs of the code, with the choices made from the end to the start.
-/

namespace AxiTestbench.Lib

universe u v

variable {ε σ τ P H α β : Type u} {ι : Type v}

/-- Replace the state of an outcome. -/
def Outcome.recast (cast : σ → τ) : Outcome ε σ σ → Outcome ε τ τ
  | .ok state => .ok (cast state)
  | .error (fault, state) => .error (fault, cast state)

theorem Outcome.recast_attempt_bind (cast : σ → τ) (state : σ) (value : Except ε α)
    (next : α → Outcome ε σ σ) :
    recast cast (attempt state value >>= next) =
      (attempt (cast state) value >>= fun result => recast cast (next result)) := by
  cases value with
  | ok result => rfl
  | error fault => rfl

/-- `right` takes a script, which is to be chosen, and what the past has left behind, which
does not matter.  With the right script at its start it does what `left` does and leaves
any script that is asked for. -/
def Foresees (cast : P → H → σ → τ) (left : Outcome ε σ σ) (right : P → H → Outcome ε τ τ) : Prop :=
  ∀ rest, ∃ start, ∀ past, ∃ final, right start past = Outcome.recast (cast rest final) left

namespace Foresees

variable {cast : P → H → σ → τ} {left : Outcome ε σ σ} {right : P → H → Outcome ε τ τ}

/-- Code that does not look at the replaced part. -/
theorem of_eq (same : ∀ script past, right script past = Outcome.recast (cast script past) left) :
    Foresees cast left right :=
  fun rest => ⟨rest, fun past => ⟨past, same rest past⟩⟩

theorem bind {next : σ → Outcome ε σ σ} {nextRight : τ → Outcome ε τ τ}
    (first : Foresees cast left right)
    (second : ∀ state, left = .ok state → Foresees cast (next state)
      fun script past => nextRight (cast script past state)) :
    Foresees cast (left >>= next) fun script past => right script past >>= nextRight := by
  intro rest
  cases left with
  | error thrown =>
      obtain ⟨start, first⟩ := first rest
      refine ⟨start, fun past => ?_⟩
      obtain ⟨final, same⟩ := first past
      exact ⟨final, by simp only [same]; rfl⟩
  | ok state =>
      obtain ⟨middle, second⟩ := second state rfl rest
      obtain ⟨start, first⟩ := first middle
      refine ⟨start, fun past => ?_⟩
      obtain ⟨between, earlier⟩ := first past
      obtain ⟨final, later⟩ := second between
      refine ⟨final, ?_⟩
      simp only [earlier]
      exact later

theorem foldlM {body : σ → ι → Outcome ε σ σ} {bodyRight : τ → ι → Outcome ε τ τ}
    (each : ∀ state item, Foresees cast (body state item)
      fun script past => bodyRight (cast script past state) item) (items : List ι) (state : σ) :
    Foresees cast (items.foldlM body state)
      fun script past => items.foldlM bodyRight (cast script past state) := by
  induction items generalizing state with
  | nil => exact .of_eq fun _ _ => rfl
  | cons item items ih =>
      simp only [List.foldlM_cons]
      exact (each state item).bind fun next _ => ih next

/-- A branch on something that both sides see. -/
theorem ite {branch : Prop} [Decidable branch] {yes no : Outcome ε σ σ}
    {yesRight noRight : P → H → Outcome ε τ τ} (taken : branch → Foresees cast yes yesRight)
    (skipped : ¬branch → Foresees cast no noRight) :
    Foresees cast (if branch then yes else no)
      fun script past => if branch then yesRight script past else noRight script past := by
  by_cases here : branch
  · simp only [if_pos here]
    exact taken here
  · simp only [if_neg here]
    exact skipped here

/-- A fallible computation that does not look at the replaced part. -/
theorem attempt {state : σ} {value : Except ε α} {next : α → Outcome ε σ σ}
    {nextRight : P → H → α → Outcome ε τ τ}
    (each : ∀ result, value = .ok result → Foresees cast (next result)
      fun script past => nextRight script past result) :
    Foresees cast (Outcome.attempt state value >>= next) fun script past =>
      Outcome.attempt (cast script past state) value >>= nextRight script past := by
  cases value with
  | error fault => exact .of_eq fun _ _ => rfl
  | ok result => exact each result rfl

/-- A fallible computation with an answer that has to be foreseen. -/
structure Tells (answer : P → H → α → β) (value : Except ε α) (valueRight : P → H → Except ε β) :
    Prop where
  thrown : ∀ fault, value = .error fault → ∀ script past, valueRight script past = .error fault
  told : ∀ result, value = .ok result → ∀ rest, ∃ start, ∀ past, ∃ final,
    valueRight start past = .ok (answer rest final result)

namespace Tells

variable {answer : P → H → α → β}

/-- A computation that asks nothing. -/
theorem of_ok {result : α} {valueRight : P → H → Except ε β}
    (same : ∀ script past, valueRight script past = .ok (answer script past result)) :
    Tells answer (.ok result) valueRight where
  thrown := nofun
  told other equal rest := by
    cases equal
    exact ⟨rest, fun past => ⟨past, same rest past⟩⟩

theorem of_error {fault : ε} {valueRight : P → H → Except ε β}
    (same : ∀ script past, valueRight script past = .error fault) :
    Tells answer (.error fault) valueRight where
  thrown other equal script past := by
    cases equal
    exact same script past
  told := nofun

/-- A computation with one question, whose answer goes to the head of the script. -/
theorem of_answer {result : α} {valueRight : P → H → Except ε β} (extend : P → P) (final : H)
    (same : ∀ rest past, valueRight (extend rest) past = .ok (answer rest final result)) :
    Tells answer (.ok result) valueRight where
  thrown := nofun
  told other equal rest := by
    cases equal
    exact ⟨extend rest, fun past => ⟨final, same rest past⟩⟩

/-- A computation before the question. -/
theorem after {γ : Type u} {value : Except ε γ} {next : γ → Except ε α}
    {nextRight : P → H → γ → Except ε β}
    (each : ∀ result, value = .ok result → Tells answer (next result)
      fun script past => nextRight script past result) :
    Tells answer (value >>= next) fun script past => value >>= nextRight script past := by
  cases value with
  | error fault => exact ⟨fun other equal _ _ => by cases equal; rfl, nofun⟩
  | ok result => exact each result rfl

end Tells

theorem tell {state : σ} {value : Except ε α} {valueRight : P → H → Except ε β}
    {answer : P → H → α → β} {next : α → Outcome ε σ σ} {nextRight : P → H → β → Outcome ε τ τ}
    (tells : Tells answer value valueRight)
    (same : ∀ result script past rest final, value = .ok result →
      nextRight script past (answer rest final result) =
        Outcome.recast (cast rest final) (next result)) :
    Foresees cast (Outcome.attempt state value >>= next) fun script past =>
      Outcome.attempt (cast script past state) (valueRight script past) >>=
        nextRight script past := by
  intro rest
  cases value with
  | error fault =>
      exact ⟨rest, fun past => ⟨past, by simp only [tells.thrown fault rfl]; rfl⟩⟩
  | ok result =>
      obtain ⟨start, told⟩ := tells.told result rfl rest
      refine ⟨start, fun past => ?_⟩
      obtain ⟨final, answered⟩ := told past
      exact ⟨final, by simp only [answered]; exact same result start past rest final rfl⟩

end Foresees

end AxiTestbench.Lib
