import Mathlib.Data.List.Basic

/-!
# Replaying recorded actions

Actions on a state are recorded together with what they answered.  A record explains a
change of the state if the state is where the actions lead and every answer is the one that
was given at its turn.  What a record explains of a whole, it explains of each part.
-/

namespace AxiTestbench.Lib

universe u v w

/-- What a recorded action does, and when what it has recorded is right. -/
structure Recorder (S : Type u) (A : Type v) where
  act : S → A → S
  Truthful : S → A → Prop

namespace Recorder

variable {S : Type u} {A : Type v} (recorder : Recorder S A)

/-- The state after the recorded actions. -/
def replay (start : S) (actions : List A) : S := actions.foldl recorder.act start

/-- Every recorded answer was given. -/
def Faithful : S → List A → Prop
  | _, [] => True
  | state, action :: rest =>
      recorder.Truthful state action ∧ Faithful (recorder.act state action) rest

/-- The actions lead from one state to the other, and they were recorded faithfully. -/
structure Explains (before after : S) (actions : List A) : Prop where
  state : after = recorder.replay before actions
  faithful : recorder.Faithful before actions

variable {recorder} {first second third : S} {actions more : List A}

theorem replay_append (start : S) (actions more : List A) :
    recorder.replay start (actions ++ more) = recorder.replay (recorder.replay start actions) more :=
  List.foldl_append

theorem faithful_append (start : S) (actions more : List A) :
    recorder.Faithful start (actions ++ more) ↔
      recorder.Faithful start actions ∧ recorder.Faithful (recorder.replay start actions) more := by
  induction actions generalizing start with
  | nil => simp [Faithful, replay]
  | cons action actions ih => simp [Faithful, ih, replay, and_assoc]

namespace Explains

theorem refl (state : S) : recorder.Explains state state [] := ⟨rfl, trivial⟩

theorem single {action : A} (truthful : recorder.Truthful first action) :
    recorder.Explains first (recorder.act first action) [action] :=
  ⟨rfl, truthful, trivial⟩

/-- An action that changes nothing. -/
theorem of_silent {action : A} (same : recorder.act first action = first)
    (truthful : recorder.Truthful first action) : recorder.Explains first first [action] :=
  ⟨same.symm, truthful, trivial⟩

theorem trans (left : recorder.Explains first second actions)
    (right : recorder.Explains second third more) :
    recorder.Explains first third (actions ++ more) where
  state := by rw [right.state, left.state, replay_append]
  faithful := (faithful_append _ _ _).mpr ⟨left.faithful, left.state ▸ right.faithful⟩

/-- A part of the state follows the actions that concern it. -/
theorem part {T : Type u} {B : Type v} {K : Type w} {small : Recorder T B} {part : S → T}
    {sees : A → List K} {kind : B → K}
    (each : ∀ state action, recorder.Truthful state action → ∃ log,
      small.Explains (part state) (part (recorder.act state action)) log ∧
        log.map kind = sees action)
    (whole : recorder.Explains first second actions) :
    ∃ log, small.Explains (part first) (part second) log ∧ log.map kind = actions.flatMap sees := by
  obtain ⟨rfl, faithful⟩ := whole
  induction actions generalizing first with
  | nil => exact ⟨[], .refl _, rfl⟩
  | cons action actions ih =>
      obtain ⟨log, explained, kinds⟩ := each first action faithful.1
      obtain ⟨later, laterExplained, laterKinds⟩ := ih faithful.2
      exact ⟨log ++ later, explained.trans laterExplained, by
        rw [List.map_append, kinds, laterKinds, List.flatMap_cons]⟩

/-- What every action keeps of the state together with a value that is computed from the
record. -/
theorem tracks {M : Type w} (explained : recorder.Explains first second actions)
    (track : M → A → M) (Holds : M → S → Prop) (value : M) (start : Holds value first)
    (each : ∀ value state, ∀ action ∈ actions, recorder.Truthful state action →
      Holds value state → Holds (track value action) (recorder.act state action)) :
    Holds (actions.foldl track value) second := by
  obtain ⟨rfl, faithful⟩ := explained
  induction actions generalizing first value with
  | nil => exact start
  | cons action actions ih =>
      exact ih _ (each value first action (by simp) faithful.1 start) (fun value state later member =>
        each value state later (by simp [member])) faithful.2

theorem keeps (explained : recorder.Explains first second actions) (Holds : S → Prop)
    (start : Holds first) (each : ∀ state action, recorder.Truthful state action → Holds state →
      Holds (recorder.act state action)) : Holds second :=
  explained.tracks (fun (_ : Unit) _ => ()) (fun _ => Holds) () start
    fun _ state action _ => each state action

end Explains

end Recorder

end AxiTestbench.Lib
