import AxiTestbench.Lib.Arithmetic
import AxiTestbench.Lib.Outcome

/-!
# Checked computations

A parser reads and checks; it throws at the first check that fails.  The rules
here turn a successful run into the conjunction of its checks, and show that a
class of exceptions cannot be thrown.
-/

namespace AxiTestbench.Lib

universe u

variable {ε α β : Type u}

/-- `if (bad) throw fault`. -/
def reject (bad : Prop) [Decidable bad] (fault : ε) : Except ε PUnit :=
  if bad then .error fault else .ok ⟨⟩

theorem bind_eq_ok_iff {first : Except ε α} {next : α → Except ε β} {result : β} :
    (first >>= next) = .ok result ↔ ∃ value, first = .ok value ∧ next value = .ok result := by
  cases first with
  | ok value => simp [bind, Except.bind]
  | error fault => simp [bind, Except.bind]

theorem pure_eq_ok_iff {value result : α} :
    (pure value : Except ε α) = .ok result ↔ result = value := by
  simp [pure, Except.pure, eq_comm]

theorem reject_eq_ok_iff {bad : Prop} [Decidable bad] {fault : ε} :
    reject bad fault = .ok ⟨⟩ ↔ ¬bad := by
  by_cases fails : bad <;> simp [reject, fails]

/-- A sequence succeeds when its check passes and its rest succeeds. -/
theorem reject_bind_eq_ok_iff {bad : Prop} [Decidable bad] {fault : ε} {next : PUnit → Except ε β}
    {result : β} : (reject bad fault >>= next) = .ok result ↔ ¬bad ∧ next ⟨⟩ = .ok result := by
  by_cases fails : bad <;> simp [reject, fails, bind, Except.bind]

theorem attempt_bind_eq_ok_iff {σ : Type u} {state : σ} {value : Except ε α}
    {next : α → Outcome ε σ β} {result : β} :
    (Outcome.attempt state value >>= next) = .ok result ↔
      ∃ found, value = .ok found ∧ next found = .ok result := by
  cases value with
  | ok found => simp [Outcome.attempt, bind, Except.bind]
  | error fault => simp [Outcome.attempt, bind, Except.bind]

theorem eq_ok_of_attempt {σ : Type u} {state : σ} {value : Except ε α} {found : α}
    (returned : Outcome.attempt state value = .ok found) : value = .ok found := by
  cases value with
  | ok other =>
      cases returned
      rfl
  | error fault => cases returned

/-- Comparing every element with those before it compares every pair. -/
theorem pairwise_iff_zipIdx_take {R : α → α → Prop} {items : List α} :
    (∀ pair ∈ items.zipIdx, ∀ earlier ∈ items.take pair.2, R earlier pair.1) ↔
      items.Pairwise R := by
  rw [List.pairwise_iff_getElem]
  constructor
  · intro compared first second firstLt secondLt ordered
    refine compared (items[second], second) (List.mk_mem_zipIdx_iff_getElem?.mpr
      (List.getElem?_eq_getElem secondLt)) _ ?_
    exact List.mem_take_iff_getElem.mpr ⟨first, by simp; omega, rfl⟩
  · rintro ordered ⟨later, index⟩ member earlier earlierMember
    obtain ⟨inside, rfl⟩ := List.getElem?_eq_some_iff.mp
      (List.mk_mem_zipIdx_iff_getElem?.mp member)
    obtain ⟨first, firstLt, rfl⟩ := List.mem_take_iff_getElem.mp earlierMember
    exact ordered first index (by omega) inside (by omega)

/-- A loop that collects results succeeds when each of its visits does. -/
theorem foldlM_collect_eq_ok_iff {ι : Type u} {visit : ι → Except ε (Option α)} {items : List ι}
    {good : ι → Prop} {value : ι → Option α}
    (visit_eq_ok_iff : ∀ item ∈ items, ∀ found, visit item = .ok found ↔
      good item ∧ found = value item) :
    ∀ {start result : List α},
      items.foldlM (fun collected item => do
        let found ← visit item
        return collected ++ found.toList) start = .ok result ↔
      (∀ item ∈ items, good item) ∧ result = start ++ items.filterMap value := by
  induction items with
  | nil => simp [pure_eq_ok_iff]
  | cons item items ih =>
      intro start result
      have rest := @ih fun other member => visit_eq_ok_iff other (List.mem_cons_of_mem _ member)
      have visited : ∀ next, (visit item >>= fun found => pure (start ++ found.toList)) = .ok next ↔
          good item ∧ next = start ++ (value item).toList := by
        intro next
        simp only [bind_eq_ok_iff, visit_eq_ok_iff item List.mem_cons_self, pure_eq_ok_iff]
        constructor
        · rintro ⟨_, ⟨itemGood, rfl⟩, rfl⟩
          exact ⟨itemGood, rfl⟩
        · rintro ⟨itemGood, rfl⟩
          exact ⟨_, ⟨itemGood, rfl⟩, rfl⟩
      have appended : (value item).toList ++ items.filterMap value =
          (item :: items).filterMap value := by
        cases found : value item <;> simp [found]
      rw [List.foldlM_cons, bind_eq_ok_iff, List.forall_mem_cons, ← appended, ← List.append_assoc]
      constructor
      · rintro ⟨next, here, collected⟩
        obtain ⟨itemGood, rfl⟩ := (visited next).mp here
        obtain ⟨restGood, result_eq⟩ := rest.mp collected
        exact ⟨⟨itemGood, restGood⟩, result_eq⟩
      · rintro ⟨⟨itemGood, restGood⟩, result_eq⟩
        exact ⟨_, (visited _).mpr ⟨itemGood, rfl⟩, rest.mpr ⟨restGood, result_eq⟩⟩

/-- A computation does not throw any of the given exceptions. -/
def Avoids (faults : ε → Prop) (computation : Except ε α) : Prop :=
  ∀ fault, computation = .error fault → ¬faults fault

namespace Avoids

variable {faults : ε → Prop}

theorem ok (value : α) : Avoids faults (.ok value) := fun _ impossible => nomatch impossible

theorem error {fault : ε} (allowed : ¬faults fault) :
    Avoids faults (.error fault : Except ε α) := by
  rintro _ ⟨⟩
  exact allowed

theorem reject {bad : Prop} [Decidable bad] {fault : ε} (allowed : ¬faults fault) :
    Avoids faults (reject bad fault) := by
  by_cases fails : bad
  · simpa [Lib.reject, fails] using Avoids.error allowed
  · simpa [Lib.reject, fails] using Avoids.ok (⟨⟩ : PUnit)

theorem bind {first : Except ε α} {next : α → Except ε β} (firstAvoids : Avoids faults first)
    (nextAvoids : ∀ value, first = .ok value → Avoids faults (next value)) :
    Avoids faults (first >>= next) := by
  cases first with
  | ok value => exact nextAvoids value rfl
  | error fault =>
      rintro _ ⟨⟩
      exact firstAvoids fault rfl

/-- Running a computation in a state throws what the computation throws, in that state. -/
theorem attempt {σ : Type u} {state : σ} {value : Except ε α} {thrown : ε × σ → Prop}
    (valueAvoids : Avoids (fun fault => thrown (fault, state)) value) :
    Avoids thrown (Outcome.attempt state value) := by
  cases value with
  | ok found => exact ok found
  | error fault => exact error (valueAvoids fault rfl)

/-- A loop avoids what each of its iterations avoids. -/
theorem foldlM {ι : Type u} {body : β → ι → Except ε β}
    (bodyAvoids : ∀ value item, Avoids faults (body value item)) (items : List ι) (start : β) :
    Avoids faults (items.foldlM body start) := by
  induction items generalizing start with
  | nil => exact .ok start
  | cons item items ih =>
      rw [List.foldlM_cons]
      exact (bodyAvoids start item).bind fun value _ => ih value

theorem forM {ε ι : Type} {faults : ε → Prop} {items : List ι} {check : ι → Except ε Unit}
    (checkAvoids : ∀ item ∈ items, Avoids faults (check item)) :
    Avoids faults (forM items check) := by
  intro fault failed
  obtain ⟨item, member, here⟩ := exists_of_forM_error failed
  exact checkAvoids item member fault here

end Avoids

end AxiTestbench.Lib
