import Mathlib.Data.List.Basic
import Mathlib.Data.List.Induction
import Mathlib.Data.List.Nodup
import Mathlib.Logic.Function.Basic

/-!
# Terminals

`HostServices` puts the terminals behind its inputs into raw mode and restores them in its
destructor (`platform.cpp`).  Whether it restores them depends on how they were reached: several
descriptors may belong to one terminal.
-/

namespace AxiTestbench

/-- The settings of a terminal: what raw mode changes, and the other flags and characters. -/
structure Termios where
  canonical : Bool
  echo : Bool
  vmin : UInt8
  vtime : UInt8
  others : List UInt8
  deriving DecidableEq

def Termios.raw (mode : Termios) : Termios :=
  { mode with canonical := false, echo := false, vmin := 0, vtime := 0 }

@[simp] theorem Termios.raw_raw (mode : Termios) : mode.raw.raw = mode.raw := rfl

/-- What the system knows of descriptors: the terminal behind one, for `isatty` and `tcgetattr`,
and the terminals whose settings `tcsetattr` fails to change. -/
structure Kernel where
  terminal : (descriptor : Nat) → Option Nat
  rejects : (device : Nat) → Bool

def tcsetattr (kernel : Kernel) (modes : Nat → Termios) (descriptor : Nat) (mode : Termios) :
    Option (Nat → Termios) :=
  match kernel.terminal descriptor with
  | some device =>
      if kernel.rejects device then none else some (Function.update modes device mode)
  | none => none

/-- The settings of all terminals, and `HostServices::State::terminals`: the guarded descriptors
with the settings to restore. -/
structure Terminals where
  modes : Nat → Termios
  guarded : List (Nat × Termios) := []

namespace Terminals

/-- What `HostServices::State::open` does with the descriptor of an input. -/
def openInput (kernel : Kernel) (state : Terminals) (descriptor : Nat) : Terminals :=
  if state.guarded.any fun entry => entry.1 = descriptor then state
  else
    match kernel.terminal descriptor with
    | none => state
    | some device =>
        let original := state.modes device
        let guarded := state.guarded ++ [(descriptor, original)]
        match tcsetattr kernel state.modes descriptor original.raw with
        | some modes => { modes, guarded }
        | none => { state with guarded := guarded.dropLast }

def openInputs (kernel : Kernel) (modes : Nat → Termios) (descriptors : List Nat) : Terminals :=
  descriptors.foldl (openInput kernel) { modes }

/-- The destructor of `HostServices::State`. -/
def close (kernel : Kernel) (state : Terminals) : Nat → Termios :=
  state.guarded.foldl
    (fun modes entry => (tcsetattr kernel modes entry.1 entry.2).getD modes) state.modes

/-- The settings that were saved for one terminal. -/
def saved (kernel : Kernel) (device : Nat) (entries : List (Nat × Termios)) : List Termios :=
  (entries.filter fun entry => kernel.terminal entry.1 = some device).map Prod.snd

end Terminals

/-- The first descriptor of a terminal finds its own settings, every other one finds raw mode. -/
inductive Saves (original : Termios) : List Termios → Termios → Prop where
  | untouched : Saves original [] original
  | raw (count : Nat) :
      Saves original (original :: List.replicate count original.raw) original.raw

theorem Saves.again {original current : Termios} {entries : List Termios}
    (saves : Saves original entries current) :
    Saves original (entries ++ [current]) current.raw := by
  cases saves with
  | untouched => exact .raw 0
  | raw count =>
      have more : original :: List.replicate count original.raw ++ [original.raw] =
          original :: List.replicate (count + 1) original.raw := by
        rw [List.replicate_succ', List.cons_append]
      rw [more]
      exact .raw (count + 1)

/-- One terminal while inputs are opened. -/
structure Guards (kernel : Kernel) (modes : Nat → Termios) (device : Nat) (descriptors : List Nat)
    (state : Terminals) : Prop where
  nodup : (state.guarded.map Prod.fst).Nodup
  known : kernel.rejects device = false → ∀ descriptor, kernel.terminal descriptor = some device →
    (descriptor ∈ state.guarded.map Prod.fst ↔ descriptor ∈ descriptors)
  rejected : kernel.rejects device = true → Terminals.saved kernel device state.guarded = []
  saves : Saves (modes device) (Terminals.saved kernel device state.guarded) (state.modes device)

variable {kernel : Kernel} {modes : Nat → Termios} {device descriptor : Nat} {descriptors : List Nat}
  {state : Terminals}

namespace Terminals

theorem saved_append (entries more : List (Nat × Termios)) :
    saved kernel device (entries ++ more) =
      saved kernel device entries ++ saved kernel device more := by
  rw [saved, List.filter_append, List.map_append]
  rfl

theorem saved_single (original : Termios) :
    saved kernel device [(descriptor, original)] =
      if kernel.terminal descriptor = some device then [original] else [] := by
  rw [saved, List.filter_singleton]
  split <;> simp_all

/-- What opening does to the record. -/
inductive Opened (kernel : Kernel) (state : Terminals) (descriptor : Nat) : Terminals → Prop where
  | guarded (again : descriptor ∈ state.guarded.map Prod.fst) : Opened kernel state descriptor state
  | plain (none : kernel.terminal descriptor = none) : Opened kernel state descriptor state
  | rejected {device : Nat} (reaches : kernel.terminal descriptor = some device)
      (rejects : kernel.rejects device = true) : Opened kernel state descriptor state
  | raw {device : Nat} (reaches : kernel.terminal descriptor = some device)
      (accepts : kernel.rejects device = false) (new : descriptor ∉ state.guarded.map Prod.fst) :
      Opened kernel state descriptor
        { modes := Function.update state.modes device (state.modes device).raw
          guarded := state.guarded ++ [(descriptor, state.modes device)] }

theorem opened (kernel : Kernel) (state : Terminals) (descriptor : Nat) :
    Opened kernel state descriptor (state.openInput kernel descriptor) := by
  rw [openInput]
  have listed : (state.guarded.any fun entry => entry.1 = descriptor) = true ↔
      descriptor ∈ state.guarded.map Prod.fst := by
    simp
  split
  next again => exact .guarded (listed.mp again)
  next new =>
    cases reaches : kernel.terminal descriptor with
    | none => exact .plain reaches
    | some device =>
        simp only [tcsetattr, reaches]
        by_cases rejects : kernel.rejects device = true
        · rw [if_pos rejects]
          simp only [List.dropLast_concat]
          exact .rejected reaches rejects
        · rw [if_neg rejects]
          exact .raw reaches (Bool.eq_false_iff.mpr rejects) fun member => new (listed.mpr member)

end Terminals

theorem Guards.opened (guards : Guards kernel modes device descriptors state) {next : Terminals}
    (opened : Terminals.Opened kernel state descriptor next) :
    Guards kernel modes device (descriptors ++ [descriptor]) next := by
  -- A descriptor that does not reach the terminal is new to the list only.
  have elsewhere : kernel.terminal descriptor ≠ some device →
      ∀ other, kernel.terminal other = some device →
        (other ∈ descriptors ++ [descriptor] ↔ other ∈ descriptors) := by
    intro different other reaches
    have apart : other ≠ descriptor := fun same => different (same ▸ reaches)
    simp [apart]
  cases opened with
  | guarded again =>
      refine { guards with known := fun accepts other reaches => ?_ }
      rw [guards.known accepts other reaches, List.mem_append, List.mem_singleton]
      refine ⟨.inl, fun member => member.elim id ?_⟩
      rintro rfl
      exact (guards.known accepts other reaches).mp again
  | plain none =>
      refine { guards with known := fun accepts other reaches => ?_ }
      rw [elsewhere (by simp [none]) other reaches, guards.known accepts other reaches]
  | @rejected target reached rejects =>
      refine { guards with known := fun accepts other reaches => ?_ }
      have apart : target ≠ device := by
        rintro rfl
        rw [accepts] at rejects
        cases rejects
      rw [elsewhere (by simpa [reached] using apart) other reaches,
        guards.known accepts other reaches]
  | @raw target reached accepted new =>
      have nodup : ((state.guarded ++ [(descriptor, state.modes target)]).map Prod.fst).Nodup := by
        rw [List.map_append, List.map_singleton, ← List.concat_eq_append]
        exact guards.nodup.concat new
      by_cases here : target = device
      · subst here
        refine ⟨nodup, fun accepts other reaches => ?_, fun rejects => ?_, ?_⟩
        · simp only [List.map_append, List.map_singleton, List.mem_append, List.mem_singleton,
            guards.known accepts other reaches]
        · rw [accepted] at rejects
          cases rejects
        · simp only [Terminals.saved_append, Terminals.saved_single, reached, if_true,
            Function.update_self]
          exact guards.saves.again
      · have apart : kernel.terminal descriptor ≠ some device := by simpa [reached] using here
        have same : Terminals.saved kernel device
            (state.guarded ++ [(descriptor, state.modes target)]) =
              Terminals.saved kernel device state.guarded := by
          rw [Terminals.saved_append, Terminals.saved_single, if_neg apart, List.append_nil]
        refine ⟨nodup, fun accepts other reaches => ?_, fun rejects => ?_, ?_⟩
        · have different : other ≠ descriptor := fun same => apart (same ▸ reaches)
          rw [elsewhere apart other reaches, ← guards.known accepts other reaches]
          simp [different]
        · exact same.trans (guards.rejected rejects)
        · simp only [same, Function.update_of_ne (Ne.symm here)]
          exact guards.saves

theorem guards_openInputs (kernel : Kernel) (modes : Nat → Termios) (device : Nat)
    (descriptors : List Nat) :
    Guards kernel modes device descriptors (Terminals.openInputs kernel modes descriptors) := by
  induction descriptors using List.reverseRecOn with
  | nil => exact ⟨List.nodup_nil, by simp [Terminals.openInputs], fun _ => rfl, .untouched⟩
  | append_singleton descriptors descriptor ih =>
      rw [Terminals.openInputs, List.foldl_append]
      exact ih.opened (Terminals.opened kernel _ descriptor)

/-- The destructor leaves the settings that were saved last. -/
theorem Terminals.close_apply (accepts : kernel.rejects device = false)
    (entries : List (Nat × Termios)) (modes : Nat → Termios) :
    entries.foldl (fun modes entry => (tcsetattr kernel modes entry.1 entry.2).getD modes) modes
      device = (saved kernel device entries).getLastD (modes device) := by
  induction entries generalizing modes with
  | nil => rfl
  | cons entry entries ih =>
      obtain ⟨descriptor, original⟩ := entry
      rw [List.foldl_cons, ih, ← List.singleton_append, saved_append, saved_single, tcsetattr]
      cases reaches : kernel.terminal descriptor with
      | none => simp
      | some target =>
          by_cases here : target = device
          · subst here
            rw [if_pos rfl, List.singleton_append, List.getLastD_cons]
            simp [accepts]
          · have apart : some target ≠ some device := by simpa using here
            rw [if_neg apart, List.nil_append]
            by_cases rejects : kernel.rejects target = true
            · simp [rejects]
            · simp [rejects, Function.update_of_ne (Ne.symm here)]

theorem Terminals.close_rejected (rejects : kernel.rejects device = true)
    (entries : List (Nat × Termios)) (modes : Nat → Termios) :
    entries.foldl (fun modes entry => (tcsetattr kernel modes entry.1 entry.2).getD modes) modes
      device = modes device := by
  induction entries generalizing modes with
  | nil => rfl
  | cons entry entries ih =>
      rw [List.foldl_cons, ih, tcsetattr]
      split
      next target reaches =>
        by_cases here : target = device
        · simp [here, rejects]
        · by_cases other : kernel.rejects target = true
          · simp [other]
          · simp [other, Function.update_of_ne (Ne.symm here)]
      next => rfl

theorem length_le_one_iff {A : Type} {items : List A} (nodup : items.Nodup) :
    items.length ≤ 1 ↔ ∀ first ∈ items, ∀ second ∈ items, first = second := by
  match items, nodup with
  | [], _ => simp
  | [item], _ => simp
  | first :: second :: rest, nodup =>
      have different : first ≠ second := by
        rintro rfl
        exact (List.nodup_cons.mp nodup).1 List.mem_cons_self
      simp [different]

/-- All opened descriptors that reach the terminal are the same. -/
def SoleDescriptor (kernel : Kernel) (device : Nat) (descriptors : List Nat) : Prop :=
  ∀ first ∈ descriptors, ∀ second ∈ descriptors, kernel.terminal first = some device →
    kernel.terminal second = some device → first = second

theorem Guards.mem_iff (guards : Guards kernel modes device descriptors state)
    (accepts : kernel.rejects device = false) :
    descriptor ∈ (state.guarded.filter fun entry =>
        kernel.terminal entry.1 = some device).map Prod.fst ↔
      descriptor ∈ descriptors ∧ kernel.terminal descriptor = some device := by
  constructor
  · intro member
    obtain ⟨entry, kept, rfl⟩ := List.mem_map.mp member
    obtain ⟨listed, reaches⟩ := List.mem_filter.mp kept
    have reaches : kernel.terminal entry.1 = some device := by simpa using reaches
    exact ⟨(guards.known accepts _ reaches).mp (List.mem_map_of_mem listed), reaches⟩
  · rintro ⟨member, reaches⟩
    obtain ⟨entry, listed, rfl⟩ := List.mem_map.mp ((guards.known accepts _ reaches).mpr member)
    exact List.mem_map_of_mem (List.mem_filter.mpr ⟨listed, by simpa using reaches⟩)

theorem Guards.sole_iff (guards : Guards kernel modes device descriptors state)
    (accepts : kernel.rejects device = false) :
    SoleDescriptor kernel device descriptors ↔
      (Terminals.saved kernel device state.guarded).length ≤ 1 := by
  have nodup : ((state.guarded.filter fun entry =>
      kernel.terminal entry.1 = some device).map Prod.fst).Nodup :=
    guards.nodup.sublist (List.filter_sublist.map Prod.fst)
  have short := length_le_one_iff nodup
  rw [List.length_map] at short
  rw [Terminals.saved, List.length_map, short]
  simp only [guards.mem_iff accepts]
  exact ⟨fun sole first one second two => sole first one.1 second two.1 one.2 two.2,
    fun sole first one second two reach again => sole first ⟨one, reach⟩ second ⟨two, again⟩⟩

/-- The destructor and the terminals of the user.  While an input is open its terminal is in raw
mode.  In the end a terminal has its settings again exactly if it never took others, or raw mode
is what it had, or only one descriptor of it was opened: they are restored in the order of the
openings, so with two descriptors the later one leaves raw mode behind. -/
theorem terminals_restored_iff (kernel : Kernel) (modes : Nat → Termios) (descriptors : List Nat)
    (device : Nat) :
    let opened := Terminals.openInputs kernel modes descriptors
    (∀ descriptor ∈ descriptors, kernel.terminal descriptor = some device →
      kernel.rejects device = false → opened.modes device = (modes device).raw) ∧
    (opened.close kernel device = modes device ↔ kernel.rejects device = true ∨
      (modes device).raw = modes device ∨ SoleDescriptor kernel device descriptors) := by
  intro opened
  have guards : Guards kernel modes device descriptors opened := guards_openInputs _ _ _ _
  constructor
  · intro descriptor member reaches accepts
    have listed := (guards.mem_iff accepts).mpr ⟨member, reaches⟩
    have some : Terminals.saved kernel device opened.guarded ≠ [] := by
      intro none
      rw [Terminals.saved, List.map_eq_nil_iff] at none
      simp [none] at listed
    have saves := guards.saves
    generalize Terminals.saved kernel device opened.guarded = entries at saves some
    generalize opened.modes device = current at saves ⊢
    cases saves with
    | untouched => exact absurd rfl some
    | raw count => rfl
  · cases rejects : kernel.rejects device with
    | true =>
        have saves := guards.saves
        rw [guards.rejected rejects] at saves
        rw [Terminals.close, Terminals.close_rejected rejects]
        generalize opened.modes device = current at saves ⊢
        cases saves with
        | untouched => simp
    | false =>
        rw [Terminals.close, Terminals.close_apply rejects, guards.sole_iff rejects]
        have saves := guards.saves
        generalize Terminals.saved kernel device opened.guarded = entries at saves ⊢
        generalize opened.modes device = current at saves ⊢
        cases saves with
        | untouched => simp
        | raw count =>
            cases count with
            | zero => simp
            | succ count =>
                have last : (modes device :: List.replicate (count + 1) (modes device).raw).getLastD
                    (modes device).raw = (modes device).raw := by
                  rw [List.replicate_succ', ← List.cons_append, List.getLastD_concat]
                rw [last]
                simp

end AxiTestbench
