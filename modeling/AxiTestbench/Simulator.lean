import Mathlib.Data.List.Basic
import Mathlib.Order.Interval.Finset.Nat

/-!
# The simulation loop

`run_simulation` of `sim_main.cpp` and the handlers of `main` around it.  The fabric, the
platform and the DUT decide what one cycle does; the loop decides which cycles run, and the
status of the process follows from how the loop is left.
-/

namespace AxiTestbench

namespace Simulator

def configurationError : Int := 2

def protocolError : Int := 3

def timeoutError : Int := 124

def sigint : Int := 2

/-- The value that `interrupted` takes when a signal arrives. -/
def handleInterrupt (_signal : Int) : Int := 1

structure Options where
  maxCycles : UInt64 := 10000000
  resetCycles : UInt64 := 5

/-- The exceptions that `main` tells apart. -/
inductive Failure where
  | protocol (what : String)
  | image (what : String)
  | other (what : String)
  deriving DecidableEq

/-- How the body of the loop ends: `exit_completed()` is false, it is true, or an exception
leaves the loop.  An exit handshake may come before the exception in one `commit`, so that
`exit_completed()` is true when the exception leaves. -/
inductive CycleOutcome where
  | quiet
  | exited (code : UInt32)
  | threw (failure : Failure) (completed : Bool)
  deriving DecidableEq

/-- What happens to the loop.  An event that arrives at `n` is seen by every test of the loop
after `n` cycles: `0` is before the loop and `n + 1` is during cycle `n`. -/
structure Environment where
  outcome : Nat → CycleOutcome
  interrupt : Option Nat := none
  finish : Option Nat := none

/-- Has the event arrived when `cycles` cycles have run? -/
def seen (event : Option Nat) (cycles : Nat) : Bool :=
  match event with
  | none => false
  | some arrival => arrival ≤ cycles

/-- The flag `interrupted`. -/
def Environment.interrupted (env : Environment) (cycles : Nat) : Int :=
  if seen env.interrupt cycles then handleInterrupt sigint else 0

/-- The `while` loop of `run_simulation` and what follows it, with the reset level of every
cycle that is begun.  `cycles` counts the cycles for the environment; the code has
`active_cycles` and `total_cycles`. -/
def runSimulation (options : Options) (env : Environment) :
    Nat → Nat → UInt64 → UInt64 → Option (Except Failure Int × List Bool)
  | 0, _, _, _ => none
  | fuel + 1, cycles, activeCycles, totalCycles =>
      if activeCycles < options.maxCycles ∧ env.interrupted cycles = 0 ∧
          seen env.finish cycles = false then
        let reset : Bool := totalCycles < options.resetCycles
        match env.outcome cycles with
        | .threw failure _ => some (.error failure, [reset])
        | .exited code => some (.ok (if code = 0 then 0 else 1), [reset])
        | .quiet =>
            (runSimulation options env fuel (cycles + 1)
              (if reset then activeCycles else activeCycles + 1) (totalCycles + 1)).map
                fun (result, later) => (result, reset :: later)
      else if env.interrupted cycles ≠ 0 then
        some (.ok (128 + env.interrupted cycles), [])
      else if seen env.finish cycles then
        some (.ok protocolError, [])
      else
        some (.ok timeoutError, [])

/-- The handlers of `main`. -/
def status : Except Failure Int → Int
  | .ok value => value
  | .error (.protocol _) => protocolError
  | .error (.image _) => configurationError
  | .error (.other _) => configurationError

/-! ## The documented table -/

section Documented

variable (options : Options) (env : Environment)

/-- The reset level of a cycle.  `total_cycles` is a 64-bit counter. -/
def Options.inReset (cycle : Nat) : Bool := cycle % 2 ^ 64 < options.resetCycles.toNat

/-- The number of active cycles among the first `cycles`. -/
def Options.activeBefore (cycles : Nat) : Nat :=
  (List.range cycles).countP fun cycle => !options.inReset cycle

/-- No end condition is seen by the loop after `cycles` cycles. -/
structure Environment.Passed (cycles : Nat) : Prop where
  active : options.activeBefore cycles < options.maxCycles.toNat
  interrupt : seen env.interrupt cycles = false
  finish : seen env.finish cycles = false

/-- The first `cycles` cycles run, and none of them ends the run. -/
def Environment.Running (cycles : Nat) : Prop :=
  ∀ cycle < cycles, env.Passed options cycle ∧ env.outcome cycle = .quiet

/-- The reset cycles of a run come first, and at most `maxCycles` others follow. -/
structure Counted (levels : List Bool) : Prop where
  reset_first : false ∈ levels →
    levels.takeWhile id = List.replicate options.resetCycles.toNat true
  reset_only : false ∉ levels → levels.length ≤ options.resetCycles.toNat
  allowed : levels.count false ≤ options.maxCycles.toNat

/-- The table of the exit statuses, for the result of a run and the reset levels of its
cycles.  Events that arrive during a cycle are acted upon after it, and a protocol error counts
even where the exit handshake has come first in its cycle. -/
structure Documented (result : Except Failure Int) (levels : List Bool) : Prop
    extends Counted options levels where
  exit_iff : status result = 0 ∨ status result = 1 ↔
    ∃ cycle code, env.Running options cycle ∧ env.Passed options cycle ∧
      env.outcome cycle = .exited code
  exit_code : ∀ cycle code, env.Running options cycle → env.Passed options cycle →
    env.outcome cycle = .exited code → status result = if code = 0 then 0 else 1
  protocol : ∀ cycle what completed, env.Running options cycle → env.Passed options cycle →
    env.outcome cycle = .threw (.protocol what) completed → status result = 3
  finish : ∀ cycle, env.Running options cycle → seen env.interrupt cycle = false →
    seen env.finish cycle = true → status result = 3
  interrupt : ∀ cycle, env.Running options cycle → seen env.interrupt cycle = true →
    status result = 130
  timeout_iff : status result = 124 ↔
    levels.count false = options.maxCycles.toNat ∧
      (∀ cycle < levels.length, env.outcome cycle = .quiet) ∧
      seen env.interrupt levels.length = false ∧ seen env.finish levels.length = false

end Documented

/-! ## Counting cycles -/

section Counting

variable (options : Options)

/-- The reset levels of the first `cycles` cycles. -/
def Options.levels (cycles : Nat) : List Bool := (List.range cycles).map options.inReset

theorem Options.levels_succ (cycles : Nat) :
    options.levels (cycles + 1) = options.levels cycles ++ [options.inReset cycles] := by
  simp [levels, List.range_succ]

theorem Options.activeBefore_succ (cycles : Nat) :
    options.activeBefore (cycles + 1) =
      options.activeBefore cycles + if options.inReset cycles then 0 else 1 := by
  simp only [activeBefore, List.range_succ, List.countP_append, List.countP_singleton]
  cases options.inReset cycles <;> rfl

theorem Options.count_levels (cycles : Nat) :
    (options.levels cycles).count false = options.activeBefore cycles := by
  induction cycles with
  | zero => rfl
  | succ cycles ih =>
      rw [levels_succ, List.count_append, ih, activeBefore_succ]
      cases options.inReset cycles <;> rfl

theorem Options.inReset_of_lt {cycle : Nat} (early : cycle < options.resetCycles.toNat) :
    options.inReset cycle = true := by
  have bounded := options.resetCycles.toNat_lt
  simp only [inReset, decide_eq_true_eq]
  omega

theorem Options.inReset_resetCycles : options.inReset options.resetCycles.toNat = false := by
  have bounded := options.resetCycles.toNat_lt
  simp only [inReset, decide_eq_false_iff_not]
  omega

/-- The reset cycles come first. -/
theorem Options.levels_eq {cycles : Nat} (late : options.resetCycles.toNat < cycles) :
    ∃ rest, options.levels cycles =
      List.replicate options.resetCycles.toNat true ++ false :: rest := by
  obtain ⟨more, rfl⟩ := Nat.exists_eq_add_of_lt late
  refine ⟨(List.range more).map fun cycle =>
    options.inReset (options.resetCycles.toNat + 1 + cycle), ?_⟩
  have split : options.resetCycles.toNat + more + 1 = options.resetCycles.toNat + 1 + more := by
    omega
  rw [levels, split, List.range_add, List.map_append, List.range_succ, List.map_append,
    List.map_singleton, inReset_resetCycles, List.map_map, List.append_assoc]
  have first : (List.range options.resetCycles.toNat).map options.inReset =
      List.replicate options.resetCycles.toNat true := by
    rw [List.eq_replicate_iff]
    refine ⟨by simp, fun level member => ?_⟩
    obtain ⟨cycle, inRange, rfl⟩ := List.mem_map.mp member
    exact options.inReset_of_lt (List.mem_range.mp inRange)
  rw [first]
  rfl

theorem Options.takeWhile_levels {cycles : Nat} (active : false ∈ options.levels cycles) :
    (options.levels cycles).takeWhile id = List.replicate options.resetCycles.toNat true := by
  have late : options.resetCycles.toNat < cycles := by
    obtain ⟨cycle, inRange, level⟩ := List.mem_map.mp active
    by_contra early
    have before : cycle < options.resetCycles.toNat := by
      have := List.mem_range.mp inRange
      omega
    rw [options.inReset_of_lt before] at level
    cases level
  obtain ⟨rest, equal⟩ := options.levels_eq late
  rw [equal, List.takeWhile_append_of_pos (by simp), List.takeWhile_cons_of_neg (by simp),
    List.append_nil]

theorem Options.length_levels_le {cycles : Nat} (inactive : false ∉ options.levels cycles) :
    (options.levels cycles).length ≤ options.resetCycles.toNat := by
  by_contra late
  rw [levels, List.length_map, List.length_range, not_le] at late
  obtain ⟨rest, equal⟩ := options.levels_eq late
  exact inactive (by simp [equal])

theorem Options.activeBefore_mono : Monotone options.activeBefore :=
  monotone_nat_of_le_succ fun cycles => by
    rw [activeBefore_succ]
    omega

/-- One of any `2 ^ 64` cycles is active. -/
theorem Options.le_activeBefore (periods : Nat) :
    periods ≤ options.activeBefore (periods * 2 ^ 64) := by
  induction periods with
  | zero => omega
  | succ periods ih =>
      have last : (periods + 1) * 2 ^ 64 = (periods * 2 ^ 64 + (2 ^ 64 - 1)) + 1 := by omega
      have active : options.inReset (periods * 2 ^ 64 + (2 ^ 64 - 1)) = false := by
        have bounded := options.resetCycles.toNat_lt
        simp only [inReset, decide_eq_false_iff_not]
        omega
      have grows := options.activeBefore_mono (Nat.le_add_right (periods * 2 ^ 64) (2 ^ 64 - 1))
      rw [last, activeBefore_succ, active]
      simp only [Bool.false_eq_true, if_false]
      omega

end Counting

/-! ## The loop follows the counts -/

section Loop

variable {options : Options} {env : Environment}

theorem Environment.interrupted_eq_zero_iff (cycles : Nat) :
    env.interrupted cycles = 0 ↔ seen env.interrupt cycles = false := by
  rw [interrupted]
  cases seen env.interrupt cycles <;> simp [handleInterrupt]

theorem Environment.Running.active_le {cycles : Nat} (running : env.Running options cycles) :
    options.activeBefore cycles ≤ options.maxCycles.toNat := by
  cases cycles with
  | zero => exact Nat.zero_le _
  | succ cycles =>
      have below := (running cycles cycles.lt_succ_self).1.active
      rw [Options.activeBefore_succ]
      split <;> omega

theorem Environment.Running.lt_maxCycles_iff {cycles : Nat} (running : env.Running options cycles) :
    UInt64.ofNat (options.activeBefore cycles) < options.maxCycles ↔
      options.activeBefore cycles < options.maxCycles.toNat := by
  have bounded := options.maxCycles.toNat_lt
  have le := running.active_le
  rw [UInt64.lt_iff_toNat_lt, UInt64.toNat_ofNat', Nat.mod_eq_of_lt (by omega)]

theorem Options.lt_resetCycles_eq (cycles : Nat) :
    decide (UInt64.ofNat cycles < options.resetCycles) = options.inReset cycles := by
  rw [inReset, decide_eq_decide, UInt64.lt_iff_toNat_lt, UInt64.toNat_ofNat']

/-- The condition of the loop. -/
theorem Environment.Running.passed_iff {cycles : Nat} (running : env.Running options cycles) :
    (UInt64.ofNat (options.activeBefore cycles) < options.maxCycles ∧
      env.interrupted cycles = 0 ∧ seen env.finish cycles = false) ↔
    env.Passed options cycles := by
  rw [running.lt_maxCycles_iff, env.interrupted_eq_zero_iff]
  exact ⟨fun ⟨active, interrupt, finish⟩ => ⟨active, interrupt, finish⟩,
    fun passed => ⟨passed.active, passed.interrupt, passed.finish⟩⟩

theorem Environment.Running.succ {cycles : Nat} (running : env.Running options cycles)
    (passed : env.Passed options cycles) (quiet : env.outcome cycles = .quiet) :
    env.Running options (cycles + 1) := by
  intro cycle earlier
  rcases Nat.lt_succ_iff_lt_or_eq.mp earlier with before | rfl
  · exact running cycle before
  · exact ⟨passed, quiet⟩

/-- After the cycles of a run that goes on, the loop has the counts of the cycles and has
logged their reset levels. -/
theorem Environment.Running.runSimulation_eq {cycles : Nat} (running : env.Running options cycles)
    (fuel : Nat) :
    runSimulation options env (fuel + cycles) 0 0 0 =
      (runSimulation options env fuel cycles (UInt64.ofNat (options.activeBefore cycles))
        (UInt64.ofNat cycles)).map fun (result, later) =>
          (result, options.levels cycles ++ later) := by
  induction cycles generalizing fuel with
  | zero =>
      have start : options.activeBefore 0 = 0 := rfl
      simp [start, Options.levels]
  | succ cycles ih =>
      obtain ⟨passed, quiet⟩ := running cycles cycles.lt_succ_self
      have earlier : env.Running options cycles := fun cycle before => running cycle (by omega)
      have counted : (if options.inReset cycles then UInt64.ofNat (options.activeBefore cycles)
          else UInt64.ofNat (options.activeBefore cycles) + 1) =
          UInt64.ofNat (options.activeBefore (cycles + 1)) := by
        rw [Options.activeBefore_succ]
        cases options.inReset cycles with
        | true => rfl
        | false => exact (UInt64.ofNat_add _ _).symm
      have total : UInt64.ofNat cycles + 1 = UInt64.ofNat (cycles + 1) :=
        (UInt64.ofNat_add _ _).symm
      rw [show fuel + (cycles + 1) = fuel + 1 + cycles by omega, ih earlier, runSimulation,
        if_pos (earlier.passed_iff.mpr passed), Options.lt_resetCycles_eq, quiet]
      simp only [counted, total, Option.map_map, Options.levels_succ]
      congr 1
      funext report
      simp

end Loop

/-- How the loop ends after `cycles` cycles, with the result and the logged levels. -/
inductive Ending (options : Options) (env : Environment) (cycles : Nat) :
    Except Failure Int → List Bool → Prop where
  | threw (failure : Failure) (completed : Bool) (passed : env.Passed options cycles)
      (outcome : env.outcome cycles = .threw failure completed) :
      Ending options env cycles (.error failure) (options.levels (cycles + 1))
  | exited (code : UInt32) (passed : env.Passed options cycles)
      (outcome : env.outcome cycles = .exited code) :
      Ending options env cycles (.ok (if code = 0 then 0 else 1)) (options.levels (cycles + 1))
  | interrupted (interrupt : seen env.interrupt cycles = true) :
      Ending options env cycles (.ok 129) (options.levels cycles)
  | finished (interrupt : seen env.interrupt cycles = false)
      (finish : seen env.finish cycles = true) :
      Ending options env cycles (.ok 3) (options.levels cycles)
  | timedOut (interrupt : seen env.interrupt cycles = false)
      (finish : seen env.finish cycles = false)
      (active : options.activeBefore cycles = options.maxCycles.toNat) :
      Ending options env cycles (.ok 124) (options.levels cycles)

/-- Every run ends. -/
theorem exists_stop (options : Options) (env : Environment) :
    ∃ cycles, env.Running options cycles ∧
      ¬(env.Passed options cycles ∧ env.outcome cycles = .quiet) := by
  by_contra! endless
  have running : ∀ cycles, env.Running options cycles := by
    intro cycles
    induction cycles with
    | zero => exact fun cycle impossible => absurd impossible (Nat.not_lt_zero cycle)
    | succ cycles ih =>
        obtain ⟨passed, quiet⟩ := endless cycles ih
        exact ih.succ passed quiet
  have counted := options.le_activeBefore (options.maxCycles.toNat + 1)
  have bounded := (running ((options.maxCycles.toNat + 1) * 2 ^ 64)).active_le
  omega

/-- The result of a run, given enough fuel. -/
theorem exists_ending (options : Options) (env : Environment) :
    ∃ cycles result levels, env.Running options cycles ∧ Ending options env cycles result levels ∧
      ∀ fuel, cycles < fuel → runSimulation options env fuel 0 0 0 = some (result, levels) := by
  obtain ⟨cycles, running, stop⟩ := exists_stop options env
  suffices ends : ∃ result levels,
      Ending options env cycles result (options.levels cycles ++ levels) ∧
      ∀ fuel, runSimulation options env (fuel + 1) cycles
        (UInt64.ofNat (options.activeBefore cycles)) (UInt64.ofNat cycles) =
          some (result, levels) by
    obtain ⟨result, levels, ending, last⟩ := ends
    refine ⟨cycles, result, _, running, ending, fun fuel enough => ?_⟩
    obtain ⟨more, rfl⟩ := Nat.exists_eq_add_of_lt enough
    rw [show cycles + more + 1 = more + 1 + cycles by omega, running.runSimulation_eq, last]
    rfl
  by_cases passed : env.Passed options cycles
  · cases outcome : env.outcome cycles with
    | quiet => exact absurd ⟨passed, outcome⟩ stop
    | exited code =>
        refine ⟨.ok (if code = 0 then 0 else 1), [options.inReset cycles], ?_, fun fuel => ?_⟩
        · exact options.levels_succ cycles ▸ .exited code passed outcome
        · rw [runSimulation, if_pos (running.passed_iff.mpr passed), Options.lt_resetCycles_eq,
            outcome]
    | threw failure completed =>
        refine ⟨.error failure, [options.inReset cycles], ?_, fun fuel => ?_⟩
        · exact options.levels_succ cycles ▸ .threw failure completed passed outcome
        · rw [runSimulation, if_pos (running.passed_iff.mpr passed), Options.lt_resetCycles_eq,
            outcome]
  · have left : ∀ fuel, runSimulation options env (fuel + 1) cycles
        (UInt64.ofNat (options.activeBefore cycles)) (UInt64.ofNat cycles) = _ := fun fuel => by
      rw [runSimulation, if_neg (mt running.passed_iff.mp passed)]
    by_cases interrupt : seen env.interrupt cycles = true
    · refine ⟨.ok 129, [], ?_, fun fuel => ?_⟩
      · exact (List.append_nil _).symm ▸ .interrupted interrupt
      · have flag : env.interrupted cycles = 1 := if_pos interrupt
        rw [left, flag]
        rfl
    · rw [Bool.not_eq_true] at interrupt
      have flag : ¬env.interrupted cycles ≠ 0 :=
        not_not.mpr (env.interrupted_eq_zero_iff cycles |>.mpr interrupt)
      by_cases finish : seen env.finish cycles = true
      · refine ⟨.ok 3, [], ?_, fun fuel => ?_⟩
        · exact (List.append_nil _).symm ▸ .finished interrupt finish
        · rw [left, if_neg flag, if_pos finish]
          rfl
      · have unfinished : seen env.finish cycles = false := Bool.not_eq_true _ ▸ finish
        refine ⟨.ok 124, [], ?_, fun fuel => ?_⟩
        · have full : ¬options.activeBefore cycles < options.maxCycles.toNat :=
            fun active => passed ⟨active, interrupt, unfinished⟩
          have le := running.active_le
          exact (List.append_nil _).symm ▸ .timedOut interrupt unfinished (by omega)
        · rw [left, if_neg flag, if_neg finish]
          rfl

/-- A run that goes on does not go past the cycle at which it ends. -/
theorem Environment.Running.le {options : Options} {env : Environment} {cycle cycles : Nat}
    (running : env.Running options cycle)
    (stop : ¬(env.Passed options cycles ∧ env.outcome cycles = .quiet)) : cycle ≤ cycles := by
  by_contra later
  exact stop (running cycles (by omega))

section Ending

variable {options : Options} {env : Environment} {cycles : Nat} {result : Except Failure Int}
  {levels : List Bool}

theorem Ending.stop (ending : Ending options env cycles result levels) :
    ¬(env.Passed options cycles ∧ env.outcome cycles = .quiet) := by
  rintro ⟨passed, quiet⟩
  cases ending with
  | threw _ _ _ outcome => cases quiet.symm.trans outcome
  | exited code _ outcome => cases quiet.symm.trans outcome
  | interrupted interrupt => cases passed.interrupt.symm.trans interrupt
  | finished _ finish => cases passed.finish.symm.trans finish
  | timedOut _ _ active => exact absurd passed.active (by omega)

/-- The cycle at which a run ends is determined. -/
theorem Ending.eq (ending : Ending options env cycles result levels)
    (running : env.Running options cycles) {cycle : Nat} (other : env.Running options cycle)
    (stop : ¬(env.Passed options cycle ∧ env.outcome cycle = .quiet)) : cycle = cycles :=
  Nat.le_antisymm (other.le ending.stop) (running.le stop)

theorem Ending.counted (ending : Ending options env cycles result levels)
    (running : env.Running options cycles) : Counted options levels := by
  suffices logged : ∃ count, levels = options.levels count ∧
      options.activeBefore count ≤ options.maxCycles.toNat by
    obtain ⟨count, rfl, allowed⟩ := logged
    exact ⟨options.takeWhile_levels, options.length_levels_le, options.count_levels count ▸ allowed⟩
  have begun : env.Passed options cycles →
      options.activeBefore (cycles + 1) ≤ options.maxCycles.toNat := by
    intro passed
    have below := passed.active
    rw [Options.activeBefore_succ]
    split <;> omega
  cases ending with
  | threw _ _ passed _ => exact ⟨cycles + 1, rfl, begun passed⟩
  | exited _ passed _ => exact ⟨cycles + 1, rfl, begun passed⟩
  | interrupted _ => exact ⟨cycles, rfl, running.active_le⟩
  | finished _ _ => exact ⟨cycles, rfl, running.active_le⟩
  | timedOut _ _ _ => exact ⟨cycles, rfl, running.active_le⟩

theorem status_error (failure : Failure) :
    status (.error failure) = 2 ∨ status (.error failure) = 3 := by
  cases failure with
  | protocol what => exact .inr rfl
  | image what => exact .inl rfl
  | other what => exact .inl rfl

/-- Where the loop goes on, the body of the cycle ends the run. -/
theorem Ending.of_passed (ending : Ending options env cycles result levels)
    (passed : env.Passed options cycles) :
    (∃ failure completed, env.outcome cycles = .threw failure completed ∧
        result = .error failure) ∨
      ∃ code, env.outcome cycles = .exited code ∧ result = .ok (if code = 0 then 0 else 1) := by
  cases ending with
  | threw failure completed _ outcome => exact .inl ⟨failure, completed, outcome, rfl⟩
  | exited code _ outcome => exact .inr ⟨code, outcome, rfl⟩
  | interrupted interrupt => cases passed.interrupt.symm.trans interrupt
  | finished _ finish => cases passed.finish.symm.trans finish
  | timedOut _ _ active => exact absurd passed.active (by omega)

theorem Ending.of_exited (ending : Ending options env cycles result levels)
    (passed : env.Passed options cycles) {code : UInt32}
    (outcome : env.outcome cycles = .exited code) :
    status result = if code = 0 then 0 else 1 := by
  rcases ending.of_passed passed with ⟨failure, completed, threw, -⟩ | ⟨found, exited, rfl⟩
  · cases outcome.symm.trans threw
  · cases outcome.symm.trans exited
    rfl

theorem Ending.of_interrupt (ending : Ending options env cycles result levels)
    (interrupt : seen env.interrupt cycles = true) : status result = 129 := by
  cases ending with
  | interrupted _ => rfl
  | threw _ _ passed _ => cases passed.interrupt.symm.trans interrupt
  | exited _ passed _ => cases passed.interrupt.symm.trans interrupt
  | finished quiet _ => cases quiet.symm.trans interrupt
  | timedOut quiet _ _ => cases quiet.symm.trans interrupt

theorem Ending.of_finish (ending : Ending options env cycles result levels)
    (quiet : seen env.interrupt cycles = false) (finish : seen env.finish cycles = true) :
    status result = 3 := by
  cases ending with
  | finished _ _ => rfl
  | threw _ _ passed _ => cases passed.finish.symm.trans finish
  | exited _ passed _ => cases passed.finish.symm.trans finish
  | interrupted interrupt => cases quiet.symm.trans interrupt
  | timedOut _ unfinished _ => cases unfinished.symm.trans finish

theorem Ending.exit_iff (ending : Ending options env cycles result levels)
    (running : env.Running options cycles) :
    status result = 0 ∨ status result = 1 ↔
      ∃ cycle code, env.Running options cycle ∧ env.Passed options cycle ∧
        env.outcome cycle = .exited code := by
  constructor
  · intro exit
    cases ending with
    | exited code passed outcome => exact ⟨cycles, code, running, passed, outcome⟩
    | threw failure _ _ _ =>
        have := status_error failure
        omega
    | interrupted _ => exact absurd exit (by decide)
    | finished _ _ => exact absurd exit (by decide)
    | timedOut _ _ _ => exact absurd exit (by decide)
  · rintro ⟨cycle, code, other, passed, outcome⟩
    obtain rfl := ending.eq running other (by simp [outcome])
    rw [ending.of_exited passed outcome]
    split
    · exact .inl rfl
    · exact .inr rfl

theorem Ending.timeout_iff (ending : Ending options env cycles result levels)
    (running : env.Running options cycles) :
    status result = 124 ↔ levels.count false = options.maxCycles.toNat ∧
      (∀ cycle < levels.length, env.outcome cycle = .quiet) ∧
      seen env.interrupt levels.length = false ∧ seen env.finish levels.length = false := by
  have length : ∀ count, (options.levels count).length = count := fun count => by
    simp [Options.levels]
  cases ending with
  | exited code _ outcome =>
      refine ⟨fun timeout => ?_, fun ⟨_, quiet, _⟩ => ?_⟩
      · rw [status] at timeout
        split at timeout <;> exact absurd timeout (by decide)
      · cases (quiet cycles (by rw [length]; omega)).symm.trans outcome
  | threw failure _ _ outcome =>
      refine ⟨fun timeout => ?_, fun ⟨_, quiet, _⟩ => ?_⟩
      · have := status_error failure
        omega
      · cases (quiet cycles (by rw [length]; omega)).symm.trans outcome
  | interrupted interrupt =>
      refine ⟨fun timeout => absurd timeout (by decide), fun ⟨_, _, never, _⟩ => ?_⟩
      rw [length, interrupt] at never
      cases never
  | finished _ finish =>
      refine ⟨fun timeout => absurd timeout (by decide), fun ⟨_, _, _, never⟩ => ?_⟩
      rw [length, finish] at never
      cases never
  | timedOut interrupt finish active =>
      refine ⟨fun _ => ?_, fun _ => rfl⟩
      rw [length, options.count_levels]
      exact ⟨active, fun cycle earlier => (running cycle earlier).2, interrupt, finish⟩

/-- The table holds of a run that is not ended by an interrupt. -/
theorem Ending.documented (ending : Ending options env cycles result levels)
    (running : env.Running options cycles) (quiet : seen env.interrupt cycles = false) :
    Documented options env result levels where
  toCounted := ending.counted running
  exit_iff := ending.exit_iff running
  timeout_iff := ending.timeout_iff running
  exit_code := by
    intro cycle code other passed outcome
    obtain rfl := ending.eq running other (by simp [outcome])
    exact ending.of_exited passed outcome
  protocol := by
    intro cycle what completed other passed outcome
    obtain rfl := ending.eq running other (by simp [outcome])
    rcases ending.of_passed passed with ⟨failure, _, threw, rfl⟩ | ⟨code, exited, -⟩
    · cases outcome.symm.trans threw
      rfl
    · cases outcome.symm.trans exited
  finish := by
    intro cycle other _ finish
    obtain rfl := ending.eq running other fun stop => by
      cases stop.1.finish.symm.trans finish
    exact ending.of_finish quiet finish
  interrupt := by
    intro cycle other interrupt
    obtain rfl := ending.eq running other fun stop => by
      cases stop.1.interrupt.symm.trans interrupt
    cases quiet.symm.trans interrupt

/-- An interrupt is seen at the end of the run if and only if it arrives while the run goes
on. -/
theorem Ending.interrupt_iff (ending : Ending options env cycles result levels)
    (running : env.Running options cycles) :
    seen env.interrupt cycles = true ↔
      ∃ arrival, env.interrupt = some arrival ∧ env.Running options arrival := by
  constructor
  · intro interrupt
    cases event : env.interrupt with
    | none =>
        rw [event] at interrupt
        cases interrupt
    | some arrival =>
        rw [event, seen, decide_eq_true_eq] at interrupt
        exact ⟨arrival, rfl, fun cycle earlier => running cycle (by omega)⟩
  · rintro ⟨arrival, event, goesOn⟩
    have le := goesOn.le ending.stop
    rw [event, seen]
    exact decide_eq_true le

/-- The table holds if and only if no interrupt arrives while the run goes on. -/
theorem Ending.documented_iff (ending : Ending options env cycles result levels)
    (running : env.Running options cycles) :
    Documented options env result levels ↔
      ∀ arrival, env.interrupt = some arrival → ¬env.Running options arrival := by
  constructor
  · intro documented arrival event goesOn
    have interrupt := (ending.interrupt_iff running).mpr ⟨arrival, event, goesOn⟩
    have documentedStatus := documented.interrupt cycles running interrupt
    rw [ending.of_interrupt interrupt] at documentedStatus
    exact absurd documentedStatus (by decide)
  · intro unsent
    refine ending.documented running (Bool.eq_false_iff.mpr fun interrupt => ?_)
    obtain ⟨arrival, event, goesOn⟩ := (ending.interrupt_iff running).mp interrupt
    exact unsent arrival event goesOn

end Ending

/-- A run ends, and its status is the documented one unless an interrupt arrives while the
run goes on: the status is then 129, since the handler stores 1 and not the number of the
signal. -/
theorem exit_status_documented_iff (options : Options) (env : Environment) :
    ∃ cycles result levels,
      (∀ fuel, cycles < fuel → runSimulation options env fuel 0 0 0 = some (result, levels)) ∧
      (Documented options env result levels ↔
        ∀ arrival, env.interrupt = some arrival → ¬env.Running options arrival) := by
  obtain ⟨cycles, result, levels, running, ending, runs⟩ := exists_ending options env
  exact ⟨cycles, result, levels, runs, ending.documented_iff running⟩

/-- An interrupt in the second reset cycle. -/
theorem interrupt_status_129 :
    runSimulation {} { outcome := fun _ => .quiet, interrupt := some 2 } 3 0 0 0 =
        some (.ok 129, [true, true]) ∧
      ¬Documented {} { outcome := fun _ => .quiet, interrupt := some 2 } (.ok 129)
        [true, true] := by
  refine ⟨by rfl, fun documented => ?_⟩
  have running : Environment.Running {} { outcome := fun _ => .quiet, interrupt := some 2 } 2 := by
    intro cycle earlier
    have cases : cycle = 0 ∨ cycle = 1 := by omega
    rcases cases with rfl | rfl
    · exact ⟨⟨by decide, rfl, rfl⟩, rfl⟩
    · exact ⟨⟨by decide, rfl, rfl⟩, rfl⟩
  exact absurd (documented.interrupt 2 running rfl) (by decide)

end Simulator

end AxiTestbench
