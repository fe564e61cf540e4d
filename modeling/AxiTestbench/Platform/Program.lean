import AxiTestbench.Fabric.Throttle
import AxiTestbench.Platform.CommandLine
import AxiTestbench.Platform.Launch

/-!
# The program

`main` and `run_simulation` of `sim_main.cpp` with the machine that they run.  The loop on the
machine refines the loop on its environment, so that every run of the program ends with one of
the statuses.
-/

namespace AxiTestbench

open Lib Outcome Simulator

variable {c : Config} {platform : Platform}

/-- What the design and the user do: the pins that are sampled in every cycle, and the events that
end a run. -/
structure Scenario (c : Config) where
  inputs : Nat → c.Inputs
  interrupt : Option Nat := none
  finish : Option Nat := none

/-- The flag `interrupted`. -/
def Scenario.interrupted (scenario : Scenario c) (cycles : Nat) : Int :=
  if seen scenario.interrupt cycles then handleInterrupt sigint else 0

/-- The clauses of `main` that catch what the fabric throws. -/
def failureOf (fault : Fault) : Failure :=
  if fault.isProtocol then .protocol fault.what else .other fault.what

namespace Machine

/-- The loop of `run_simulation` and what follows it. -/
def simulate (options : Options) (scenario : Scenario c) :
    Nat → Nat → UInt64 → UInt64 → Machine c platform →
      Option (Except Failure Int × Machine c platform)
  | 0, _, _, _, _ => none
  | fuel + 1, cycles, activeCycles, totalCycles, machine =>
      if activeCycles < options.maxCycles ∧ scenario.interrupted cycles = 0 ∧
          seen scenario.finish cycles = false then
        let reset : Bool := totalCycles < options.resetCycles
        match machine.cycle (scenario.inputs cycles, reset) with
        | .error (fault, machine) => some (.error (failureOf fault), machine)
        | .ok machine =>
            if machine.fabric.exitCompleted then
              some (.ok (if machine.fabric.exitCode = 0 then 0 else 1), machine)
            else
              simulate options scenario fuel (cycles + 1)
                (if reset then activeCycles else activeCycles + 1) (totalCycles + 1) machine
      else if scenario.interrupted cycles ≠ 0 then
        some (.ok (128 + scenario.interrupted cycles), machine)
      else if seen scenario.finish cycles then some (.ok Simulator.protocolError, machine)
      else some (.ok timeoutError, machine)

end Machine

/-! ## The machine as an environment -/

/-- What the body of the loop does, by the end of its cycle. -/
def cycleOutcome (result : Outcome Fault (Machine c platform) (Machine c platform)) : CycleOutcome :=
  match result with
  | .error (fault, machine) => .threw (failureOf fault) machine.fabric.exitCompleted
  | .ok machine => if machine.fabric.exitCompleted then .exited machine.fabric.exitCode else .quiet

namespace Scenario

variable (scenario : Scenario c) (options : Options)

/-- The first cycles of a run. -/
def cycles (count : Nat) : List (c.Inputs × Bool) :=
  (List.range count).map fun cycle => (scenario.inputs cycle, options.inReset cycle)

/-- The outcome of a cycle, if the cycles before it have returned. -/
def outcome (start : Machine c platform) (cycle : Nat) : CycleOutcome :=
  cycleOutcome (start.run (scenario.cycles options (cycle + 1)))

def environment (start : Machine c platform) : Environment where
  outcome := scenario.outcome options start
  interrupt := scenario.interrupt
  finish := scenario.finish

variable {scenario options} {start machine : Machine c platform}

theorem run_cycles_succ {count : Nat} (ran : start.run (scenario.cycles options count) = .ok machine) :
    start.run (scenario.cycles options (count + 1)) =
      machine.cycle (scenario.inputs count, options.inReset count) := by
  rw [cycles, List.range_succ, List.map_append, Machine.run, List.foldlM_append]
  rw [Machine.run, cycles] at ran
  rw [ran, ok_bind, List.map_singleton, List.foldlM_cons]
  simp

/-- From a state that the run reaches, the loops do the same. -/
theorem simulate_from (fuel count : Nat) (activeCycles : UInt64)
    (ran : start.run (scenario.cycles options count) = .ok machine) :
    machine.simulate options scenario fuel count activeCycles (.ofNat count) =
      (runSimulation options (scenario.environment options start) fuel count activeCycles
        (.ofNat count)).map fun (result, levels) =>
          (result, (start.run (scenario.cycles options (count + levels.length))).state) := by
  induction fuel generalizing count activeCycles machine with
  | zero => rfl
  | succ fuel ih =>
      have total : UInt64.ofNat count + 1 = UInt64.ofNat (count + 1) := (UInt64.ofNat_add _ _).symm
      have next := run_cycles_succ ran
      have outcome : (scenario.environment options start).outcome count =
          cycleOutcome (machine.cycle (scenario.inputs count, options.inReset count)) :=
        congrArg cycleOutcome next
      have interrupted : (scenario.environment options start).interrupted count =
          scenario.interrupted count := rfl
      have finish : (scenario.environment options start).finish = scenario.finish := rfl
      rw [Machine.simulate, runSimulation]
      simp only [interrupted, finish, Options.lt_resetCycles_eq, outcome]
      split
      next =>
        cases done : machine.cycle (scenario.inputs count, options.inReset count) with
        | error thrown =>
            obtain ⟨fault, after⟩ := thrown
            rw [done] at next
            simp only [cycleOutcome, Option.map_some, List.length_singleton, next, state_error]
        | ok after =>
            simp only [cycleOutcome]
            rw [done] at next
            split
            next exit =>
              simp only [Option.map_some, List.length_singleton, next, state_ok]
            next running =>
              simp only [total]
              rw [ih (count + 1) _ next, Option.map_map]
              congr 1
              funext report
              simp [Nat.add_assoc, Nat.add_comm 1]
      next =>
        split
        next => simp [ran]
        next => split <;> simp [ran]

end Scenario

/-! ## How a run ends -/

/-- The loop has run `count` cycles and nothing has ended it before the last of them. -/
structure Going (options : Options) (scenario : Scenario c) (start : Machine c platform)
    (count : Nat) (machine : Machine c platform) : Prop where
  ran : start.run (scenario.cycles options count) = .ok machine
  quiet : ∀ earlier < count, ∀ before,
    start.run (scenario.cycles options (earlier + 1)) = .ok before →
      before.fabric.exitCompleted = false
  unsent : ∀ earlier < count,
    seen scenario.interrupt earlier = false ∧ seen scenario.finish earlier = false
  allowed : options.activeBefore count ≤ options.maxCycles.toNat

/-- The loop begins another cycle. -/
structure Begins (options : Options) (scenario : Scenario c) (count : Nat) : Prop where
  unsent : seen scenario.interrupt count = false ∧ seen scenario.finish count = false
  allowed : options.activeBefore count < options.maxCycles.toNat

/-- The status of a run by what has ended it. -/
inductive Ends (options : Options) (scenario : Scenario c) (start : Machine c platform) :
    Int → Prop where
  | exited {count : Nat} {machine final : Machine c platform}
      (going : Going options scenario start count machine) (begins : Begins options scenario count)
      (returned : machine.cycle (scenario.inputs count, options.inReset count) = .ok final)
      (completed : final.fabric.exitCompleted = true) :
      Ends options scenario start (if final.fabric.exitCode = 0 then 0 else 1)
  | threw {count : Nat} {fault : Fault} {machine final : Machine c platform}
      (going : Going options scenario start count machine) (begins : Begins options scenario count)
      (thrown : machine.cycle (scenario.inputs count, options.inReset count) =
        .error (fault, final)) :
      Ends options scenario start (if fault.isProtocol then 3 else 2)
  | interrupted {count : Nat} {machine : Machine c platform}
      (going : Going options scenario start count machine)
      (sent : seen scenario.interrupt count = true) : Ends options scenario start 129
  | finished {count : Nat} {machine : Machine c platform}
      (going : Going options scenario start count machine)
      (unsent : seen scenario.interrupt count = false)
      (finish : seen scenario.finish count = true) : Ends options scenario start 3
  | timedOut {count : Nat} {machine : Machine c platform}
      (going : Going options scenario start count machine)
      (unsent : seen scenario.interrupt count = false ∧ seen scenario.finish count = false)
      (active : options.activeBefore count = options.maxCycles.toNat) :
      Ends options scenario start 124

section Ends

variable {options : Options} {scenario : Scenario c} {start machine : Machine c platform}

theorem cycleOutcome_eq_quiet {result : Outcome Fault (Machine c platform) (Machine c platform)}
    (quiet : cycleOutcome result = .quiet) :
    ∃ machine, result = .ok machine ∧ machine.fabric.exitCompleted = false := by
  rw [cycleOutcome.eq_def] at quiet
  split at quiet
  next => cases quiet
  next machine =>
    split at quiet
    next => cases quiet
    next running => exact ⟨machine, rfl, Bool.eq_false_iff.mpr running⟩

/-- While the loop on the environment goes on, the machine runs. -/
theorem going_of_running {count : Nat}
    (running : (scenario.environment options start).Running options count) :
    ∃ machine, Going options scenario start count machine := by
  have each : ∀ earlier < count, ∃ machine,
      start.run (scenario.cycles options (earlier + 1)) = .ok machine ∧
        machine.fabric.exitCompleted = false := fun earlier before =>
    cycleOutcome_eq_quiet (running earlier before).2
  have ran : ∃ machine, start.run (scenario.cycles options count) = .ok machine := by
    cases count with
    | zero => exact ⟨start, rfl⟩
    | succ count =>
        obtain ⟨machine, ran, -⟩ := each count count.lt_succ_self
        exact ⟨machine, ran⟩
  obtain ⟨machine, ran⟩ := ran
  refine ⟨machine, ran, fun earlier before other same => ?_, fun earlier before =>
    ⟨(running earlier before).1.interrupt, (running earlier before).1.finish⟩, running.active_le⟩
  obtain ⟨machine, here, quiet⟩ := each earlier before
  rw [here] at same
  cases same
  exact quiet

theorem ends_of_ending {count : Nat} {result : Except Failure Int} {levels : List Bool}
    (running : (scenario.environment options start).Running options count)
    (ending : Ending options (scenario.environment options start) count result levels) :
    Ends options scenario start (status result) := by
  obtain ⟨machine, going⟩ := going_of_running running
  have next := Scenario.run_cycles_succ going.ran
  have begins : (scenario.environment options start).Passed options count →
      Begins options scenario count :=
    fun passed => ⟨⟨passed.interrupt, passed.finish⟩, passed.active⟩
  have outcome : (scenario.environment options start).outcome count =
      cycleOutcome (machine.cycle (scenario.inputs count, options.inReset count)) :=
    congrArg cycleOutcome next
  cases ending with
  | threw failure completed passed threw =>
      rw [outcome] at threw
      cases done : machine.cycle (scenario.inputs count, options.inReset count) with
      | error thrown =>
          obtain ⟨fault, final⟩ := thrown
          rw [done] at threw
          cases threw
          have value : status (.error (failureOf fault)) = if fault.isProtocol then 3 else 2 := by
            rw [failureOf]
            split <;> rfl
          exact value ▸ .threw going (begins passed) done
      | ok final =>
          rw [done, cycleOutcome] at threw
          split at threw <;> cases threw
  | exited code passed exited =>
      rw [outcome] at exited
      cases done : machine.cycle (scenario.inputs count, options.inReset count) with
      | error thrown =>
          rw [done] at exited
          cases exited
      | ok final =>
          rw [done, cycleOutcome] at exited
          split at exited
          next completed =>
            cases exited
            exact .exited going (begins passed) done completed
          next => cases exited
  | interrupted sent => exact .interrupted going sent
  | finished unsent finish => exact .finished going unsent finish
  | timedOut unsent unfinished active => exact .timedOut going ⟨unsent, unfinished⟩ active

end Ends

/-- Two levels of the simulation loop.  The loop on the machine returns after the same cycles and
with the same result as the loop on the environment that the machine is for it, whatever the
fuel, and it leaves the machine as these cycles leave it. -/
theorem simulation_refines_loop (options : Options) (scenario : Scenario c)
    (start : Machine c platform) (fuel : Nat) :
    start.simulate options scenario fuel 0 0 0 =
      (runSimulation options (scenario.environment options start) fuel 0 0 0).map
        fun (result, levels) =>
          (result, (start.run (scenario.cycles options levels.length)).state) := by
  have zero : UInt64.ofNat 0 = 0 := rfl
  have ran : start.run (scenario.cycles options 0) = .ok start := rfl
  simpa only [zero, Nat.zero_add] using Scenario.simulate_from fuel 0 0 ran

/-- The table of the exit statuses for runs of the machine.  The loop ends, the machine has then
run the cycles whose reset levels are logged, and the table holds of the result if and only if no
interrupt arrives while the loop goes on. -/
theorem machine_status_documented (options : Options) (scenario : Scenario c)
    (start : Machine c platform) :
    ∃ bound result levels,
      (∀ fuel, bound < fuel → start.simulate options scenario fuel 0 0 0 =
        some (result, (start.run (scenario.cycles options levels.length)).state)) ∧
      (Documented options (scenario.environment options start) result levels ↔
        ∀ arrival, scenario.interrupt = some arrival →
          ¬(scenario.environment options start).Running options arrival) := by
  obtain ⟨count, result, levels, running, ending, runs⟩ :=
    exists_ending options (scenario.environment options start)
  refine ⟨count, result, levels, fun fuel enough => ?_, ending.documented_iff running⟩
  have ran : start.run (scenario.cycles options 0) = .ok start := rfl
  have loop := Scenario.simulate_from fuel 0 0 ran
  rw [show UInt64.ofNat 0 = 0 from rfl, runs fuel enough] at loop
  simpa only [Option.map_some, Nat.zero_add] using loop

/-- Enough fuel for a run, and its status. -/
theorem simulate_ends (options : Options) (scenario : Scenario c) (start : Machine c platform) :
    ∃ value, Ends options scenario start value ∧ ∃ bound, ∀ fuel, bound < fuel →
      (start.simulate options scenario fuel 0 0 0).map (fun run => status run.1) = some value := by
  obtain ⟨count, result, levels, running, ending, runs⟩ :=
    exists_ending options (scenario.environment options start)
  refine ⟨_, ends_of_ending running ending, count, fun fuel enough => ?_⟩
  have ran : start.run (scenario.cycles options 0) = .ok start := rfl
  have loop := Scenario.simulate_from fuel 0 0 ran
  rw [show UInt64.ofNat 0 = 0 from rfl, runs fuel enough] at loop
  rw [loop]
  rfl

/-! ## The program -/

open CommandLine

/-- What the program is built with and what it finds on the host. -/
structure Host (Probability : Type) where
  build : Build Probability
  files : HostFiles
  contents : ImageFiles
  /-- `set_stall_probability`, which refuses what is not finite. -/
  stall : Probability → Option Stall
  /-- Can the trace be opened? -/
  opensTrace : String → Bool
  /-- The constructor of `SidebandBinding`. -/
  binding : PlatformSpec → Board → Except PlatformError Unit

/-- What `run_simulation` has built before its loop. -/
structure Launched (c : Config) (Probability : Type) where
  options : CommandLine.Options Probability
  platform : Platform
  machine : Machine c platform

variable {Probability : Type}

/-- `run_simulation` up to its loop. -/
def prepare (c : Config) (host : Host Probability) (options : CommandLine.Options Probability)
    (spec : PlatformSpec) : Except LaunchError (Launched c Probability) :=
  match constructed : (DeviceRegistry.registered host.files).construct DeviceObject.hardware spec
      c.addressBits {} with
  | .error (fault, _) => .error (.config fault)
  | .ok (_, built) =>
      let sound := DeviceRegistry.sound_of_construct constructed
      let platform := built.platform DeviceObject.hardware sound
      match host.binding spec (DeviceObject.hardware.board built.objects) with
      | .error fault => .error (.config (.platform fault))
      | .ok () =>
          match platform.loadImages host.contents (built.states DeviceObject.hardware sound)
              built.images options.rawImages options.elves with
          | .error (fault, _) => .error fault
          | .ok plan =>
              match host.stall options.stallProbability with
              | none => .error (.config (.invalidArgument "stall probability must be in [0, 1]"))
              | some stall =>
                  match options.trace.filter fun path => !host.opensTrace path with
                  | some path =>
                      .error (.config (.runtimeError ("cannot open trace output: " ++ path)))
                  | none =>
                      .ok
                        { options
                          platform
                          machine :=
                            { fabric := (AxiFabric.fresh c 0x9e3779b97f4a7c15 stall
                                plan.world).setSeed options.seed } }

/-- `main` up to the loop; nothing is launched if help is asked for. -/
def launch (c : Config) (host : Host Probability) (spec : PlatformSpec) (arguments : List String) :
    Except LaunchError (Option (Launched c Probability)) :=
  match parseOptions host.build spec arguments with
  | .error fault => .error (.config fault)
  | .ok (options, spec) => if options.help then .ok none else (prepare c host options spec).map some

/-- The status of the process.  Every exception before the loop is a configuration error. -/
def program (c : Config) (host : Host Probability) (scenario : Scenario c) (spec : PlatformSpec)
    (arguments : List String) (fuel : Nat) : Option Int :=
  match launch c host spec arguments with
  | .error _ => some configurationError
  | .ok none => some 0
  | .ok (some launched) =>
      (launched.machine.simulate launched.options.toOptions scenario fuel 0 0 0).map
        fun run => status run.1

/-- The status of the process by how far `main` has come. -/
inductive ProgramEnds (c : Config) (host : Host Probability) (scenario : Scenario c)
    (spec : PlatformSpec) (arguments : List String) : Int → Prop where
  | refused {fault : LaunchError} (thrown : launch c host spec arguments = .error fault) :
      ProgramEnds c host scenario spec arguments 2
  | helped (help : launch c host spec arguments = .ok none) :
      ProgramEnds c host scenario spec arguments 0
  | ran {launched : Launched c Probability} {value : Int}
      (started : launch c host spec arguments = .ok (some launched))
      (ends : Ends launched.options.toOptions scenario launched.machine value) :
      ProgramEnds c host scenario spec arguments value

/-- The program always ends.  What is refused before the loop gives the status 2 and help gives 0;
otherwise the status tells how the first cycle that did not go on has ended: the exit code of the
guest, an exception, an interrupt, `$finish` or the limit of active cycles, of which the last is
never exceeded. -/
theorem program_status_exact (c : Config) (host : Host Probability) (scenario : Scenario c)
    (spec : PlatformSpec) (arguments : List String) :
    ∃ value, ProgramEnds c host scenario spec arguments value ∧ ∃ bound, ∀ fuel, bound < fuel →
      program c host scenario spec arguments fuel = some value := by
  cases started : launch c host spec arguments with
  | error fault => exact ⟨2, .refused started, 0, fun fuel _ => by rw [program, started]; rfl⟩
  | ok launched =>
      cases launched with
      | none => exact ⟨0, .helped started, 0, fun fuel _ => by rw [program, started]⟩
      | some launched =>
          obtain ⟨value, ends, bound, runs⟩ :=
            simulate_ends launched.options.toOptions scenario launched.machine
          exact ⟨value, .ran started ends, bound, fun fuel enough => by
            rw [program, started]
            exact runs fuel enough⟩

end AxiTestbench
