import AxiTestbench.Fabric.Twin

/-!
# Reset

A reset cycle erases what the fabric has seen.  From the first cycle without reset
on, the fabric cannot be told from a new one with the same stall generator and
device contents.  Further reset cycles change nothing; in particular the devices are
reset only when reset is entered, whereas a new fabric that enters reset resets them
once more.
-/

namespace AxiTestbench

open Lib Outcome

variable {c : Config} {W : Type}

/-! ## Observations -/

/-- Calls of the virtual functions of the devices. -/
def Event.isCall : Event c → Bool
  | .deviceWrite _ _ | .deviceRead _ _ | .resetDevices => true
  | _ => false

/-- What can be seen of the fabric in one cycle. -/
structure Observation (c : Config) where
  outputs : c.Outputs
  calls : List (Event c)
  exitCompleted : Bool
  exitCode : UInt32
  fault : Option Fault

/-- A cycle in which nothing happens. -/
def Observation.quiet : Observation c where
  outputs := fun _ => {}
  calls := []
  exitCompleted := false
  exitCode := 0
  fault := none

namespace AxiFabric

/-- The observation of a cycle that leads from `driven` to `after`. -/
def observation (driven after : AxiFabric c W) (fault : Option Fault) : Observation c where
  outputs := driven.outputs
  calls := (after.trace.drop driven.trace.length).filter Event.isCall
  exitCompleted := after.exitCompleted
  exitCode := after.exitCode
  fault := fault.map Fault.timeless

/-- The observations of a run; it ends at the first exception. -/
def observe (env : FabricEnv W) : List (c.Inputs × Bool) → AxiFabric c W → List (Observation c)
  | [], _ => []
  | input :: rest, fabric =>
      let driven := drive input.2 fabric
      match commit env input.1 input.2 driven with
      | .ok after => observation driven after none :: observe env rest after
      | .error (fault, after) => [observation driven after (some fault)]

theorem Same.refl (fabric : AxiFabric c W) : fabric.Same fabric where
  ports _ := ⟨rfl, rfl, rfl, rfl, rfl, rfl, rfl, rfl⟩
  readRoutes := rfl
  writeRoutes := rfl
  monitors := rfl
  nextAwPort := rfl
  nextArPort := rfl
  randomState := rfl
  stall := rfl
  suppressRead := rfl
  exitCompleted := rfl
  exitCode := rfl
  world := rfl

theorem observation_congr {left right leftAfter rightAfter : AxiFabric c W}
    {fault other : Option Fault} (outputs : left.outputs = right.outputs)
    (trace : ∃ events, leftAfter.trace = left.trace ++ events ∧
      rightAfter.trace = right.trace ++ events)
    (exitCompleted : leftAfter.exitCompleted = rightAfter.exitCompleted)
    (exitCode : leftAfter.exitCode = rightAfter.exitCode)
    (faults : fault.map Fault.timeless = other.map Fault.timeless) :
    observation left leftAfter fault = observation right rightAfter other := by
  obtain ⟨events, leftEq, rightEq⟩ := trace
  simp only [observation, outputs, leftEq, rightEq, List.drop_left, exitCompleted, exitCode, faults]

/-! ## The reset branch of `commit` -/

/-- `reset_state` forgets everything in which two fabrics may differ, apart from the
stall generator and the devices. -/
theorem resetState_same {left right : AxiFabric c W}
    (randomState : left.randomState = right.randomState) (stall : left.stall = right.stall)
    (world : left.world = right.world) :
    (resetState left).Same (resetState right) where
  ports _ := ⟨rfl, rfl, rfl, rfl, rfl, rfl, rfl, rfl⟩
  readRoutes := rfl
  writeRoutes := rfl
  monitors := rfl
  nextAwPort := rfl
  nextArPort := rfl
  randomState
  stall
  suppressRead := rfl
  exitCompleted := rfl
  exitCode := rfl
  world

/-- A fabric that holds nothing. -/
def Cleared (fabric : AxiFabric c W) : Prop :=
  fabric.Same (.fresh c fabric.randomState fabric.stall fabric.world)

theorem resetState_cleared (fabric : AxiFabric c W) : (resetState fabric).Cleared where
  ports _ := ⟨rfl, rfl, rfl, rfl, rfl, rfl, rfl, rfl⟩
  readRoutes := rfl
  writeRoutes := rfl
  monitors := rfl
  nextAwPort := rfl
  nextArPort := rfl
  randomState := rfl
  stall := rfl
  suppressRead := rfl
  exitCompleted := rfl
  exitCode := rfl
  world := rfl

theorem commitReset_same (env : FabricEnv W) {left right : AxiFabric c W} (same : left.Same right)
    (flags : left.wasReset = right.wasReset) :
    (commitReset env left).Same (commitReset env right) ∧
      (commitReset env left).wasReset = (commitReset env right).wasReset ∧
      ∃ events, (commitReset env left).trace = left.trace ++ events ∧
        (commitReset env right).trace = right.trace ++ events := by
  have cleared := resetState_same same.randomState same.stall same.world
  simp only [commitReset, flags]
  cases right.wasReset with
  | true => exact ⟨{ same with }, rfl, [.tick], rfl, rfl⟩
  | false =>
      cases env.resetDevices with
      | true =>
          refine ⟨{ cleared with world := ?_ }, rfl, [.reset, .resetDevices, .tick], ?_, ?_⟩
          · exact congrArg (env.space.reset env.bank) same.world
          · simp [emit, resetState]
          · simp [emit, resetState]
      | false =>
          refine ⟨{ cleared with }, rfl, [.reset, .tick], ?_, ?_⟩
          · simp [emit, resetState]
          · simp [emit, resetState]

/-! ## Runs -/

/-- Fabrics that agree are observed alike, provided that a reset at the very start
finds both or neither of them in reset. -/
theorem observe_same (env : FabricEnv W) (cycles : List (c.Inputs × Bool))
    {left right : AxiFabric c W} (same : left.Same right)
    (flags : (∀ input ∈ cycles.head?, input.2 = false) ∨ left.wasReset = right.wasReset) :
    observe env cycles left = observe env cycles right := by
  induction cycles generalizing left right with
  | nil => rfl
  | cons input rest ih =>
      obtain ⟨inputs, resetActive⟩ := input
      obtain ⟨drivenSame, outputs⟩ := drive_same same resetActive
      simp only [observe]
      cases resetActive with
      | true =>
          have flags : left.wasReset = right.wasReset := by
            rcases flags with active | flags
            · exact absurd (active (inputs, true) rfl) (by simp)
            · exact flags
          obtain ⟨after, afterFlags, trace⟩ := commitReset_same env drivenSame
            (show (drive true left).wasReset = (drive true right).wasReset from flags)
          simp only [commit, if_true, pure, Except.pure]
          rw [ih after (.inr afterFlags), observation_congr outputs trace after.exitCompleted
            after.exitCode rfl]
      | false =>
          have together := commit_together env inputs drivenSame outputs
          revert together
          generalize commit env inputs false (drive false left) = leftOutcome
          generalize commit env inputs false (drive false right) = rightOutcome
          intro together
          cases together with
          | ok paired =>
              dsimp only
              rw [ih paired.toSame (.inr (paired.awake.1.trans paired.awake.2.symm)),
                observation_congr outputs paired.trace paired.exitCompleted paired.exitCode rfl]
          | @error thrown otherThrown related =>
              obtain ⟨fault, after⟩ := thrown
              obtain ⟨otherFault, otherAfter⟩ := otherThrown
              obtain ⟨alike, paired⟩ := related
              have faults : (some fault).map Fault.timeless =
                  (some otherFault).map Fault.timeless := congrArg some alike
              dsimp only
              rw [observation_congr outputs paired.trace paired.exitCompleted paired.exitCode faults]

/-- A fabric that is in reset holds nothing. -/
def Rested (fabric : AxiFabric c W) : Prop := fabric.wasReset = true → fabric.Cleared

theorem commitReset_cleared (env : FabricEnv W) {fabric : AxiFabric c W} (rested : fabric.Rested) :
    (commitReset env fabric).Cleared := by
  simp only [commitReset]
  split
  next inReset => exact { rested inReset with }
  next =>
    split
    · exact { resetState_cleared fabric with world := rfl }
    · exact { resetState_cleared fabric with }

/-- Whatever a cycle does, and also if it throws, the fabric is rested afterwards. -/
theorem cycleWith_rested (env : FabricEnv W) (input : c.Inputs × Bool) {fabric : AxiFabric c W}
    (rested : fabric.Rested) : Ends (cycleWith env fabric input) Rested fun _ => Rested := by
  obtain ⟨inputs, resetActive⟩ := input
  obtain ⟨outputs, random, driven⟩ := drive_eq resetActive fabric
  simp only [cycleWith]
  cases resetActive with
  | true =>
      have stillRested : (drive true fabric).Rested := fun inReset => { rested inReset with }
      exact fun _ => commitReset_cleared env stillRested
  | false =>
      -- An active cycle clears the flag before anything can throw.
      have together := commit_together env inputs (Same.refl (drive false fabric)) rfl
      cases outcome : commit env inputs false (drive false fabric) with
      | ok after =>
          rw [outcome] at together
          cases together with
          | ok paired =>
              intro inReset
              simp [paired.awake.1] at inReset
      | error thrown =>
          rw [outcome] at together
          cases together with
          | error related =>
              intro inReset
              simp [related.2.awake.1] at inReset

theorem persist_rested (env : FabricEnv W) (cycles : List (c.Inputs × Bool)) (random : UInt64)
    (stall : Stall) (world : W) : (persist env cycles (.fresh c random stall world)).Rested := by
  induction cycles using List.reverseRecOn with
  | nil =>
      intro inReset
      contradiction
  | append_singleton cycles input ih =>
      rw [persist_snoc]
      exact (cycleWith_rested env input ih).state_of_both

/-- A further reset cycle. -/
theorem commitReset_still (env : FabricEnv W) {fabric : AxiFabric c W}
    (inReset : fabric.wasReset = true) :
    commitReset env (drive true fabric) =
      { fabric with
        outputs := fun _ => {}
        cycle := fabric.cycle + 1
        trace := fabric.trace ++ [.tick] } := by
  obtain ⟨ports, outputs, readRoutes, writeRoutes, monitors, nextAwPort, nextArPort, cycle, random,
    stall, wasReset, suppressRead, exitCompleted, exitCode, world, past⟩ := fabric
  obtain rfl : wasReset = true := inReset
  rfl

/-- Further reset cycles change only the cycle counter. -/
theorem run_still (env : FabricEnv W) (still : List (c.Inputs × Bool)) {fabric : AxiFabric c W}
    (allReset : ∀ input ∈ still, input.2 = true) (inReset : fabric.wasReset = true)
    (blank : fabric.outputs = fun _ => {}) :
    ∃ cycle events, run env still fabric =
      .ok { fabric with cycle, trace := fabric.trace ++ events } := by
  induction still generalizing fabric with
  | nil => exact ⟨fabric.cycle, [], by rw [List.append_nil]; rfl⟩
  | cons input still ih =>
      obtain ⟨inputs, resetActive⟩ := input
      obtain rfl : resetActive = true := allReset (inputs, resetActive) (by simp)
      have one : cycleWith env fabric (inputs, true) =
          .ok { fabric with
            outputs := fun _ => {}
            cycle := fabric.cycle + 1
            trace := fabric.trace ++ [.tick] } := by
        rw [← commitReset_still env inReset]
        rfl
      obtain ⟨cycle, events, rest⟩ := @ih
        { fabric with
          outputs := fun _ => {}
          cycle := fabric.cycle + 1
          trace := fabric.trace ++ [.tick] }
        (fun other member => allReset other (by simp [member])) inReset rfl
      refine ⟨cycle, .tick :: events, ?_⟩
      rw [run, List.foldlM_cons, one]
      refine Eq.trans rest ?_
      simp [blank]

/-- Further reset cycles show nothing, and what follows them is observed as if they
had not been there. -/
theorem observe_still (env : FabricEnv W) (still later : List (c.Inputs × Bool))
    {fabric : AxiFabric c W} (allReset : ∀ input ∈ still, input.2 = true)
    (inReset : fabric.wasReset = true) (cleared : fabric.Cleared) :
    observe env (still ++ later) fabric =
      still.map (fun _ => Observation.quiet) ++ observe env later fabric := by
  induction still generalizing fabric with
  | nil => rfl
  | cons input still ih =>
      obtain ⟨inputs, resetActive⟩ := input
      obtain rfl : resetActive = true := allReset (inputs, resetActive) (by simp)
      have after := commitReset_still env inReset
      have rest := @ih (commitReset env (drive true fabric))
        (fun other member => allReset other (by simp [member]))
        (by rw [after]; exact inReset) (by rw [after]; exact { cleared with })
      have unchanged : observe env later (commitReset env (drive true fabric)) =
          observe env later fabric := by
        rw [after]
        exact observe_same env later { Same.refl fabric with } (.inr rfl)
      have quiet : observation (drive true fabric) (commitReset env (drive true fabric)) none =
          Observation.quiet := by
        rw [after]
        simp only [observation, drive, if_true, List.drop_left, cleared.exitCompleted,
          cleared.exitCode]
        rfl
      simp only [List.cons_append, observe, commit, if_true, pure, Except.pure, List.map_cons]
      rw [rest, unchanged, quiet]

end AxiFabric

/-- Reset erases the history of the fabric.  After a reset cycle in any state that a
run can leave behind, also one that goes on after exceptions, further reset cycles show
nothing and change only the cycle counter, and from the first cycle without reset on the
fabric is observed like a new one with the same stall generator and device contents. -/
theorem reset_erases_history (env : FabricEnv W) (cycles : List (c.Inputs × Bool))
    (random : UInt64) (stall : Stall) (world : W) (inputs : c.Inputs)
    (still later : List (c.Inputs × Bool)) (allReset : ∀ input ∈ still, input.2 = true)
    (resumes : ∀ input ∈ later.head?, input.2 = false) :
    let before := AxiFabric.persist env cycles (.fresh c random stall world)
    ∃ after, AxiFabric.cycleWith env before (inputs, true) = .ok after ∧
      after.randomState = before.randomState ∧ after.stall = before.stall ∧
      AxiFabric.observe env (still ++ later) after =
        still.map (fun _ => Observation.quiet) ++
          AxiFabric.observe env later
            (.fresh c after.randomState after.stall after.world) ∧
      ∃ cycle events, AxiFabric.run env still after =
        .ok { after with cycle, trace := after.trace ++ events } := by
  intro before
  have rested : (AxiFabric.drive true before).Rested := fun inReset =>
    { AxiFabric.persist_rested env cycles random stall world inReset with }
  have cleared := AxiFabric.commitReset_cleared env rested
  have kept : (AxiFabric.commitReset env (AxiFabric.drive true before)).randomState =
        before.randomState ∧
      (AxiFabric.commitReset env (AxiFabric.drive true before)).stall = before.stall ∧
      (AxiFabric.commitReset env (AxiFabric.drive true before)).wasReset = true ∧
      (AxiFabric.commitReset env (AxiFabric.drive true before)).outputs = fun _ => {} := by
    simp only [AxiFabric.commitReset]
    split
    · exact ⟨rfl, rfl, rfl, rfl⟩
    · split <;> exact ⟨rfl, rfl, rfl, rfl⟩
  obtain ⟨sameRandom, sameStall, inReset, blank⟩ := kept
  refine ⟨AxiFabric.commitReset env (AxiFabric.drive true before), rfl, sameRandom, sameStall, ?_,
    AxiFabric.run_still env still allReset inReset blank⟩
  rw [AxiFabric.observe_still env still later allReset inReset cleared,
    AxiFabric.observe_same env later cleared (.inl resumes)]

/-- A request for beats that are wider than the bus. -/
def readTooWide : Config.small.Inputs := fun _ =>
  { rReady := true, arValid := true, ar := { wordAt 0x1004 3 false with size := 7 } }

/-- A reset in the middle of a write and after an exception, two more reset cycles, then a
read. -/
theorem reset_erases_history_small :
    let cycles := [(readTooWide, false), (writeWord 0x1004 3 false 7, false)]
    let still := [(takeAll, true), (takeAll, true)]
    let later := [(readWord 0x1004 5 false, false), (takeAll, false)]
    let start : AxiFabric Config.small RamWorld := .fresh Config.small 1 .never smallWorld
    let before := AxiFabric.persist smallEnv cycles start
    (AxiFabric.run smallEnv cycles start).isOk = false ∧ before.idle = false ∧
      (∀ input ∈ still, input.2 = true) ∧ (∀ input ∈ later.head?, input.2 = false) ∧
      ∃ after, AxiFabric.cycleWith smallEnv before (takeAll, true) = .ok after ∧
        after.randomState = before.randomState ∧ after.stall = before.stall ∧
        AxiFabric.observe smallEnv (still ++ later) after =
          still.map (fun _ => Observation.quiet) ++
            AxiFabric.observe smallEnv later
              (.fresh Config.small after.randomState after.stall after.world) ∧
        ∃ cycle events, AxiFabric.run smallEnv still after =
          .ok { after with cycle, trace := after.trace ++ events } := by
  intro cycles still later start before
  have allReset : ∀ input ∈ still, input.2 = true := by simp [still]
  have resumes : ∀ input ∈ later.head?, input.2 = false := by simp [later]
  exact ⟨by decide +kernel, by decide +kernel, allReset, resumes,
    reset_erases_history smallEnv cycles 1 .never smallWorld takeAll still later allReset resumes⟩

/-- A device that counts how often it was reset and shows the count. -/
def countingBank : DeviceBank Nat where
  readImpl _ count _ enable := (count, .okay, enable.map fun _ => UInt8.ofNat count)
  writeImpl _ count _ _ _ := (count, .okay)
  supportsExclusive _ _ := false
  supportsBurst _ _ := true
  isExit _ _ := false
  exitCode _ _ := 0
  reset _ count := count + 1

def countingEnv : FabricEnv Nat where
  bank := countingBank
  space := smallEnv.space

/-- One more reset cycle after a reset: the new fabric resets the device again. -/
theorem reset_again_observed :
    let after := (AxiFabric.cycleWith countingEnv (.fresh Config.small 1 .never 0)
      (takeAll, true)).state
    let later := [(takeAll, true), (readWord 0x1004 5 false, false), (takeAll, false)]
    AxiFabric.observe countingEnv later after ≠
      AxiFabric.observe countingEnv later
        (.fresh Config.small after.randomState after.stall after.world) := by
  intro after later same
  have shown := congrArg
    (fun seen => seen.map fun cycle => (cycle.outputs ⟨0, by decide⟩).r.data ⟨0, by decide⟩) same
  exact absurd shown (by decide +kernel)

end AxiTestbench
