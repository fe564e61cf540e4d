import AxiTestbench.Fabric.Step
import AxiTestbench.Lib.ShiftXor

/-!
# The stall generator

`allow_ready` draws from a xorshift generator.  Its step is a bijection that fixes zero, and
`set_seed` never stores zero, so the generator does not reach the one state in which it would
refuse every request.
-/

namespace AxiTestbench

open Lib Outcome

variable {c : Config} {W : Type}

/-- The three shifts of `allow_ready`. -/
def xorshift (random : UInt64) : UInt64 :=
  let random := random ^^^ (random <<< 13)
  let random := random ^^^ (random >>> 7)
  random ^^^ (random <<< 17)

theorem allowReady_below (threshold random : UInt64) :
    allowReady (.below threshold) random =
      (decide (xorshift random ≥ threshold), xorshift random) := rfl

theorem xorshift_injective : Function.Injective xorshift := by
  intro left right same
  have last := injective_xor_shiftLeft (by decide : 0 < 17) (congrArg UInt64.toBitVec same)
  have middle := injective_xor_shiftRight (by decide : 0 < 7) last
  exact UInt64.toBitVec_inj.mp (injective_xor_shiftLeft (by decide : 0 < 13) middle)

theorem xorshift_bijective : Function.Bijective xorshift := by
  have finite : Finite UInt64 :=
    Finite.of_injective UInt64.toFin fun _ _ same => UInt64.toFin_inj.mp same
  exact Finite.injective_iff_bijective.mp xorshift_injective

@[simp] theorem xorshift_zero : xorshift 0 = 0 := by decide

theorem xorshift_eq_zero_iff {random : UInt64} : xorshift random = 0 ↔ random = 0 :=
  ⟨fun zero => xorshift_injective (zero.trans xorshift_zero.symm), fun zero => zero ▸ xorshift_zero⟩

/-- The generator after one draw. -/
def draw (random : UInt64) (stall : Stall) : UInt64 := (allowReady stall random).2

theorem draw_ne_zero {random : UInt64} (alive : random ≠ 0) (stall : Stall) :
    draw random stall ≠ 0 := by
  cases stall with
  | never | always => exact alive
  | below threshold => exact fun zero => alive (xorshift_eq_zero_iff.mp zero)

/-- The generator after draws under settings that may change in between. -/
def draws (random : UInt64) (stalls : List Stall) : UInt64 := stalls.foldl draw random

theorem draws_ne_zero {random : UInt64} (alive : random ≠ 0) (stalls : List Stall) :
    draws random stalls ≠ 0 := by
  induction stalls generalizing random with
  | nil => exact alive
  | cons stall stalls ih => exact ih (draw_ne_zero alive stall)

namespace AxiFabric

def setSeed (fabric : AxiFabric c W) (seed : UInt64) : AxiFabric c W :=
  { fabric with randomState := if seed = 0 then 0x9e3779b97f4a7c15 else seed }

theorem setSeed_ne_zero (fabric : AxiFabric c W) (seed : UInt64) :
    (fabric.setSeed seed).randomState ≠ 0 := by
  change (if seed = 0 then 0x9e3779b97f4a7c15 else seed) ≠ 0
  split
  next => decide
  next nonzero => exact nonzero

/-! ## Runs of the fabric -/

theorem drivePort_alive {random : UInt64} (alive : random ≠ 0) (state : PortState c)
    (stall : Stall) : (drivePort state stall random).2 ≠ 0 := by
  have one : ∀ {random : UInt64} (full : Bool), random ≠ 0 →
      (readyUnlessFull full stall random).2 ≠ 0 := by
    intro random full alive
    rw [readyUnlessFull]
    split
    · exact alive
    · exact draw_ne_zero alive stall
  exact one _ (one _ (one _ alive))

theorem drive_alive {fabric : AxiFabric c W} (alive : fabric.randomState ≠ 0)
    (resetActive : Bool) : (drive resetActive fabric).randomState ≠ 0 := by
  rw [drive]
  split
  · exact alive
  · exact List.foldlRecOn (motive := fun state : AxiFabric c W => state.randomState ≠ 0) _ _ alive
      fun state alive port _ => drivePort_alive alive (state.ports port) state.stall

/-- Whether the code returns or throws, it has not drawn. -/
abbrev Undrawn (random : UInt64) (outcome : Outcome Fault (AxiFabric c W) (AxiFabric c W)) : Prop :=
  Ends outcome (fun after => after.randomState = random) fun _ after => after.randomState = random

theorem Undrawn.bind {random : UInt64}
    {outcome : Outcome Fault (AxiFabric c W) (AxiFabric c W)}
    {next : AxiFabric c W → Outcome Fault (AxiFabric c W) (AxiFabric c W)}
    (first : Undrawn random outcome)
    (second : ∀ state, state.randomState = random → Undrawn state.randomState (next state)) :
    Undrawn random (outcome >>= next) :=
  Ends.bind first fun state same => same ▸ second state same

section Undrawn

variable (env : FabricEnv W) (inputs : c.Inputs) (fabric : AxiFabric c W)

theorem undrawn_ports {step : AxiFabric c W → c.Port → Outcome Fault (AxiFabric c W) (AxiFabric c W)}
    (one : ∀ fabric port, Undrawn fabric.randomState (step fabric port)) :
    Undrawn fabric.randomState ((List.finRange c.numPorts).foldlM step fabric) :=
  ends_foldlM (fun _ state => state.randomState = fabric.randomState)
    (fun port _ state same => same ▸ one state port) _ fabric rfl

theorem checkStability_undrawn : Undrawn fabric.randomState (checkStability inputs fabric) := by
  refine undrawn_ports fabric fun fabric port => ?_
  refine ends_attempt_bind (fun _ _ => rfl) fun _ _ => ?_
  refine ends_attempt_bind (fun _ _ => rfl) fun _ _ => ?_
  exact ends_attempt_bind (fun _ _ => rfl) fun _ _ => rfl

theorem latchExit_undrawn (response : WriteResponsePayload) :
    (fabric.latchExit response).randomState = fabric.randomState := by
  rw [latchExit]
  split <;> rfl

theorem retireWrite_undrawn (port : c.Port) :
    Undrawn fabric.randomState (retireWrite inputs fabric port) := by
  refine ends_ite (fun _ => ?_) fun _ => rfl
  refine ends_attempt_bind (fun _ _ => rfl) fun response _ => ?_
  have latched := latchExit_undrawn fabric response
  exact ends_attempt_bind (fun _ _ => latched) fun _ _ => latched

theorem retireRead_undrawn (port : c.Port) :
    Undrawn fabric.randomState (retireRead inputs fabric port) :=
  ends_ite (fun _ => ends_attempt_bind (fun _ _ => rfl) fun _ _ => rfl) fun _ => rfl

theorem retireResponses_undrawn : Undrawn fabric.randomState (retireResponses inputs fabric) :=
  undrawn_ports fabric fun fabric port =>
    (retireWrite_undrawn inputs fabric port).bind fun state _ => retireRead_undrawn inputs state port

theorem acceptIngress_undrawn : Undrawn fabric.randomState (acceptIngress inputs fabric) := by
  refine undrawn_ports fabric fun fabric port => ?_
  have aw : ∀ fabric : AxiFabric c W, Undrawn fabric.randomState (acceptAw inputs fabric port) := by
    intro fabric
    refine ends_ite (fun _ => ?_) fun _ => rfl
    split <;> rfl
  have w : ∀ fabric : AxiFabric c W, Undrawn fabric.randomState (acceptW inputs fabric port) := by
    intro fabric
    refine ends_ite (fun _ => ?_) fun _ => rfl
    split <;> rfl
  have ar : ∀ fabric : AxiFabric c W, Undrawn fabric.randomState (acceptAr inputs fabric port) := by
    intro fabric
    refine ends_ite (fun _ => ?_) fun _ => rfl
    split <;> rfl
  exact (aw fabric).bind fun first _ => (w first).bind fun second _ => ar second

theorem arbitrateWrites_undrawn : Undrawn fabric.randomState (arbitrateWrites env fabric) := by
  refine ends_ite (fun _ => rfl) fun _ => ?_
  split
  · rfl
  · refine ends_attempt_bind (fun _ _ => rfl) fun _ _ => ?_
    refine ends_attempt_bind (fun _ _ => rfl) fun _ _ => ?_
    exact ends_attempt_bind (fun _ _ => rfl) fun _ _ => rfl

theorem arbitrateReads_undrawn : Undrawn fabric.randomState (arbitrateReads env fabric) := by
  refine ends_ite (fun _ => rfl) fun _ => ?_
  split
  · rfl
  · refine ends_attempt_bind (fun _ _ => rfl) fun _ _ => ?_
    refine ends_attempt_bind (fun _ _ => rfl) fun _ _ => ?_
    exact ends_attempt_bind (fun _ _ => rfl) fun _ _ => rfl

theorem arbitrateAddresses_undrawn :
    Undrawn fabric.randomState (arbitrateAddresses env fabric) :=
  (arbitrateWrites_undrawn env fabric).bind fun granted _ => arbitrateReads_undrawn env granted

theorem reserve_undrawn (route : ReadRoute c) :
    Undrawn fabric.randomState (reserve fabric route) := by
  refine ends_ite (fun _ => ?_) fun _ => rfl
  split <;> rfl

theorem processReadBeat_undrawn : Undrawn fabric.randomState (processReadBeat env fabric) := by
  refine ends_ite (fun _ => rfl) fun _ => ends_attempt_bind (fun _ _ => rfl) fun route _ => ?_
  refine ends_ite (fun _ => rfl) fun _ => ends_attempt_bind (fun _ _ => rfl) fun cursor _ => ?_
  refine (reserve_undrawn fabric route).bind fun reserved _ => ?_
  refine ends_attempt_bind (fun _ _ => rfl) fun access _ => ?_
  simp only
  split
  · exact ends_attempt_bind (fun _ _ => rfl) fun _ _ => rfl
  · rfl

theorem completeWriteRoute_undrawn (route : WriteRoute c) :
    Undrawn fabric.randomState (completeWriteRoute fabric route) :=
  ends_attempt_bind (fun _ _ => rfl) fun _ _ => rfl

theorem processWriteCommit_undrawn (route : WriteRoute c) (cursor : BurstCursor c.dataBytes) :
    Undrawn fabric.randomState (processWriteCommit env fabric route cursor) := by
  refine ends_ite (fun _ => rfl) fun _ => ends_ite (fun _ => ?_) fun _ => ?_
  · refine ends_attempt_bind (fun _ _ => rfl) fun access _ => ?_
    exact completeWriteRoute_undrawn (applyAccess fabric route access) _
  · split
    · exact completeWriteRoute_undrawn { fabric with writeRoutes := _ } _
    · refine ends_attempt_bind (fun _ _ => rfl) fun pair _ => ?_
      refine ends_attempt_bind (fun _ _ => rfl) fun access _ => ends_ite (fun _ => ?_) fun _ => rfl
      exact completeWriteRoute_undrawn (applyAccess fabric route _) _

theorem processWriteBeat_undrawn : Undrawn fabric.randomState (processWriteBeat env fabric) := by
  simp only [processWriteBeat]
  refine ends_ite (fun _ => rfl) fun _ => ends_attempt_bind (fun _ _ => rfl) fun route _ => ?_
  refine ends_attempt_bind (fun _ _ => rfl) fun cursor _ => ?_
  refine ends_ite (fun _ => processWriteCommit_undrawn env fabric route cursor) fun _ => ?_
  refine ends_ite (fun _ => rfl) fun _ => ends_attempt_bind (fun _ _ => rfl) fun beat _ => ?_
  refine ends_ite (fun _ => rfl) fun _ => ends_attempt_bind (fun _ _ => rfl) fun lanes _ => ?_
  refine ends_ite (fun _ => rfl) fun _ => ?_
  split
  · refine ends_attempt_bind (fun _ _ => rfl) fun w _ => ends_ite (fun _ => ?_) fun _ => rfl
    exact processWriteCommit_undrawn env
      { fabric.setPort route.port _ with writeRoutes := _, trace := _ } _ cursor
  · rfl

theorem commit_undrawn (resetActive : Bool) :
    Undrawn fabric.randomState (commit env inputs resetActive fabric) := by
  refine ends_ite (fun _ => ?_) fun _ => ?_
  · simp only [ends_pure, commitReset]
    split
    · rfl
    · split <;> rfl
  refine (checkStability_undrawn inputs { fabric with wasReset := false }).bind fun stable _ => ?_
  refine (retireResponses_undrawn inputs stable).bind fun retired _ => ?_
  refine (acceptIngress_undrawn inputs retired).bind fun accepted _ => ?_
  refine (arbitrateAddresses_undrawn env accepted).bind fun granted _ => ?_
  refine (processWriteBeat_undrawn env { granted with suppressRead := false }).bind
    fun written _ => ?_
  refine ends_ite (fun _ => rfl) fun _ => ?_
  refine (processReadBeat_undrawn env written).bind fun _ _ => ?_
  exact ends_pure.mpr rfl

end Undrawn

/-- No run brings the generator to zero. -/
theorem run_alive (env : FabricEnv W) (cycles : List (c.Inputs × Bool)) {fabric : AxiFabric c W}
    (alive : fabric.randomState ≠ 0) : (run env cycles fabric).state.randomState ≠ 0 := by
  refine Ends.state_of_both (?_ : Ends _ (fun after : AxiFabric c W => after.randomState ≠ 0)
    fun _ after => after.randomState ≠ 0)
  refine ends_foldlM (fun _ (after : AxiFabric c W) => after.randomState ≠ 0)
    (fun input _ before alive => ?_) _ _ alive
  have driven := drive_alive alive input.2
  exact (commit_undrawn env input.1 (drive input.2 before) input.2).mono
    (fun _ same => same ▸ driven) fun _ _ same => same ▸ driven

end AxiFabric

/-- The step of the stall generator is a bijection that fixes zero, the state from which every
draw refuses READY.  From no seed is that state ever reached, by draws of any number or in
a run of the fabric. -/
theorem stall_generator_never_stuck (env : FabricEnv W) (fabric : AxiFabric c W) (seed : UInt64) :
    Function.Bijective xorshift ∧ xorshift 0 = 0 ∧
      (∀ random, xorshift random = 0 → random = 0) ∧
      (∀ threshold random, allowReady (.below threshold) random =
        (decide (xorshift random ≥ threshold), xorshift random)) ∧
      (∀ threshold, 0 < threshold → allowReady (.below threshold) 0 = (false, 0)) ∧
      (∀ stalls, draws (fabric.setSeed seed).randomState stalls ≠ 0) ∧
      ∀ cycles, (AxiFabric.run env cycles (fabric.setSeed seed)).state.randomState ≠ 0 := by
  have alive := fabric.setSeed_ne_zero seed
  refine ⟨xorshift_bijective, xorshift_zero, fun random => xorshift_eq_zero_iff.mp,
    allowReady_below, fun threshold positive => ?_, draws_ne_zero alive,
    fun cycles => AxiFabric.run_alive env cycles alive⟩
  have refused : ¬(0 : UInt64) ≥ threshold := UInt64.not_le.mpr positive
  rw [allowReady_below, xorshift_zero, decide_eq_false refused]

end AxiTestbench
