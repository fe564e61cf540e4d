import Mathlib.Tactic.Simps.Basic
import AxiTestbench.Fabric.Replay
import AxiTestbench.Lib.Foresight

/-!
# The fabric against scripted devices

The fabric learns about the devices from the answers to its calls only.  Whatever the devices
are, and whatever else happens to them between two cycles, there are devices that merely read
their answers from a script, with which the fabric does the same.
-/

namespace AxiTestbench

open Lib Outcome

/-- What a device answers to a call, and the exit code that it shows after it. -/
structure Answer where
  response : Response
  data : List UInt8 := []
  exitCode : UInt32 := 0

/-- The answers to come, and the exit code that the last of the past ones has left. -/
abbrev Script := List Answer × UInt32

/-- What is fixed about the devices. -/
structure DeviceTraits where
  supportsExclusive : DeviceId → Bool
  supportsBurst : DeviceId → Bool
  isExit : DeviceId → Bool

variable {c : Config} {W : Type}

/-- The answers to the queries do not depend on the state of the devices. -/
structure DeviceBank.Has (bank : DeviceBank W) (traits : DeviceTraits) : Prop where
  exclusive : ∀ device world, bank.supportsExclusive device world = traits.supportsExclusive device
  burst : ∀ device world, bank.supportsBurst device world = traits.supportsBurst device
  exit : ∀ device world, bank.isExit device world = traits.isExit device

/-- Devices that read their answers from the script. -/
def scriptBank (traits : DeviceTraits) : DeviceBank Script where
  readImpl _ script _ enable :=
    match script.1 with
    | [] => (script, .slaveError, List.replicate enable.length 0)
    | answer :: rest => ((rest, answer.exitCode), answer.response, answer.data)
  writeImpl _ script _ _ _ :=
    match script.1 with
    | [] => (script, .slaveError)
    | answer :: rest => ((rest, answer.exitCode), answer.response)
  supportsExclusive device _ := traits.supportsExclusive device
  supportsBurst device _ := traits.supportsBurst device
  isExit device _ := traits.isExit device
  exitCode _ script := script.2
  reset _ script := script

/-- The scripted devices in the place of the others. -/
def FabricEnv.scripted (env : FabricEnv W) (traits : DeviceTraits) : FabricEnv Script where
  bank := scriptBank traits
  space := env.space
  resetDevices := false

/-- The same fabric in front of other devices. -/
@[simps -fullyApplied] def AxiFabric.recast {V : Type} (world : V) (fabric : AxiFabric c W) :
    AxiFabric c V where
  ports := fabric.ports
  outputs := fabric.outputs
  readRoutes := fabric.readRoutes
  writeRoutes := fabric.writeRoutes
  monitors := fabric.monitors
  nextAwPort := fabric.nextAwPort
  nextArPort := fabric.nextArPort
  cycle := fabric.cycle
  randomState := fabric.randomState
  stall := fabric.stall
  wasReset := fabric.wasReset
  suppressRead := fabric.suppressRead
  exitCompleted := fabric.exitCompleted
  exitCode := fabric.exitCode
  world
  trace := fabric.trace

def ReadAccess.recast {V : Type} (world : V) (access : ReadAccess c W) : ReadAccess c V where
  world
  beat := access.beat
  call := access.call

def WriteAccess.recast {V : Type} (world : V) (access : WriteAccess c W) : WriteAccess c V where
  route := access.route
  world
  monitors := access.monitors
  response := access.response
  call := access.call

/-! ## Device accesses -/

section Accesses

variable {env : FabricEnv W} {traits : DeviceTraits} {world : W}

/-- A call of `read`, with its answer at the head of the script. -/
theorem read_scripted (bank : DeviceBank W) (traits : DeviceTraits) (device : DeviceId)
    (offset : Nat) {length : Nat} (enable : List UInt8) (nonempty : length ≠ 0) :
    (∃ fault, bank.read device world offset length enable = .error fault ∧ ∀ script,
      (scriptBank traits).read device script offset length enable = .error fault) ∨
    ∃ after response data,
      bank.read device world offset length enable = .ok (after, response, data) ∧ ∀ rest past,
      (scriptBank traits).read device ({ response, data } :: rest, past) offset length enable =
        .ok ((rest, 0), response, data) := by
  simp only [DeviceBank.read, nonempty, if_false]
  split
  next => exact .inl ⟨_, rfl, fun _ => rfl⟩
  next => exact .inr ⟨_, _, _, rfl, fun _ _ => rfl⟩

/-- A call of `write`, with its answer and the exit code after it at the head. -/
theorem write_scripted (bank : DeviceBank W) (traits : DeviceTraits) (device : DeviceId)
    (offset : Nat) {data : List UInt8} (strobe : List UInt8) (nonempty : data.length ≠ 0) :
    (∃ fault, bank.write device world offset data strobe = .error fault ∧ ∀ script,
      (scriptBank traits).write device script offset data strobe = .error fault) ∨
    ∃ after response, bank.write device world offset data strobe = .ok (after, response) ∧
      ∀ rest past, (scriptBank traits).write device
        ({ response, exitCode := bank.exitCode device after } :: rest, past) offset data strobe =
          .ok ((rest, bank.exitCode device after), response) := by
  simp only [DeviceBank.write, nonempty, if_false]
  split
  next => exact .inl ⟨_, rfl, fun _ => rfl⟩
  next => exact .inr ⟨_, _, rfl, fun _ _ => rfl⟩

theorem readDeviceBeat_told (route : ReadRoute c) (cursor : BurstCursor c.dataBytes) :
    Foresees.Tells (fun rest final (access : ReadAccess c W) => access.recast (rest, final))
      (readDeviceBeat env world route cursor)
      fun script past => readDeviceBeat (env.scripted traits) (script, past) route cursor := by
  simp only [readDeviceBeat]
  split
  next => exact .of_ok fun _ _ => rfl
  next mapping targeted =>
    refine .after fun mask _ => .after fun base _ => ?_
    split
    next => exact .of_ok fun _ _ => rfl
    next nonempty =>
      rcases read_scripted env.bank traits mapping.device _ _ nonempty with
        ⟨fault, thrown, scripted⟩ | ⟨after, response, data, made, scripted⟩
      · rw [thrown, error_bind]
        exact .of_error fun script past => by simp only [FabricEnv.scripted, scripted, error_bind]
      · rw [made, ok_bind]
        refine .of_answer ({ response, data } :: ·) 0 fun rest past => ?_
        simp only [FabricEnv.scripted, scripted, ok_bind]
        rfl

theorem writeDeviceBeat_told (has : env.bank.Has traits) (monitors : Monitors c)
    (route : WriteRoute c) (mapping : Mapping) (cursor : BurstCursor c.dataBytes) (index : Nat)
    (data strobe : Lanes c.dataBytes) :
    Foresees.Tells (fun rest final (access : WriteAccess c W) => access.recast (rest, final))
      (writeDeviceBeat env world monitors route mapping cursor index data strobe)
      fun script past => writeDeviceBeat (env.scripted traits) (script, past) monitors route mapping
        cursor index data strobe := by
  simp only [writeDeviceBeat]
  refine .after fun base _ => .after fun mask _ => ?_
  split
  next => exact .of_ok fun _ _ => rfl
  next nonempty =>
    have bytes := length_span_ne_zero data (enabledExtent_inside mask nonempty) nonempty
    rcases write_scripted env.bank traits mapping.device _ _ bytes with
      ⟨fault, thrown, scripted⟩ | ⟨after, response, made, scripted⟩
    · rw [thrown, error_bind]
      exact .of_error fun script past => by simp only [FabricEnv.scripted, scripted, error_bind]
    · rw [made, ok_bind]
      let answer : Answer := { response, exitCode := env.bank.exitCode mapping.device after }
      have answers : ∀ device state, (env.scripted traits).bank.isExit device state =
          env.bank.isExit device after := fun device state => (has.exit device after).symm
      have codes : ∀ device rest past, (env.scripted traits).bank.exitCode device (rest, past) =
          past := fun _ _ _ => rfl
      cases success : responseIsSuccess response with
      | false =>
          refine .of_answer (answer :: ·) answer.exitCode fun rest past => ?_
          rw [show (env.scripted traits).bank.write _ _ _ _ _ = _ from scripted rest past, ok_bind]
          simp only [success]
          rfl
      | true =>
          refine .of_answer (answer :: ·) answer.exitCode fun rest past => ?_
          rw [show (env.scripted traits).bank.write _ _ _ _ _ = _ from scripted rest past, ok_bind]
          simp only [success, if_true, answers, codes]
          rfl

theorem finishExclusiveWrite_told (monitors : Monitors c) (route : WriteRoute c)
    (cursor : BurstCursor c.dataBytes) :
    Foresees.Tells (fun rest final (access : WriteAccess c W) => access.recast (rest, final))
      (finishExclusiveWrite env world monitors route cursor)
      fun script past => finishExclusiveWrite (env.scripted traits) (script, past) monitors route
        cursor := by
  simp only [finishExclusiveWrite]
  split
  next => exact .of_ok fun _ _ => rfl
  next mapping targeted =>
    split
    next => exact .of_ok fun _ _ => rfl
    next slot reserved =>
      refine .after fun image _ => ?_
      have total : cursor.beats * cursor.beatBytes ≠ 0 := by
        have beats := cursor.payload.beats_pos
        have bytes : 0 < cursor.beatBytes := Nat.two_pow_pos _
        exact Nat.ne_of_gt (Nat.mul_pos beats bytes)
      have bytes := length_span_ne_zero image.1 (show 0 < 128 by decide) total
      rcases write_scripted env.bank traits mapping.device _ _ bytes with
        ⟨fault, thrown, scripted⟩ | ⟨after, response, made, scripted⟩
      · rw [thrown, error_bind]
        exact .of_error fun script past => by simp only [FabricEnv.scripted, scripted, error_bind]
      · rw [made, ok_bind]
        let answer : Answer := { response, exitCode := env.bank.exitCode mapping.device after }
        refine .of_answer (answer :: ·) answer.exitCode fun rest past => ?_
        rw [show (env.scripted traits).bank.write _ _ _ _ _ = _ from scripted rest past, ok_bind]
        rfl

theorem initializeRoute_scripted (has : env.bank.Has traits) (cycle : UInt64) (script : Script)
    (port : c.Port) (payload : AddressPayload) (channel : Channel) :
    initializeRoute (env.scripted traits) cycle script port payload channel =
      initializeRoute env cycle world port payload channel := by
  simp only [initializeRoute, has.burst, has.exclusive]
  rfl

end Accesses

/-! ## One cycle -/

namespace AxiFabric

variable {env : FabricEnv W} {traits : DeviceTraits}

/-- The fabric in front of scripted devices. -/
abbrev onScript (answers : List Answer) (exitCode : UInt32) (fabric : AxiFabric c W) :
    AxiFabric c Script :=
  fabric.recast (answers, exitCode)

theorem checkPort_foreseen (inputs : c.Inputs) (fabric : AxiFabric c W) (port : c.Port) :
    Foresees onScript (checkPort inputs fabric port)
      fun script past => checkPort inputs (fabric.onScript script past) port := by
  simp only [checkPort]
  exact .attempt fun aw _ => .attempt fun w _ => .attempt fun ar _ => .of_eq fun _ _ => rfl

theorem latchExit_recast {V : Type} (fabric : AxiFabric c W) (world : V)
    (response : WriteResponsePayload) :
    (fabric.recast world).latchExit response = (fabric.latchExit response).recast world := by
  simp only [latchExit, recast_exitCompleted]
  split
  next => rfl
  next => rfl

theorem retirePort_foreseen (inputs : c.Inputs) (fabric : AxiFabric c W) (port : c.Port) :
    Foresees onScript (retirePort inputs fabric port)
      fun script past => retirePort inputs (fabric.onScript script past) port := by
  simp only [retirePort]
  refine .bind ?_ fun next _ => ?_
  · simp only [retireWrite, latchExit_recast, recast_outputs, recast_ports]
    split
    next => exact .attempt fun response _ => .attempt fun b _ => .of_eq fun _ _ => rfl
    next => exact .of_eq fun _ _ => rfl
  · simp only [retireRead, recast_outputs, recast_ports]
    split
    next => exact .attempt fun r _ => .of_eq fun _ _ => rfl
    next => exact .of_eq fun _ _ => rfl

/-- The three queues of a port are filled alike. -/
theorem acceptPort_foreseen (inputs : c.Inputs) (fabric : AxiFabric c W) (port : c.Port) :
    Foresees onScript (acceptPort inputs fabric port)
      fun script past => acceptPort inputs (fabric.onScript script past) port := by
  simp only [acceptPort]
  refine .bind (.of_eq fun script past => ?_) fun next _ =>
    .bind (.of_eq fun script past => ?_) fun last _ => .of_eq fun script past => ?_
  · simp only [acceptAw, recast_outputs, recast_ports, recast_cycle]
    split
    next => split <;> rfl
    next => rfl
  · simp only [acceptW, recast_outputs, recast_ports, recast_cycle]
    split
    next => split <;> rfl
    next => rfl
  · simp only [acceptAr, recast_outputs, recast_ports, recast_cycle]
    split
    next => split <;> rfl
    next => rfl

theorem arbitrateAddresses_foreseen (has : env.bank.Has traits) (fabric : AxiFabric c W) :
    Foresees onScript (arbitrateAddresses env fabric)
      fun script past => arbitrateAddresses (env.scripted traits) (fabric.onScript script past) := by
  have routed : ∀ (fabric : AxiFabric c W) script (port : c.Port) payload channel,
      initializeRoute (env.scripted traits) fabric.cycle script port payload channel =
        initializeRoute env fabric.cycle fabric.world port payload channel :=
    fun fabric script port payload channel => initializeRoute_scripted has _ _ _ _ _
  simp only [arbitrateAddresses]
  refine .bind ?_ fun next _ => ?_
  · simp only [arbitrateWrites, recast_writeRoutes, recast_nextAwPort, recast_ports, recast_cycle,
      routed]
    split
    next => exact .of_eq fun _ _ => rfl
    next =>
      split
      next => exact .of_eq fun _ _ => rfl
      next =>
        exact .attempt fun payload _ => .attempt fun base _ => .attempt fun aw _ =>
          .of_eq fun _ _ => rfl
  · simp only [arbitrateReads, recast_readRoutes, recast_nextArPort, recast_ports, recast_cycle,
      routed]
    split
    next => exact .of_eq fun _ _ => rfl
    next =>
      split
      next => exact .of_eq fun _ _ => rfl
      next =>
        exact .attempt fun payload _ => .attempt fun base _ => .attempt fun ar _ =>
          .of_eq fun _ _ => rfl

theorem reserve_foreseen (fabric : AxiFabric c W) (route : ReadRoute c) :
    Foresees onScript (reserve fabric route)
      fun script past => reserve (fabric.onScript script past) route := by
  refine .of_eq fun script past => ?_
  simp only [reserve, recast_monitors, recast_cycle]
  split
  next => split <;> rfl
  next => rfl

theorem reserve_readRoutes {fabric next : AxiFabric c W} {route : ReadRoute c}
    (reserved : reserve fabric route = .ok next) : next.readRoutes = fabric.readRoutes := by
  simp only [reserve] at reserved
  split at reserved
  next =>
    split at reserved
    next => cases reserved; rfl
    next => cases reserved
  next => cases reserved; rfl

/-- A buffer that is not empty can be popped after its front was replaced. -/
theorem pop_setFront {T : Type} {capacity : Nat} {buffer : RingBuffer capacity T}
    (nonempty : ¬buffer.empty = true) (value : T) :
    ∃ popped, (buffer.setFront value).pop = .ok popped := by
  exact ⟨_, if_neg nonempty⟩

theorem processReadBeat_foreseen (fabric : AxiFabric c W) :
    Foresees onScript (processReadBeat env fabric)
      fun script past => processReadBeat (env.scripted traits) (fabric.onScript script past) := by
  simp only [processReadBeat, recast_readRoutes, recast_ports]
  split
  next => exact .of_eq fun _ _ => rfl
  next nonempty =>
    refine .attempt fun route _ => ?_
    split
    next => exact .of_eq fun _ _ => rfl
    next =>
      refine .attempt fun cursor _ => (reserve_foreseen fabric route).bind fun next reserved => ?_
      refine .tell (readDeviceBeat_told route cursor) fun access script past rest final _ => ?_
      simp only [recast_readRoutes, recast_ports]
      split
      next =>
        rw [← reserve_readRoutes reserved] at nonempty
        obtain ⟨popped, done⟩ := pop_setFront nonempty { route with beat := route.beat + 1 }
        rw [done]
        rfl
      next => rfl

theorem completeWriteRoute_recast {V : Type} (fabric : AxiFabric c W) (route : WriteRoute c)
    (world : V) :
    completeWriteRoute (fabric.recast world) route =
      Outcome.recast (AxiFabric.recast world) (completeWriteRoute fabric route) := by
  simp only [completeWriteRoute, Outcome.recast_attempt_bind]
  rfl

theorem processWriteCommit_foreseen (has : env.bank.Has traits) (fabric : AxiFabric c W)
    (route : WriteRoute c) (cursor : BurstCursor c.dataBytes) :
    Foresees onScript (processWriteCommit env fabric route cursor) fun script past =>
      processWriteCommit (env.scripted traits) (fabric.onScript script past) route cursor := by
  simp only [processWriteCommit, recast_ports]
  split
  next => exact .of_eq fun _ _ => rfl
  next =>
    split
    next =>
      exact .tell (finishExclusiveWrite_told fabric.monitors route cursor)
        fun access script past rest final _ =>
          completeWriteRoute_recast (applyAccess fabric route access) access.route (rest, final)
    next =>
      split
      next =>
        let done := { route with response := combineResponse route.response route.forcedResponse }
        exact .of_eq fun script past => completeWriteRoute_recast
          { fabric with writeRoutes := fabric.writeRoutes.setFront done } done (script, past)
      next mapping targeted =>
        refine .attempt fun staged _ => ?_
        refine .tell (writeDeviceBeat_told has fabric.monitors route mapping cursor _ _ _)
          fun access script past rest final _ => ?_
        let done := access.route.afterBeat access.response cursor.beats
        let applied := applyAccess fabric route { access with route := done }
        show (if done.commitBeat = cursor.beats then
          completeWriteRoute (applied.recast (rest, final)) done else _) = _
        by_cases last : done.commitBeat = cursor.beats
        · rw [if_pos last, if_pos last]
          exact completeWriteRoute_recast applied done (rest, final)
        · rw [if_neg last, if_neg last]
          rfl

theorem processWriteBeat_foreseen (has : env.bank.Has traits) (fabric : AxiFabric c W) :
    Foresees onScript (processWriteBeat env fabric)
      fun script past => processWriteBeat (env.scripted traits) (fabric.onScript script past) := by
  unfold processWriteBeat
  refine .ite (fun _ => .of_eq fun _ _ => rfl) fun _ => ?_
  refine .attempt fun route _ => .attempt fun cursor _ => ?_
  refine .ite (fun _ => processWriteCommit_foreseen has fabric route cursor) fun _ => ?_
  refine .ite (fun _ => .of_eq fun _ _ => rfl) fun _ => ?_
  refine .attempt fun beat _ => ?_
  refine .ite (fun _ => .of_eq fun _ _ => rfl) fun _ => ?_
  refine .attempt fun lanes _ => ?_
  refine .ite (fun _ => .of_eq fun _ _ => rfl) fun _ => ?_
  by_cases inside : route.beat < 256
  · simp only [dif_pos inside]
    refine .attempt fun w _ => ?_
    let final := route.beat + 1 == cursor.beats
    let staged := route.stageBeat beat ⟨route.beat, inside⟩ final
    let filled : AxiFabric c W :=
      { fabric.setPort route.port { fabric.ports route.port with w } with
        writeRoutes := fabric.writeRoutes.setFront staged
        trace := fabric.trace ++ [.stage route beat] }
    exact .ite (fun _ => processWriteCommit_foreseen has filled staged cursor)
      fun _ => .of_eq fun _ _ => rfl
  · simp only [dif_neg inside]
    exact .of_eq fun _ _ => rfl

theorem commit_foreseen (has : env.bank.Has traits) (inputs : c.Inputs) (fabric : AxiFabric c W) :
    Foresees onScript (commit env inputs false fabric)
      fun script past => commit (env.scripted traits) inputs false (fabric.onScript script past) := by
  simp only [commit, Bool.false_eq_true, if_false]
  refine (Foresees.foldlM (checkPort_foreseen inputs) _ { fabric with wasReset := false }).bind
    fun checked _ => ?_
  refine (Foresees.foldlM (retirePort_foreseen inputs) _ checked).bind fun retired _ => ?_
  refine (Foresees.foldlM (acceptPort_foreseen inputs) _ retired).bind fun accepted _ => ?_
  refine (arbitrateAddresses_foreseen has accepted).bind fun routed _ => ?_
  refine (processWriteBeat_foreseen has { routed with suppressRead := false }).bind
    fun written _ => ?_
  refine .ite (fun _ => .of_eq fun _ _ => rfl) fun _ => ?_
  exact (processReadBeat_foreseen written).bind fun done _ => .of_eq fun _ _ => rfl

theorem drive_recast {V : Type} (resetActive : Bool) (fabric : AxiFabric c W) (world : V) :
    drive resetActive (fabric.recast world) = (drive resetActive fabric).recast world := by
  cases resetActive with
  | true => rfl
  | false =>
      simp only [drive, Bool.false_eq_true, if_false]
      let blank : AxiFabric c W := { fabric with outputs := fun _ => {} }
      exact @List.foldl_hom _ _ _ (AxiFabric.recast world) _ _ _ blank fun state port => rfl

theorem commitReset_recast {V : Type} {other : FabricEnv V} (kept : env.resetDevices = false)
    (otherKept : other.resetDevices = false) (fabric : AxiFabric c W) (world : V) :
    commitReset other (fabric.recast world) = (commitReset env fabric).recast world := by
  simp only [commitReset, kept, otherKept, recast_wasReset]
  split
  next => rfl
  next => rfl

/-- A cycle of a fabric that leaves the reset of the devices to others. -/
theorem cycleWith_foreseen (has : env.bank.Has traits) (kept : env.resetDevices = false)
    (input : c.Inputs × Bool) (fabric : AxiFabric c W) :
    Foresees onScript (cycleWith env fabric input) fun script past =>
      cycleWith (env.scripted traits) (fabric.onScript script past) input := by
  obtain ⟨inputs, resetActive⟩ := input
  simp only [cycleWith, drive_recast]
  cases resetActive with
  | true => exact .of_eq fun script past => congrArg Except.ok (commitReset_recast kept rfl _ _)
  | false => exact commit_foreseen has inputs (drive false fabric)

end AxiFabric

end AxiTestbench
