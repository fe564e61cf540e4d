import AxiTestbench.Ram
import AxiTestbench.Fabric.Engines

/-!
# Whole cycles and runs

One `commit` is the stability check, the handshakes, one round of the arbiter and
one turn of each engine; `ActiveCycle` and `FailedCycle` say how it can end.  For
whole runs the trace and the view of the fabric are a trace and a state of the
pipeline.
-/

namespace AxiTestbench

open Lib Outcome

variable {c : Config} {W : Type}

/-- The event that clears the fabric. -/
def Event.isReset : Event c → Bool
  | .reset => true
  | _ => false

theorem Event.isReset_of_internal {event : Event c} (internal : event.internal = true) :
    event.isReset = false := by
  cases event <;> first | rfl | simp [Event.internal] at internal

/-- A step that does not clear the fabric. -/
def Pipeline.ActiveStep (env : FabricEnv W) (state : Pipeline c W) (events : List (Event c))
    (next : Pipeline c W) : Prop :=
  Step env state events next ∧ ∀ event ∈ events, event.isReset = false

namespace AxiFabric

/-! ## One cycle -/

/-- The handshakes of one cycle. -/
def handshakes (outputs : c.Outputs) (inputs : c.Inputs) : List (Event c) :=
  allRetireEvents outputs inputs ++ allAcceptEvents outputs inputs

/-- The code moved requests and responses only. -/
private structure Still (before after : AxiFabric c W) : Prop extends Kept before after where
  monitors : after.monitors = before.monitors

private theorem Still.refl (fabric : AxiFabric c W) : Still fabric fabric := ⟨.refl fabric, rfl⟩

private theorem Still.trans {first second third : AxiFabric c W} (left : Still first second)
    (right : Still second third) : Still first third :=
  ⟨left.toKept.trans right.toKept, right.monitors.trans left.monitors⟩

/-- A step on one port that copies its watches. -/
private theorem still_setPort {fabric : AxiFabric c W} {port : c.Port} {state : PortState c}
    {events : List (Event c)} (aw : state.awWatch = (fabric.ports port).awWatch)
    (w : state.wWatch = (fabric.ports port).wWatch)
    (ar : state.arWatch = (fabric.ports port).arWatch) :
    Still fabric ((fabric.setPort port state).emit events) :=
  ⟨⟨.of_setPort rfl aw w ar rfl, rfl, rfl⟩, rfl⟩

private theorem latchExit_still (fabric : AxiFabric c W) (response : WriteResponsePayload) :
    Still fabric (fabric.latchExit response) ∧ (fabric.latchExit response).ports = fabric.ports := by
  simp only [latchExit]
  split
  · exact ⟨⟨.of_ports rfl rfl rfl rfl, rfl⟩, rfl⟩
  · exact ⟨.refl fabric, rfl⟩

private theorem retirePort_still (inputs : c.Inputs) (fabric : AxiFabric c W) (port : c.Port) :
    Ends (retirePort inputs fabric port) (Still fabric) fun _ => Still fabric := by
  have write : Ends (retireWrite inputs fabric port) (Still fabric) fun _ => Still fabric := by
    simp only [retireWrite]
    split
    next =>
      refine ends_attempt_bind (fun _ _ => .refl fabric) fun response _ => ?_
      obtain ⟨latched, ports⟩ := latchExit_still fabric response
      refine ends_attempt_bind (fun _ _ => latched) fun b _ => ?_
      exact latched.trans (still_setPort (by rw [ports]) (by rw [ports]) (by rw [ports]))
    next => exact .refl fabric
  refine write.bind fun middle kept => ?_
  simp only [retireRead]
  split
  next =>
    exact ends_attempt_bind (fun _ _ => kept) fun r _ => kept.trans (still_setPort rfl rfl rfl)
  next => exact kept

private theorem acceptPort_still (inputs : c.Inputs) (fabric : AxiFabric c W) (port : c.Port) :
    Ends (acceptPort inputs fabric port) (Still fabric) fun _ => Still fabric := by
  have aw : Ends (acceptAw inputs fabric port) (Still fabric) fun _ => Still fabric := by
    simp only [acceptAw]
    split
    · split
      · exact still_setPort rfl rfl rfl
      · exact .refl fabric
    · exact .refl fabric
  refine aw.bind fun second kept => ?_
  have w : Ends (acceptW inputs second port) (Still fabric) fun _ => Still fabric := by
    simp only [acceptW]
    split
    · split
      · exact kept.trans (still_setPort rfl rfl rfl)
      · exact kept
    · exact kept
  refine w.bind fun third kept => ?_
  simp only [acceptAr]
  split
  · split
    · exact kept.trans (still_setPort rfl rfl rfl)
    · exact kept
  · exact kept

/-- A loop whose body moves requests and responses only does so itself. -/
private theorem foldlM_still
    {body : AxiFabric c W → c.Port → Outcome Fault (AxiFabric c W) (AxiFabric c W)}
    (bodyStill : ∀ fabric port, Ends (body fabric port) (Still fabric) fun _ => Still fabric)
    (fabric : AxiFabric c W) :
    Ends ((List.finRange c.numPorts).foldlM body fabric) (Still fabric) fun _ => Still fabric := by
  refine ends_foldlM (fun _ => Still fabric) ?_ _ _ (.refl fabric)
  intro port _ state earlier
  exact (bodyStill state port).mono (fun _ => earlier.trans) fun _ _ => earlier.trans

private theorem checkStability_pointers (inputs : c.Inputs) (fabric : AxiFabric c W) :
    Ends (checkStability inputs fabric)
      (fun after => after.nextAwPort = fabric.nextAwPort ∧ after.nextArPort = fabric.nextArPort)
      fun _ _ => True := by
  refine ends_foldlM (fun _ (after : AxiFabric c W) =>
    after.nextAwPort = fabric.nextAwPort ∧ after.nextArPort = fabric.nextArPort) ?_ _ _ ⟨rfl, rfl⟩
  intro port _ state same
  simp only [checkPort]
  refine ends_attempt_bind (fun _ _ => trivial) fun _ _ => ?_
  refine ends_attempt_bind (fun _ _ => trivial) fun _ _ => ?_
  exact ends_attempt_bind (fun _ _ => trivial) fun _ _ => same

/-- The phases of `commit` before the arbiter. -/
def ingress (inputs : c.Inputs) (fabric : AxiFabric c W) :
    Outcome Fault (AxiFabric c W) (AxiFabric c W) := do
  let fabric ← checkStability inputs { fabric with wasReset := false }
  let fabric ← retireResponses inputs fabric
  acceptIngress inputs fabric

/-- The state in which the arbiter of a cycle starts. -/
structure Arrived (env : FabricEnv W) (inputs : c.Inputs) (fabric arrived : AxiFabric c W) :
    Prop where
  returned : ingress inputs fabric = .ok arrived
  advances : Advances env fabric arrived (handshakes fabric.outputs inputs)
  checked : ∃ checked, checkStability inputs { fabric with wasReset := false } = .ok checked ∧
    Kept checked arrived
  nextAwPort : arrived.nextAwPort = fabric.nextAwPort
  nextArPort : arrived.nextArPort = fabric.nextArPort
  monitors : arrived.monitors = fabric.monitors

theorem ingress_arrived (env : FabricEnv W) (inputs : c.Inputs) (fabric : AxiFabric c W)
    (driven : Driven fabric) :
    Ends (ingress inputs fabric) (Arrived env inputs fabric)
      fun fault after => checkStability inputs { fabric with wasReset := false } =
        .error (fault, after) := by
  have start : Unseen fabric { fabric with wasReset := false } := ⟨rfl, rfl, rfl⟩
  cases stable : checkStability inputs { fabric with wasReset := false } with
  | error thrown =>
      have failed : ingress inputs fabric = .error thrown := by
        rw [ingress, stable]
        rfl
      rw [failed]
      exact rfl
  | ok checked =>
      have unseen := checkStability_unseen inputs { fabric with wasReset := false }
      rw [stable] at unseen
      have unseen : Unseen fabric checked := start.trans unseen
      have checkedDriven : Driven checked := by
        intro port
        rw [unseen.outputs, unseen.view]
        exact driven port
      cases retire : retireResponses inputs checked with
      | error thrown =>
          have impossible := retireResponses_advances env inputs checked checkedDriven
          rw [retire] at impossible
          exact impossible.elim
      | ok retired =>
          have advances := retireResponses_advances env inputs checked checkedDriven
          have retireStill := foldlM_still (retirePort_still inputs) checked
          rw [retireResponses] at retire
          rw [retireResponses, retire] at advances
          rw [retire] at retireStill
          obtain ⟨retires, sameRequests⟩ := advances
          have ready : ∀ port, ((retired.outputs port).awReady = true →
                (retired.view.ports port).aw.length < c.addressDepth) ∧
              ((retired.outputs port).wReady = true →
                (retired.view.ports port).w.length < c.writeDataDepth) ∧
              ((retired.outputs port).arReady = true →
                (retired.view.ports port).ar.length < c.addressDepth) := by
            intro port
            obtain ⟨aw, w, ar⟩ := sameRequests port
            rw [retires.outputs, aw, w, ar]
            exact ⟨(checkedDriven port).aw, (checkedDriven port).w, (checkedDriven port).ar⟩
          have accepts := acceptIngress_advances env inputs retired ready
          have acceptStill := foldlM_still (acceptPort_still inputs) retired
          have ingressEq : ingress inputs fabric = acceptIngress inputs retired := by
            rw [ingress, stable]
            exact congrArg (· >>= acceptIngress inputs) retire
          cases accept : acceptIngress inputs retired with
          | error thrown =>
              rw [accept] at accepts
              exact accepts.elim
          | ok arrived =>
              rw [accept] at accepts
              rw [acceptIngress] at accept
              rw [accept] at acceptStill
              rw [ingressEq, acceptIngress, accept]
              have moved := ((Advances.of_unseen unseen).trans retires).trans accepts
              rw [List.nil_append, retires.outputs, unseen.outputs] at moved
              have pointers := checkStability_pointers inputs { fabric with wasReset := false }
              rw [stable] at pointers
              have still := retireStill.trans acceptStill
              refine ⟨?_, moved, ⟨checked, stable, still.toKept⟩, still.nextAwPort.trans pointers.1,
                still.nextArPort.trans pointers.2, still.monitors.trans ?_⟩
              rotate_left
              · exact congrArg Pipeline.monitors unseen.view
              rw [ingressEq, acceptIngress, accept]

/-- How a cycle without reset returns. -/
inductive ActiveCycle (env : FabricEnv W) (inputs : c.Inputs) (fabric : AxiFabric c W) :
    AxiFabric c W → Prop where
  | mk {arrived granted routed written finished : AxiFabric c W}
      (arrives : Arrived env inputs fabric arrived)
      (aw : AwRound env arrived granted) (ar : ArRound env granted routed)
      (write : WriteTurn env { routed with suppressRead := false } written)
      (read : written.suppressRead = true ∧ finished = written ∨
        written.suppressRead = false ∧ ReadTurn env written finished) :
      ActiveCycle env inputs fabric ({ finished with cycle := finished.cycle + 1 }.emit [.tick])

/-- How a cycle without reset throws. -/
inductive FailedCycle (env : FabricEnv W) (inputs : c.Inputs) (fabric : AxiFabric c W) :
    Fault → AxiFabric c W → Prop where
  | unstable {fault : Fault} {after : AxiFabric c W}
      (thrown : checkStability inputs { fabric with wasReset := false } = .error (fault, after)) :
      FailedCycle env inputs fabric fault after
  | aw {fault : Fault} {arrived : AxiFabric c W} (arrives : Arrived env inputs fabric arrived)
      (refused : Refused env arrived .aw Queues.aw fault) :
      FailedCycle env inputs fabric fault arrived
  | ar {fault : Fault} {arrived granted : AxiFabric c W}
      (arrives : Arrived env inputs fabric arrived) (aw : AwRound env arrived granted)
      (refused : Refused env granted .ar Queues.ar fault) :
      FailedCycle env inputs fabric fault granted
  | write {fault : Fault} {arrived granted routed after : AxiFabric c W}
      (arrives : Arrived env inputs fabric arrived)
      (aw : AwRound env arrived granted) (ar : ArRound env granted routed)
      (failed : WriteFailed env { routed with suppressRead := false } fault after) :
      FailedCycle env inputs fabric fault after
  | read {fault : Fault} {arrived granted routed written after : AxiFabric c W}
      (arrives : Arrived env inputs fabric arrived)
      (aw : AwRound env arrived granted) (ar : ArRound env granted routed)
      (write : WriteTurn env { routed with suppressRead := false } written)
      (failed : ReadFailed env written fault after) :
      FailedCycle env inputs fabric fault after

theorem commit_eq_ingress (env : FabricEnv W) (inputs : c.Inputs) (fabric : AxiFabric c W) :
    commit env inputs false fabric = (do
      let fabric ← ingress inputs fabric
      let fabric ← arbitrateWrites env fabric
      let fabric ← arbitrateReads env fabric
      let fabric ← processWriteBeat env { fabric with suppressRead := false }
      let fabric ← if fabric.suppressRead then pure fabric else processReadBeat env fabric
      return { fabric with cycle := fabric.cycle + 1 }.emit [.tick]) := by
  simp only [commit, Bool.false_eq_true, if_false, ingress, arbitrateAddresses, bind_assoc]

/-- A cycle without reset ends in one of the described ways. -/
theorem commit_cycle (env : FabricEnv W) (inputs : c.Inputs) (fabric : AxiFabric c W)
    (driven : Driven fabric) :
    Ends (commit env inputs false fabric) (ActiveCycle env inputs fabric)
      (FailedCycle env inputs fabric) := by
  rw [commit_eq_ingress]
  refine ((ingress_arrived env inputs fabric driven).mono (fun _ => id)
    fun _ _ thrown => .unstable thrown).bind fun arrived arrives => ?_
  refine ((arbitrateWrites_round env arrived).mono (fun _ => id) ?_).bind fun granted aw => ?_
  · rintro fault after ⟨rfl, refused⟩
    exact .aw arrives refused
  refine ((arbitrateReads_round env granted).mono (fun _ => id) ?_).bind fun routed ar => ?_
  · rintro fault after ⟨rfl, refused⟩
    exact .ar arrives aw refused
  refine ((processWriteBeat_turn env _).mono (fun _ => id) fun _ _ failed =>
    .write arrives aw ar failed).bind fun written write => ?_
  split
  next suppressed => exact .mk arrives aw ar write (.inl ⟨suppressed, rfl⟩)
  next unsuppressed =>
    refine ((processReadBeat_turn env written).mono (fun _ => id) fun _ _ failed =>
      .read arrives aw ar write failed).bind fun finished read => ?_
    exact .mk arrives aw ar write (.inr ⟨Bool.eq_false_iff.mpr unsuppressed, read⟩)

theorem ActiveCycle.works {env : FabricEnv W} {inputs : c.Inputs} {fabric after : AxiFabric c W}
    (cycle : ActiveCycle env inputs fabric after) :
    ∃ arrived finished, Arrived env inputs fabric arrived ∧ Works env arrived finished ∧
      after = { finished with cycle := finished.cycle + 1 }.emit [.tick] := by
  obtain ⟨arrives, aw, ar, write, read⟩ := cycle
  rename_i arrived granted routed written finished
  have unsuppressed : Works env routed { routed with suppressRead := false } :=
    .of_unseen ⟨rfl, rfl, rfl⟩
  have works := ((aw.works.trans ar.works).trans unsuppressed).trans write.works
  refine ⟨arrived, finished, arrives, ?_, rfl⟩
  rcases read with ⟨-, rfl⟩ | ⟨-, turn⟩
  · exact works
  · exact works.trans turn.works

/-- The engines and the arbiter leave the watches of the stability check alone. -/
theorem ActiveCycle.watches {env : FabricEnv W} {inputs : c.Inputs} {fabric after : AxiFabric c W}
    (cycle : ActiveCycle env inputs fabric after) :
    ∃ arrived, Arrived env inputs fabric arrived ∧ SameWatches arrived after := by
  obtain ⟨arrives, aw, ar, write, read⟩ := cycle
  rename_i arrived granted routed written finished
  have unsuppressed : SameWatches routed { routed with suppressRead := false } :=
    .of_ports rfl rfl
  have ticked : SameWatches finished
      ({ finished with cycle := finished.cycle + 1 }.emit [.tick]) :=
    .of_ports rfl rfl
  have same := ((aw.watches.trans ar.watches).trans unsuppressed).trans write.kept.toSameWatches
  refine ⟨arrived, arrives, ?_⟩
  rcases read with ⟨-, rfl⟩ | ⟨-, turn⟩
  · exact same.trans ticked
  · exact (same.trans turn.kept.toSameWatches).trans ticked

/-- A throw after the stability check leaves the handshakes and some internal work,
and the watches of the check. -/
theorem FailedCycle.works {env : FabricEnv W} {inputs : c.Inputs} {fabric after : AxiFabric c W}
    {fault : Fault} (failed : FailedCycle env inputs fabric fault after) :
    checkStability inputs { fabric with wasReset := false } = .error (fault, after) ∨
      ∃ arrived, Arrived env inputs fabric arrived ∧ Works env arrived after ∧
        SameWatches arrived after := by
  have unsuppressed : ∀ routed : AxiFabric c W,
      Works env routed { routed with suppressRead := false } ∧
        SameWatches routed { routed with suppressRead := false } := fun routed =>
    ⟨.of_unseen ⟨rfl, rfl, rfl⟩, .of_ports rfl rfl⟩
  cases failed with
  | unstable thrown => exact .inl thrown
  | aw arrives => exact .inr ⟨_, arrives, .refl _, .refl _⟩
  | ar arrives aw => exact .inr ⟨_, arrives, aw.works, aw.watches⟩
  | write arrives aw ar failed =>
      obtain ⟨prepared, kept, -⟩ := failed
      obtain ⟨quiet, same⟩ := unsuppressed _
      exact .inr ⟨_, arrives, ((aw.works.trans ar.works).trans quiet).trans prepared.works,
        ((aw.watches.trans ar.watches).trans same).trans kept.toSameWatches⟩
  | read arrives aw ar write failed =>
      obtain ⟨prepared, kept, -⟩ := failed
      obtain ⟨quiet, same⟩ := unsuppressed _
      exact .inr ⟨_, arrives,
        (((aw.works.trans ar.works).trans quiet).trans write.works).trans prepared.works,
        (((aw.watches.trans ar.watches).trans same).trans write.kept.toSameWatches).trans
          kept.toSameWatches⟩

/-- One cycle without reset emits the handshakes that inputs and outputs agree
on, then internal events, then the clock edge.  A cycle that throws stops before
the handshakes or after them. -/
theorem commit_active (env : FabricEnv W) (inputs : c.Inputs) (fabric : AxiFabric c W)
    (driven : Driven fabric) :
    Ends (commit env inputs false fabric)
      (fun after => ∃ work, (∀ event ∈ work, event.internal = true) ∧
        Advances env fabric after (handshakes fabric.outputs inputs ++ work ++ [.tick]))
      fun _ after => Advances env fabric after [] ∨
        ∃ work, (∀ event ∈ work, event.internal = true) ∧
          Advances env fabric after (handshakes fabric.outputs inputs ++ work) := by
  refine (commit_cycle env inputs fabric driven).mono (fun after cycle => ?_)
    fun fault after failed => ?_
  · obtain ⟨arrived, finished, arrives, ⟨work, advances, internal⟩, rfl⟩ := cycle.works
    exact ⟨work, internal, (arrives.advances.trans advances).trans (.step rfl rfl .tick)⟩
  · rcases failed.works with thrown | ⟨arrived, arrives, ⟨work, advances, internal⟩, -⟩
    · have start : Unseen fabric { fabric with wasReset := false } := ⟨rfl, rfl, rfl⟩
      have unseen := checkStability_unseen inputs { fabric with wasReset := false }
      rw [thrown] at unseen
      exact .inl (.of_unseen (start.trans unseen))
    · exact .inr ⟨work, internal, arrives.advances.trans advances⟩

@[simp] theorem view_resetState (fabric : AxiFabric c W) :
    (resetState fabric).view = .empty c fabric.view.world := by
  simp only [AxiFabric.view, resetState, Pipeline.empty, PortState.queues,
    RingBuffer.toList_clear]

/-- A reset cycle takes the reset steps, unless the fabric is in reset already. -/
theorem commit_reset (env : FabricEnv W) (inputs : c.Inputs) (fabric : AxiFabric c W) :
    ∃ after, commit env inputs true fabric = .ok after ∧
      Advances env fabric after
        ((if fabric.wasReset then [] else .reset :: if env.resetDevices then [.resetDevices] else [])
          ++ [.tick]) := by
  refine ⟨_, rfl, ?_⟩
  have tick : ∀ cleared : AxiFabric c W, Advances env cleared
      ({ cleared with wasReset := true, cycle := cleared.cycle + 1 }.emit [.tick]) [.tick] :=
    fun cleared => .step rfl rfl .tick
  refine Advances.trans ?_ (tick _)
  split
  next => exact .refl fabric
  next =>
    have cleared : Advances env fabric ((resetState fabric).emit [.reset]) [.reset] := by
      refine .step rfl rfl ?_
      rw [view_emit, view_resetState]
      exact .reset
    split
    next =>
      refine cleared.trans (.step rfl rfl ?_)
      exact .resetDevices
    next => exact cleared

/-- What a handshake can be. -/
inductive Shaken (outputs : c.Outputs) (inputs : c.Inputs) : Event c → Prop where
  | b (port : c.Port) (ready : (inputs port).bReady = true) :
      Shaken outputs inputs (.b port (outputs port).b)
  | r (port : c.Port) (ready : (inputs port).rReady = true) :
      Shaken outputs inputs (.r port (outputs port).r)
  | aw (port : c.Port) (valid : (inputs port).awValid = true) :
      Shaken outputs inputs (.aw port (inputs port).aw)
  | w (port : c.Port) (valid : (inputs port).wValid = true) :
      Shaken outputs inputs (.w port (inputs port).w)
  | ar (port : c.Port) (valid : (inputs port).arValid = true) :
      Shaken outputs inputs (.ar port (inputs port).ar)

theorem shaken_of_mem {outputs : c.Outputs} {inputs : c.Inputs} {event : Event c}
    (member : event ∈ handshakes outputs inputs) : Shaken outputs inputs event := by
  simp only [handshakes, allRetireEvents, allAcceptEvents, retireEvents, acceptEvents,
    List.mem_append, List.mem_flatMap, List.mem_ite_nil_right, List.mem_singleton,
    Bool.and_eq_true] at member
  rcases member with ⟨port, -, ⟨⟨-, ready⟩, rfl⟩ | ⟨⟨-, ready⟩, rfl⟩⟩ |
    ⟨port, -, (⟨⟨valid, -⟩, rfl⟩ | ⟨⟨valid, -⟩, rfl⟩) | ⟨⟨valid, -⟩, rfl⟩⟩
  · exact .b port ready
  · exact .r port ready
  · exact .aw port valid
  · exact .w port valid
  · exact .ar port valid

theorem isReset_of_handshakes {outputs : c.Outputs} {inputs : c.Inputs} {event : Event c}
    (member : event ∈ handshakes outputs inputs) : event.isReset = false := by
  cases shaken_of_mem member <;> rfl

/-! ## Runs -/

/-- The fabric and its trace have moved by pipeline steps. -/
structure Follows (env : FabricEnv W) (before after : AxiFabric c W) (events : List (Event c)) :
    Prop where
  trace : after.trace = before.trace ++ events
  steps : Traces (Pipeline.Step env) before.view events after.view

theorem Follows.trans {env : FabricEnv W} {first second third : AxiFabric c W}
    {events more : List (Event c)} (left : Follows env first second events)
    (right : Follows env second third more) : Follows env first third (events ++ more) :=
  ⟨by rw [right.trace, left.trace, List.append_assoc], left.steps.trans right.steps⟩

/-- A cycle that starts with `drive` follows the steps of its `commit`. -/
theorem follows_of_advances {env : FabricEnv W} {fabric after : AxiFabric c W} {resetActive : Bool}
    {events : List (Event c)} (advances : Advances env (drive resetActive fabric) after events) :
    Follows env fabric after events := by
  refine ⟨?_, ?_⟩
  · rw [advances.trace, trace_drive]
  · rw [← view_drive resetActive fabric]
    exact advances.steps

theorem cycleWith_follows (env : FabricEnv W) (input : c.Inputs × Bool) (fabric : AxiFabric c W) :
    ∃ events, Follows env fabric (cycleWith env fabric input).state events ∧
      (input.2 = false → ∀ event ∈ events, event.isReset = false) := by
  obtain ⟨inputs, resetActive⟩ := input
  cases resetActive with
  | true =>
      obtain ⟨after, done, advances⟩ := commit_reset env inputs (drive true fabric)
      rw [show cycleWith env fabric (inputs, true) = .ok after from done]
      exact ⟨_, follows_of_advances advances, by simp⟩
  | false =>
      have active : ∀ work : List (Event c), (∀ event ∈ work, event.internal = true) →
          ∀ event ∈ handshakes (drive false fabric).outputs inputs ++ work,
            event.isReset = false := by
        intro work internal event member
        rcases List.mem_append.mp member with handshake | inner
        · exact isReset_of_handshakes handshake
        · exact Event.isReset_of_internal (internal event inner)
      have ends := commit_active env inputs (drive false fabric) (drive_driven fabric)
      have both : Ends (cycleWith env fabric (inputs, false))
          (fun after => ∃ events, Follows env fabric after events ∧
            (false = false → ∀ event ∈ events, event.isReset = false))
          fun _ after => ∃ events, Follows env fabric after events ∧
            (false = false → ∀ event ∈ events, event.isReset = false) := by
        refine ends.mono ?_ ?_
        · rintro after ⟨work, internal, advances⟩
          refine ⟨_, follows_of_advances advances, fun _ event member => ?_⟩
          rcases List.mem_append.mp member with earlier | last
          · exact active work internal event earlier
          · obtain rfl := List.mem_singleton.mp last
            rfl
        · rintro _ after (advances | ⟨work, internal, advances⟩)
          · exact ⟨[], follows_of_advances advances, by simp⟩
          · exact ⟨_, follows_of_advances advances, fun _ => active work internal⟩
      exact both.state_of_both

theorem run_follows (env : FabricEnv W) (cycles : List (c.Inputs × Bool))
    (fabric : AxiFabric c W) :
    ∃ events, Follows env fabric (run env cycles fabric).state events ∧
      ((∀ input ∈ cycles, input.2 = false) → ∀ event ∈ events, event.isReset = false) := by
  induction cycles generalizing fabric with
  | nil => exact ⟨[], ⟨by simp [run, pure, Except.pure], .refl _⟩, by simp⟩
  | cons input cycles ih =>
      obtain ⟨events, follows, active⟩ := cycleWith_follows env input fabric
      cases first : cycleWith env fabric input with
      | ok middle =>
          obtain ⟨more, later, laterActive⟩ := ih middle
          have runEq : run env (input :: cycles) fabric = run env cycles middle := by
            simp [run, first, bind, Except.bind]
          rw [runEq]
          rw [first] at follows
          refine ⟨events ++ more, follows.trans later, fun all event member => ?_⟩
          rcases List.mem_append.mp member with inFirst | inRest
          · exact active (all input (by simp)) event inFirst
          · exact laterActive (fun other inCycles => all other (by simp [inCycles])) event inRest
      | error thrown =>
          have runEq : run env (input :: cycles) fabric = .error thrown := by
            simp [run, first, bind, Except.bind]
          rw [runEq]
          rw [first] at follows
          exact ⟨events, follows, fun all => active (all input (by simp))⟩

theorem runActive_append (env : FabricEnv W) (cycles more : List c.Inputs)
    (fabric : AxiFabric c W) :
    runActive env (cycles ++ more) fabric =
      runActive env cycles fabric >>= runActive env more := by
  rw [runActive, run, List.map_append, List.foldlM_append]
  rfl

theorem runActive_single (env : FabricEnv W) (inputs : c.Inputs) (fabric : AxiFabric c W) :
    runActive env [inputs] fabric = cycleWith env fabric (inputs, false) := by
  simp [runActive, run]

/-- A run that returns has returned at each of its cycles. -/
theorem runActive_split {env : FabricEnv W} {earlier later : List c.Inputs} {inputs : c.Inputs}
    {fabric final : AxiFabric c W}
    (returned : runActive env (earlier ++ inputs :: later) fabric = .ok final) :
    ∃ before after, runActive env earlier fabric = .ok before ∧
      cycleWith env before (inputs, false) = .ok after ∧ runActive env later after = .ok final := by
  rw [runActive_append] at returned
  cases first : runActive env earlier fabric with
  | error thrown =>
      rw [first] at returned
      cases returned
  | ok before =>
      rw [first] at returned
      change runActive env (inputs :: later) before = .ok final at returned
      rw [runActive, run, List.map_cons, List.foldlM_cons] at returned
      cases done : cycleWith env before (inputs, false) with
      | error thrown =>
          rw [done] at returned
          cases returned
      | ok after =>
          rw [done] at returned
          exact ⟨before, after, rfl, done, returned⟩

/-- The trace and view of a fabric after any run, returned or thrown, are a trace
and a state of the pipeline. -/
theorem run_traces (env : FabricEnv W) (cycles : List (c.Inputs × Bool)) (random : UInt64)
    (stall : Stall) (world : W) :
    Traces (Pipeline.Step env) (.empty c world)
      (run env cycles (.fresh c random stall world)).state.trace
      (run env cycles (.fresh c random stall world)).state.view := by
  obtain ⟨events, follows, -⟩ := run_follows env cycles (.fresh c random stall world)
  have trace : (run env cycles (.fresh c random stall world)).state.trace = events := by
    simpa [fresh] using follows.trace
  rw [trace]
  exact follows.steps

/-- The fabric after a run that goes on after exceptions, as a caller that catches
them can make it do. -/
def persist (env : FabricEnv W) (cycles : List (c.Inputs × Bool))
    (fabric : AxiFabric c W) : AxiFabric c W :=
  cycles.foldl (fun fabric input => (cycleWith env fabric input).state) fabric

@[simp] theorem persist_snoc (env : FabricEnv W) (cycles : List (c.Inputs × Bool))
    (input : c.Inputs × Bool) (fabric : AxiFabric c W) :
    persist env (cycles ++ [input]) fabric =
      (cycleWith env (persist env cycles fabric) input).state := by
  simp [persist]

/-- A run that returns is one that has no exception to go on after. -/
theorem persist_eq_of_run {env : FabricEnv W} {cycles : List (c.Inputs × Bool)}
    {fabric final : AxiFabric c W} (returned : run env cycles fabric = .ok final) :
    persist env cycles fabric = final := by
  induction cycles generalizing fabric with
  | nil => exact Except.ok.inj returned
  | cons input cycles ih =>
      rw [run, List.foldlM_cons] at returned
      cases first : cycleWith env fabric input with
      | error thrown =>
          rw [first] at returned
          cases returned
      | ok middle =>
          rw [first] at returned
          rw [persist, List.foldl_cons, first]
          exact ih returned

theorem persist_traces (env : FabricEnv W) (cycles : List (c.Inputs × Bool)) (random : UInt64)
    (stall : Stall) (world : W) :
    Traces (Pipeline.Step env) (.empty c world)
      (persist env cycles (.fresh c random stall world)).trace
      (persist env cycles (.fresh c random stall world)).view := by
  induction cycles using List.reverseRecOn with
  | nil => exact .refl _
  | append_singleton cycles input ih =>
      obtain ⟨events, follows, -⟩ := cycleWith_follows env input
        (persist env cycles (.fresh c random stall world))
      rw [persist_snoc, follows.trace]
      exact ih.trans follows.steps

/-- A run without reset takes no reset step. -/
theorem runActive_traces (env : FabricEnv W) (cycles : List c.Inputs) (random : UInt64)
    (stall : Stall) (world : W) :
    Traces (Pipeline.ActiveStep env) (.empty c world)
      (runActive env cycles (.fresh c random stall world)).state.trace
      (runActive env cycles (.fresh c random stall world)).state.view := by
  obtain ⟨events, follows, active⟩ := run_follows env
    (cycles.map fun inputs => (inputs, false)) (.fresh c random stall world)
  have trace : (runActive env cycles (.fresh c random stall world)).state.trace = events := by
    simpa [runActive, fresh] using follows.trace
  rw [trace]
  exact follows.steps.restrict (active (by simp))

end AxiFabric

/-! ## Epochs -/

/-- The events since the fabric was last cleared. -/
def sinceReset (trace : List (Event c)) : List (Event c) :=
  trace.foldl (fun epoch event => if event.isReset then [] else epoch ++ [event]) []

theorem sinceReset_append_of_active (trace : List (Event c)) {more : List (Event c)}
    (active : ∀ event ∈ more, event.isReset = false) :
    sinceReset (trace ++ more) = sinceReset trace ++ more := by
  induction more using List.reverseRecOn with
  | nil => simp
  | append_singleton more event ih =>
      have earlier := ih fun other member => active other (by simp [member])
      rw [← List.append_assoc, sinceReset, List.foldl_append, ← sinceReset, earlier]
      simp [active event (by simp)]

@[simp] theorem sinceReset_reset (trace : List (Event c)) :
    sinceReset (trace ++ [.reset]) = [] := by
  simp [sinceReset, Event.isReset]

theorem mem_of_mem_sinceReset {trace : List (Event c)} {event : Event c}
    (member : event ∈ sinceReset trace) : event ∈ trace := by
  induction trace using List.reverseRecOn with
  | nil => simp [sinceReset] at member
  | append_singleton trace last ih =>
      rw [sinceReset, List.foldl_append, ← sinceReset] at member
      by_cases cleared : last.isReset = true
      · simp [cleared] at member
      · simp only [List.foldl_cons, List.foldl_nil, cleared, if_false, List.mem_append,
          List.mem_singleton, Bool.false_eq_true] at member
        rcases member with old | rfl
        · exact List.mem_append_left _ (ih old)
        · simp

/-- Only the reset step clears the fabric, and it emits nothing else. -/
theorem Pipeline.Step.eq_reset {env : FabricEnv W} {state next : Pipeline c W}
    {events : List (Event c)} (taken : Pipeline.Step env state events next)
    (cleared : Event.reset ∈ events) : events = [.reset] ∧ next = .empty c state.world := by
  cases taken with
  | reset => exact ⟨rfl, rfl⟩
  | commitExclusive | commitBeat | commitLast => simp [Pipeline.writeEvents] at cleared
  | readBeat | readLast => simp [Pipeline.readEvents] at cleared
  | _ => simp at cleared

/-- Since it was last cleared, the fabric has moved from an empty pipeline by steps
that do not clear it. -/
theorem epoch_traces {env : FabricEnv W} {world : W} {trace : List (Event c)}
    {state : Pipeline c W} (traces : Traces (Pipeline.Step env) (.empty c world) trace state) :
    ∃ start, Traces (Pipeline.ActiveStep env) (.empty c start) (sinceReset trace) state := by
  induction traces with
  | refl => exact ⟨world, .refl _⟩
  | @snoc state next events more prior taken ih =>
      obtain ⟨start, epoch⟩ := ih
      by_cases cleared : Event.reset ∈ more
      · obtain ⟨rfl, rfl⟩ := taken.eq_reset cleared
        exact ⟨state.world, by rw [sinceReset_reset]; exact .refl _⟩
      · have active : ∀ event ∈ more, event.isReset = false := by
          intro event member
          cases event with
          | reset => exact absurd member cleared
          | _ => rfl
        exact ⟨start, sinceReset_append_of_active events active ▸ .snoc epoch ⟨taken, active⟩⟩

/-! ## A small system -/

/-- One 32-bit port. -/
def Config.small : Config where
  numPorts := 1
  addressBits := 32
  dataBits := 32
  idBits := 4

/-- One RAM of 16 bytes in the window at `0x1000`. -/
def smallEnv : FabricEnv RamWorld where
  bank := ramBank
  space :=
    { mappings := [{ base := 0x1000, size := 16, device := 0 }]
      frozen := true
      layout := ⟨by decide, by decide, by decide⟩ }

def smallWorld : RamWorld := fun _ => ⟨List.replicate 16 0⟩

/-- An initiator that takes every response and requests nothing. -/
def takeAll : Config.small.Inputs := fun _ => { bReady := true, rReady := true }

/-- A request for one word. -/
def wordAt (address : UInt64) (id : UInt64) (lock : Bool) : AddressPayload :=
  { id, address, size := 2, lock }

/-- An initiator that writes one word. -/
def writeWord (address : UInt64) (id : UInt64) (lock : Bool) (value : UInt8) :
    Config.small.Inputs := fun _ =>
  { bReady := true
    rReady := true
    awValid := true
    aw := wordAt address id lock
    wValid := true
    w := { data := fun _ => value, strobe := fun _ => 1, last := true } }

/-- An initiator that reads one word. -/
def readWord (address : UInt64) (id : UInt64) (lock : Bool) : Config.small.Inputs := fun _ =>
  { bReady := true, rReady := true, arValid := true, ar := wordAt address id lock }

/-- A run of the small system without reset. -/
def runSmall (cycles : List Config.small.Inputs) :
    Outcome Fault (AxiFabric Config.small RamWorld) (AxiFabric Config.small RamWorld) :=
  AxiFabric.runActive smallEnv cycles (.fresh Config.small 1 .never smallWorld)

end AxiTestbench
