import AxiTestbench.Fabric.Pipeline

/-!
# The code refines the transition system

Each phase of `commit` is shown to be a sequence of pipeline steps.  The first
two phases after the stability check move the channels and emit exactly the
handshakes that outputs and inputs agree on; the remaining phases emit internal
events.  A throw leaves the pipeline between two steps.
-/

namespace AxiTestbench

open Lib Outcome

variable {c : Config} {W : Type}

/-! ## Views of updated fabrics -/

@[simp] theorem view_setPort (fabric : AxiFabric c W) (port : c.Port) (state : PortState c) :
    (fabric.setPort port state).view = fabric.view.setPort port state.queues := by
  simp only [AxiFabric.view, AxiFabric.setPort, Pipeline.setPort]
  congr 1
  funext other
  by_cases equal : other = port
  · subst equal
    simp
  · simp [equal]

@[simp] theorem view_emit (fabric : AxiFabric c W) (events : List (Event c)) :
    (fabric.emit events).view = fabric.view := rfl

@[simp] theorem trace_emit (fabric : AxiFabric c W) (events : List (Event c)) :
    (fabric.emit events).trace = fabric.trace ++ events := rfl

@[simp] theorem outputs_emit (fabric : AxiFabric c W) (events : List (Event c)) :
    (fabric.emit events).outputs = fabric.outputs := rfl

@[simp] theorem trace_setPort (fabric : AxiFabric c W) (port : c.Port) (state : PortState c) :
    (fabric.setPort port state).trace = fabric.trace := rfl

@[simp] theorem outputs_setPort (fabric : AxiFabric c W) (port : c.Port) (state : PortState c) :
    (fabric.setPort port state).outputs = fabric.outputs := rfl

theorem view_ports (fabric : AxiFabric c W) (port : c.Port) :
    fabric.view.ports port = (fabric.ports port).queues := rfl

@[simp] theorem view_latchExit (fabric : AxiFabric c W) (response : WriteResponsePayload) :
    (fabric.latchExit response).view = fabric.view.latchExit response := by
  by_cases exits : (response.exitResponse && !fabric.exitCompleted) = true
  · rw [AxiFabric.latchExit, if_pos exits, Pipeline.latchExit]
    exact (if_pos exits).symm
  · rw [AxiFabric.latchExit, if_neg exits, Pipeline.latchExit]
    exact (if_neg exits).symm

@[simp] theorem trace_latchExit (fabric : AxiFabric c W) (response : WriteResponsePayload) :
    (fabric.latchExit response).trace = fabric.trace := by
  simp only [AxiFabric.latchExit]
  split <;> rfl

@[simp] theorem outputs_latchExit (fabric : AxiFabric c W) (response : WriteResponsePayload) :
    (fabric.latchExit response).outputs = fabric.outputs := by
  simp only [AxiFabric.latchExit]
  split <;> rfl

@[simp] theorem view_fresh (random : UInt64) (stall : Stall) (world : W) :
    (AxiFabric.fresh c random stall world).view = .empty c world := rfl

/-- The code changed nothing that the outputs, the trace or the view show. -/
structure Unseen (before after : AxiFabric c W) : Prop where
  outputs : after.outputs = before.outputs
  trace : after.trace = before.trace
  view : after.view = before.view

theorem Unseen.trans {first second third : AxiFabric c W} (left : Unseen first second)
    (right : Unseen second third) : Unseen first third :=
  ⟨right.outputs.trans left.outputs, right.trace.trans left.trace, right.view.trans left.view⟩

/-- The code took pipeline steps that emit `events`, and left the driven outputs
alone. -/
structure Advances (env : FabricEnv W) (before after : AxiFabric c W)
    (events : List (Event c)) : Prop where
  outputs : after.outputs = before.outputs
  trace : after.trace = before.trace ++ events
  steps : Traces (Pipeline.Step env) before.view events after.view

namespace Advances

variable {env : FabricEnv W}

theorem refl (fabric : AxiFabric c W) : Advances env fabric fabric [] :=
  ⟨rfl, by simp, .refl _⟩

theorem trans {first second third : AxiFabric c W} {events more : List (Event c)}
    (left : Advances env first second events) (right : Advances env second third more) :
    Advances env first third (events ++ more) :=
  ⟨right.outputs.trans left.outputs, by rw [right.trace, left.trace, List.append_assoc],
    left.steps.trans right.steps⟩

/-- Changes that neither the view nor the trace shows. -/
theorem of_unseen {before after : AxiFabric c W} (unseen : Unseen before after) :
    Advances env before after [] :=
  ⟨unseen.outputs, by simpa using unseen.trace, unseen.view ▸ .refl _⟩

theorem step {before after : AxiFabric c W} {events : List (Event c)}
    (outputs : after.outputs = before.outputs) (trace : after.trace = before.trace ++ events)
    (taken : Pipeline.Step env before.view events after.view) :
    Advances env before after events :=
  ⟨outputs, trace, .single taken⟩

end Advances

/-! ## Driven outputs -/

/-- The signals of a port promise only what its queues can keep. -/
structure DrivenPort (signals : SlaveSignals c.dataBytes) (queues : Queues c) : Prop where
  aw : signals.awReady = true → queues.aw.length < c.addressDepth
  w : signals.wReady = true → queues.w.length < c.writeDataDepth
  ar : signals.arReady = true → queues.ar.length < c.addressDepth
  b : signals.bValid = true → ∃ rest, queues.b = signals.b :: rest
  noB : signals.bValid = false → queues.b = []
  r : signals.rValid = true → ∃ rest, queues.r = signals.r :: rest
  noR : signals.rValid = false → queues.r = []

def Driven (fabric : AxiFabric c W) : Prop :=
  ∀ port, DrivenPort (fabric.outputs port) (fabric.view.ports port)

theorem readyUnlessFull_room {capacity : Nat} {T : Type} (buffer : RingBuffer capacity T)
    (stall : Stall) (random : UInt64)
    (ready : (readyUnlessFull buffer.full stall random).1 = true) :
    buffer.toList.length < capacity := by
  cases full : buffer.full with
  | true => simp [readyUnlessFull, full] at ready
  | false => exact (RingBuffer.full_eq_false_iff buffer).mp full

theorem drivePort_driven (state : PortState c) (stall : Stall) (random : UInt64) :
    DrivenPort (drivePort state stall random).1 state.queues where
  aw := readyUnlessFull_room state.aw stall random
  w := readyUnlessFull_room state.w stall _
  ar := readyUnlessFull_room state.ar stall _
  b := by
    intro valid
    cases queue : state.b.front with
    | ok response =>
        obtain ⟨rest, list⟩ := state.b.toList_of_front queue
        exact ⟨rest, by simpa [drivePort, queue, PortState.queues] using list⟩
    | error fault => simp [drivePort, queue] at valid
  noB := by
    intro invalid
    cases queue : state.b.toList with
    | nil => exact queue
    | cons response rest => simp [drivePort, state.b.front_eq queue] at invalid
  r := by
    intro valid
    cases queue : state.r.front with
    | ok beat =>
        obtain ⟨rest, list⟩ := state.r.toList_of_front queue
        exact ⟨rest, by simpa [drivePort, queue, PortState.queues] using list⟩
    | error fault => simp [drivePort, queue] at valid
  noR := by
    intro invalid
    cases queue : state.r.toList with
    | nil => exact queue
    | cons beat rest => simp [drivePort, state.r.front_eq queue] at invalid

namespace AxiFabric

/-- `drive` changes the outputs and the stall generator only. -/
theorem drive_eq (resetActive : Bool) (fabric : AxiFabric c W) :
    ∃ outputs random, drive resetActive fabric =
      { fabric with outputs, randomState := random } := by
  simp only [drive]
  split
  · exact ⟨_, fabric.randomState, rfl⟩
  · apply List.foldlRecOn (motive := fun state : AxiFabric c W => ∃ outputs random,
      state = { fabric with outputs, randomState := random })
    · exact ⟨_, fabric.randomState, rfl⟩
    · rintro start ⟨outputs, random, rfl⟩ port -
      exact ⟨_, _, rfl⟩

@[simp] theorem view_drive (resetActive : Bool) (fabric : AxiFabric c W) :
    (drive resetActive fabric).view = fabric.view := by
  obtain ⟨outputs, random, equal⟩ := drive_eq resetActive fabric
  rw [equal]
  rfl

@[simp] theorem trace_drive (resetActive : Bool) (fabric : AxiFabric c W) :
    (drive resetActive fabric).trace = fabric.trace := by
  obtain ⟨outputs, random, equal⟩ := drive_eq resetActive fabric
  rw [equal]

private theorem foldl_drive_driven (ports : List c.Port) (fabric : AxiFabric c W) (port : c.Port)
    (driven : port ∈ ports ∨ DrivenPort (fabric.outputs port) (fabric.view.ports port)) :
    let driven := ports.foldl (fun fabric port =>
      let (signals, random) := drivePort (fabric.ports port) fabric.stall fabric.randomState
      { fabric with
        outputs := Function.update fabric.outputs port signals
        randomState := random }) fabric
    DrivenPort (driven.outputs port) (driven.view.ports port) := by
  induction ports generalizing fabric with
  | nil => simpa using driven
  | cons first ports ih =>
      apply ih
      by_cases later : port ∈ ports
      · exact .inl later
      · right
        by_cases here : port = first
        · subst here
          simpa [AxiFabric.view] using
            drivePort_driven (fabric.ports port) fabric.stall fabric.randomState
        · have before : DrivenPort (fabric.outputs port) (fabric.view.ports port) := by
            rcases driven with member | before
            · simp [here, later] at member
            · exact before
          simpa [AxiFabric.view, here] using before

/-- After `drive(false)` every presented response is the head of its FIFO and
every READY has room behind it. -/
theorem drive_driven (fabric : AxiFabric c W) : Driven (drive false fabric) :=
  fun port => foldl_drive_driven _ _ port (.inl (List.mem_finRange port))

/-! ## The stability check -/

/-- Replacing the watches of a port is not seen. -/
private theorem setPort_unseen (fabric : AxiFabric c W) (port : c.Port)
    (state : PortState c) (queues : state.queues = (fabric.ports port).queues) :
    Unseen fabric (fabric.setPort port state) := by
  refine ⟨rfl, rfl, ?_⟩
  rw [view_setPort, queues, ← view_ports]
  simp [Pipeline.setPort]

private theorem checkPort_unseen (inputs : c.Inputs) (fabric : AxiFabric c W) (port : c.Port) :
    Ends (checkPort inputs fabric port) (Unseen fabric) fun _ => Unseen fabric := by
  simp only [checkPort]
  refine ends_attempt_bind (fun _ _ => ⟨rfl, rfl, rfl⟩) fun awWatch _ => ?_
  have first := setPort_unseen fabric port { fabric.ports port with awWatch } rfl
  refine ends_attempt_bind (fun _ _ => first) fun wWatch _ => ?_
  have second := first.trans (setPort_unseen _ port { fabric.ports port with awWatch, wWatch }
    (by simp [AxiFabric.setPort, PortState.queues]))
  refine ends_attempt_bind (fun _ _ => second) fun arWatch _ => ?_
  exact second.trans (setPort_unseen _ port { fabric.ports port with awWatch, wWatch, arWatch }
    (by simp [AxiFabric.setPort, PortState.queues]))

theorem checkStability_unseen (inputs : c.Inputs) (fabric : AxiFabric c W) :
    Ends (checkStability inputs fabric) (Unseen fabric) fun _ => Unseen fabric := by
  refine ends_foldlM (fun _ => Unseen fabric) ?_ _ _ ⟨rfl, rfl, rfl⟩
  intro port _ state earlier
  exact (checkPort_unseen inputs state port).mono (fun _ => earlier.trans)
    fun _ _ => earlier.trans

/-! ## Moving the channels -/

/-- Response handshakes of one port. -/
def retireEvents (signals : SlaveSignals c.dataBytes) (input : MasterSignals c.dataBytes)
    (port : c.Port) : List (Event c) :=
  (if signals.bValid && input.bReady then [.b port signals.b] else []) ++
    (if signals.rValid && input.rReady then [.r port signals.r] else [])

/-- Request handshakes of one port. -/
def acceptEvents (signals : SlaveSignals c.dataBytes) (input : MasterSignals c.dataBytes)
    (port : c.Port) : List (Event c) :=
  (if input.awValid && signals.awReady then [.aw port input.aw] else []) ++
    (if input.wValid && signals.wReady then [.w port input.w] else []) ++
    (if input.arValid && signals.arReady then [.ar port input.ar] else [])

/-- The code advanced by `events` and touched one port only, keeping `kept`. -/
structure AdvancesAt (env : FabricEnv W) (port : c.Port) (kept : Queues c → Queues c → Prop)
    (before after : AxiFabric c W) (events : List (Event c)) : Prop where
  advances : Advances env before after events
  others : ∀ other ≠ port, after.view.ports other = before.view.ports other
  kept : kept (before.view.ports port) (after.view.ports port)

/-- The request FIFOs are unchanged. -/
def SameRequests (before after : Queues c) : Prop :=
  after.aw = before.aw ∧ after.w = before.w ∧ after.ar = before.ar

private theorem retireWrite_advances (env : FabricEnv W) (inputs : c.Inputs)
    (fabric : AxiFabric c W) (port : c.Port)
    (driven : DrivenPort (fabric.outputs port) (fabric.view.ports port)) :
    Ends (retireWrite inputs fabric port)
      (fun after => AdvancesAt env port
        (fun before after => SameRequests before after ∧ after.r = before.r) fabric after
        (if (fabric.outputs port).bValid && (inputs port).bReady then
          [.b port (fabric.outputs port).b] else []))
      fun _ _ => False := by
  simp only [retireWrite]
  split
  next handshake =>
    obtain ⟨valid, -⟩ := Bool.and_eq_true_iff.mp handshake
    obtain ⟨rest, queue⟩ := driven.b valid
    have list : (fabric.ports port).b.toList = (fabric.outputs port).b :: rest := queue
    obtain ⟨popped, popEq, popList⟩ := (fabric.ports port).b.pop_eq list
    rw [(fabric.ports port).b.front_eq list, popEq]
    simp only [attempt, bind, Except.bind]
    refine ⟨⟨by simp, by simp, ?_⟩, ?_, ?_⟩
    · have taken : Pipeline.Step env _ _ _ := .retireB port _ rest queue
      simpa [PortState.queues, popList, view_ports] using Traces.single taken
    · intro other different
      simp [different]
    · simp [SameRequests, PortState.queues, view_ports]
  next silent =>
    exact ⟨.refl _, fun _ _ => rfl, ⟨rfl, rfl, rfl⟩, rfl⟩

private theorem retireRead_advances (env : FabricEnv W) (inputs : c.Inputs)
    (fabric : AxiFabric c W) (port : c.Port)
    (valid : (fabric.outputs port).rValid = true →
      ∃ rest, (fabric.view.ports port).r = (fabric.outputs port).r :: rest) :
    Ends (retireRead inputs fabric port)
      (fun after => AdvancesAt env port SameRequests fabric after
        (if (fabric.outputs port).rValid && (inputs port).rReady then
          [.r port (fabric.outputs port).r] else []))
      fun _ _ => False := by
  simp only [retireRead]
  split
  next handshake =>
    obtain ⟨rest, queue⟩ := valid (Bool.and_eq_true_iff.mp handshake).1
    have list : (fabric.ports port).r.toList = (fabric.outputs port).r :: rest := queue
    obtain ⟨popped, popEq, popList⟩ := (fabric.ports port).r.pop_eq list
    rw [popEq]
    simp only [attempt, bind, Except.bind]
    refine ⟨⟨rfl, rfl, ?_⟩, ?_, ?_⟩
    · have taken : Pipeline.Step env _ _ _ := .retireR port _ rest queue
      simpa [PortState.queues, popList, view_ports] using Traces.single taken
    · intro other different
      simp [different]
    · simp [SameRequests, PortState.queues, view_ports]
  next silent =>
    exact ⟨.refl _, fun _ _ => rfl, rfl, rfl, rfl⟩

theorem retirePort_advances (env : FabricEnv W) (inputs : c.Inputs)
    (fabric : AxiFabric c W) (port : c.Port)
    (driven : DrivenPort (fabric.outputs port) (fabric.view.ports port)) :
    Ends (retirePort inputs fabric port)
      (fun after => AdvancesAt env port SameRequests fabric after
        (retireEvents (fabric.outputs port) (inputs port) port))
      fun _ _ => False := by
  simp only [retirePort]
  refine (retireWrite_advances env inputs fabric port driven).bind fun middle first => ?_
  obtain ⟨requests, reads⟩ := first.kept
  have outputs := first.advances.outputs
  have second := retireRead_advances env inputs middle port (by
    rw [outputs, reads]
    exact driven.r)
  refine second.mono (fun after later => ?_) fun _ _ impossible => impossible
  rw [outputs] at later
  refine ⟨first.advances.trans later.advances, ?_, ?_⟩
  · intro other different
    rw [later.others other different, first.others other different]
  · obtain ⟨aw, w, ar⟩ := later.kept
    exact ⟨aw.trans requests.1, w.trans requests.2.1, ar.trans requests.2.2⟩

private theorem acceptAw_advances (env : FabricEnv W) (inputs : c.Inputs)
    (fabric : AxiFabric c W) (port : c.Port)
    (ready : (fabric.outputs port).awReady = true →
      (fabric.view.ports port).aw.length < c.addressDepth) :
    Ends (acceptAw inputs fabric port)
      (fun after => AdvancesAt env port
        (fun before after => after.w = before.w ∧ after.ar = before.ar) fabric after
        (if (inputs port).awValid && (fabric.outputs port).awReady then
          [.aw port (inputs port).aw] else []))
      fun _ _ => False := by
  simp only [acceptAw]
  split
  next handshake =>
    have room := ready (Bool.and_eq_true_iff.mp handshake).2
    obtain ⟨pushed, pushEq, pushList⟩ := (fabric.ports port).aw.push_eq (inputs port).aw room
    rw [pushEq]
    refine ⟨⟨rfl, rfl, ?_⟩, ?_, ?_⟩
    · have taken : Pipeline.Step env _ _ _ := .acceptAw port (inputs port).aw room
      simpa [PortState.queues, pushList, view_ports] using Traces.single taken
    · intro other different
      simp [different]
    · simp [PortState.queues, view_ports]
  next silent => exact ⟨.refl _, fun _ _ => rfl, rfl, rfl⟩

private theorem acceptW_advances (env : FabricEnv W) (inputs : c.Inputs)
    (fabric : AxiFabric c W) (port : c.Port)
    (ready : (fabric.outputs port).wReady = true →
      (fabric.view.ports port).w.length < c.writeDataDepth) :
    Ends (acceptW inputs fabric port)
      (fun after => AdvancesAt env port
        (fun before after => after.ar = before.ar) fabric after
        (if (inputs port).wValid && (fabric.outputs port).wReady then
          [.w port (inputs port).w] else []))
      fun _ _ => False := by
  simp only [acceptW]
  split
  next handshake =>
    have room := ready (Bool.and_eq_true_iff.mp handshake).2
    obtain ⟨pushed, pushEq, pushList⟩ := (fabric.ports port).w.push_eq (inputs port).w room
    rw [pushEq]
    refine ⟨⟨rfl, rfl, ?_⟩, ?_, ?_⟩
    · have taken : Pipeline.Step env _ _ _ := .acceptW port (inputs port).w room
      simpa [PortState.queues, pushList, view_ports] using Traces.single taken
    · intro other different
      simp [different]
    · simp [PortState.queues, view_ports]
  next silent => exact ⟨.refl _, fun _ _ => rfl, rfl⟩

private theorem acceptAr_advances (env : FabricEnv W) (inputs : c.Inputs)
    (fabric : AxiFabric c W) (port : c.Port)
    (ready : (fabric.outputs port).arReady = true →
      (fabric.view.ports port).ar.length < c.addressDepth) :
    Ends (acceptAr inputs fabric port)
      (fun after => AdvancesAt env port
        (fun _ _ => True) fabric after
        (if (inputs port).arValid && (fabric.outputs port).arReady then
          [.ar port (inputs port).ar] else []))
      fun _ _ => False := by
  simp only [acceptAr]
  split
  next handshake =>
    have room := ready (Bool.and_eq_true_iff.mp handshake).2
    obtain ⟨pushed, pushEq, pushList⟩ := (fabric.ports port).ar.push_eq (inputs port).ar room
    rw [pushEq]
    refine ⟨⟨rfl, rfl, ?_⟩, ?_, ?_⟩
    · have taken : Pipeline.Step env _ _ _ := .acceptAr port (inputs port).ar room
      simpa [PortState.queues, pushList, view_ports] using Traces.single taken
    · intro other different
      simp [different]
    · trivial
  next silent => exact ⟨.refl _, fun _ _ => rfl, trivial⟩

theorem acceptPort_advances (env : FabricEnv W) (inputs : c.Inputs)
    (fabric : AxiFabric c W) (port : c.Port)
    (aw : (fabric.outputs port).awReady = true →
      (fabric.view.ports port).aw.length < c.addressDepth)
    (w : (fabric.outputs port).wReady = true →
      (fabric.view.ports port).w.length < c.writeDataDepth)
    (ar : (fabric.outputs port).arReady = true →
      (fabric.view.ports port).ar.length < c.addressDepth) :
    Ends (acceptPort inputs fabric port)
      (fun after => AdvancesAt env port (fun _ _ => True) fabric after
        (acceptEvents (fabric.outputs port) (inputs port) port))
      fun _ _ => False := by
  simp only [acceptPort]
  refine (acceptAw_advances env inputs fabric port aw).bind fun second first => ?_
  have secondOutputs := first.advances.outputs
  refine (acceptW_advances env inputs second port (by
    rw [secondOutputs, first.kept.1]
    exact w)).bind fun third next => ?_
  have thirdOutputs := next.advances.outputs.trans secondOutputs
  refine (acceptAr_advances env inputs third port (by
    rw [thirdOutputs, next.kept, first.kept.2]
    exact ar)).mono (fun after last => ?_) fun _ _ impossible => impossible
  rw [secondOutputs] at next
  rw [thirdOutputs] at last
  refine ⟨(first.advances.trans next.advances).trans last.advances, ?_, trivial⟩
  intro other different
  rw [last.others other different, next.others other different, first.others other different]

/-- A loop over the ports whose body touches the current port only. -/
private theorem foldlM_ports (env : FabricEnv W)
    {body : AxiFabric c W → c.Port → Outcome Fault (AxiFabric c W) (AxiFabric c W)}
    (events : SlaveSignals c.dataBytes → c.Port → List (Event c))
    (ready : SlaveSignals c.dataBytes → Queues c → Prop)
    (kept : Queues c → Queues c → Prop)
    (reflexive : ∀ queues, kept queues queues)
    (bodySpec : ∀ fabric port, ready (fabric.outputs port) (fabric.view.ports port) →
      Ends (body fabric port)
        (fun after => AdvancesAt env port kept fabric after (events (fabric.outputs port) port))
        fun _ _ => False) :
    ∀ (ports : List c.Port) (fabric : AxiFabric c W), ports.Nodup →
      (∀ port ∈ ports, ready (fabric.outputs port) (fabric.view.ports port)) →
      Ends (ports.foldlM body fabric)
        (fun after =>
          Advances env fabric after (ports.flatMap fun port => events (fabric.outputs port) port) ∧
            ∀ port, kept (fabric.view.ports port) (after.view.ports port) ∧
              (port ∉ ports → after.view.ports port = fabric.view.ports port))
        fun _ _ => False := by
  intro ports
  induction ports with
  | nil => exact fun fabric _ _ => ⟨.refl _, fun port => ⟨reflexive _, fun _ => rfl⟩⟩
  | cons port ports ih =>
      intro fabric nodup allReady
      obtain ⟨fresh, nodup⟩ := List.nodup_cons.mp nodup
      rw [List.foldlM_cons]
      refine (bodySpec fabric port (allReady port (by simp))).bind fun middle first => ?_
      have outputs := first.advances.outputs
      have stillReady : ∀ other ∈ ports, ready (middle.outputs other) (middle.view.ports other) := by
        intro other member
        have different : other ≠ port := fun equal => fresh (equal ▸ member)
        rw [outputs, first.others other different]
        exact allReady other (by simp [member])
      refine (ih middle nodup stillReady).mono (fun after later => ?_)
        fun _ _ impossible => impossible
      rw [outputs] at later
      refine ⟨first.advances.trans later.1, fun other => ?_⟩
      by_cases here : other = port
      · subst here
        refine ⟨?_, fun outside => absurd (by simp) outside⟩
        rw [(later.2 other).2 fresh]
        exact first.kept
      · rw [← first.others other here]
        refine ⟨(later.2 other).1, fun outside => (later.2 other).2 ?_⟩
        exact fun member => outside (by simp [member])

/-- Handshakes on the response channels in one cycle. -/
def allRetireEvents (outputs : c.Outputs) (inputs : c.Inputs) : List (Event c) :=
  (List.finRange c.numPorts).flatMap fun port => retireEvents (outputs port) (inputs port) port

/-- Handshakes on the request channels in one cycle. -/
def allAcceptEvents (outputs : c.Outputs) (inputs : c.Inputs) : List (Event c) :=
  (List.finRange c.numPorts).flatMap fun port => acceptEvents (outputs port) (inputs port) port

theorem retireResponses_advances (env : FabricEnv W) (inputs : c.Inputs) (fabric : AxiFabric c W)
    (driven : Driven fabric) :
    Ends (retireResponses inputs fabric)
      (fun after => Advances env fabric after (allRetireEvents fabric.outputs inputs) ∧
        ∀ port, SameRequests (fabric.view.ports port) (after.view.ports port))
      fun _ _ => False := by
  refine (foldlM_ports env (fun signals port => retireEvents signals (inputs port) port)
    DrivenPort SameRequests (fun _ => ⟨rfl, rfl, rfl⟩)
    (fun fabric port ready => retirePort_advances env inputs fabric port ready)
    _ fabric (List.nodup_finRange _) fun port _ => driven port).mono ?_
      fun _ _ impossible => impossible
  exact fun after holds => ⟨holds.1, fun port => (holds.2 port).1⟩

theorem acceptIngress_advances (env : FabricEnv W) (inputs : c.Inputs) (fabric : AxiFabric c W)
    (ready : ∀ port,
      ((fabric.outputs port).awReady = true → (fabric.view.ports port).aw.length < c.addressDepth) ∧
      ((fabric.outputs port).wReady = true → (fabric.view.ports port).w.length < c.writeDataDepth) ∧
      ((fabric.outputs port).arReady = true → (fabric.view.ports port).ar.length < c.addressDepth)) :
    Ends (acceptIngress inputs fabric)
      (fun after => Advances env fabric after (allAcceptEvents fabric.outputs inputs))
      fun _ _ => False := by
  refine (foldlM_ports env (fun signals port => acceptEvents signals (inputs port) port)
    (fun signals (queues : Queues c) =>
      (signals.awReady = true → queues.aw.length < c.addressDepth) ∧
      (signals.wReady = true → queues.w.length < c.writeDataDepth) ∧
      (signals.arReady = true → queues.ar.length < c.addressDepth))
    (fun _ _ => True) (fun _ => trivial)
    (fun fabric port ready =>
      acceptPort_advances env inputs fabric port ready.1 ready.2.1 ready.2.2)
    _ fabric (List.nodup_finRange _) fun port _ => ready port).mono ?_
      fun _ _ impossible => impossible
  exact fun after holds => holds.1

end AxiFabric

end AxiTestbench
