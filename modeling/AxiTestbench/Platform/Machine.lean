import AxiTestbench.Fabric.Script
import AxiTestbench.Platform.Settle

/-!
# The simulated machine

The loop of `run_simulation` around the fabric: `begin_cycle` before the signals are driven,
`drive` and `commit` of the fabric, and `end_cycle` after the clock edge.  Between two cycles
the devices change through the platform, within a cycle through the bus.
-/

namespace AxiTestbench

open Lib Outcome

/-- The virtual functions of a device.  The values at its inputs are an argument of each
of them, since they are read through the pointers that `connect` has set. -/
structure DeviceClass extends Settling where
  reset : State → (Nat → UInt64) → State := fun state _ => state
  tick : State → (Nat → UInt64) → State := fun state _ => state
  readImpl : State → (Nat → UInt64) → (offset : Nat) → (enable : List UInt8) →
    State × Response × List UInt8
  writeImpl : State → (Nat → UInt64) → (offset : Nat) → (data strobe : List UInt8) →
    State × Response
  supportsExclusive : Bool := false
  supportsBurst : Bool := false
  isExit : Bool := false
  exitCode : State → UInt32 := fun _ => 0
  loadable : Bool := false
  canLoad : State → (offset size : Nat) → Bool := fun _ _ _ => false
  load : State → (offset : Nat) → (data : List UInt8) → State × Response :=
    fun state _ _ => (state, .slaveError)
  /-- Host loads come after the platform has settled and are not followed by `settle()`. -/
  load_output : ∀ state offset data, output (load state offset data).1 = output state := by
    intros; rfl
  load_settle : ∀ state offset data inputs, settle state inputs = state →
    settle (load state offset data).1 inputs = (load state offset data).1 := by
    intros; assumption

/-- A constructed platform.  The instances are connected without a cycle and are listed in
an order that follows the connections, and every window belongs to an instance. -/
structure Platform where
  devices : String → DeviceClass
  ids : List String
  wiring : Wiring
  order : List String
  space : AddressSpace
  ids_nodup : ids.Nodup
  order_perm : order.Perm ids
  scheduled : Scheduled wiring.Reads order
  mapped : ∀ mapping ∈ space.mappings, mapping.device < ids.length

namespace Platform

/-- The states of all devices. -/
abbrev World (platform : Platform) : Type := ∀ id, (platform.devices id).State

variable (platform : Platform)

def inputs (world : platform.World) (id : String) : Nat → UInt64 :=
  platform.wiring.inputs (fun id => (platform.devices id).toSettling) world id

def settle (world : platform.World) : platform.World :=
  platform.wiring.settle (fun id => (platform.devices id).toSettling) platform.order world

/-- `Platform::reset`. -/
def reset (world : platform.World) : platform.World :=
  platform.settle (pass (fun id world => (platform.devices id).reset (world id)
    (platform.inputs world id)) platform.order world)

/-- `Platform::end_cycle` of an active cycle. -/
def tick (world : platform.World) : platform.World :=
  platform.settle (pass (fun id world => (platform.devices id).tick (world id)
    (platform.inputs world id)) platform.order world)

/-- The devices as the bus sees them; a device is named by the position of its instance. -/
def bank : DeviceBank platform.World where
  readImpl index world offset enable :=
    match platform.ids[index]? with
    | none => (world, .slaveError, List.replicate enable.length 0)
    | some id =>
        let answer := (platform.devices id).readImpl (world id) (platform.inputs world id) offset
          enable
        (Function.update world id answer.1, answer.2)
  writeImpl index world offset data strobe :=
    match platform.ids[index]? with
    | none => (world, .slaveError)
    | some id =>
        let answer := (platform.devices id).writeImpl (world id) (platform.inputs world id) offset
          data strobe
        (Function.update world id answer.1, answer.2)
  supportsExclusive index _ :=
    platform.ids[index]?.any fun id => (platform.devices id).supportsExclusive
  supportsBurst index _ := platform.ids[index]?.any fun id => (platform.devices id).supportsBurst
  isExit index _ := platform.ids[index]?.any fun id => (platform.devices id).isExit
  exitCode index world :=
    match platform.ids[index]? with
    | none => 0
    | some id => (platform.devices id).exitCode (world id)
  reset index world :=
    match platform.ids[index]? with
    | none => world
    | some id =>
        Function.update world id ((platform.devices id).reset (world id) (platform.inputs world id))

/-- The simulator constructs its fabric with `reset_devices` off. -/
def env : FabricEnv platform.World where
  bank := platform.bank
  space := platform.space
  resetDevices := false

end Platform

/-- What happens to the devices in a run. -/
inductive MachineEvent (c : Config) where
  | reset
  | tick
  | bus (event : Event c)

/-- The simulator between two cycles. -/
structure Machine (c : Config) (platform : Platform) where
  fabric : AxiFabric c platform.World
  wasReset : Bool := false
  trace : List (MachineEvent c) := []

namespace Machine

variable {c : Config} {platform : Platform}

def fresh (c : Config) (platform : Platform) (random : UInt64) (stall : Stall)
    (world : platform.World) : Machine c platform where
  fabric := .fresh c random stall world

def world (machine : Machine c platform) : platform.World := machine.fabric.world

/-- `Platform::begin_cycle`. -/
def beginCycle (machine : Machine c platform) (resetActive : Bool) : Machine c platform :=
  if resetActive ∧ machine.wasReset = false then
    { fabric := { machine.fabric with world := platform.reset machine.fabric.world }
      wasReset := resetActive
      trace := machine.trace ++ [.reset] }
  else
    { machine with wasReset := resetActive }

/-- The machine after `commit`, which has extended the trace of the fabric. -/
def committed (machine : Machine c platform) (fabric : AxiFabric c platform.World) :
    Machine c platform where
  fabric
  wasReset := machine.wasReset
  trace := machine.trace ++ (fabric.trace.drop machine.fabric.trace.length).map .bus

/-- `Platform::end_cycle`. -/
def endCycle (machine : Machine c platform) (resetActive : Bool) : Machine c platform :=
  if resetActive then machine
  else
    { machine with
      fabric := { machine.fabric with world := platform.tick machine.fabric.world }
      trace := machine.trace ++ [.tick] }

/-- The body of the simulation loop. -/
def cycle (machine : Machine c platform) (input : c.Inputs × Bool) :
    Outcome Fault (Machine c platform) (Machine c platform) :=
  let begun := machine.beginCycle input.2
  match AxiFabric.cycleWith platform.env begun.fabric input with
  | .ok fabric => .ok ((begun.committed fabric).endCycle input.2)
  | .error (fault, fabric) => .error (fault, begun.committed fabric)

def run (cycles : List (c.Inputs × Bool)) (machine : Machine c platform) :
    Outcome Fault (Machine c platform) (Machine c platform) :=
  cycles.foldlM cycle machine

end Machine

/-! ## The calls of one device -/

/-- A call of a virtual function, with the answer that the trace has recorded. -/
inductive DeviceCall where
  | reset
  | tick
  | settle
  | read (offset : Nat) (enable : List UInt8) (response : Response) (data : List UInt8)
  | write (offset : Nat) (data strobe : List UInt8) (response : Response)
  deriving DecidableEq

/-- Calls of a device together with the values at its inputs. -/
def DeviceClass.recorder (device : DeviceClass) :
    Recorder device.State (DeviceCall × (Nat → UInt64)) where
  act state
    | (.reset, inputs) => device.reset state inputs
    | (.tick, inputs) => device.tick state inputs
    | (.settle, inputs) => device.settle state inputs
    | (.read offset enable _ _, inputs) => (device.readImpl state inputs offset enable).1
    | (.write offset data strobe _, inputs) => (device.writeImpl state inputs offset data strobe).1
  Truthful state
    | (.read offset enable response data, inputs) =>
        (device.readImpl state inputs offset enable).2 = (response, data)
    | (.write offset data strobe response, inputs) =>
        data.length = strobe.length ∧ (device.writeImpl state inputs offset data strobe).2 = response
    | _ => True

/-- The calls that an event makes to the device at a position. -/
def MachineEvent.calls {c : Config} (index : DeviceId) : MachineEvent c → List DeviceCall
  | .reset => [.reset, .settle]
  | .tick => [.tick, .settle]
  | .bus (.deviceRead _ call) =>
      if call.device = index then [.read call.offset call.enable call.response call.data] else []
  | .bus (.deviceWrite _ call) =>
      if call.device = index then [.write call.offset call.data call.strobe call.response] else []
  | .bus _ => []

namespace Platform

variable {c : Config} {platform : Platform}

/-- The trace of a machine as a record of all devices.  The fabric never resets them. -/
def recorder (platform : Platform) : Recorder platform.World (MachineEvent c) where
  act world
    | .reset => platform.reset world
    | .tick => platform.tick world
    | .bus event => event.act platform.env world
  Truthful world
    | .bus .resetDevices => False
    | .bus event => event.Truthful platform.env world
    | _ => True

theorem mem_order {id : String} (member : id ∈ platform.ids) : id ∈ platform.order :=
  platform.order_perm.mem_iff.mpr member

theorem position_inj {id : String} {index other : DeviceId} (here : platform.ids[index]? = some id)
    (there : platform.ids[other]? = some id) : index = other := by
  obtain ⟨inRange, atIndex⟩ := List.getElem?_eq_some_iff.mp here
  obtain ⟨inside, atOther⟩ := List.getElem?_eq_some_iff.mp there
  exact platform.ids_nodup.getElem_inj_iff.mp (atIndex.trans atOther.symm)

/-- A pass makes one call to each device, and so does the settling after it. -/
theorem pass_explained {id : String} (member : id ∈ platform.ids)
    (act : (id : String) → platform.World → (platform.devices id).State) (call : DeviceCall)
    (acts : ∀ world, act id world =
      (platform.devices id).recorder.act (world id) (call, platform.inputs world id))
    (silent : ∀ state inputs, (platform.devices id).recorder.Truthful state (call, inputs))
    (world : platform.World) :
    ∃ inputs, (platform.devices id).recorder.Explains (world id)
      (pass act platform.order world id) [(call, inputs)] := by
  have nodup : platform.order.Nodup := platform.order_perm.nodup_iff.mpr platform.ids_nodup
  obtain ⟨seen, own, fired⟩ : ∃ seen : platform.World, seen id = world id ∧
      pass act platform.order world id = act id seen :=
    exists_pass_eq nodup (mem_order member) world
  refine ⟨platform.inputs seen id, ?_⟩
  rw [fired, acts, own]
  exact .single (silent _ _)

theorem settled_explained {id : String} (member : id ∈ platform.ids)
    (act : (id : String) → platform.World → (platform.devices id).State) (call : DeviceCall)
    (acts : ∀ world, act id world =
      (platform.devices id).recorder.act (world id) (call, platform.inputs world id))
    (silent : ∀ state inputs, (platform.devices id).recorder.Truthful state (call, inputs))
    (world : platform.World) :
    ∃ log, (platform.devices id).recorder.Explains (world id)
      (platform.settle (pass act platform.order world) id) log ∧
      log.map Prod.fst = [call, .settle] := by
  obtain ⟨inputs, first⟩ := pass_explained member act call acts silent world
  obtain ⟨later, second⟩ := pass_explained member
    (platform.wiring.settleDevice fun id => (platform.devices id).toSettling) .settle
    (fun _ => rfl) (fun _ _ => trivial) (pass act platform.order world)
  exact ⟨_, first.trans second, rfl⟩

/-- A call of the bus is a call of the device it names. -/
theorem bus_explained {id : String} {index other : DeviceId}
    (here : platform.ids[index]? = some id) {world after : platform.World} {call : DeviceCall}
    (missing : platform.ids[other]? = none → after = world)
    (found : ∀ id, platform.ids[other]? = some id → ∃ state, after = Function.update world id state ∧
      (platform.devices id).recorder.Explains (world id) state
        [(call, platform.inputs world id)]) :
    ∃ log, (platform.devices id).recorder.Explains (world id) (after id) log ∧
      log.map Prod.fst = if other = index then [call] else [] := by
  by_cases same : other = index
  · subst same
    obtain ⟨state, rfl, explained⟩ := found id here
    rw [if_pos rfl, Function.update_self]
    exact ⟨_, explained, rfl⟩
  · rw [if_neg same]
    refine ⟨[], ?_, rfl⟩
    cases position : platform.ids[other]? with
    | none =>
        rw [missing position]
        exact .refl _
    | some name =>
        obtain ⟨state, rfl, -⟩ := found name position
        have different : id ≠ name := by
          rintro rfl
          exact same (position_inj position here)
        rw [Function.update_of_ne different]
        exact .refl _

/-- What one event is to one device. -/
theorem event_explained {id : String} {index : DeviceId} (here : platform.ids[index]? = some id)
    (world : platform.World) (event : MachineEvent c)
    (truthful : platform.recorder.Truthful world event) :
    ∃ log, (platform.devices id).recorder.Explains (world id)
      (platform.recorder.act world event id) log ∧ log.map Prod.fst = event.calls index := by
  have member : id ∈ platform.ids := List.mem_of_getElem? here
  cases event with
  | reset => exact settled_explained member _ .reset (fun _ => rfl) (fun _ _ => trivial) world
  | tick => exact settled_explained member _ .tick (fun _ => rfl) (fun _ _ => trivial) world
  | bus event =>
      cases event with
      | resetDevices => exact truthful.elim
      | deviceRead route call =>
          refine bus_explained here (fun missing => ?_) fun name position => ?_
          · simp [recorder, Event.act, env, bank, missing]
          · refine ⟨_, by simp [recorder, Event.act, env, bank, position]; rfl, rfl, ?_, trivial⟩
            simpa [DeviceClass.recorder, recorder, Event.Truthful, env, bank, position] using truthful
      | deviceWrite route call =>
          refine bus_explained here (fun missing => ?_) fun name position => ?_
          · simp [recorder, Event.act, env, bank, missing]
          · refine ⟨_, by simp [recorder, Event.act, env, bank, position]; rfl, rfl, ?_, trivial⟩
            simpa [DeviceClass.recorder, recorder, Event.Truthful, env, bank, position] using truthful
      | _ => exact ⟨[], .refl _, rfl⟩

end Platform

/-! ## Runs -/

namespace Machine

variable {c : Config} {platform : Platform}

/-- A record of the fabric is one of the machine. -/
theorem explained_of_bus {before after : platform.World} {events : List (Event c)}
    (explained : platform.env.recorder.Explains before after events)
    (kept : .resetDevices ∉ events) :
    platform.recorder.Explains before after (events.map .bus) := by
  obtain ⟨rfl, faithful⟩ := explained
  induction events generalizing before with
  | nil => exact .refl _
  | cons event events ih =>
      obtain ⟨different, laterKept⟩ := not_or.mp (mt List.mem_cons.mpr kept)
      have truthful : platform.recorder.Truthful before (.bus event) := by
        cases event with
        | resetDevices => exact absurd rfl different
        | _ => exact faithful.1
      exact (Recorder.Explains.single truthful).trans (ih laterKept faithful.2)

/-- An active cycle does not reset the devices. -/
theorem active_follows {W : Type} (env : FabricEnv W) (inputs : c.Inputs) (fabric : AxiFabric c W) :
    ∃ events, AxiFabric.Follows env fabric
      (AxiFabric.cycleWith env fabric (inputs, false)).state events ∧ .resetDevices ∉ events := by
  have kept : ∀ work : List (Event c), (∀ event ∈ work, event.internal = true) →
      .resetDevices ∉ AxiFabric.handshakes (AxiFabric.drive false fabric).outputs inputs ++ work := by
    intro work internal member
    rcases List.mem_append.mp member with handshake | inner
    · cases AxiFabric.shaken_of_mem handshake
    · cases internal _ inner
  have ends := AxiFabric.commit_active env inputs (AxiFabric.drive false fabric)
    (AxiFabric.drive_driven fabric)
  have both : Ends (AxiFabric.cycleWith env fabric (inputs, false))
      (fun after => ∃ events, AxiFabric.Follows env fabric after events ∧ .resetDevices ∉ events)
      fun _ after => ∃ events, AxiFabric.Follows env fabric after events ∧
        .resetDevices ∉ events := by
    refine ends.mono ?_ ?_
    · rintro after ⟨work, internal, advances⟩
      exact ⟨_, AxiFabric.follows_of_advances advances, by simpa using kept work internal⟩
    · rintro _ after (advances | ⟨work, internal, advances⟩)
      · exact ⟨[], AxiFabric.follows_of_advances advances, by simp⟩
      · exact ⟨_, AxiFabric.follows_of_advances advances, kept work internal⟩
  exact both.state_of_both

/-- A cycle of the fabric is recorded by its events.  In reset it calls no device. -/
theorem fabric_explained (fabric : AxiFabric c platform.World) (input : c.Inputs × Bool) :
    let after := (AxiFabric.cycleWith platform.env fabric input).state
    ∃ events, after.trace = fabric.trace ++ events ∧
      platform.recorder.Explains fabric.world after.world (events.map .bus) ∧
      (input.2 = true → after.world = fabric.world) := by
  intro after
  obtain ⟨inputs, resetActive⟩ := input
  cases resetActive with
  | false =>
      obtain ⟨events, follows, kept⟩ := active_follows platform.env inputs fabric
      exact ⟨events, follows.trace, explained_of_bus (Pipeline.explained_traces follows.steps) kept,
        by simp⟩
  | true =>
      obtain ⟨final, done, advances⟩ :=
        AxiFabric.commit_reset platform.env inputs (AxiFabric.drive true fabric)
      have follows := AxiFabric.follows_of_advances advances
      have here : after = final := by
        rw [show after = (AxiFabric.cycleWith platform.env fabric (inputs, true)).state from rfl,
          show AxiFabric.cycleWith platform.env fabric (inputs, true) = .ok final from done]
        rfl
      have explained := Pipeline.explained_traces follows.steps
      rw [here]
      refine ⟨_, follows.trace, explained_of_bus explained ?_, fun _ => ?_⟩
      · cases (AxiFabric.drive true fabric).wasReset <;> simp [Platform.env]
      · rw [show final.world = _ from explained.state]
        cases (AxiFabric.drive true fabric).wasReset <;> rfl

theorem beginCycle_explained (machine : Machine c platform) (resetActive : Bool) :
    ∃ events, (machine.beginCycle resetActive).trace = machine.trace ++ events ∧
      platform.recorder.Explains machine.world (machine.beginCycle resetActive).world events := by
  rw [beginCycle]
  split
  · exact ⟨_, rfl, rfl, trivial, trivial⟩
  · exact ⟨[], (List.append_nil _).symm, .refl _⟩

theorem endCycle_explained (machine : Machine c platform) (resetActive : Bool) :
    ∃ events, (machine.endCycle resetActive).trace = machine.trace ++ events ∧
      platform.recorder.Explains machine.world (machine.endCycle resetActive).world events := by
  rw [endCycle]
  split
  · exact ⟨[], (List.append_nil _).symm, .refl _⟩
  · exact ⟨_, rfl, rfl, trivial, trivial⟩

/-- The machine after `commit` is explained by the new events of the fabric. -/
theorem committed_explained (machine : Machine c platform) (input : c.Inputs × Bool) :
    let fabric := (AxiFabric.cycleWith platform.env machine.fabric input).state
    ∃ events, (machine.committed fabric).trace = machine.trace ++ events ∧
      platform.recorder.Explains machine.world (machine.committed fabric).world events := by
  intro fabric
  obtain ⟨events, trace, explained, -⟩ := fabric_explained machine.fabric input
  refine ⟨events.map .bus, ?_, explained⟩
  rw [committed, show fabric.trace = _ from trace, List.drop_left]

theorem cycle_explained (machine : Machine c platform) (input : c.Inputs × Bool) :
    ∃ events, (machine.cycle input).state.trace = machine.trace ++ events ∧
      platform.recorder.Explains machine.world (machine.cycle input).state.world events := by
  obtain ⟨first, firstTrace, firstExplained⟩ := machine.beginCycle_explained input.2
  obtain ⟨second, secondTrace, secondExplained⟩ :=
    (machine.beginCycle input.2).committed_explained input
  rw [cycle]
  cases done : AxiFabric.cycleWith platform.env (machine.beginCycle input.2).fabric input with
  | error thrown =>
      rw [done] at secondTrace secondExplained
      refine ⟨first ++ second, ?_, firstExplained.trans secondExplained⟩
      rw [← List.append_assoc, ← firstTrace]
      exact secondTrace
  | ok fabric =>
      rw [done] at secondTrace secondExplained
      obtain ⟨third, thirdTrace, thirdExplained⟩ :=
        ((machine.beginCycle input.2).committed fabric).endCycle_explained input.2
      refine ⟨first ++ second ++ third, ?_,
        (firstExplained.trans secondExplained).trans thirdExplained⟩
      rw [← List.append_assoc, ← List.append_assoc, ← firstTrace]
      exact thirdTrace.trans (congrArg (· ++ third) secondTrace)

theorem run_explained (cycles : List (c.Inputs × Bool)) (machine : Machine c platform) :
    ∃ events, (run cycles machine).state.trace = machine.trace ++ events ∧
      platform.recorder.Explains machine.world (run cycles machine).state.world events := by
  induction cycles generalizing machine with
  | nil => exact ⟨[], (List.append_nil _).symm, .refl _⟩
  | cons input cycles ih =>
      obtain ⟨events, trace, explained⟩ := machine.cycle_explained input
      rw [run, List.foldlM_cons]
      cases done : machine.cycle input with
      | error thrown =>
          rw [done] at trace explained
          exact ⟨events, trace, explained⟩
      | ok middle =>
          rw [done] at trace explained
          obtain ⟨more, laterTrace, laterExplained⟩ := ih middle
          refine ⟨events ++ more, ?_, explained.trans laterExplained⟩
          rw [← List.append_assoc, ← trace]
          exact laterTrace

/-- The calls of one device explain its state. -/
theorem device_explained (cycles : List (c.Inputs × Bool)) (machine : Machine c platform)
    {id : String} {index : DeviceId} (here : platform.ids[index]? = some id) :
    ∃ events log, (run cycles machine).state.trace = machine.trace ++ events ∧
      (platform.devices id).recorder.Explains (machine.world id)
        ((run cycles machine).state.world id) log ∧
      log.map Prod.fst = events.flatMap (MachineEvent.calls index) := by
  obtain ⟨events, trace, explained⟩ := run_explained cycles machine
  obtain ⟨log, own, calls⟩ := explained.part (platform.event_explained here)
  exact ⟨events, log, trace, own, calls⟩

end Machine

/-- Every device lives its own life.  In every run of the simulator, thrown or not, the state
of a device is the one to which its own calls lead: the resets and ticks of the platform, each
followed by `settle()`, and the accesses that the fabric has recorded for it, in the order of
the trace.  Every recorded answer is what the device answered at that point. -/
theorem devices_follow_calls {c : Config} (platform : Platform)
    (cycles : List (c.Inputs × Bool)) (random : UInt64) (stall : Stall) (world : platform.World)
    (index : Fin platform.ids.length) :
    let final := (Machine.run cycles (.fresh c platform random stall world)).state
    let id := platform.ids[index]
    ∃ log, (platform.devices id).recorder.Explains (world id) (final.world id) log ∧
      log.map Prod.fst = final.trace.flatMap (MachineEvent.calls index) := by
  intro final id
  obtain ⟨events, log, trace, explained, calls⟩ := Machine.device_explained cycles
    (.fresh c platform random stall world) (List.getElem?_eq_getElem index.isLt)
  refine ⟨log, explained, calls.trans ?_⟩
  rw [show final.trace = events from trace]

/-! ## Settled sidebands -/

namespace Platform

variable {platform : Platform}

/-- Every device has settled against the values at its inputs. -/
def Settled (platform : Platform) (world : platform.World) : Prop :=
  ∀ id ∈ platform.ids, (platform.devices id).settle (world id) (platform.inputs world id) = world id

theorem settled_settle (world : platform.World) : platform.Settled (platform.settle world) := by
  intro id member
  have isLocal : Local (platform.wiring.settleDevice fun id => (platform.devices id).toSettling)
      platform.wiring.Reads := platform.wiring.settleDevice_local
  have fired : platform.settle world id = _ :=
    pass_eq isLocal platform.scheduled (mem_order member) world
  -- The device does not read itself, so its inputs have their final values.
  have same : platform.wiring.inputs (fun id => (platform.devices id).toSettling)
      (Function.update (platform.settle world) id (world id)) id =
        platform.inputs (platform.settle world) id := by
    refine Wiring.inputs_congr fun source reads => ?_
    obtain ⟨front, rest, split⟩ := List.append_of_mem (mem_order member)
    have early := platform.scheduled.before front id rest split source reads
    have different : source ≠ id := by
      rintro rfl
      have nodup := platform.scheduled.nodup
      rw [split, List.nodup_append] at nodup
      exact nodup.2.2 source early source (by simp) rfl
    exact Function.update_of_ne different _ _
  rw [Wiring.settleDevice, Function.update_self] at fired
  have once : platform.settle world id = (platform.devices id).settle (world id)
      (platform.inputs (platform.settle world) id) := by
    rw [← same]
    exact fired
  generalize platform.inputs (platform.settle world) id = inputs at once ⊢
  rw [once]
  exact (platform.devices id).settle_settle _ _

end Platform

namespace Machine

variable {c : Config} {platform : Platform} {machine : Machine c platform}

theorem settled_beginCycle (settled : platform.Settled machine.world) (resetActive : Bool) :
    platform.Settled (machine.beginCycle resetActive).world := by
  rw [beginCycle]
  split
  · exact Platform.settled_settle _
  · exact settled

/-- An active cycle ends with `settle()`; in reset the devices are left alone. -/
theorem settled_cycle (settled : platform.Settled machine.world) {input : c.Inputs × Bool}
    {next : Machine c platform} (returned : machine.cycle input = .ok next) :
    platform.Settled next.world := by
  obtain ⟨events, -, -, quiet⟩ := fabric_explained (machine.beginCycle input.2).fabric input
  rw [cycle] at returned
  cases done : AxiFabric.cycleWith platform.env (machine.beginCycle input.2).fabric input with
  | error thrown =>
      rw [done] at returned
      cases returned
  | ok fabric =>
      rw [done] at returned quiet
      cases returned
      rw [endCycle]
      split
      next resetActive =>
        have same : ((machine.beginCycle input.2).committed fabric).world =
          (machine.beginCycle input.2).world := quiet resetActive
        rw [same]
        exact settled_beginCycle settled input.2
      next => exact Platform.settled_settle _

theorem settled_run (settled : platform.Settled machine.world) (cycles : List (c.Inputs × Bool))
    {final : Machine c platform} (returned : run cycles machine = .ok final) :
    platform.Settled final.world := by
  induction cycles generalizing machine with
  | nil =>
      cases returned
      exact settled
  | cons input cycles ih =>
      rw [run, List.foldlM_cons, bind_eq_ok_iff] at returned
      obtain ⟨middle, first, later⟩ := returned
      exact ih (settled_cycle settled first) later

end Machine

/-! ## Scripted devices -/

/-- The answers to the queries of the bus are fixed for each class. -/
def Platform.traits (platform : Platform) : DeviceTraits where
  supportsExclusive index :=
    platform.ids[index]?.any fun id => (platform.devices id).supportsExclusive
  supportsBurst index := platform.ids[index]?.any fun id => (platform.devices id).supportsBurst
  isExit index := platform.ids[index]?.any fun id => (platform.devices id).isExit

theorem Platform.has_traits (platform : Platform) : platform.env.bank.Has platform.traits :=
  ⟨fun _ _ => rfl, fun _ _ => rfl, fun _ _ => rfl⟩

namespace Machine

variable {c : Config} {platform : Platform}

/-- The fabric of a machine in front of scripted devices. -/
abbrev onScript (answers : List Answer) (exitCode : UInt32) (machine : Machine c platform) :
    AxiFabric c Script :=
  machine.fabric.onScript answers exitCode

theorem onScript_beginCycle (answers : List Answer) (exitCode : UInt32)
    (machine : Machine c platform) (resetActive : Bool) :
    (machine.beginCycle resetActive).onScript answers exitCode =
      machine.onScript answers exitCode := by
  rw [beginCycle]
  split
  next => rfl
  next => rfl

theorem onScript_endCycle (answers : List Answer) (exitCode : UInt32)
    (machine : Machine c platform) (resetActive : Bool) :
    (machine.endCycle resetActive).onScript answers exitCode =
      machine.onScript answers exitCode := by
  rw [endCycle]
  split
  next => rfl
  next => rfl

/-- What the platform does between two cycles is invisible to the fabric. -/
theorem cycle_foreseen (machine : Machine c platform) (input : c.Inputs × Bool) :
    Foresees onScript (machine.cycle input) fun script past =>
      AxiFabric.cycleWith (platform.env.scripted platform.traits) (machine.onScript script past)
        input := by
  intro rest
  obtain ⟨start, foreseen⟩ := AxiFabric.cycleWith_foreseen platform.has_traits rfl input
    (machine.beginCycle input.2).fabric rest
  refine ⟨start, fun past => ?_⟩
  obtain ⟨final, same⟩ := foreseen past
  refine ⟨final, ?_⟩
  beta_reduce
  rw [← onScript_beginCycle start past machine input.2]
  refine same.trans ?_
  rw [cycle]
  cases AxiFabric.cycleWith platform.env (machine.beginCycle input.2).fabric input with
  | error thrown => rfl
  | ok fabric =>
      exact congrArg Except.ok
        (onScript_endCycle rest final ((machine.beginCycle input.2).committed fabric) input.2).symm

end Machine

theorem Machine.run_scripted {c : Config} {platform : Platform} (cycles : List (c.Inputs × Bool))
    (random : UInt64) (stall : Stall) (world : platform.World) :
    ∃ answers final,
      AxiFabric.run (platform.env.scripted platform.traits) cycles
          (.fresh c random stall (answers, 0)) =
        Outcome.recast (Machine.onScript [] final)
          (Machine.run cycles (.fresh c platform random stall world)) := by
  obtain ⟨answers, foreseen⟩ := Foresees.foldlM Machine.cycle_foreseen cycles
    (.fresh c platform random stall world) []
  obtain ⟨final, same⟩ := foreseen 0
  exact ⟨answers, final, same⟩

/-- Every run of the simulator is a run of the fabric alone, with devices that read their
answers from a script: the outcome, the exception if there is one, and the whole state of the
fabric with its trace are the same.  What holds of the fabric with any devices therefore holds
in the simulator, where the devices also change between the cycles. -/
theorem machine_runs_scripted {c : Config} (platform : Platform) (cycles : List (c.Inputs × Bool))
    (random : UInt64) (stall : Stall) (world : platform.World) :
    ∃ answers final,
      AxiFabric.run (platform.env.scripted platform.traits) cycles
          (.fresh c random stall (answers, 0)) =
        Outcome.recast (Machine.onScript [] final)
          (Machine.run cycles (.fresh c platform random stall world)) :=
  Machine.run_scripted cycles random stall world

end AxiTestbench
