import AxiTestbench.Fabric.Commit

/-!
# Wires

The projections of a trace to one port, and what they have to do with the pins: in a run the
events of a channel are the payloads of the cycles in which its VALID and READY are high.
-/

namespace AxiTestbench

open Lib Outcome

variable {c : Config} {W : Type}

/-! ## Projections of a trace to one port -/

namespace Event

@[simp] def aw? (port : c.Port) : Event c → Option AddressPayload
  | .aw other payload => if other = port then some payload else none
  | _ => none

@[simp] def w? (port : c.Port) : Event c → Option c.WriteBeat
  | .w other beat => if other = port then some beat else none
  | _ => none

@[simp] def ar? (port : c.Port) : Event c → Option AddressPayload
  | .ar other payload => if other = port then some payload else none
  | _ => none

@[simp] def b? (port : c.Port) : Event c → Option WriteResponsePayload
  | .b other response => if other = port then some response else none
  | _ => none

@[simp] def r? (port : c.Port) : Event c → Option c.ReadBeat
  | .r other beat => if other = port then some beat else none
  | _ => none

@[simp] def stage? (port : c.Port) : Event c → Option c.WriteBeat
  | .stage route beat => if route.port = port then some beat else none
  | _ => none

@[simp] def complete? (port : c.Port) : Event c → Option (WriteRoute c)
  | .complete route => if route.port = port then some route else none
  | _ => none

@[simp] def produce? (port : c.Port) : Event c → Option c.ReadBeat
  | .produce route beat => if route.port = port then some beat else none
  | _ => none

end Event

/-- What a selection finds in a trace, oldest first. -/
def picked {T : Type} (select : Event c → Option T) (trace : List (Event c)) : List T :=
  trace.filterMap select

section Picked

variable {T : Type} (select : Event c → Option T)

@[simp] theorem picked_nil : picked select [] = [] := rfl

@[simp] theorem picked_append (trace more : List (Event c)) :
    picked select (trace ++ more) = picked select trace ++ picked select more :=
  List.filterMap_append

@[simp] theorem picked_singleton (event : Event c) :
    picked select [event] = (select event).toList := by
  cases found : select event <;> simp [picked, found]

@[simp] theorem picked_writeEvents (route : WriteRoute c) (access : WriteAccess c W) :
    picked select (Pipeline.writeEvents route access) =
      (access.call.bind fun call => select (.deviceWrite route call)).toList := by
  cases call : access.call <;> simp [Pipeline.writeEvents, call]

@[simp] theorem picked_readEvents (route : ReadRoute c) (access : ReadAccess c W) :
    picked select (Pipeline.readEvents route access) =
      (access.call.bind fun call => select (.deviceRead route call)).toList := by
  cases call : access.call <;> simp [Pipeline.readEvents, call]

/-- A selection finds the values of the events of one form. -/
theorem mem_picked {form : T → Event c}
    (selects : ∀ event value, select event = some value ↔ event = form value)
    {trace : List (Event c)} {value : T} : value ∈ picked select trace ↔ form value ∈ trace := by
  simp only [picked, List.mem_filterMap, selects]
  exact ⟨fun ⟨_, member, same⟩ => same ▸ member, fun member => ⟨_, member, rfl⟩⟩

end Picked

/-- AW payloads handshaken on a port. -/
abbrev awOf (port : c.Port) (trace : List (Event c)) : List AddressPayload :=
  picked (Event.aw? port) trace

/-- W beats handshaken on a port. -/
abbrev wOf (port : c.Port) (trace : List (Event c)) : List c.WriteBeat :=
  picked (Event.w? port) trace

/-- AR payloads handshaken on a port. -/
abbrev arOf (port : c.Port) (trace : List (Event c)) : List AddressPayload :=
  picked (Event.ar? port) trace

/-- B responses handshaken on a port. -/
abbrev bOf (port : c.Port) (trace : List (Event c)) : List WriteResponsePayload :=
  picked (Event.b? port) trace

/-- R beats handshaken on a port. -/
abbrev rOf (port : c.Port) (trace : List (Event c)) : List c.ReadBeat :=
  picked (Event.r? port) trace

/-- W beats of a port that the write engine has consumed. -/
abbrev stagedOf (port : c.Port) (trace : List (Event c)) : List c.WriteBeat :=
  picked (Event.stage? port) trace

/-- Write transactions of a port that have been answered. -/
abbrev completedOf (port : c.Port) (trace : List (Event c)) : List (WriteRoute c) :=
  picked (Event.complete? port) trace

/-- R beats that the read engine has produced for a port. -/
abbrev producedOf (port : c.Port) (trace : List (Event c)) : List c.ReadBeat :=
  picked (Event.produce? port) trace

/-! ## Handshakes of one port -/

/-- Events that one port only can contribute. -/
theorem picked_flatMap_single {T : Type} {select : Event c → Option T} (port : c.Port)
    {events : c.Port → List (Event c)}
    (others : ∀ other ≠ port, picked select (events other) = []) :
    picked select ((List.finRange c.numPorts).flatMap events) = picked select (events port) := by
  obtain ⟨before, after, split⟩ := List.append_of_mem (List.mem_finRange port)
  have nodup := split ▸ List.nodup_finRange c.numPorts
  have absent : port ∉ before ∧ port ∉ after := by
    obtain ⟨-, later, apart⟩ := List.nodup_append.mp nodup
    exact ⟨fun member => apart port member port List.mem_cons_self rfl,
      (List.nodup_cons.mp later).1⟩
  have none : ∀ ports : List c.Port, port ∉ ports → picked select (ports.flatMap events) = [] := by
    intro ports missing
    rw [picked, List.filterMap_flatMap, List.flatMap_eq_nil_iff]
    exact fun other member => others other fun same => missing (same ▸ member)
  rw [split, List.flatMap_append, List.flatMap_cons, picked_append, picked_append,
    none before absent.1, none after absent.2, List.nil_append, List.append_nil]

/-- The payload that VALID and READY move. -/
def moved {T : Type} (valid ready : Bool) (payload : T) : Option T :=
  if valid && ready then some payload else none

/-- The projections of a trace are the payloads that the pins of a port have moved. -/
structure OnWires (wires : List (c.Outputs × c.Inputs)) (trace : List (Event c))
    (port : c.Port) : Prop where
  aw : awOf port trace = wires.filterMap fun wire =>
    moved (wire.2 port).awValid (wire.1 port).awReady (wire.2 port).aw
  w : wOf port trace = wires.filterMap fun wire =>
    moved (wire.2 port).wValid (wire.1 port).wReady (wire.2 port).w
  b : bOf port trace = wires.filterMap fun wire =>
    moved (wire.1 port).bValid (wire.2 port).bReady (wire.1 port).b
  ar : arOf port trace = wires.filterMap fun wire =>
    moved (wire.2 port).arValid (wire.1 port).arReady (wire.2 port).ar
  r : rOf port trace = wires.filterMap fun wire =>
    moved (wire.1 port).rValid (wire.2 port).rReady (wire.1 port).r

namespace OnWires

variable {wires more : List (c.Outputs × c.Inputs)} {trace later : List (Event c)} {port : c.Port}

theorem append (first : OnWires wires trace port) (second : OnWires more later port) :
    OnWires (wires ++ more) (trace ++ later) port where
  aw := by rw [awOf, picked_append, List.filterMap_append, ← first.aw, ← second.aw]
  w := by rw [wOf, picked_append, List.filterMap_append, ← first.w, ← second.w]
  b := by rw [bOf, picked_append, List.filterMap_append, ← first.b, ← second.b]
  ar := by rw [arOf, picked_append, List.filterMap_append, ← first.ar, ← second.ar]
  r := by rw [rOf, picked_append, List.filterMap_append, ← first.r, ← second.r]

/-- No channel is concerned. -/
theorem of_silent (silent : ∀ event ∈ trace, Event.aw? port event = none ∧
    Event.w? port event = none ∧ Event.b? port event = none ∧ Event.ar? port event = none ∧
      Event.r? port event = none) : OnWires [] trace port where
  aw := List.filterMap_eq_nil_iff.mpr fun event member => (silent event member).1
  w := List.filterMap_eq_nil_iff.mpr fun event member => (silent event member).2.1
  b := List.filterMap_eq_nil_iff.mpr fun event member => (silent event member).2.2.1
  ar := List.filterMap_eq_nil_iff.mpr fun event member => (silent event member).2.2.2.1
  r := List.filterMap_eq_nil_iff.mpr fun event member => (silent event member).2.2.2.2

theorem of_internal (internal : ∀ event ∈ trace, event.internal = true) :
    OnWires [] trace port := by
  refine .of_silent fun event member => ?_
  have inner := internal event member
  cases event <;> simp_all [Event.internal]

end OnWires

theorem picked_ite {T : Type} (select : Event c → Option T) (shaken : Prop) [Decidable shaken]
    (event : Event c) : picked select (if shaken then [event] else []) =
      if shaken then (select event).toList else [] := by
  split
  · exact picked_singleton select event
  · rfl

theorem toList_moved {T : Type} (valid ready : Bool) (payload : T) :
    (moved valid ready payload).toList = if valid && ready then [payload] else [] := by
  rw [moved]
  split <;> rfl

namespace AxiFabric

/-- The handshakes of a port in the loops over all ports. -/
theorem picked_handshakes {T : Type} {select : Event c → Option T} (outputs : c.Outputs)
    (inputs : c.Inputs) (port : c.Port)
    (others : ∀ other ≠ port,
      picked select (retireEvents (outputs other) (inputs other) other ++
        acceptEvents (outputs other) (inputs other) other) = []) :
    picked select (handshakes outputs inputs) =
      picked select (retireEvents (outputs port) (inputs port) port ++
        acceptEvents (outputs port) (inputs port) port) := by
  simp only [picked_append, List.append_eq_nil_iff] at others
  rw [handshakes, picked_append, picked_append, allRetireEvents, allAcceptEvents,
    picked_flatMap_single port fun other different => (others other different).1,
    picked_flatMap_single port fun other different => (others other different).2]

theorem onWires_handshakes (outputs : c.Outputs) (inputs : c.Inputs) (port : c.Port) :
    OnWires [(outputs, inputs)] (handshakes outputs inputs) port := by
  have single : ∀ {T : Type} (select : c.Outputs × c.Inputs → Option T),
      [(outputs, inputs)].filterMap select = (select (outputs, inputs)).toList := by
    intro T select
    rw [List.filterMap_cons]
    cases select (outputs, inputs) <;> rfl
  constructor <;>
    (rw [single, toList_moved]; refine (picked_handshakes outputs inputs port ?_).trans ?_)
  all_goals simp +contextual [retireEvents, acceptEvents, picked_ite]

/-! ## Runs -/

/-- The pins of a cycle without reset, as they are after `drive`.  Where the stability check
throws, the cycle ends before it looks at VALID and READY. -/
def sampled (fabric : AxiFabric c W) (input : c.Inputs × Bool) : List (c.Outputs × c.Inputs) :=
  let driven := drive input.2 fabric
  if !input.2 && (checkStability input.1 { driven with wasReset := false }).isOk then
    [(driven.outputs, input.1)]
  else []

/-- The pins in the cycles of a run. -/
def wires (env : FabricEnv W) : List (c.Inputs × Bool) → AxiFabric c W →
    List (c.Outputs × c.Inputs)
  | [], _ => []
  | input :: cycles, fabric =>
      sampled fabric input ++
        match cycleWith env fabric input with
        | .ok after => wires env cycles after
        | .error _ => []

section Cycle

variable {env : FabricEnv W} {inputs : c.Inputs} {fabric arrived after : AxiFabric c W}

/-- A cycle that gets past the stability check shakes hands, works and may end with a tick. -/
theorem onWires_of_works (port : c.Port) {last : List (Event c)}
    (arrives : Arrived env inputs (drive false fabric) arrived) (works : Works env arrived after)
    (silent : ∀ event ∈ last, event = .tick) :
    ∃ events, after.trace ++ last = fabric.trace ++ events ∧
      OnWires (sampled fabric (inputs, false)) events port := by
  obtain ⟨work, advances, internal⟩ := works
  obtain ⟨checked, stable, -⟩ := arrives.checked
  have seen : sampled fabric (inputs, false) = [((drive false fabric).outputs, inputs)] := by
    rw [sampled, stable]
    rfl
  refine ⟨handshakes (drive false fabric).outputs inputs ++ (work ++ last), ?_, ?_⟩
  · rw [advances.trace, arrives.advances.trace, trace_drive, List.append_assoc, List.append_assoc]
  · rw [seen, ← List.append_nil [_]]
    refine (onWires_handshakes _ inputs port).append ?_
    refine (OnWires.of_internal internal).append (.of_silent fun event member => ?_)
    simp [silent event member]

/-- A cycle whose stability check throws adds nothing. -/
theorem onWires_of_unstable (port : c.Port) {fault : Fault}
    (thrown : checkStability inputs { drive false fabric with wasReset := false } =
      .error (fault, after)) :
    ∃ events, after.trace = fabric.trace ++ events ∧
      OnWires (sampled fabric (inputs, false)) events port := by
  have unseen := checkStability_unseen inputs { drive false fabric with wasReset := false }
  rw [thrown] at unseen
  have seen : sampled fabric (inputs, false) = [] := by
    rw [sampled, thrown]
    rfl
  refine ⟨[], ?_, seen ▸ .of_silent (by simp)⟩
  rw [List.append_nil, unseen.trace]
  exact trace_drive false fabric

theorem onWires_of_reset (env : FabricEnv W) (inputs : c.Inputs) (fabric : AxiFabric c W)
    (port : c.Port) :
    ∃ events, (cycleWith env fabric (inputs, true)).state.trace = fabric.trace ++ events ∧
      OnWires (sampled fabric (inputs, true)) events port := by
  obtain ⟨after, done, advances⟩ := commit_reset env inputs (drive true fabric)
  rw [show cycleWith env fabric (inputs, true) = .ok after from done, state_ok, advances.trace,
    trace_drive]
  refine ⟨_, rfl, .of_silent fun event member => ?_⟩
  have quiet : event = .reset ∨ event = .resetDevices ∨ event = .tick := by
    revert member
    split <;> try split
    all_goals simp +contextual [or_imp]
  rcases quiet with rfl | rfl | rfl <;> simp

end Cycle

/-- What a cycle adds to the trace is on the wires, whether it returns or throws. -/
theorem cycleWith_onWires (env : FabricEnv W) (fabric : AxiFabric c W) (input : c.Inputs × Bool)
    (port : c.Port) :
    ∃ events, (cycleWith env fabric input).state.trace = fabric.trace ++ events ∧
      OnWires (sampled fabric input) events port := by
  obtain ⟨inputs, resetActive⟩ := input
  cases resetActive with
  | true => exact onWires_of_reset env inputs fabric port
  | false =>
      have both : Ends (cycleWith env fabric (inputs, false))
          (fun after => ∃ events, after.trace = fabric.trace ++ events ∧
            OnWires (sampled fabric (inputs, false)) events port)
          fun _ after => ∃ events, after.trace = fabric.trace ++ events ∧
            OnWires (sampled fabric (inputs, false)) events port := by
        refine (commit_cycle env inputs _ (drive_driven fabric)).mono (fun after cycle => ?_)
          fun fault after failed => ?_
        · obtain ⟨arrived, finished, arrives, works, rfl⟩ := cycle.works
          have ticked : ∀ event ∈ [(.tick : Event c)], event = .tick := by simp
          obtain ⟨events, trace, onWires⟩ := onWires_of_works port arrives works ticked
          exact ⟨events, trace, onWires⟩
        · rcases failed.works with thrown | ⟨arrived, arrives, works, -⟩
          · exact onWires_of_unstable port thrown
          · have worked := onWires_of_works port arrives works (List.forall_mem_nil _)
            rwa [List.append_nil] at worked
      exact both.state_of_both

/-- The trace of a run is on its wires. -/
theorem run_onWires (env : FabricEnv W) (cycles : List (c.Inputs × Bool)) (random : UInt64)
    (stall : Stall) (world : W) (port : c.Port) :
    OnWires (wires env cycles (.fresh c random stall world))
      (run env cycles (.fresh c random stall world)).state.trace port := by
  suffices extended : ∀ fabric : AxiFabric c W, ∃ events,
      (run env cycles fabric).state.trace = fabric.trace ++ events ∧
        OnWires (wires env cycles fabric) events port by
    obtain ⟨events, trace, onWires⟩ := extended (.fresh c random stall world)
    rw [trace]
    exact onWires
  intro fabric
  induction cycles generalizing fabric with
  | nil => exact ⟨[], (List.append_nil _).symm, .of_silent (by simp)⟩
  | cons input cycles ih =>
      obtain ⟨events, trace, first⟩ := cycleWith_onWires env fabric input port
      rw [wires, run, List.foldlM_cons]
      cases done : cycleWith env fabric input with
      | ok middle =>
          obtain ⟨more, later, rest⟩ := ih middle
          rw [done] at trace
          refine ⟨events ++ more, ?_, first.append rest⟩
          exact later.trans (by rw [← List.append_assoc, ← trace]; rfl)
      | error thrown =>
          rw [done] at trace
          exact ⟨events, trace, by rw [List.append_nil]; exact first⟩

end AxiFabric

end AxiTestbench
