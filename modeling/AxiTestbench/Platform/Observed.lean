import AxiTestbench.Interrupt.Arbitration
import AxiTestbench.Platform.Boot

/-!
# What the design observes

The values that the sideband binding copies to the ports of the design before each clock edge,
in terms of what the design itself has done.
-/

namespace AxiTestbench

open Lib Outcome

def MachineEvent.isTick {c : Config} : MachineEvent c → Bool
  | .tick => true
  | _ => false

namespace Machine

variable {c : Config} {platform : Platform} {machine next : Machine c platform}

/-! ## Active cycles and resets -/

/-- An active cycle adds the calls of the bus and one tick. -/
theorem cycle_active {inputs : c.Inputs} (returned : machine.cycle (inputs, false) = .ok next) :
    ∃ events : List (Event c), next.trace = machine.trace ++ (events.map .bus ++ [.tick]) := by
  rw [cycle] at returned
  cases done : AxiFabric.cycleWith platform.env (machine.beginCycle false).fabric (inputs, false) with
  | error thrown =>
      rw [done] at returned
      cases returned
  | ok fabric =>
      rw [done] at returned
      cases returned
      refine ⟨fabric.trace.drop machine.fabric.trace.length, ?_⟩
      simp [endCycle, committed, beginCycle]

/-- A run of active cycles ticks once in each, and resets nothing. -/
theorem run_active {cycles : List (c.Inputs × Bool)} (active : ∀ cycle ∈ cycles, cycle.2 = false)
    (returned : run cycles machine = .ok next) :
    ∃ events : List (MachineEvent c), next.trace = machine.trace ++ events ∧ .reset ∉ events ∧
      events.countP MachineEvent.isTick = cycles.length := by
  induction cycles generalizing machine with
  | nil =>
      cases returned
      exact ⟨[], (List.append_nil _).symm, by simp, rfl⟩
  | cons input cycles ih =>
      obtain ⟨inputs, resetActive⟩ := input
      obtain rfl : resetActive = false := active _ List.mem_cons_self
      rw [run, List.foldlM_cons, bind_eq_ok_iff] at returned
      obtain ⟨middle, first, later⟩ := returned
      obtain ⟨bus, trace⟩ := cycle_active first
      obtain ⟨events, laterTrace, unreset, ticks⟩ :=
        ih (fun cycle member => active cycle (List.mem_cons_of_mem _ member)) later
      refine ⟨bus.map .bus ++ [.tick] ++ events, ?_, ?_, ?_⟩
      · rw [laterTrace, trace, List.append_assoc]
      · simpa using unreset
      · have quiet : (bus.map MachineEvent.bus).countP MachineEvent.isTick = 0 :=
          List.countP_eq_zero.mpr (by simp [MachineEvent.isTick])
        rw [List.countP_append, List.countP_append, quiet, ticks, List.length_cons, Nat.zero_add]
        exact Nat.add_comm 1 _

/-- In reset the devices are as the platform has reset them. -/
def Held (machine : Machine c platform) : Prop :=
  machine.wasReset = true → ∃ earlier, machine.world = platform.reset earlier

theorem held_cycle (held : machine.Held) {input : c.Inputs × Bool}
    (returned : machine.cycle input = .ok next) : next.Held := by
  obtain ⟨events, -, -, quiet⟩ := fabric_explained (machine.beginCycle input.2).fabric input
  rw [cycle] at returned
  cases done : AxiFabric.cycleWith platform.env (machine.beginCycle input.2).fabric input with
  | error thrown =>
      rw [done] at returned
      cases returned
  | ok fabric =>
      rw [done] at returned quiet
      cases returned
      intro wasReset
      rw [endCycle] at wasReset ⊢
      split at wasReset
      next resetActive =>
        have same : fabric.world = (machine.beginCycle input.2).world := quiet resetActive
        rw [if_pos resetActive, show ((machine.beginCycle input.2).committed fabric).world =
          fabric.world from rfl, same, beginCycle]
        split
        · exact ⟨_, rfl⟩
        next kept =>
          refine held ?_
          rw [resetActive] at kept
          simpa using kept
      next resetActive =>
        exfalso
        revert wasReset
        simp [committed, beginCycle, resetActive]

theorem held_run (held : machine.Held) (cycles : List (c.Inputs × Bool))
    (returned : run cycles machine = .ok next) : next.Held := by
  induction cycles generalizing machine with
  | nil =>
      cases returned
      exact held
  | cons input cycles ih =>
      rw [run, List.foldlM_cons, bind_eq_ok_iff] at returned
      obtain ⟨middle, first, later⟩ := returned
      exact ih (held_cycle held first) later

/-- A run that has just been in reset, or has not begun. -/
theorem exists_reset_of_run {cycles : List (c.Inputs × Bool)} {random : UInt64} {stall : Stall}
    {world : platform.World}
    (returned : run cycles (.fresh c platform random stall world) = .ok machine)
    (inReset : ∀ cycle, cycles.getLast? = some cycle → cycle.2 = true) :
    machine.world = world ∨ ∃ earlier, machine.world = platform.reset earlier := by
  have held : machine.Held := held_run (fun wasReset => by cases wasReset) cycles returned
  rcases List.eq_nil_or_concat' cycles with rfl | ⟨front, last, rfl⟩
  · cases returned
    exact .inl rfl
  · rw [run, List.foldlM_append, bind_eq_ok_iff] at returned
    obtain ⟨middle, -, returned⟩ := returned
    obtain ⟨inputs, resetActive⟩ := last
    obtain rfl : resetActive = true := inReset (inputs, resetActive) (by simp)
    refine .inr (held ?_)
    rw [List.foldlM_cons, bind_eq_ok_iff] at returned
    obtain ⟨final, one, returned⟩ := returned
    cases returned
    rw [cycle] at one
    split at one
    next =>
      cases one
      simp only [endCycle, committed, if_true]
      rw [beginCycle]
      split <;> rfl
    next => cases one

end Machine

/-! ## Time -/

/-- The call writes `mtime`. -/
def DeviceCall.SetsTime : DeviceCall → Prop
  | .write offset data strobe _ => (ClintOperation.write offset data strobe).SetsTime
  | _ => False

theorem foldl_count_tick (log : List (DeviceCall × (Nat → UInt64))) (start : Nat) :
    log.foldl (fun ticks entry => ticks + if entry.1 = .tick then 1 else 0) start =
      start + (log.map Prod.fst).count .tick := by
  induction log generalizing start with
  | nil => rfl
  | cons entry log ih =>
      rw [List.foldl_cons, ih, List.map_cons, List.count_cons, Nat.add_assoc, Nat.add_comm (ite _ _ _)]
      simp only [beq_iff_eq]

namespace Clint

variable {divider : UInt64}

/-- The counters follow the ticks of a record that neither resets the device nor writes
`mtime`. -/
theorem advanced_of_record (positive : 0 < divider) {start device : Clint}
    {log : List (DeviceCall × (Nat → UInt64))} (timed : start.Timed divider)
    (explained : (Clint.deviceClass divider).recorder.Explains start device log)
    (unreset : .reset ∉ log.map Prod.fst) (unset : ∀ call ∈ log.map Prod.fst, ¬call.SetsTime) :
    device.Timed divider ∧ Advanced divider start ((log.map Prod.fst).count .tick) device := by
  have tracked := explained.tracks
    (fun ticks entry => ticks + if entry.1 = .tick then 1 else 0)
    (fun ticks device => Timed divider device ∧ Advanced divider start ticks device) 0
    ⟨timed, timed.advanced⟩ ?_
  · rwa [foldl_count_tick, Nat.zero_add] at tracked
  · rintro ticks state ⟨call, inputs⟩ member truthful ⟨timed, advanced⟩
    have listed : call ∈ log.map Prod.fst := List.mem_map_of_mem member
    cases call with
    | reset => exact absurd listed unreset
    | tick => exact ⟨timed.tick, advanced.tick timed⟩
    | settle => exact ⟨timed_settle timed.phase, advanced.phase, advanced.time⟩
    | read offset enable response data => exact ⟨timed, advanced⟩
    | write offset data strobe response =>
        have same : Clint.apply divider state (.write offset data strobe) =
            (Clint.writeImpl state offset data strobe).1 := if_pos truthful.1
        have written := timed.apply positive (.write offset data strobe)
        have other : ¬(ClintOperation.write offset data strobe).SetsTime := unset _ listed
        have counted := advanced.apply timed other
        rw [same] at written counted
        exact ⟨written, counted⟩

theorem reset_of_record {before after : Clint} {log : List (DeviceCall × (Nat → UInt64))}
    (explained : (Clint.deviceClass divider).recorder.Explains before after log)
    (calls : log.map Prod.fst = [.reset, .settle]) : after = before.reset.settle := by
  match log, calls with
  | [(.reset, first), (.settle, second)], _ => exact explained.state

/-- The device of a platform from a reset on. -/
theorem life {device : DeviceClass} (same : device = Clint.deviceClass divider)
    (positive : 0 < divider) {before start state : device.State}
    {first later : List (DeviceCall × (Nat → UInt64))}
    (resets : device.recorder.Explains before start first)
    (calls : first.map Prod.fst = [.reset, .settle])
    (explained : device.recorder.Explains start state later)
    (unreset : .reset ∉ later.map Prod.fst) (unset : ∀ call ∈ later.map Prod.fst, ¬call.SetsTime) :
    let time := UInt64.ofNat ((later.map Prod.fst).count .tick / divider.toNat)
    let clint : Clint := cast (congrArg (fun d => d.State) same) state
    device.output state 0 = time ∧
      device.output state 1 = if clint.compare ≤ time then 1 else 0 := by
  subst same
  intro time clint
  have fresh : start = Clint.reset before := reset_of_record resets calls
  subst fresh
  obtain ⟨timed, advanced⟩ := advanced_of_record positive (timed_reset positive before) explained
    unreset unset
  have counted : clint.time = time := by
    rw [← UInt64.toNat_inj, UInt64.toNat_ofNat']
    refine (advanced.time : clint.time.toNat = _).trans ?_
    simp [Clint.reset]
  refine ⟨counted, ?_⟩
  rw [← counted]
  exact timed.timer

end Clint

theorem count_tick_calls {c : Config} (index : DeviceId) (events : List (MachineEvent c)) :
    (events.flatMap (MachineEvent.calls index)).count .tick =
      events.countP MachineEvent.isTick := by
  induction events with
  | nil => rfl
  | cons event events ih =>
      have one : (event.calls index).count .tick = if event.isTick then 1 else 0 := by
        cases event with
        | reset => rfl
        | tick => rfl
        | bus event =>
            refine List.count_eq_zero.mpr ?_
            cases event <;> simp only [MachineEvent.calls] <;> grind
      rw [List.flatMap_cons, List.count_append, ih, List.countP_cons, one, Nat.add_comm]

theorem reset_mem_calls {c : Config} {index : DeviceId} {events : List (MachineEvent c)}
    (called : .reset ∈ events.flatMap (MachineEvent.calls index)) : .reset ∈ events := by
  obtain ⟨event, member, called⟩ := List.mem_flatMap.mp called
  cases event with
  | reset => exact member
  | tick => simp [MachineEvent.calls] at called
  | bus event => cases event <;> simp only [MachineEvent.calls] at called <;> grind

/-- The time that the design reads from the sideband is the number of its active cycles since
the last reset, divided by the divider of the CLINT, as long as the guest does not write
`mtime`; whatever else happens on the bus.  The timer interrupt compares that very value. -/
theorem rtc_counts_cycles {c : Config} (platform : Platform) (states : platform.World)
    (calls : List PlanCall) (plan : ImageLoadPlan platform.World)
    (booted : platform.boot states calls = .ok plan) (random : UInt64) (stall : Stall)
    (index : Fin platform.ids.length) (divider : UInt64)
    (isClint : platform.devices (platform.ids.get index) = Clint.deviceClass divider)
    (positive : 0 < divider) (earlier later : List (c.Inputs × Bool))
    (inReset : ∀ cycle, earlier.getLast? = some cycle → cycle.2 = true)
    (active : ∀ cycle ∈ later, cycle.2 = false) (middle final : Machine c platform)
    (returned : Machine.run earlier (.fresh c platform random stall plan.world) = .ok middle)
    (laterReturned : Machine.run later middle = .ok final)
    (unset : ∀ call ∈ (final.trace.drop middle.trace.length).flatMap (MachineEvent.calls index),
      ¬call.SetsTime) :
    let id := platform.ids.get index
    let world := (final.beginCycle false).world
    ∃ clint, platform.Holds world id (Clint.deviceClass divider) clint ∧
      (platform.devices id).output (world id) 0 = UInt64.ofNat (later.length / divider.toNat) ∧
      (platform.devices id).output (world id) 1 =
        if clint.compare ≤ UInt64.ofNat (later.length / divider.toNat) then 1 else 0 := by
  intro id world
  have here : platform.ids[(index : Nat)]? = some id := List.getElem?_eq_getElem index.isLt
  obtain ⟨before, begun⟩ : ∃ before, middle.world id = platform.reset before id := by
    rcases Machine.exists_reset_of_run returned inReset with same | ⟨before, reset⟩
    · refine ⟨states, ?_⟩
      rw [same]
      exact Platform.boot_of_not_loadable booted (by rw [isClint]; rfl)
    · exact ⟨before, by rw [reset]⟩
  obtain ⟨first, resets, firstCalls⟩ :=
    Platform.event_explained here before (.reset : MachineEvent c) trivial
  obtain ⟨events, log, trace, explained, logCalls⟩ := Machine.device_explained later middle here
  obtain ⟨same, sameTrace, unreset, ticks⟩ := Machine.run_active active laterReturned
  rw [laterReturned] at trace explained
  obtain rfl : events = same := List.append_cancel_left (trace.symm.trans sameTrace)
  have dropped : final.trace.drop middle.trace.length = events := by
    rw [show final.trace = _ from trace, List.drop_left]
  rw [dropped, ← logCalls] at unset
  rw [begun] at explained
  have life := Clint.life isClint positive resets firstCalls explained
    (fun called => unreset (reset_mem_calls (logCalls ▸ called))) unset
  rw [logCalls, count_tick_calls, ticks] at life
  exact ⟨_, ⟨isClint, rfl⟩, life⟩

theorem rtc_counts_cycles_small :
    let start : smallPlatform.World := fun id => (smallObjects id).initial
    let reset : List (Config.small.Inputs × Bool) := [(takeAll, true), (takeAll, true)]
    let cycles : List (Config.small.Inputs × Bool) := List.replicate 5 (takeAll, false)
    ∃ plan middle final, smallPlatform.boot start [] = .ok plan ∧
      Machine.run reset (.fresh Config.small smallPlatform 1 .never plan.world) = .ok middle ∧
      Machine.run cycles middle = .ok final ∧
      (smallPlatform.devices "clint").output ((final.beginCycle false).world "clint") 0 = 2 := by
  intro start reset cycles
  let plan : ImageLoadPlan smallPlatform.World := { world := smallPlatform.reset start }
  have booted : smallPlatform.boot start [] = .ok plan := rfl
  let outcome := Machine.run reset (.fresh Config.small smallPlatform 1 .never plan.world)
  let ending := Machine.run cycles outcome.state
  have first : outcome = .ok outcome.state := eq_ok_of_isOk (by decide +kernel)
  have second : ending = .ok ending.state := eq_ok_of_isOk (by decide +kernel)
  have quiet : ∀ call ∈ (ending.state.trace.drop outcome.state.trace.length).flatMap
      (MachineEvent.calls 2), call = .tick ∨ call = .settle := by decide +kernel
  obtain ⟨clint, -, time, -⟩ := rtc_counts_cycles smallPlatform start [] plan booted 1 .never
    (2 : Fin 4) 2 rfl (by decide) reset cycles (by decide) (by decide) _ _ first second
    (fun call member => by rcases quiet call member with rfl | rfl <;> exact id)
  exact ⟨plan, _, _, booted, first, second, time.trans (by decide)⟩

/-! ## Invariants of one device -/

/-- What a reset establishes and every call keeps holds of a device at every drive. -/
theorem Machine.keeps {c : Config} {platform : Platform} {states : platform.World}
    {calls : List PlanCall} {plan : ImageLoadPlan platform.World}
    (booted : platform.boot states calls = .ok plan) {cycles : List (c.Inputs × Bool)}
    {random : UInt64} {stall : Stall} {final : Machine c platform}
    (returned : run cycles (.fresh c platform random stall plan.world) = .ok final)
    (resetActive : Bool) {id : String} (member : id ∈ platform.ids)
    (fixed : (platform.devices id).loadable = false) (Holds : (platform.devices id).State → Prop)
    (resets : ∀ state inputs, Holds ((platform.devices id).reset state inputs))
    (each : ∀ state action, (platform.devices id).recorder.Truthful state action → Holds state →
      Holds ((platform.devices id).recorder.act state action)) :
    Holds ((final.beginCycle resetActive).world id) := by
  obtain ⟨index, inRange, rfl⟩ := List.getElem_of_mem member
  have here : platform.ids[index]? = some platform.ids[index] := List.getElem?_eq_getElem inRange
  obtain ⟨first, firstExplained, firstCalls⟩ :=
    platform.event_explained here states (.reset : MachineEvent c) trivial
  have start : Holds (plan.world platform.ids[index]) := by
    rw [Platform.boot_of_not_loadable booted fixed]
    match first, firstCalls with
    | [(.reset, inputs), (.settle, settled)], _ =>
        rw [show platform.reset states platform.ids[index] = _ from firstExplained.state]
        exact each _ _ trivial (resets _ inputs)
  obtain ⟨events, log, -, explained, -⟩ := device_explained cycles
    (.fresh c platform random stall plan.world) here
  rw [returned] at explained
  obtain ⟨more, -, begun⟩ := final.beginCycle_explained resetActive
  obtain ⟨last, lastExplained, -⟩ := begun.part (platform.event_explained here)
  exact lastExplained.keeps Holds (explained.keeps Holds start each) each

/-! ## Interrupts -/

namespace Plic

variable {shape : PlicShape}

theorem Sound.act {device : Plic} (sound : device.Sound shape)
    (action : DeviceCall × (Nat → UInt64))
    (truthful : (Plic.deviceClass shape).recorder.Truthful device action) :
    Sound shape ((Plic.deviceClass shape).recorder.act device action) := by
  obtain ⟨call, inputs⟩ := action
  cases call with
  | reset => exact sound_reset shape device
  | tick => exact sound
  | settle => exact sound.toQuiet.settle inputs
  | read offset enable response data => exact sound.apply (.read offset enable)
  | write offset data strobe response =>
      have written := sound.apply (.write inputs offset data strobe)
      rwa [Plic.apply, if_pos truthful.1] at written

/-- A settled controller has latched every high input. -/
theorem busy_of_settled {device : Plic} {inputs : Nat → UInt64}
    (settled : device.settle shape inputs = device) {source : Nat} (positive : 1 ≤ source)
    (inRange : source ≤ shape.sources) (high : inputs source ≠ 0) : device.busy source = true := by
  have sampled := gateway_settle shape positive inRange device inputs
  rw [settled] at sampled
  have busy : device.busy source = _ := congrArg Gateway.State.busy sampled
  rw [busy, Gateway.State.sample]
  split
  next => rfl
  next kept => simpa [gateway, high] using kept

/-- The controller of a platform, once it has settled. -/
theorem lines {device : DeviceClass} (same : device = Plic.deviceClass shape)
    {state : device.State} {inputs : Nat → UInt64} (settled : device.settle state inputs = state)
    (sound : Sound shape (cast (congrArg (fun d => d.State) same) state)) {context : Nat}
    (inRange : context < shape.contexts) :
    let receiver : Plic := cast (congrArg (fun d => d.State) same) state
    (∀ source, 1 ≤ source → source ≤ shape.sources → inputs source ≠ 0 →
      receiver.busy source = true) ∧
    (device.output state context = 1 ↔ ∃ source, 1 ≤ source ∧ source ≤ shape.sources ∧
      receiver.pending source = true ∧ receiver.enabled context source = true ∧
      receiver.priority source > receiver.threshold context) := by
  subst same
  exact ⟨fun source positive inRange => busy_of_settled settled positive inRange,
    (sound.irq inRange).1⟩

theorem sound_resets {device : DeviceClass} (same : device = Plic.deviceClass shape)
    (state : device.State) (inputs : Nat → UInt64) :
    Sound shape (cast (congrArg (fun d => d.State) same) (device.reset state inputs)) := by
  subst same
  exact sound_reset shape state

theorem sound_acts {device : DeviceClass} (same : device = Plic.deviceClass shape)
    (state : device.State) (action : DeviceCall × (Nat → UInt64))
    (truthful : device.recorder.Truthful state action)
    (sound : Sound shape (cast (congrArg (fun d => d.State) same) state)) :
    Sound shape (cast (congrArg (fun d => d.State) same) (device.recorder.act state action)) := by
  subst same
  exact Sound.act sound action truthful

end Plic

theorem UartDevice.line {config : UartConfig} {host : Nat → Option UInt8} {device : DeviceClass}
    (same : device = UartDevice.deviceClass config host) {state : device.State}
    {inputs : Nat → UInt64} (settled : device.settle state inputs = state) :
    let sender : UartDevice := cast (congrArg (fun d => d.State) same) state
    device.output state 0 ≠ 0 ↔ sender.interruptIdentification config &&& 1 = 0 := by
  subst same
  intro sender
  have level : sender.settle config = sender := settled
  have irq : sender.irq = _ := congrArg UartDevice.irq level.symm
  change sender.irq ≠ 0 ↔ _
  rw [irq, UartDevice.settle]
  split
  next even => exact iff_of_true (show (1 : UInt64) ≠ 0 by decide) even
  next odd => exact iff_of_false (show ¬(0 : UInt64) ≠ 0 by decide) odd

/-- Interrupts reach the design.  At every drive, the input of the PLIC to which a UART is
connected is high if and only if the UART identifies an interrupt.  The PLIC has then latched
it, and the line of a context for which the guest has enabled the source above the threshold
is high, unless the source has been claimed and not completed.  A line is never high without a
pending source. -/
theorem interrupts_reach_design {c : Config} (platform : Platform) (states : platform.World)
    (calls : List PlanCall) (plan : ImageLoadPlan platform.World)
    (booted : platform.boot states calls = .ok plan) (cycles : List (c.Inputs × Bool))
    (random : UInt64) (stall : Stall) (final : Machine c platform)
    (returned : Machine.run cycles (.fresh c platform random stall plan.world) = .ok final)
    (resetActive : Bool) (uart plic : String) (uartListed : uart ∈ platform.ids)
    (plicListed : plic ∈ platform.ids) (config : UartConfig) (host : Nat → Option UInt8)
    (shape : PlicShape) (isUart : platform.devices uart = UartDevice.deviceClass config host)
    (isPlic : platform.devices plic = Plic.deviceClass shape) (source context : Nat)
    (positive : 1 ≤ source) (inRange : source ≤ shape.sources) (context_lt : context < shape.contexts)
    (wired : platform.wiring.source plic source = some (uart, 0)) :
    let world := (final.beginCycle resetActive).world
    let line := (platform.devices plic).output (world plic) context
    ∃ sender receiver, platform.Holds world uart (UartDevice.deviceClass config host) sender ∧
      platform.Holds world plic (Plic.deviceClass shape) receiver ∧
      (platform.inputs world plic source ≠ 0 ↔ sender.interruptIdentification config &&& 1 = 0) ∧
      (sender.interruptIdentification config &&& 1 = 0 → receiver.busy source = true ∧
        (receiver.enabled context source = true →
          receiver.priority source > receiver.threshold context →
          line = 1 ∨ receiver.pending source = false)) ∧
      (line = 1 ↔ ∃ other, 1 ≤ other ∧ other ≤ shape.sources ∧ receiver.pending other = true ∧
        receiver.enabled context other = true ∧
        receiver.priority other > receiver.threshold context) := by
  intro world line
  have settled : platform.Settled world := Machine.settled_beginCycle
    (Machine.settled_run (Platform.settled_boot booted) cycles returned) resetActive
  have sound := Machine.keeps booted returned resetActive plicListed (by rw [isPlic]; rfl)
    (fun state => Plic.Sound shape (cast (congrArg (fun d => d.State) isPlic) state))
    (Plic.sound_resets isPlic) (Plic.sound_acts isPlic)
  obtain ⟨latched, high⟩ := Plic.lines isPlic (settled plic plicListed) sound context_lt
  have sent := UartDevice.line isUart (settled uart uartListed)
  have input : platform.inputs world plic source = (platform.devices uart).output (world uart) 0 := by
    simp only [Platform.inputs, Wiring.inputs, wired]
  refine ⟨_, _, ⟨isUart, rfl⟩, ⟨isPlic, rfl⟩, by rw [input]; exact sent, fun identified => ?_, high⟩
  have busy := latched source positive inRange (by rw [input]; exact sent.mpr identified)
  refine ⟨busy, fun enabled above => ?_⟩
  by_cases pending : Plic.pending (cast (congrArg (fun d => d.State) isPlic) (world plic)) source = true
  · exact .inl (high.mpr ⟨source, positive, inRange, pending, enabled, above⟩)
  · exact .inr (Bool.eq_false_iff.mpr pending)

theorem interrupts_reach_design_small :
    let start : smallPlatform.World := fun id => (smallObjects id).initial
    let cycles : List (Config.small.Inputs × Bool) := [(takeAll, true), (takeAll, false)]
    ∃ plan final, smallPlatform.boot start [] = .ok plan ∧
      Machine.run cycles (.fresh Config.small smallPlatform 1 .never plan.world) = .ok final ∧
      ∃ sender, smallPlatform.Holds (final.beginCycle false).world "uart"
          (UartDevice.deviceClass {} fun _ => none) sender ∧
        (smallPlatform.inputs (final.beginCycle false).world "plic" 1 ≠ 0 ↔
          sender.interruptIdentification {} &&& 1 = 0) := by
  intro start cycles
  let plan : ImageLoadPlan smallPlatform.World := { world := smallPlatform.reset start }
  have booted : smallPlatform.boot start [] = .ok plan := rfl
  let outcome := Machine.run cycles (.fresh Config.small smallPlatform 1 .never plan.world)
  have returned : outcome = .ok outcome.state := eq_ok_of_isOk (by decide +kernel)
  obtain ⟨sender, receiver, sends, -, level, -⟩ := interrupts_reach_design smallPlatform start []
    plan booted cycles 1 .never _ returned false "uart" "plic" (by decide) (by decide) {}
    (fun _ => none) {} rfl rfl 1 0 (by decide) (by decide) (by decide) rfl
  exact ⟨plan, _, booted, returned, sender, sends, level⟩

end AxiTestbench
