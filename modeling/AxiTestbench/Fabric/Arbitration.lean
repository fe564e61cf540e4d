import AxiTestbench.Fabric.Conservation

/-!
# Arbitration

AW and AR requests are granted independently, each by a round-robin pointer.  In
every cycle each arbiter grants at most one request, the oldest of its port, and
a port that waits is passed by each other port at most once.
-/

namespace AxiTestbench

open Lib Outcome

variable {c : Config} {W : Type}

/-- The two arbitrated channels. -/
inductive RequestChannel where
  | aw
  | ar

namespace RequestChannel

/-- The requests of a port on the channel, oldest first. -/
def requests : RequestChannel → Queues c → List AddressPayload
  | .aw, queues => queues.aw
  | .ar, queues => queues.ar

/-- The arbitration pointer of the channel. -/
def pointer : RequestChannel → AxiFabric c W → c.Port
  | .aw, fabric => fabric.nextAwPort
  | .ar, fabric => fabric.nextArPort

/-- The port and the request that an event grants. -/
def grant? : RequestChannel → Event c → Option (c.Port × AddressPayload)
  | .aw, .routeWrite route => some (route.port, route.payload)
  | .ar, .routeRead route => some (route.port, route.payload)
  | _, _ => none

end RequestChannel

/-- The grants of the channel among `events`. -/
abbrev grants (channel : RequestChannel) (events : List (Event c)) :
    List (c.Port × AddressPayload) :=
  picked channel.grant? events

theorem grants_append (channel : RequestChannel) (events more : List (Event c)) :
    grants channel (events ++ more) = grants channel events ++ grants channel more :=
  picked_append _ _ _

/-! ## The engines leave the requests alone -/

/-- An event of one of the two engines. -/
def Event.ofEngine (event : Event c) : Bool := event.ofWriteEngine || event.ofReadEngine

theorem Pipeline.Step.requests_kept {env : FabricEnv W} {state next : Pipeline c W}
    {events : List (Event c)} (taken : Step env state events next)
    (engine : ∀ event ∈ events, event.ofEngine = true) (channel : RequestChannel) (port : c.Port) :
    channel.requests (next.ports port) = channel.requests (state.ports port) := by
  cases channel <;> cases taken <;>
    simp_all [RequestChannel.requests, Event.ofEngine, Event.ofWriteEngine, Event.ofReadEngine,
      Pipeline.respond, Pipeline.deliver]

theorem requests_of_engine {env : FabricEnv W} {before after : AxiFabric c W}
    {events : List (Event c)} (advances : Advances env before after events)
    (engine : ∀ event ∈ events, event.ofEngine = true) (channel : RequestChannel) (port : c.Port) :
    channel.requests (after.view.ports port) = channel.requests (before.view.ports port) := by
  refine (advances.steps.restrict engine).invariant
    (fun _ state => channel.requests (state.ports port) =
      channel.requests (before.view.ports port)) rfl ?_
  rintro history state more next same ⟨taken, engine⟩
  rw [taken.requests_kept engine, same]

theorem grants_of_engine {events : List (Event c)}
    (engine : ∀ event ∈ events, event.ofEngine = true) (channel : RequestChannel) :
    grants channel events = [] := by
  refine List.filterMap_eq_nil_iff.mpr fun event member => ?_
  have here := engine event member
  cases channel <;> cases event <;>
    first | rfl | simp [Event.ofEngine, Event.ofWriteEngine, Event.ofReadEngine] at here

/-! ## One round -/

/-- The code granted nothing on the channel. -/
structure Quiet (channel : RequestChannel) (before after : AxiFabric c W) : Prop where
  trace : ∃ events, after.trace = before.trace ++ events ∧ grants channel events = []
  pointer : channel.pointer after = channel.pointer before
  requests : ∀ port, channel.requests (after.view.ports port) =
    channel.requests (before.view.ports port)

/-- One round of the channel's arbiter, with the grants it made. -/
inductive Round (channel : RequestChannel) (before after : AxiFabric c W) :
    List (c.Port × AddressPayload) → Prop where
  | none (pointer : channel.pointer after = channel.pointer before)
      (kept : ∀ port, channel.requests (after.view.ports port) =
        channel.requests (before.view.ports port)) : Round channel before after []
  | grant (port : c.Port) (payload : AddressPayload)
      (first : ∀ other, channel.requests (before.view.ports other) ≠ [] →
        RoundRobin.ahead (channel.pointer before) port ≤
          RoundRobin.ahead (channel.pointer before) other)
      (oldest : channel.requests (before.view.ports port) =
        payload :: channel.requests (after.view.ports port))
      (kept : ∀ other, other ≠ port → channel.requests (after.view.ports other) =
        channel.requests (before.view.ports other))
      (pointer : channel.pointer after = c.rotate port 1) :
      Round channel before after [(port, payload)]

/-- The code ran one round of the channel's arbiter. -/
def Rounded (channel : RequestChannel) (before after : AxiFabric c W) : Prop :=
  ∃ events, after.trace = before.trace ++ events ∧
    Round channel before after (grants channel events)

namespace Quiet

variable {env : FabricEnv W} {channel : RequestChannel}

/-- Changes that neither the queues nor the pointers show. -/
theorem of_unseen {before after : AxiFabric c W} (trace : after.trace = before.trace)
    (view : after.view = before.view) (nextAwPort : after.nextAwPort = before.nextAwPort)
    (nextArPort : after.nextArPort = before.nextArPort) : Quiet channel before after where
  trace := ⟨[], by simpa using trace, rfl⟩
  pointer := by cases channel <;> assumption
  requests port := by rw [view]

theorem trans {first second third : AxiFabric c W} (left : Quiet channel first second)
    (right : Quiet channel second third) : Quiet channel first third := by
  obtain ⟨events, trace, none⟩ := left.trace
  obtain ⟨more, moreTrace, moreNone⟩ := right.trace
  refine ⟨⟨events ++ more, by rw [moreTrace, trace, List.append_assoc], ?_⟩,
    right.pointer.trans left.pointer, fun port => (right.requests port).trans (left.requests port)⟩
  rw [grants_append, none, moreNone, List.nil_append]

/-- The engines grant nothing. -/
theorem of_engine {before after : AxiFabric c W} {events : List (Event c)}
    (advances : Advances env before after events)
    (engine : ∀ event ∈ events, event.ofEngine = true) (kept : Kept before after) :
    Quiet channel before after where
  trace := ⟨events, advances.trace, grants_of_engine engine channel⟩
  pointer := by
    cases channel
    · exact kept.nextAwPort
    · exact kept.nextArPort
  requests := requests_of_engine advances engine channel

theorem of_writeTurn {before after : AxiFabric c W} (turn : AxiFabric.WriteTurn env before after) :
    Quiet channel before after := by
  obtain ⟨events, advances, writes⟩ := turn.advances
  exact .of_engine advances (fun event member => by simp [Event.ofEngine, writes event member])
    turn.kept

theorem of_readTurn {before after : AxiFabric c W} (turn : AxiFabric.ReadTurn env before after) :
    Quiet channel before after := by
  obtain ⟨events, advances, reads⟩ := turn.advances
  exact .of_engine advances (fun event member => by simp [Event.ofEngine, reads event member])
    turn.kept

/-- The AW half of the arbiter grants no read. -/
theorem of_awRound {before after : AxiFabric c W} (round : AxiFabric.AwRound env before after) :
    Quiet .ar before after := by
  cases round with
  | full | none => exact .of_unseen rfl rfl rfl rfl
  | grant port payload rest base granted queue routed took view watches nextAwPort nextArPort =>
      refine ⟨⟨_, took.trace, rfl⟩, nextArPort, fun other => ?_⟩
      rw [view]
      simp [RequestChannel.requests]

/-- The AR half of the arbiter grants no write. -/
theorem of_arRound {before after : AxiFabric c W} (round : AxiFabric.ArRound env before after) :
    Quiet .aw before after := by
  cases round with
  | full | none => exact .of_unseen rfl rfl rfl rfl
  | grant port payload rest base granted queue routed took view watches nextAwPort nextArPort =>
      refine ⟨⟨_, took.trace, rfl⟩, nextAwPort, fun other => ?_⟩
      rw [view]
      simp [RequestChannel.requests]

end Quiet

namespace Rounded

variable {env : FabricEnv W} {channel : RequestChannel}

theorem of_quiet {before after : AxiFabric c W} (quiet : Quiet channel before after) :
    Rounded channel before after := by
  obtain ⟨events, trace, none⟩ := quiet.trace
  exact ⟨events, trace, none ▸ .none quiet.pointer quiet.requests⟩

theorem of_awRound {before after : AxiFabric c W} (round : AxiFabric.AwRound env before after) :
    Rounded .aw before after := by
  cases round with
  | full | none => exact .of_quiet (.of_unseen rfl rfl rfl rfl)
  | grant port payload rest base granted queue routed took view watches nextAwPort nextArPort =>
      have routed := initializeRoute_routed routed
      refine ⟨_, took.trace, ?_⟩
      change Round .aw before after [(base.port, base.payload)]
      rw [routed.port_eq, routed.payload_eq]
      refine .grant port payload (fun other waits => ?_) ?_ (fun other different => ?_) nextAwPort
      · refine AxiFabric.nextGrant_first granted ?_
        simpa [RequestChannel.requests, view_ports, PortState.queues] using waits
      · rw [view]
        simpa [RequestChannel.requests] using queue
      · rw [view]
        simp [RequestChannel.requests, different]

theorem of_arRound {before after : AxiFabric c W} (round : AxiFabric.ArRound env before after) :
    Rounded .ar before after := by
  cases round with
  | full | none => exact .of_quiet (.of_unseen rfl rfl rfl rfl)
  | grant port payload rest base granted queue routed took view watches nextAwPort nextArPort =>
      have routed := initializeRoute_routed routed
      refine ⟨_, took.trace, ?_⟩
      change Round .ar before after [(base.port, base.payload)]
      rw [routed.port_eq, routed.payload_eq]
      refine .grant port payload (fun other waits => ?_) ?_ (fun other different => ?_) nextArPort
      · refine AxiFabric.nextGrant_first granted ?_
        simpa [RequestChannel.requests, view_ports, PortState.queues] using waits
      · rw [view]
        simpa [RequestChannel.requests] using queue
      · rw [view]
        simp [RequestChannel.requests, different]

/-- Quiet code after a round does not change it. -/
theorem append {before middle after : AxiFabric c W} (rounded : Rounded channel before middle)
    (quiet : Quiet channel middle after) : Rounded channel before after := by
  obtain ⟨events, trace, round⟩ := rounded
  obtain ⟨more, moreTrace, none⟩ := quiet.trace
  refine ⟨events ++ more, by rw [moreTrace, trace, List.append_assoc], ?_⟩
  rw [grants_append, none, List.append_nil]
  generalize grants channel events = made at round ⊢
  cases round with
  | none pointer kept =>
      exact .none (quiet.pointer.trans pointer) fun port =>
        (quiet.requests port).trans (kept port)
  | grant port payload first oldest kept pointer =>
      refine .grant port payload first ?_ (fun other different => ?_) (quiet.pointer.trans pointer)
      · rw [quiet.requests, oldest]
      · rw [quiet.requests, kept other different]

/-- Quiet code before a round does not change it. -/
theorem prepend {before middle after : AxiFabric c W} (quiet : Quiet channel before middle)
    (rounded : Rounded channel middle after) : Rounded channel before after := by
  obtain ⟨events, trace, none⟩ := quiet.trace
  obtain ⟨more, moreTrace, round⟩ := rounded
  refine ⟨events ++ more, by rw [moreTrace, trace, List.append_assoc], ?_⟩
  rw [grants_append, none, List.nil_append]
  generalize grants channel more = made at round ⊢
  cases round with
  | none pointer kept =>
      exact .none (pointer.trans quiet.pointer) fun port =>
        (kept port).trans (quiet.requests port)
  | grant port payload first oldest kept pointer =>
      refine .grant port payload (fun other waits => ?_) ?_ (fun other different => ?_) pointer
      · rw [← quiet.requests] at waits
        exact quiet.pointer ▸ first other waits
      · rw [← quiet.requests, oldest]
      · rw [kept other different, quiet.requests]

end Rounded

/-! ## One cycle -/

theorem grants_handshakes (channel : RequestChannel) (outputs : c.Outputs) (inputs : c.Inputs) :
    grants channel (AxiFabric.handshakes outputs inputs) = [] := by
  refine List.filterMap_eq_nil_iff.mpr fun event member => ?_
  cases AxiFabric.shaken_of_mem member <;> cases channel <;> rfl

/-- The state in which the arbiter of a cycle starts. -/
def atArbitration (inputs : c.Inputs) (fabric : AxiFabric c W) : AxiFabric c W :=
  (AxiFabric.ingress inputs (fabric.drive false)).state

/-- A cycle that returns runs one round of each arbiter. -/
theorem cycle_rounded {env : FabricEnv W} {inputs : c.Inputs} {fabric after : AxiFabric c W}
    (done : AxiFabric.cycleWith env fabric (inputs, false) = .ok after)
    (channel : RequestChannel) :
    ∃ events, after.trace = fabric.trace ++ events ∧
      Round channel (atArbitration inputs fabric) after (grants channel events) ∧
      channel.pointer (atArbitration inputs fabric) = channel.pointer fabric := by
  have cycle := AxiFabric.commit_cycle env inputs (fabric.drive false) (fabric.drive_driven)
  rw [show AxiFabric.commit env inputs false (fabric.drive false) = .ok after from done] at cycle
  cases cycle with
  | @mk arrived granted routed written finished arrives aw ar write read =>
      have unsuppressed : Quiet channel routed { routed with suppressRead := false } :=
        .of_unseen rfl rfl rfl rfl
      have ticked : Quiet channel finished
          ({ finished with cycle := finished.cycle + 1 }.emit [.tick]) :=
        ⟨⟨[.tick], rfl, by cases channel <;> rfl⟩, by cases channel <;> rfl, fun _ => rfl⟩
      have reads : Quiet channel written finished := by
        rcases read with ⟨-, rfl⟩ | ⟨-, turn⟩
        · exact .of_unseen rfl rfl rfl rfl
        · exact .of_readTurn turn
      have engines := ((unsuppressed.trans (.of_writeTurn write)).trans reads).trans ticked
      have arbitrated : Rounded channel arrived routed := by
        cases channel with
        | aw => exact (Rounded.of_awRound aw).append (.of_arRound ar)
        | ar => exact (Rounded.of_arRound ar).prepend (.of_awRound aw)
      obtain ⟨events, trace, round⟩ := arbitrated.append engines
      have start : atArbitration inputs fabric = arrived := by
        rw [atArbitration, arrives.returned]
        rfl
      rw [start]
      refine ⟨AxiFabric.handshakes (fabric.drive false).outputs inputs ++ events, ?_, ?_, ?_⟩
      · rw [trace, arrives.advances.trace, AxiFabric.trace_drive, List.append_assoc]
      · rw [grants_append, grants_handshakes, List.nil_append]
        exact round
      · obtain ⟨outputs, random, equal⟩ := fabric.drive_eq false
        cases channel with
        | aw => exact arrives.nextAwPort.trans (by rw [equal]; rfl)
        | ar => exact arrives.nextArPort.trans (by rw [equal]; rfl)

/-! ## Stretches of cycles -/

/-- The port has a request on the channel at the arbitration of every cycle. -/
def Waits (env : FabricEnv W) (channel : RequestChannel) (port : c.Port) :
    List c.Inputs → AxiFabric c W → Prop
  | [], _ => True
  | inputs :: cycles, fabric =>
      channel.requests ((atArbitration inputs fabric).view.ports port) ≠ [] ∧
        Waits env channel port cycles (AxiFabric.cycleWith env fabric (inputs, false)).state

/-- The grants in a stretch during which a port waits in vain pass that port. -/
theorem passed_of_waits {env : FabricEnv W} {channel : RequestChannel} {port : c.Port}
    {cycles : List c.Inputs} {fabric final : AxiFabric c W}
    (returned : AxiFabric.runActive env cycles fabric = .ok final)
    (waits : Waits env channel port cycles fabric) :
    ∃ events, final.trace = fabric.trace ++ events ∧
      (port ∉ (grants channel events).map Prod.fst →
        RoundRobin.Passed port (channel.pointer fabric) ((grants channel events).map Prod.fst)
          (channel.pointer final)) := by
  induction cycles generalizing fabric with
  | nil =>
      obtain rfl := Except.ok.inj returned
      exact ⟨[], by simp, fun _ => .nil _⟩
  | cons inputs cycles ih =>
      obtain ⟨waiting, waits⟩ := waits
      obtain ⟨before, middle, here, done, returned⟩ := AxiFabric.runActive_split
        (show AxiFabric.runActive env ([] ++ inputs :: cycles) fabric = .ok final from returned)
      obtain rfl : fabric = before := Except.ok.inj here
      rw [done] at waits
      obtain ⟨events, trace, round, pointer⟩ := cycle_rounded done channel
      obtain ⟨more, moreTrace, passed⟩ := ih returned waits
      refine ⟨events ++ more, by rw [moreTrace, trace, List.append_assoc], ?_⟩
      rw [grants_append, List.map_append]
      generalize grants channel events = made at round ⊢
      cases round with
      | none same =>
          rw [← pointer, ← same]
          exact passed
      | grant granted payload first oldest kept moved =>
          intro ungranted
          simp only [List.map_cons, List.map_nil, List.mem_append, List.mem_singleton,
            not_or] at ungranted
          rw [← pointer]
          refine .cons (first port waiting) (Ne.symm ungranted.1) ?_
          have next : channel.pointer middle = RoundRobin.following granted := moved
          exact next ▸ passed ungranted.2

/-- One cycle grants at most one request of the channel, the oldest of its port, and
takes only that one. -/
def GrantsOldest (env : FabricEnv W) (channel : RequestChannel) (before : AxiFabric c W)
    (inputs : c.Inputs) : Prop :=
  let after := (AxiFabric.cycleWith env before (inputs, false)).state
  let waiting := fun port => channel.requests ((atArbitration inputs before).view.ports port)
  let left := fun port => channel.requests (after.view.ports port)
  let made := grants channel (after.trace.drop before.trace.length)
  (made = [] ∧ ∀ port, left port = waiting port) ∨
    ∃ port payload, made = [(port, payload)] ∧ waiting port = payload :: left port ∧
      ∀ other, other ≠ port → left other = waiting other

theorem grantsOldest_of_returned {env : FabricEnv W} {inputs : c.Inputs}
    {before after : AxiFabric c W}
    (done : AxiFabric.cycleWith env before (inputs, false) = .ok after)
    (channel : RequestChannel) : GrantsOldest env channel before inputs := by
  obtain ⟨events, trace, round, -⟩ := cycle_rounded done channel
  simp only [GrantsOldest, done, state_ok, trace, List.drop_left]
  generalize grants channel events = made at round ⊢
  cases round with
  | none _ kept => exact .inl ⟨rfl, kept⟩
  | grant port payload _ oldest kept => exact .inr ⟨port, payload, rfl, oldest, kept⟩

open AxiFabric in
/-- In a stretch of cycles during which a port waits on a channel: if it is not
granted, no other port is granted twice; if there are as many grants as ports,
one is its own.  Every cycle grants at most one request, the oldest of its port. -/
theorem round_robin_never_overtakes (env : FabricEnv W) (channel : RequestChannel)
    (stretch : List c.Inputs) (fabric : AxiFabric c W)
    (returned : (runActive env stretch fabric).isOk = true) :
    let after := (runActive env stretch fabric).state
    let granted := (grants channel (after.trace.drop fabric.trace.length)).map Prod.fst
    (∀ port, Waits env channel port stretch fabric → port ∉ granted → granted.Nodup) ∧
      (∀ port, Waits env channel port stretch fabric → c.numPorts ≤ granted.length →
        port ∈ granted) ∧
      ∀ earlier inputs later, stretch = earlier ++ inputs :: later →
        GrantsOldest env channel (runActive env earlier fabric).state inputs := by
  intro after granted
  have whole := eq_ok_of_isOk returned
  have passes : ∀ port, Waits env channel port stretch fabric → port ∉ granted →
      RoundRobin.Passed port (channel.pointer fabric) granted (channel.pointer after) := by
    intro port waits
    obtain ⟨events, trace, passed⟩ := passed_of_waits whole waits
    simpa only [granted, after, trace, List.drop_left] using passed
  refine ⟨fun port waits ungranted => (passes port waits ungranted).nodup, ?_, ?_⟩
  · intro port waits enough
    by_contra ungranted
    exact absurd enough (not_le.mpr (passes port waits ungranted).length_lt)
  · rintro earlier inputs later rfl
    obtain ⟨before, next, first, done, -⟩ := runActive_split whole
    rw [first]
    exact grantsOldest_of_returned done channel

/-- Two 32-bit ports. -/
def Config.pair : Config :=
  { Config.small with numPorts := 2, numPorts_pos := Nat.two_pos }

/-- Both ports read a word. -/
def readBoth : Config.pair.Inputs := fun _ =>
  { bReady := true, rReady := true, arValid := true, ar := wordAt 0x1004 3 false }

open AxiFabric in
/-- Of two grants while the second port waits, one is its own. -/
theorem round_robin_never_overtakes_pair :
    let start := AxiFabric.fresh Config.pair 1 .never smallWorld
    let after := (runActive smallEnv [readBoth, readBoth] start).state
    ⟨1, by decide⟩ ∈ (grants .ar (after.trace.drop start.trace.length)).map Prod.fst := by
  intro start after
  refine (round_robin_never_overtakes smallEnv .ar [readBoth, readBoth] start
    (by decide +kernel)).2.1 ⟨1, by decide⟩ ?_ (by decide +kernel)
  exact ⟨by decide +kernel, by decide +kernel, trivial⟩

end AxiTestbench
