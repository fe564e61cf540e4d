import Mathlib.Algebra.BigOperators.Group.Finset.Basic
import AxiTestbench.Fabric.Occupancy
import AxiTestbench.Fabric.Stability

/-!
# Draining

When the initiators stop requesting and take every response, the fabric works off
what it holds.  `Drainable` says that what it holds can be worked off, `work`
bounds the steps this takes.
-/

namespace AxiTestbench

open Lib Outcome

variable {c : Config} {W : Type}

/-! ## What a fabric has to hold -/

/-- A W beat that a write still has to receive. -/
structure OwedBeat where
  payload : AddressPayload
  index : Nat

/-- WLAST is right and only lanes of the beat are strobed. -/
def OwedBeat.Fits (owed : OwedBeat) (beat : c.WriteBeat) : Prop :=
  beat.last = (owed.index + 1 == owed.payload.beats) ∧
    ∀ lane, beat.strobe lane ≠ 0 → owed.payload.mask c.dataBytes owed.index lane ≠ 0

/-- The beats of a request from `first` on. -/
def owedFrom (payload : AddressPayload) (first : Nat) : List OwedBeat :=
  ((List.range payload.beats).drop first).map (OwedBeat.mk payload)

/-- The beats owed by the routed and then by the buffered writes of a port. -/
def Pipeline.owed (state : Pipeline c W) (port : c.Port) : List OwedBeat :=
  (routesOf port state.writeRoutes).flatMap (fun route => owedFrom route.payload route.beat) ++
    (state.ports port).aw.flatMap fun payload => owedFrom payload 0

/-- Ports and IDs that hold a reservation, or may come to hold one when the pending
reads are processed. -/
def Pipeline.MayReserve (env : FabricEnv W) (state : Pipeline c W) (key : c.Port × UInt64) : Prop :=
  (∃ slot, (state.monitors slot).valid = true ∧ (state.monitors slot).key = key) ∨
    (∃ route ∈ state.readRoutes, route.exclusive = true ∧ route.beat = 0 ∧
      route.forcedResponse = .okay ∧ route.key = key) ∨
    ∃ payload ∈ (state.ports key.1).ar, payload.lock = true ∧ payload.id = key.2 ∧
      ∃ world, forcedResponseOf env world payload
        (decodedMapping env.space c.dataBytes payload) = .okay

/-- The buffered requests are legal, the W FIFOs hold exactly the owed beats, and
the monitor table has room for every reservation. -/
structure Drainable (env : FabricEnv W) (state : Pipeline c W) : Prop where
  aw : ∀ port, ∀ payload ∈ (state.ports port).aw, Routable c payload
  ar : ∀ port, ∀ payload ∈ (state.ports port).ar, Routable c payload
  supplied : ∀ port, List.Forall₂ OwedBeat.Fits (state.owed port) (state.ports port).w
  reservable : ∃ keys : Finset (c.Port × UInt64), keys.card ≤ c.routeDepth ∧
    ∀ key, state.MayReserve env key → key ∈ keys

/-- The events of a fabric that gets no requests. -/
def Event.drains : Event c → Bool
  | .b _ _ | .r _ _ => true
  | event => event.internal

theorem Event.drains_of_internal {event : Event c} (internal : event.internal = true) :
    event.drains = true := by
  cases event <;> first | rfl | exact internal

theorem owedFrom_of_lt {payload : AddressPayload} {first : Nat} (running : first < payload.beats) :
    owedFrom payload first = ⟨payload, first⟩ :: owedFrom payload (first + 1) := by
  rw [owedFrom, List.drop_eq_getElem_cons (by simpa using running), List.map_cons, owedFrom]
  simp

@[simp] theorem owedFrom_beats (payload : AddressPayload) :
    owedFrom payload payload.beats = [] := by
  simp [owedFrom]

/-! ## Steps keep a drainable state drainable -/

namespace Drainable

variable {env : FabricEnv W} {state next : Pipeline c W} {events : List (Event c)}

/-- Work on the front route that leaves the beats it owes. -/
private theorem owed_front {route done : WriteRoute c} {routes : List (WriteRoute c)}
    (front : state.writeRoutes = route :: routes) (base : done.toRouteBase = route.toRouteBase)
    (port : c.Port) :
    (routesOf port (done :: routes)).flatMap (fun route => owedFrom route.payload route.beat) =
      (routesOf port state.writeRoutes).flatMap fun route => owedFrom route.payload route.beat := by
  by_cases here : route.port = port <;> simp [front, routesOf, base, here]

/-- A complete write owes nothing. -/
private theorem owed_complete {route : WriteRoute c} {routes : List (WriteRoute c)}
    (front : state.writeRoutes = route :: routes) (full : route.beat = route.payload.beats)
    (port : c.Port) :
    (routesOf port routes).flatMap (fun route => owedFrom route.payload route.beat) =
      (routesOf port state.writeRoutes).flatMap fun route => owedFrom route.payload route.beat := by
  by_cases here : route.port = port <;> simp [front, routesOf, full, here]

theorem supplied_step (supplied : ∀ port, List.Forall₂ OwedBeat.Fits (state.owed port)
      (state.ports port).w) (ordered : Ordered state)
    (taken : Pipeline.Step env state events next) (drains : ∀ event ∈ events, event.drains = true)
    (port : c.Port) : List.Forall₂ OwedBeat.Fits (next.owed port) (next.ports port).w := by
  have same : next.owed port = state.owed port → (next.ports port).w = (state.ports port).w →
      List.Forall₂ OwedBeat.Fits (next.owed port) (next.ports port).w := by
    intro owed w
    rw [owed, w]
    exact supplied port
  have answered : ∀ {route : WriteRoute c} {routes : List (WriteRoute c)},
      state.writeRoutes = route :: routes → route.dataComplete = true →
      next.writeRoutes = routes → (next.ports port).aw = (state.ports port).aw →
      (next.ports port).w = (state.ports port).w →
      List.Forall₂ OwedBeat.Fits (next.owed port) (next.ports port).w := by
    intro route routes front complete writeRoutes aw w
    have full := (ordered.writes route (by simp [front])).complete_iff.mp complete
    refine same ?_ w
    rw [Pipeline.owed, Pipeline.owed, ← owed_complete front full, writeRoutes, aw]
  cases taken with
  | acceptAw | acceptW | acceptAr | reset | resetDevices | tick =>
      simp [Event.drains, Event.internal] at drains
  | retireB => exact same (by simp [Pipeline.owed]) (by simp)
  | retireR | routeAr => exact same (by simp [Pipeline.owed]) (by simp)
  | reserve => exact supplied port
  | routeAw other payload rest cycle base queue room routed =>
      have fields := initializeRoute_routed routed
      by_cases here : other = port
      · subst here
        refine same ?_ (by simp)
        simp [Pipeline.owed, routesOf, queue, fields.port_eq, fields.payload_eq, fields.beat_eq]
      · refine same ?_ (by simp [Ne.symm here])
        simp [Pipeline.owed, routesOf, fields.port_eq, here, Ne.symm here]
  | stage route routes beat rest cursor lanes index front built incomplete queue last mask legal
      indexEq =>
      have running := (ordered.writes route (by simp [front])).beat_lt incomplete
      by_cases here : route.port = port
      · subst here
        have before := supplied route.port
        rw [queue, Pipeline.owed, front] at before
        simp only [routesOf, decide_true, List.filter_cons_of_pos, List.flatMap_cons,
          owedFrom_of_lt running, List.cons_append] at before
        have rest := (List.forall₂_cons.mp before).2
        simpa [Pipeline.owed, routesOf, WriteRoute.stageBeat] using rest
      · refine same ?_ (by simp [Ne.symm here])
        simp [Pipeline.owed, routesOf, front, WriteRoute.stageBeat, here]
  | completeForced route routes front complete =>
      exact answered front complete rfl (by simp [Pipeline.respond]) (by simp [Pipeline.respond])
  | commitExclusive route routes cursor access front built complete room exclusive finished =>
      exact answered front complete rfl (by simp [Pipeline.respond]) (by simp [Pipeline.respond])
  | commitLast route routes cursor mapping data strobe access front built complete room regular
      targeted staged written done =>
      exact answered front complete rfl (by simp [Pipeline.respond]) (by simp [Pipeline.respond])
  | commitBeat route routes cursor mapping data strobe access front built complete room regular
      targeted staged written more =>
      obtain ⟨exitResponse, exitCode, routeEq⟩ := writeDeviceBeat_route written
      have base : (access.route.afterBeat access.response cursor.beats).toRouteBase =
          route.toRouteBase := by rw [WriteRoute.afterBeat, routeEq]
      refine same ?_ rfl
      rw [Pipeline.owed, Pipeline.owed, ← owed_front front base]
  | readBeat | readLast =>
      exact same (by simp [Pipeline.owed, Pipeline.deliver]) (by simp [Pipeline.deliver])

/-- The head of the W FIFO is the next beat that the front route owes. -/
theorem next_beat (drainable : Drainable env state) {route : WriteRoute c}
    {routes : List (WriteRoute c)} (front : state.writeRoutes = route :: routes)
    (running : route.beat < route.payload.beats) :
    ∃ beat rest, (state.ports route.port).w = beat :: rest ∧
      OwedBeat.Fits ⟨route.payload, route.beat⟩ beat := by
  have fits := drainable.supplied route.port
  rw [Pipeline.owed, front] at fits
  simp only [routesOf, decide_true, List.filter_cons_of_pos, List.flatMap_cons,
    owedFrom_of_lt running, List.cons_append] at fits
  cases queue : (state.ports route.port).w with
  | nil =>
      rw [queue] at fits
      cases fits
  | cons beat rest =>
      rw [queue] at fits
      exact ⟨beat, rest, rfl, (List.forall₂_cons.mp fits).1⟩

/-- No step adds a port and ID to those that may reserve. -/
theorem mayReserve_step (taken : Pipeline.Step env state events next)
    (drains : ∀ event ∈ events, event.drains = true) {key : c.Port × UInt64}
    (may : next.MayReserve env key) : state.MayReserve env key := by
  -- Where a valid monitor comes from.
  have monitors : (∃ slot, (next.monitors slot).valid = true ∧ (next.monitors slot).key = key) →
      state.MayReserve env key := by
    rintro ⟨slot, valid, rfl⟩
    rcases taken.table with dropped | ⟨route, routes, front, exclusive, first, okay, established⟩
    · have same := dropped slot valid
      rw [same] at valid ⊢
      exact .inl ⟨slot, valid, rfl⟩
    · obtain ⟨entered, keyEq, others, -⟩ := establishMonitor_slot established
      by_cases here : slot = entered
      · subst here
        exact .inr (.inl ⟨route, by simp [front], exclusive, first, okay, keyEq.symm⟩)
      · rw [others slot here] at valid ⊢
        exact .inl ⟨slot, valid, rfl⟩
  have kept : next.readRoutes ⊆ state.readRoutes →
      (∀ port, (next.ports port).ar ⊆ (state.ports port).ar) → state.MayReserve env key := by
    intro routes queues
    rcases may with held | ⟨route, member, reserves⟩ | ⟨payload, member, reserves⟩
    · exact monitors held
    · exact .inr (.inl ⟨route, routes member, reserves⟩)
    · exact .inr (.inr ⟨payload, queues _ member, reserves⟩)
  cases taken with
  | acceptAw | acceptW | acceptAr | reset | resetDevices | tick =>
      simp [Event.drains, Event.internal] at drains
  | routeAr port payload rest cycle base queue room routed =>
      have fields := initializeRoute_routed routed
      have valid := RouteBase.Valid.of_routed routed
      rcases may with held | ⟨route, member, exclusive, first, okay, rfl⟩ |
        ⟨waiting, member, reserves⟩
      · exact monitors held
      · rcases List.mem_append.mp member with old | new
        · exact .inr (.inl ⟨route, old, exclusive, first, okay, rfl⟩)
        · -- The new route was the head of the FIFO.
          obtain rfl := List.mem_singleton.mp new
          obtain ⟨world, forced⟩ := valid.forced
          simp only [ReadRoute.key, fields.port_eq, fields.payload_eq]
          refine .inr (.inr ⟨payload, by simp [queue], ?_, rfl, world, ?_⟩)
          · rw [← fields.payload_eq, ← valid.exclusive_eq]
            exact exclusive
          · rw [← fields.payload_eq, ← valid.mapping_eq, ← forced]
            exact okay
      · refine .inr (.inr ⟨waiting, ?_, reserves⟩)
        by_cases here : key.1 = port
        · simp only [Pipeline.setPort_ports, here, if_true] at member
          rw [here, queue]
          exact List.mem_cons_of_mem _ member
        · simpa [here] using member
  | readBeat route routes cursor access front built room accessed more =>
      rcases may with held | ⟨other, member, exclusive, first, okay, same⟩ |
        ⟨payload, member, reserves⟩
      · exact monitors held
      · rcases List.mem_cons.mp member with rfl | old
        · simp at first
        · exact .inr (.inl ⟨other, by simp [front, old], exclusive, first, okay, same⟩)
      · exact .inr (.inr ⟨payload, by simpa [Pipeline.deliver] using member, reserves⟩)
  | readLast route routes cursor access front =>
      exact kept (by simp [Pipeline.deliver, front]) (by simp [Pipeline.deliver])
  | completeForced | commitExclusive | commitLast =>
      exact kept (by simp [Pipeline.respond]) (by simp [Pipeline.respond])
  | _ => exact kept (by simp) (by simp)

/-- No step adds a buffered request. -/
theorem requests_step (taken : Pipeline.Step env state events next)
    (drains : ∀ event ∈ events, event.drains = true) (port : c.Port) :
    (next.ports port).aw ⊆ (state.ports port).aw ∧ (next.ports port).ar ⊆ (state.ports port).ar := by
  cases taken with
  | acceptAw | acceptW | acceptAr | reset | resetDevices | tick =>
      simp [Event.drains, Event.internal] at drains
  | routeAw other payload rest cycle base queue =>
      by_cases here : port = other
      · subst here
        simp [queue]
      · simp [here]
  | routeAr other payload rest cycle base queue =>
      by_cases here : port = other
      · subst here
        simp [queue]
      · simp [here]
  | completeForced | commitExclusive | commitLast => simp [Pipeline.respond]
  | readBeat | readLast => simp [Pipeline.deliver]
  | _ => simp

theorem step (drainable : Drainable env state) (ordered : Ordered state)
    (taken : Pipeline.Step env state events next)
    (drains : ∀ event ∈ events, event.drains = true) : Drainable env next where
  aw port payload member := drainable.aw port payload ((requests_step taken drains port).1 member)
  ar port payload member := drainable.ar port payload ((requests_step taken drains port).2 member)
  supplied := supplied_step drainable.supplied ordered taken drains
  reservable := by
    obtain ⟨keys, few, all⟩ := drainable.reservable
    exact ⟨keys, few, fun key may => all key (mayReserve_step taken drains may)⟩

end Drainable

/-! ## The work that is left -/

/-- Steps that a routed write still takes, with its B response. -/
def WriteRoute.work (route : WriteRoute c) : Nat :=
  (route.payload.beats - route.beat) + (route.payload.beats - route.commitBeat) + 2

/-- Steps that a routed read still takes, with its R beats. -/
def ReadRoute.work (route : ReadRoute c) : Nat := 2 * (route.payload.beats - route.beat) + 1

/-- Steps that the contents of the FIFOs of a port still take.  A request takes one
more than the route it becomes. -/
def Queues.work (queues : Queues c) : Nat :=
  (queues.aw.map fun payload => 2 * payload.beats + 3).sum +
    (queues.ar.map fun payload => 2 * payload.beats + 2).sum + queues.b.length + queues.r.length

/-- A bound on the steps that are left. -/
def Pipeline.work (state : Pipeline c W) : Nat :=
  ∑ port, (state.ports port).work + (state.writeRoutes.map WriteRoute.work).sum +
    (state.readRoutes.map ReadRoute.work).sum

theorem sum_work_update (ports : c.Port → Queues c) (port : c.Port) (queues : Queues c) :
    ∑ other, (if other = port then queues else ports other).work + (ports port).work =
      ∑ other, (ports other).work + queues.work := by
  have elsewhere : ∑ other ∈ Finset.univ.erase port,
        (if other = port then queues else ports other).work =
      ∑ other ∈ Finset.univ.erase port, (ports other).work :=
    Finset.sum_congr rfl fun other member => by rw [if_neg (Finset.ne_of_mem_erase member)]
  rw [← Finset.add_sum_erase _ _ (Finset.mem_univ port), elsewhere, if_pos rfl,
    ← Finset.add_sum_erase _ (fun other => (ports other).work) (Finset.mem_univ port)]
  omega

/-- A step that changes one port and the routes does some of the work if they do. -/
theorem Pipeline.work_lt {state next : Pipeline c W} (port : c.Port) {queues : Queues c}
    (ports : next.ports = (state.setPort port queues).ports)
    (less : queues.work + (next.writeRoutes.map WriteRoute.work).sum +
        (next.readRoutes.map ReadRoute.work).sum <
      (state.ports port).work + (state.writeRoutes.map WriteRoute.work).sum +
        (state.readRoutes.map ReadRoute.work).sum) : next.work < state.work := by
  have sums := sum_work_update state.ports port queues
  have portsEq : ∀ other, next.ports other = if other = port then queues else state.ports other := by
    intro other
    rw [ports, Pipeline.setPort_ports]
  simp only [Pipeline.work, portsEq]
  omega

/-- A response costs less than the route it answers. -/
private theorem work_respond {state next : Pipeline c W} {route done : WriteRoute c}
    {routes : List (WriteRoute c)} (front : state.writeRoutes = route :: routes)
    (ports : next.ports = (state.respond done routes).ports) (writeRoutes : next.writeRoutes = routes)
    (readRoutes : next.readRoutes = state.readRoutes) : next.work < state.work := by
  refine Pipeline.work_lt done.port ports ?_
  simp only [front, writeRoutes, readRoutes, List.map_cons, List.sum_cons, Queues.work,
    WriteRoute.work, List.length_append, List.length_singleton]
  omega

/-- An R beat costs less than what it takes off its route. -/
private theorem work_deliver {state : Pipeline c W} {route : ReadRoute c}
    {routes : List (ReadRoute c)} {access : ReadAccess c W} (updated : List (ReadRoute c))
    (front : state.readRoutes = route :: routes)
    (less : (updated.map ReadRoute.work).sum + 1 < route.work) :
    (state.deliver route access (updated ++ routes)).work < state.work := by
  refine Pipeline.work_lt route.port rfl ?_
  simp only [Pipeline.deliver, Pipeline.setPort_writeRoutes, front, List.map_append,
    List.sum_append, List.map_cons, List.sum_cons, Queues.work, List.length_append,
    List.length_singleton]
  omega

/-- Every step of a fabric that gets no requests does some of the work, except the
entry of a monitor. -/
theorem Pipeline.Step.works {env : FabricEnv W} {state next : Pipeline c W}
    {events : List (Event c)} (taken : Pipeline.Step env state events next) (ordered : Ordered state)
    (drains : ∀ event ∈ events, event.drains = true) :
    next.work < state.work ∨ next.work = state.work ∧ ∃ route, events = [.reserve route] := by
  cases taken with
  | acceptAw | acceptW | acceptAr | reset | resetDevices | tick =>
      simp [Event.drains, Event.internal] at drains
  | reserve route => exact .inr ⟨rfl, route, rfl⟩
  | retireB port response rest queue =>
      have ports : ((state.latchExit response).setPort port
            { state.ports port with b := rest }).ports =
          (state.setPort port { state.ports port with b := rest }).ports := by
        simp [Pipeline.setPort]
      refine .inl (Pipeline.work_lt port ports ?_)
      simp [Queues.work, queue]
  | retireR port beat rest queue =>
      refine .inl (Pipeline.work_lt port rfl ?_)
      simp [Queues.work, queue]
  | routeAw port payload rest cycle base queue room routed =>
      have fields := initializeRoute_routed routed
      refine .inl (Pipeline.work_lt port rfl ?_)
      simp [Queues.work, WriteRoute.work, queue, fields.payload_eq, fields.beat_eq]
      omega
  | routeAr port payload rest cycle base queue room routed =>
      have fields := initializeRoute_routed routed
      refine .inl (Pipeline.work_lt port rfl ?_)
      simp [Queues.work, ReadRoute.work, queue, fields.payload_eq, fields.beat_eq]
      omega
  | stage route routes beat rest cursor lanes index front built incomplete queue last mask legal
      indexEq =>
      have running := (ordered.writes route (by simp [front])).beat_lt incomplete
      refine .inl (Pipeline.work_lt route.port rfl ?_)
      simp [Queues.work, WriteRoute.work, WriteRoute.stageBeat, front]
      omega
  | completeForced route routes front complete =>
      exact .inl (work_respond front rfl rfl rfl)
  | commitExclusive route routes cursor access front built complete room exclusive finished =>
      exact .inl (work_respond front rfl rfl rfl)
  | commitLast route routes cursor mapping data strobe access front built complete room regular
      targeted staged written done =>
      exact .inl (work_respond front rfl rfl rfl)
  | commitBeat route routes cursor mapping data strobe access front built complete room regular
      targeted staged written more =>
      have started := ordered.writes route (by simp [front])
      obtain ⟨-, -, counted⟩ := started.commitBeat built complete regular written more
      obtain ⟨exitResponse, exitCode, routeEq⟩ := writeDeviceBeat_route written
      have base : (access.route.afterBeat access.response cursor.beats).toRouteBase =
          route.toRouteBase := by rw [WriteRoute.afterBeat, routeEq]
      have committed := started.commit_lt
      left
      simp only [Pipeline.work, front, List.map_cons, List.sum_cons, WriteRoute.work, counted, base]
      omega
  | readBeat route routes cursor access front built room accessed more =>
      have running := ordered.reads route (by simp [front])
      refine .inl (work_deliver [{ route with beat := route.beat + 1 }] front ?_)
      simp only [ReadRoute.work, List.map_cons, List.map_nil, List.sum_cons, List.sum_nil]
      omega
  | readLast route routes cursor access front built room accessed done =>
      have running := ordered.reads route (by simp [front])
      refine .inl (work_deliver [] front ?_)
      simp only [ReadRoute.work, List.map_nil, List.sum_nil]
      omega

/-- What a stretch of draining steps achieves. -/
structure Progress (env : FabricEnv W) (state : Pipeline c W) (events : List (Event c))
    (next : Pipeline c W) : Prop where
  ordered : Ordered next
  drainable : Drainable env next
  work_le : next.work ≤ state.work
  moved : next.work < state.work ∨ (next = state ∧ events = []) ∨ ∃ route, .reserve route ∈ events

theorem Drainable.traces {env : FabricEnv W} {state next : Pipeline c W} {events : List (Event c)}
    (drainable : Drainable env state) (ordered : Ordered state)
    (traces : Traces (Pipeline.Step env) state events next)
    (drains : ∀ event ∈ events, event.drains = true) : Progress env state events next := by
  induction traces with
  | refl => exact ⟨ordered, drainable, le_rfl, .inr (.inl ⟨rfl, rfl⟩)⟩
  | snoc _ taken ih =>
      obtain ⟨earlier, here⟩ := List.forall_mem_append.mp drains
      obtain ⟨middleOrdered, middleDrainable, work_le, moved⟩ := ih earlier
      refine ⟨middleOrdered.step taken, middleDrainable.step middleOrdered taken here, ?_, ?_⟩
      · rcases taken.works middleOrdered here with less | ⟨same, -⟩
        · exact (Nat.le_of_lt less).trans work_le
        · exact same.trans_le work_le
      · rcases taken.works middleOrdered here with less | ⟨-, route, rfl⟩
        · exact .inl (less.trans_le work_le)
        · exact .inr (.inr ⟨route, by simp⟩)

theorem Drainable.works {env : FabricEnv W} {fabric after : AxiFabric c W}
    (drainable : Drainable env fabric.view)
    (reachable : Reachable env fabric.view) (works : Works env fabric after) :
    Drainable env after.view ∧ after.view.work ≤ fabric.view.work := by
  obtain ⟨events, advances, internal⟩ := works
  have progress := drainable.traces reachable.ordered advances.steps fun event member =>
    Event.drains_of_internal (internal event member)
  exact ⟨progress.drainable, progress.work_le⟩

namespace AxiFabric

/-! ## One cycle -/

/-- The initiators request nothing and take every response. -/
def Draining (inputs : c.Inputs) : Prop :=
  ∀ port, (inputs port).awValid = false ∧ (inputs port).wValid = false ∧
    (inputs port).arValid = false ∧ (inputs port).bReady = true ∧ (inputs port).rReady = true

/-- A state from which the fabric drains. -/
structure Drains (env : FabricEnv W) (fabric : AxiFabric c W) : Prop where
  reachable : Reachable env fabric.view
  drainable : Drainable env fabric.view
  unwatched : Unwatched fabric

variable {env : FabricEnv W} {inputs : c.Inputs} {fabric after : AxiFabric c W}

/-- Draining initiators take responses and hand over nothing. -/
theorem Draining.handshakes (draining : Draining inputs) (outputs : c.Outputs) :
    ∀ event ∈ handshakes outputs inputs,
      event.drains = true ∧ ∀ route, event ≠ .reserve route := by
  intro event member
  cases shaken_of_mem member with
  | b | r => exact ⟨rfl, by simp⟩
  | aw port valid => simp [(draining port).1] at valid
  | w port valid => simp [(draining port).2.1] at valid
  | ar port valid => simp [(draining port).2.2.1] at valid

/-- Responses wait only until the next handshakes. -/
theorem Draining.no_responses (draining : Draining inputs) (driven : Driven fabric)
    (none : AxiFabric.handshakes fabric.outputs inputs = []) (port : c.Port) :
    (fabric.view.ports port).b = [] ∧ (fabric.view.ports port).r = [] := by
  have events : retireEvents (fabric.outputs port) (inputs port) port = [] := by
    have retired := (List.append_eq_nil_iff.mp none).1
    exact List.flatMap_eq_nil_iff.mp retired port (List.mem_finRange port)
  obtain ⟨-, -, -, bReady, rReady⟩ := draining port
  simp only [retireEvents, bReady, rReady, Bool.and_true, List.append_eq_nil_iff,
    ite_eq_right_iff, List.cons_ne_nil, imp_false, Bool.not_eq_true] at events
  exact ⟨(driven port).noB events.1, (driven port).noR events.2⟩

/-- Nothing can be reported while the fabric drains. -/
theorem Drains.not_failed {fault : Fault} (drains : Drains env fabric) (draining : Draining inputs)
    (failed : FailedCycle env inputs fabric fault after) : False := by
  have atArrival : ∀ {arrived}, Arrived env inputs fabric arrived →
      Reachable env arrived.view ∧ Drainable env arrived.view := by
    intro arrived arrives
    have progress := drains.drainable.traces drains.reachable.ordered arrives.advances.steps
      fun event member => (draining.handshakes fabric.outputs event member).1
    exact ⟨drains.reachable.advance arrives.advances, progress.drainable⟩
  have onwards : ∀ {before after : AxiFabric c W}, Works env before after →
      Reachable env before.view ∧ Drainable env before.view →
      Reachable env after.view ∧ Drainable env after.view :=
    fun works here => ⟨here.1.works works, (here.2.works here.1 works).1⟩
  cases failed with
  | unstable thrown =>
      have checked := checkStability_eq inputs { fabric with wasReset := false }
      rw [thrown] at checked
      exact drains.unwatched.not_broken inputs checked.1
  | aw arrives refused =>
      obtain ⟨port, payload, rest, head, illegal, -⟩ := refused.accused
      exact illegal ((atArrival arrives).2.aw port payload (by simp [head]))
  | ar arrives aw refused =>
      obtain ⟨port, payload, rest, head, illegal, -⟩ := refused.accused
      exact illegal ((onwards aw.works (atArrival arrives)).2.ar port payload (by simp [head]))
  | write arrives aw ar failed =>
      obtain ⟨reachable, drainable⟩ := onwards ar.works (onwards aw.works (atArrival arrives))
      obtain ⟨route, routes, beat, rest, front, incomplete, queue, misfit, -⟩ :=
        failed.accused reachable.unsuppressed
      have running := (reachable.validWrite front).2.beat_lt incomplete
      obtain ⟨next, others, nextQueue, last, strobes⟩ := drainable.next_beat front running
      obtain ⟨rfl, -⟩ := List.cons.inj (queue.symm.trans nextQueue)
      rcases misfit with misplaced | ⟨lane, strobed, illegal⟩
      · exact misplaced last
      · exact strobes lane strobed illegal
  | read arrives aw ar write failed =>
      obtain ⟨reachable, drainable⟩ := onwards ar.works (onwards aw.works (atArrival arrives))
      obtain ⟨reachable, drainable⟩ := onwards write.works ⟨reachable.unsuppressed, drainable⟩
      obtain ⟨route, routes, front, exclusive, first, okay, exhausted, -⟩ := failed.accused reachable
      obtain ⟨keys, few, all⟩ := drainable.reservable
      have more : c.routeDepth < keys.card := by
        refine reachable.distinct.exhausted exhausted (fun slot valid => all _ ?_) (all _ ?_)
        · exact .inl ⟨slot, valid, rfl⟩
        · exact .inr (.inl ⟨route, by simp [front], exclusive, first, okay, rfl⟩)
      omega

/-- One step of the code does some of the work, unless it enters a monitor. -/
theorem Took.works_off {events : List (Event c)} (took : Took env fabric after events)
    (reachable : Reachable env fabric.view) (other : ∀ route, events ≠ [.reserve route]) :
    after.view.work < fabric.view.work := by
  have drains : ∀ event ∈ events, event.drains = true := fun event member =>
    Event.drains_of_internal (took.internal event member)
  rcases took.step.works reachable.ordered drains with less | ⟨-, route, only⟩
  · exact less
  · exact absurd only (other route)

/-- A full queue of positive depth holds something. -/
private theorem ne_nil_of_full {T : Type} {queue : List T} {depth : Nat} (positive : 0 < depth)
    (full : queue.length = depth) : queue ≠ [] :=
  List.ne_nil_of_length_pos (full ▸ positive)

theorem AwRound.works_off (round : AwRound env fabric after)
    (reachable : Reachable env fabric.view) :
    after.view.work < fabric.view.work ∨ after = fabric ∧
      (fabric.view.writeRoutes = [] → ∀ port, (fabric.view.ports port).aw = []) := by
  cases round with
  | full full => exact .inr ⟨rfl, fun empty => absurd empty (ne_nil_of_full c.routeDepth_pos full)⟩
  | none empty => exact .inr ⟨rfl, fun _ => empty⟩
  | grant _ _ _ _ _ _ _ took => exact .inl (Took.works_off took reachable (by simp))

theorem ArRound.works_off (round : ArRound env fabric after)
    (reachable : Reachable env fabric.view) :
    after.view.work < fabric.view.work ∨ after = fabric ∧
      (fabric.view.readRoutes = [] → ∀ port, (fabric.view.ports port).ar = []) := by
  cases round with
  | full full => exact .inr ⟨rfl, fun empty => absurd empty (ne_nil_of_full c.routeDepth_pos full)⟩
  | none empty => exact .inr ⟨rfl, fun _ => empty⟩
  | grant _ _ _ _ _ _ _ took => exact .inl (Took.works_off took reachable (by simp))

theorem CommitTurn.works_off {route : WriteRoute c} (turn : CommitTurn env fabric route after)
    (reachable : Reachable env fabric.view) (answered : (fabric.view.ports route.port).b = []) :
    after.view.work < fabric.view.work := by
  cases turn with
  | blocked full => exact absurd answered (ne_nil_of_full c.responseDepth_pos full)
  | took events took _ commits =>
      refine Took.works_off took reachable fun route only => ?_
      have commits := commits (.reserve route) (by simp [only])
      simp [Event.commits] at commits

/-- The write engine waits only for data or for room in a B FIFO. -/
theorem WriteTurn.works_off (turn : WriteTurn env fabric after)
    (reachable : Reachable env fabric.view) (drainable : Drainable env fabric.view)
    (answered : ∀ port, (fabric.view.ports port).b = []) :
    after.view.work < fabric.view.work ∨ after = fabric ∧ fabric.view.writeRoutes = [] := by
  cases turn with
  | empty empty => exact .inr ⟨rfl, empty⟩
  | starved route routes front incomplete none =>
      have running := (reachable.validWrite front).2.beat_lt incomplete
      obtain ⟨beat, rest, queue, -⟩ := drainable.next_beat front running
      rw [queue] at none
      cases none
  | commit route routes front complete turn =>
      exact .inl (CommitTurn.works_off turn reachable (answered route.port))
  | stage route done beat staged kept unsuppressed turn =>
      have less := Took.works_off staged reachable (by simp)
      rcases turn with rfl | turn
      · exact .inl less
      · obtain ⟨events, advances, writes⟩ := turn.advances
        have drainableLater := (drainable.works reachable staged.works).1
        have further := (drainableLater.works (reachable.works staged.works) ⟨events, advances,
          fun event member => Event.internal_of_writeEngine (writes event member)⟩).2
        exact .inl (further.trans_lt less)

/-- The read engine waits only for room in an R FIFO. -/
theorem ReadTurn.works_off (turn : ReadTurn env fabric after)
    (reachable : Reachable env fabric.view) (drainable : Drainable env fabric.view)
    (answered : ∀ port, (fabric.view.ports port).r = []) :
    after.view.work < fabric.view.work ∨ after = fabric ∧ fabric.view.readRoutes = [] := by
  have produced : ∀ {before : AxiFabric c W} {route : ReadRoute c} {access : ReadAccess c W},
      Took env before after (Pipeline.readEvents route access ++ [.produce route access.beat]) →
      Reachable env before.view → after.view.work < before.view.work := by
    intro before route access took reachable
    refine Took.works_off took reachable fun other only => ?_
    have member : Event.produce route access.beat ∈ [.reserve other] := by simp [← only]
    simp at member
  cases turn with
  | empty empty => exact .inr ⟨rfl, empty⟩
  | blocked route routes front full =>
      exact absurd (answered route.port) (ne_nil_of_full c.responseDepth_pos full)
  | beat route access took => exact .inl (produced took reachable)
  | reserved route access reserve took =>
      have less := produced took (reachable.works reserve.works)
      exact .inl (less.trans_le (drainable.works reachable reserve.works).2)

/-- A cycle that does none of the work finds none. -/
theorem ActiveCycle.drains (drains : Drains env fabric) (draining : Draining inputs)
    (driven : Driven fabric) (cycle : ActiveCycle env inputs fabric after) :
    Drainable env after.view ∧ (after.view.work < fabric.view.work ∨ fabric.idle = true) := by
  obtain ⟨arrives, aw, ar, write, read⟩ := cycle
  rename_i arrived granted routed written finished
  have handshaken := draining.handshakes fabric.outputs
  have arrival := drains.drainable.traces drains.reachable.ordered arrives.advances.steps
    fun event member => (handshaken event member).1
  have reachArrived := drains.reachable.advance arrives.advances
  obtain ⟨drainGranted, leGranted⟩ := arrival.drainable.works reachArrived aw.works
  have reachGranted := reachArrived.works aw.works
  obtain ⟨drainRouted, leRouted⟩ := drainGranted.works reachGranted ar.works
  have reachRouted := (reachGranted.works ar.works).unsuppressed
  obtain ⟨drainWritten, leWritten⟩ :=
    Drainable.works (show Drainable env { routed with suppressRead := false }.view from drainRouted)
      reachRouted write.works
  have reachWritten := reachRouted.works write.works
  have readWorks : Works env written finished := by
    rcases read with ⟨-, rfl⟩ | ⟨-, turn⟩
    · exact .refl _
    · exact turn.works
  obtain ⟨drainFinished, leFinished⟩ := drainWritten.works reachWritten readWorks
  refine ⟨drainFinished, ?_⟩
  change finished.view.work < fabric.view.work ∨ _
  change written.view.work ≤ routed.view.work at leWritten
  have leArrived := arrival.work_le
  -- Each phase in turn works, or leaves the fabric and finds nothing to do.
  rcases arrival.moved with less | ⟨sameView, none⟩ | ⟨route, reserved⟩
  · exact .inl (by omega)
  · have answered := draining.no_responses driven none
    rw [← sameView] at answered
    rcases AwRound.works_off aw reachArrived with less | ⟨rfl, noAw⟩
    · exact .inl (by omega)
    rcases ArRound.works_off ar reachGranted with less | ⟨rfl, noAr⟩
    · exact .inl (by omega)
    rcases WriteTurn.works_off write reachRouted drainRouted (fun port => (answered port).1) with
      less | ⟨rfl, noWrites⟩
    · change written.view.work < routed.view.work at less
      exact .inl (by omega)
    rcases read with ⟨suppressed, -⟩ | ⟨-, turn⟩
    · cases suppressed
    rcases ReadTurn.works_off turn reachWritten drainWritten (fun port => (answered port).2) with
      less | ⟨rfl, noReads⟩
    · exact .inl (less.trans_le leArrived)
    right
    rw [idle_iff, ← sameView]
    refine ⟨noReads, noWrites, fun port => ⟨noAw noWrites port, ?_, noAr noReads port, answered port⟩⟩
    -- Nothing is owed, so the W FIFO is empty.
    have supplied := drainRouted.supplied port
    rw [Pipeline.owed, show routed.view.writeRoutes = [] from noWrites,
      noAw noWrites port] at supplied
    simpa [routesOf] using supplied
  · exact absurd rfl ((handshaken _ reserved).2 route)

/-- A draining fabric stays one, and a cycle does some of the work that is left. -/
theorem Drains.cycle (drains : Drains env fabric) (draining : Draining inputs) :
    ∃ after, cycleWith env fabric (inputs, false) = .ok after ∧ Drains env after ∧
      (after.view.work < fabric.view.work ∨ fabric.idle = true) := by
  have driven : Drains env (drive false fabric) :=
    ⟨by rw [view_drive]; exact drains.reachable, by rw [view_drive]; exact drains.drainable,
      fun port => by rw [ports_drive]; exact drains.unwatched port⟩
  have ends := commit_cycle env inputs (drive false fabric) (drive_driven fabric)
  obtain ⟨events, follows, -⟩ := cycleWith_follows env (inputs, false) fabric
  have quiet : ¬Reports (cycleWith env fabric (inputs, false)) := fun reports =>
    drains.unwatched.not_broken inputs ((reports_iff env inputs fabric drains.reachable).mp reports)
  have watching := watching_of_unreported quiet
  cases returned : cycleWith env fabric (inputs, false) with
  | error thrown =>
      rw [show commit env inputs false (drive false fabric) = .error thrown from returned] at ends
      exact (driven.not_failed draining ends).elim
  | ok after =>
      rw [show commit env inputs false (drive false fabric) = .ok after from returned] at ends
      rw [returned] at follows watching
      have idleEq : (drive false fabric).idle = fabric.idle := by
        rw [Bool.eq_iff_iff, idle_iff, idle_iff, view_drive]
      obtain ⟨drainable, moved⟩ := ActiveCycle.drains driven draining (drive_driven fabric) ends
      rw [view_drive, idleEq] at moved
      obtain ⟨world, history, traces⟩ := drains.reachable
      refine ⟨after, rfl, ⟨⟨world, _, traces.trans follows.steps⟩, drainable, fun port => ?_⟩, moved⟩
      obtain ⟨aw, awEq⟩ := watching.aw port
      obtain ⟨w, wEq⟩ := watching.w port
      obtain ⟨ar, arEq⟩ := watching.ar port
      obtain ⟨noAw, noW, noAr, -⟩ := draining port
      simp only [state_ok] at awEq wEq arEq
      simp [awEq, wEq, arEq, Watch.next, noAw, noW, noAr]

end AxiFabric

open AxiFabric in
/-- From every state a run can reach that is drainable and in which no request
channel was stalled in the last cycle, a fabric that gets no requests reaches
`idle()` without throwing. -/
theorem fabric_drains (env : FabricEnv W) (cycles : List (c.Inputs × Bool)) (random : UInt64)
    (stall : Stall) (world : W) (inputs : Nat → c.Inputs)
    (draining : ∀ index, Draining (inputs index))
    (drainable : Drainable env (persist env cycles (.fresh c random stall world)).view)
    (unwatched : Unwatched (persist env cycles (.fresh c random stall world))) :
    ∃ count ≤ (persist env cycles (.fresh c random stall world)).view.work, ∃ final,
      runActive env ((List.range count).map inputs)
        (persist env cycles (.fresh c random stall world)) = .ok final ∧ final.idle = true := by
  have finishes := foldlM_finishes (cycleWith env) (fun index => (inputs index, false)) (Drains env)
    (fun fabric => fabric.view.work) (fun fabric => fabric.idle = true) ?_ _
    ⟨persist_reachable env cycles random stall world, drainable, unwatched⟩
  · obtain ⟨count, few, final, returned, idle⟩ := finishes
    refine ⟨count, few, final, ?_, idle⟩
    rw [runActive, run, List.map_map]
    exact returned
  · intro fabric index drains busy
    obtain ⟨after, returned, later, moved⟩ := drains.cycle (draining index)
    exact ⟨after, returned, later, moved.resolve_right busy⟩

/-- An initiator that takes no response and reads one word. -/
def readSlowly : Config.small.Inputs := fun _ => { arValid := true, ar := wordAt 0x1004 3 false }

open AxiFabric in
/-- One read has been answered, the next one is stalled. -/
def stalledSmall : AxiFabric Config.small RamWorld :=
  persist smallEnv [(readSlowly, false), (readSlowly, false)]
    (.fresh Config.small 8 (.below 0x8000000000000000) smallWorld)

/-- A state without requests and reservations is drainable. -/
theorem drainable_of_responses {env : FabricEnv W} {state : Pipeline c W}
    (writes : state.writeRoutes.isEmpty = true) (reads : state.readRoutes.isEmpty = true)
    (ports : ∀ port, (state.ports port).aw.isEmpty = true ∧ (state.ports port).w.isEmpty = true ∧
      (state.ports port).ar.isEmpty = true)
    (monitors : ∀ slot, (state.monitors slot).valid = false) : Drainable env state := by
  simp only [List.isEmpty_iff] at writes reads ports
  refine ⟨fun port payload member => ?_, fun port payload member => ?_, fun port => ?_, ∅,
    Nat.zero_le _, fun key may => ?_⟩
  · simp [(ports port).1] at member
  · simp [(ports port).2.2] at member
  · simp [Pipeline.owed, writes, routesOf, (ports port).1, (ports port).2.1]
  · simp [Pipeline.MayReserve, monitors, reads, (ports key.1).2.2] at may

/-- A W beat that comes before its request. -/
def earlyBeat (value : UInt8) (last : Bool) : Config.small.Inputs := fun _ =>
  { wValid := true, w := { data := fun _ => value, strobe := fun _ => 1, last } }

/-- An exclusive write and an exclusive read of two words each. -/
def requestPairs : Config.small.Inputs := fun _ =>
  { awValid := true
    aw := { wordAt 0x1000 3 true with length := 1 }
    arValid := true
    ar := { wordAt 0x1008 2 true with length := 1 } }

open AxiFabric in
/-- One beat of the write is staged and the other one is in the FIFO.  One beat of the read has
been answered, the other one is pending, and its reservation is held. -/
def halfwaySmall : AxiFabric Config.small RamWorld :=
  persist smallEnv [(earlyBeat 1 false, false), (earlyBeat 2 true, false), (requestPairs, false)]
    (.fresh Config.small 1 .never smallWorld)

theorem halfwaySmall_requests (port : Config.small.Port) :
    (halfwaySmall.view.ports port).aw = [] ∧ (halfwaySmall.view.ports port).ar = [] := by
  have taken : ∀ port, (halfwaySmall.view.ports port).aw.isEmpty = true ∧
      (halfwaySmall.view.ports port).ar.isEmpty = true := by decide +kernel
  simpa only [List.isEmpty_iff] using taken port

theorem drainable_halfwaySmall : Drainable smallEnv halfwaySmall.view where
  aw port payload member := by simp [halfwaySmall_requests port] at member
  ar port payload member := by simp [halfwaySmall_requests port] at member
  supplied := by
    unfold OwedBeat.Fits
    decide +kernel
  reservable := by
    have held : ∀ slot, (halfwaySmall.view.monitors slot).valid = true →
        (halfwaySmall.view.monitors slot).key = (⟨0, by decide⟩, 2) := by decide +kernel
    have routed : ∀ route ∈ halfwaySmall.view.readRoutes, route.key = (⟨0, by decide⟩, 2) := by
      decide +kernel
    refine ⟨{(⟨0, by decide⟩, 2)}, Nat.le_of_ble_eq_true rfl, fun key may => ?_⟩
    rw [Finset.mem_singleton]
    rcases may with ⟨slot, valid, rfl⟩ | ⟨route, member, -, -, -, rfl⟩ | ⟨payload, member, -⟩
    · exact held slot valid
    · exact routed route member
    · simp [halfwaySmall_requests key.1] at member

open AxiFabric in
/-- The write and the read that are under way are finished. -/
theorem fabric_drains_small :
    (halfwaySmall.view.writeRoutes.map fun route => route.beat) = [1] ∧
      (halfwaySmall.view.readRoutes.map fun route => route.beat) = [1] ∧
      (∀ port, (halfwaySmall.view.ports port).w.length = 1) ∧
      ∃ count ≤ halfwaySmall.view.work, ∃ final,
        runActive smallEnv ((List.range count).map fun _ => takeAll) halfwaySmall = .ok final ∧
          final.idle = true := by
  refine ⟨by decide +kernel, by decide +kernel, by decide +kernel, ?_⟩
  exact fabric_drains smallEnv
    [(earlyBeat 1 false, false), (earlyBeat 2 true, false), (requestPairs, false)] 1 .never
    smallWorld (fun _ => takeAll) (fun _ _ => ⟨rfl, rfl, rfl, rfl, rfl⟩) drainable_halfwaySmall
    (by unfold Unwatched; decide +kernel)

open AxiFabric in
/-- With a request stalled, the first cycle of the drain loop withdraws it, and the
fabric reports that. -/
theorem stalled_never_drains :
    Drainable smallEnv stalledSmall.view ∧ Draining takeAll ∧
      ¬∃ count final, runActive smallEnv ((List.range count).map fun _ => takeAll) stalledSmall =
        .ok final ∧ final.idle = true := by
  refine ⟨drainable_of_responses (by decide +kernel) (by decide +kernel) (by decide +kernel)
    (by decide +kernel), fun _ => ⟨rfl, rfl, rfl, rfl, rfl⟩, ?_⟩
  rintro ⟨count, final, returned, idle⟩
  cases count with
  | zero =>
      have same : stalledSmall = final := Except.ok.inj returned
      have busy : stalledSmall.idle = false := by decide +kernel
      rw [same, idle] at busy
      cases busy
  | succ count =>
      rw [runActive, run, List.range_succ_eq_map, List.map_cons, List.map_cons,
        List.foldlM_cons] at returned
      have thrown : (cycleWith smallEnv stalledSmall (takeAll, false)).isOk = false := by
        decide +kernel
      cases first : cycleWith smallEnv stalledSmall (takeAll, false) with
      | ok after =>
          rw [first] at thrown
          cases thrown
      | error pair =>
          rw [first] at returned
          cases returned

end AxiTestbench
