import AxiTestbench.Fabric.Wires

/-!
# Conservation of transactions

Every accepted request and write beat of a port is accounted for: what has been
handshaken equals, in order, what has been answered or consumed followed by what
the queues still hold.  The accounting is an invariant of the pipeline, so it
holds in every state that a run without reset reaches.
-/

namespace AxiTestbench

open Lib Outcome

variable {c : Config} {W : Type}

/-! ## Shapes -/

/-- ID and RLAST of every beat of a read burst. -/
def readShape (payload : AddressPayload) : List (UInt64 × Bool) :=
  (List.range payload.beats).map fun beat => (payload.id, beat + 1 == payload.beats)

/-- The beats that a read route has still to produce. -/
def ReadRoute.remaining (route : ReadRoute c) : List (UInt64 × Bool) :=
  (readShape route.payload).drop route.beat

/-- Entries of one port in a route queue. -/
def routesOf (port : c.Port) (routes : List (WriteRoute c)) : List (WriteRoute c) :=
  routes.filter fun route => route.port = port

def readsOf (port : c.Port) (routes : List (ReadRoute c)) : List (ReadRoute c) :=
  routes.filter fun route => route.port = port

/-! ## Order of work inside the route queues -/

/-- Progress of a write route: its data arrives before anything is committed, and
it leaves the queue with its last commit. -/
structure WriteRoute.Started (route : WriteRoute c) : Prop where
  beat_le : route.beat ≤ route.payload.beats
  complete_iff : route.dataComplete = true ↔ route.beat = route.payload.beats
  commit_lt : route.commitBeat < route.payload.beats
  uncommitted : route.dataComplete = false → route.commitBeat = 0
  exclusive : route.exclusive = true → route.commitBeat = 0
  success : responseIsSuccess route.response = true

/-- A route as the arbiter enters it. -/
def WriteRoute.Untouched (route : WriteRoute c) : Prop :=
  ∃ base : RouteBase c, base.beat = 0 ∧ route = { toRouteBase := base }

theorem WriteRoute.Untouched.started {route : WriteRoute c} (untouched : route.Untouched) :
    route.Started := by
  obtain ⟨base, beatEq, rfl⟩ := untouched
  have positive := base.payload.beats_pos
  refine ⟨?_, ?_, positive, fun _ => rfl, fun _ => rfl, rfl⟩
  · simp [beatEq]
  · simp [beatEq]
    omega

theorem WriteRoute.Started.beat_lt {route : WriteRoute c} (started : route.Started)
    (incomplete : route.dataComplete = false) : route.beat < route.payload.beats := by
  refine Nat.lt_of_le_of_ne started.beat_le fun full => ?_
  rw [started.complete_iff.mpr full] at incomplete
  cases incomplete

/-- Only the front route of each queue has been worked on. -/
structure Ordered (state : Pipeline c W) : Prop where
  writes : ∀ route ∈ state.writeRoutes, route.Started
  waitingWrites : ∀ route ∈ state.writeRoutes.tail, route.Untouched
  reads : ∀ route ∈ state.readRoutes, route.beat < route.payload.beats
  waitingReads : ∀ route ∈ state.readRoutes.tail, route.beat = 0

theorem WriteRoute.Started.stageBeat {route : WriteRoute c} {cursor : BurstCursor c.dataBytes}
    (started : route.Started) (incomplete : route.dataComplete = false)
    (built : BurstCursor.new route.payload = .ok cursor) (beat : c.WriteBeat) (index : Fin 256) :
    (route.stageBeat beat index (route.beat + 1 == cursor.beats)).Started := by
  have beats : cursor.beats = route.payload.beats := by
    rw [BurstCursor.beats, BurstCursor.payload_of_new built]
  have below : route.beat < route.payload.beats := by
    have notAll : route.beat ≠ route.payload.beats := by
      intro all
      simp [started.complete_iff.mpr all] at incomplete
    have := started.beat_le
    omega
  have commitEq := started.uncommitted incomplete
  refine ⟨below, ?_, ?_, fun _ => commitEq, fun _ => commitEq, started.success⟩
  · simp [WriteRoute.stageBeat, beats]
  · simpa [WriteRoute.stageBeat, commitEq] using started.commit_lt

theorem WriteRoute.Started.afterBeat {route : WriteRoute c} {response : Response} {beats : Nat}
    (started : route.Started) (beatsEq : beats = route.payload.beats)
    (complete : route.dataComplete = true) (regular : route.exclusive = false)
    (more : (route.afterBeat response beats).commitBeat ≠ beats) :
    (route.afterBeat response beats).Started ∧ responseIsSuccess response = true ∧
      (route.afterBeat response beats).commitBeat = route.commitBeat + 1 := by
  have commitLt := started.commit_lt
  by_cases ok : responseIsSuccess response = true
  · have commitEq : (route.afterBeat response beats).commitBeat = route.commitBeat + 1 := by
      simp [WriteRoute.afterBeat, ok]
    refine ⟨⟨started.beat_le, started.complete_iff, ?_, ?_, ?_, ?_⟩, ok, commitEq⟩
    · rw [commitEq] at more ⊢
      simp only [WriteRoute.afterBeat]
      omega
    · intro incomplete
      simp [WriteRoute.afterBeat, complete] at incomplete
    · intro exclusive
      simp [WriteRoute.afterBeat, regular] at exclusive
    · have old := started.success
      cases former : route.response <;> cases response <;>
        simp_all [WriteRoute.afterBeat, combineResponse, responseIsSuccess]
  · simp [WriteRoute.afterBeat, ok] at more

/-- The route after a regular beat that leaves more beats to commit. -/
theorem WriteRoute.Started.commitBeat {env : FabricEnv W} {world : W} {monitors : Monitors c}
    {route : WriteRoute c} {mapping : Mapping} {cursor : BurstCursor c.dataBytes} {index : Nat}
    {data strobe : Lanes c.dataBytes} {access : WriteAccess c W} (started : route.Started)
    (built : BurstCursor.new route.payload = .ok cursor) (complete : route.dataComplete = true)
    (regular : route.exclusive = false)
    (written : writeDeviceBeat env world monitors route mapping cursor index data strobe =
      .ok access)
    (more : (access.route.afterBeat access.response cursor.beats).commitBeat ≠ cursor.beats) :
    (access.route.afterBeat access.response cursor.beats).Started ∧
      responseIsSuccess access.response = true ∧
      (access.route.afterBeat access.response cursor.beats).commitBeat = route.commitBeat + 1 := by
  obtain ⟨exitResponse, exitCode, routeEq⟩ := writeDeviceBeat_route written
  have exitStarted : access.route.Started := by
    rw [routeEq]
    exact ⟨started.beat_le, started.complete_iff, started.commit_lt, started.uncommitted,
      started.exclusive, started.success⟩
  have beats : cursor.beats = access.route.payload.beats := by
    simp [routeEq, BurstCursor.beats, BurstCursor.payload_of_new built]
  obtain ⟨after, success, count⟩ := exitStarted.afterBeat beats (by simp [routeEq, complete])
    (by simp [routeEq, regular]) more
  exact ⟨after, success, by rw [count, routeEq]⟩

theorem Ordered.empty (world : W) : Ordered (Pipeline.empty c world) :=
  ⟨by simp [Pipeline.empty], by simp [Pipeline.empty], by simp [Pipeline.empty],
    by simp [Pipeline.empty]⟩

/-- A change that keeps both route queues keeps their order. -/
theorem Ordered.of_routes {state next : Pipeline c W} (ordered : Ordered state)
    (writeRoutes : next.writeRoutes = state.writeRoutes)
    (readRoutes : next.readRoutes = state.readRoutes) : Ordered next :=
  ⟨writeRoutes ▸ ordered.writes, writeRoutes ▸ ordered.waitingWrites,
    readRoutes ▸ ordered.reads, readRoutes ▸ ordered.waitingReads⟩

/-- Replacing or dropping the front write route. -/
theorem Ordered.of_writes {state next : Pipeline c W} {route : WriteRoute c}
    {routes : List (WriteRoute c)} (front : Option (WriteRoute c)) (ordered : Ordered state)
    (queue : state.writeRoutes = route :: routes) (started : ∀ route ∈ front, route.Started)
    (writeRoutes : next.writeRoutes = front.toList ++ routes)
    (readRoutes : next.readRoutes = state.readRoutes) : Ordered next := by
  have waiting : ∀ other ∈ routes, other.Untouched := by
    have := ordered.waitingWrites
    rwa [queue] at this
  refine ⟨?_, ?_, readRoutes ▸ ordered.reads, readRoutes ▸ ordered.waitingReads⟩
  · rw [writeRoutes]
    intro other member
    rcases List.mem_append.mp member with inFront | behind
    · exact started other (Option.mem_toList.mp inFront)
    · exact (waiting other behind).started
  · rw [writeRoutes]
    intro other member
    cases front with
    | none => exact waiting other (List.mem_of_mem_tail member)
    | some first => exact waiting other member

theorem Ordered.of_reads {state next : Pipeline c W} {route : ReadRoute c}
    {routes : List (ReadRoute c)} (front : Option (ReadRoute c)) (ordered : Ordered state)
    (queue : state.readRoutes = route :: routes)
    (running : ∀ route ∈ front, route.beat < route.payload.beats)
    (writeRoutes : next.writeRoutes = state.writeRoutes)
    (readRoutes : next.readRoutes = front.toList ++ routes) : Ordered next := by
  have waiting : ∀ other ∈ routes, other.beat = 0 := by
    have := ordered.waitingReads
    rwa [queue] at this
  refine ⟨writeRoutes ▸ ordered.writes, writeRoutes ▸ ordered.waitingWrites, ?_, ?_⟩
  · rw [readRoutes]
    intro other member
    rcases List.mem_append.mp member with inFront | behind
    · exact running other (Option.mem_toList.mp inFront)
    · rw [waiting other behind]
      exact other.payload.beats_pos
  · rw [readRoutes]
    intro other member
    cases front with
    | none => exact waiting other (List.mem_of_mem_tail member)
    | some first => exact waiting other member

private theorem mem_tail_append_singleton {T : Type} {items : List T} {item new : T}
    (member : item ∈ (items ++ [new]).tail) : item ∈ items.tail ∨ item = new := by
  cases items with
  | nil => simp at member
  | cons first rest => simpa using member

theorem Ordered.step {env : FabricEnv W} {state next : Pipeline c W} {events : List (Event c)}
    (ordered : Ordered state) (taken : Pipeline.Step env state events next) : Ordered next := by
  cases taken with
  | acceptAw | acceptW | acceptAr | retireR | reserve | resetDevices | tick =>
      exact ordered.of_routes rfl rfl
  | retireB => exact ordered.of_routes (by simp) (by simp)
  | routeAw port payload rest cycle base queue room routed =>
      have fields := initializeRoute_routed routed
      have untouched : ({ toRouteBase := base } : WriteRoute c).Untouched :=
        ⟨base, fields.beat_eq, rfl⟩
      refine ⟨?_, ?_, ordered.reads, ordered.waitingReads⟩
      · intro route member
        rcases List.mem_append.mp member with old | new
        · exact ordered.writes route old
        · rw [List.mem_singleton.mp new]
          exact untouched.started
      · intro route member
        rcases mem_tail_append_singleton member with old | rfl
        · exact ordered.waitingWrites route old
        · exact untouched
  | routeAr port payload rest cycle base queue room routed =>
      have fields := initializeRoute_routed routed
      refine ⟨ordered.writes, ordered.waitingWrites, ?_, ?_⟩
      · intro route member
        rcases List.mem_append.mp member with old | new
        · exact ordered.reads route old
        · rw [List.mem_singleton.mp new]
          exact fields.beat_eq ▸ base.payload.beats_pos
      · intro route member
        rcases mem_tail_append_singleton member with old | rfl
        · exact ordered.waitingReads route old
        · exact fields.beat_eq
  | stage route routes beat rest cursor lanes index front built incomplete =>
      have started := ordered.writes route (by simp [front])
      refine ordered.of_writes (some _) front (fun other equal => ?_) rfl rfl
      obtain rfl := Option.some.inj equal
      exact started.stageBeat incomplete built beat index
  | completeForced route routes front => exact ordered.of_writes none front (by simp) rfl rfl
  | commitExclusive route routes cursor access front =>
      exact ordered.of_writes none front (by simp) rfl rfl
  | commitLast route routes cursor mapping data strobe access front =>
      exact ordered.of_writes none front (by simp) rfl rfl
  | commitBeat route routes cursor mapping data strobe access front built complete room regular
      targeted staged written more =>
      have started := ordered.writes route (by simp [front])
      refine ordered.of_writes (some _) front (fun other equal => ?_) rfl rfl
      obtain rfl := Option.some.inj equal
      exact (started.commitBeat built complete regular written more).1
  | readBeat route routes cursor access front built room accessed more =>
      have running := ordered.reads route (by simp [front])
      refine ordered.of_reads (some _) front (fun other equal => ?_) rfl rfl
      obtain rfl := Option.some.inj equal
      rw [BurstCursor.beats, BurstCursor.payload_of_new built] at more
      exact Nat.lt_of_le_of_ne running more
  | readLast route routes cursor access front =>
      exact ordered.of_reads none front (by simp) rfl rfl
  | reset => exact .empty _

/-! ## Accounting -/

theorem WriteRoute.Untouched.stagedBeats {route : WriteRoute c} (untouched : route.Untouched) :
    route.stagedBeats = [] := by
  obtain ⟨base, beatEq, rfl⟩ := untouched
  simp [WriteRoute.stagedBeats, beatEq]

theorem WriteRoute.stagedBeats_stageBeat (route : WriteRoute c) (beat : c.WriteBeat)
    (index : Fin 256) (final : Bool) (indexEq : index.val = route.beat)
    (last : beat.last = (route.beat + 1 == route.payload.beats)) :
    (route.stageBeat beat index final).stagedBeats = route.stagedBeats ++ [beat] := by
  have indexIs : Fin.ofNat 256 route.beat = index := by
    apply Fin.ext
    simp [← indexEq]
  simp only [WriteRoute.stagedBeats]
  rw [show (route.stageBeat beat index final).beat = route.beat + 1 from rfl, List.range_succ,
    List.map_append, List.map_singleton]
  congr 1
  · refine List.map_congr_left fun earlier member => ?_
    have earlierLt := List.mem_range.mp member
    have different : Fin.ofNat 256 earlier ≠ index := by
      intro equal
      have values := congrArg Fin.val equal
      have := index.isLt
      simp only [Fin.val_ofNat] at values
      omega
    simp only [WriteRoute.stagedBeat, WriteRoute.stageBeat, Function.update_of_ne different]
  · simp only [WriteRoute.stagedBeat, WriteRoute.stageBeat, indexIs, Function.update_self, ← last]

/-- The accounts of one port for writes. -/
structure WriteAccount (port : c.Port) (history : List (Event c)) (state : Pipeline c W) :
    Prop where
  aw : awOf port history = (completedOf port history).map (fun route => route.payload) ++
    (routesOf port state.writeRoutes).map (fun route => route.payload) ++ (state.ports port).aw
  b : bOf port history ++ (state.ports port).b =
    (completedOf port history).map WriteRoute.responsePayload
  w : wOf port history = stagedOf port history ++ (state.ports port).w
  staged : stagedOf port history =
    (completedOf port history).flatMap WriteRoute.stagedBeats ++
      (routesOf port state.writeRoutes).flatMap WriteRoute.stagedBeats
  full : ∀ route ∈ completedOf port history, route.beat = route.payload.beats

/-- The accounts of one port for reads. -/
structure ReadAccount (port : c.Port) (history : List (Event c)) (state : Pipeline c W) :
    Prop where
  ar : (arOf port history).flatMap readShape =
    (producedOf port history).map (fun beat => (beat.id, beat.last)) ++
      (readsOf port state.readRoutes).flatMap ReadRoute.remaining ++
      (state.ports port).ar.flatMap readShape
  r : rOf port history ++ (state.ports port).r = producedOf port history

namespace WriteAccount

variable {env : FabricEnv W} {port : c.Port} {history : List (Event c)} {state : Pipeline c W}

theorem empty (port : c.Port) (world : W) : WriteAccount port [] (Pipeline.empty c world) := by
  constructor <;> simp [Pipeline.empty, routesOf]

/-- Answering the front route moves it from the queue to the answered writes. -/
theorem respond {route : WriteRoute c} (done : WriteRoute c) {routes : List (WriteRoute c)}
    {more : List (Event c)} {next : Pipeline c W}
    (account : WriteAccount port history state) (ordered : Ordered state)
    (front : state.writeRoutes = route :: routes) (complete : route.dataComplete = true)
    (same : done.toRouteBase = route.toRouteBase ∧ done.stagedBeats = route.stagedBeats)
    (quiet : picked (Event.aw? port) more = [] ∧ picked (Event.w? port) more = [] ∧
      picked (Event.b? port) more = [] ∧ picked (Event.stage? port) more = [])
    (answered : picked (Event.complete? port) more = if route.port = port then [done] else [])
    (ports : next.ports port = (state.respond done routes).ports port)
    (writeRoutes : next.writeRoutes = routes) :
    WriteAccount port (history ++ more) next := by
  obtain ⟨aw, b, w, staged, full⟩ := account
  obtain ⟨noAw, noW, noB, noStage⟩ := quiet
  obtain ⟨sameBase, sameStaged⟩ := same
  have doneFull : done.beat = done.payload.beats := by
    rw [sameBase]
    exact (ordered.writes route (by simp [front])).complete_iff.mp complete
  have donePayload : done.payload = route.payload := by rw [sameBase]
  by_cases here : route.port = port
  · have donePort : done.port = port := by rw [sameBase, here]
    rw [if_pos here] at answered
    rw [front] at aw staged
    simp only [Pipeline.respond, Pipeline.setPort_ports, donePort, if_true] at ports
    simp only [routesOf, here, decide_true, List.filter_cons_of_pos] at aw staged
    refine ⟨?_, ?_, ?_, ?_, ?_⟩
    · simp [noAw, answered, ports, writeRoutes, aw, donePayload, routesOf]
    · simp [noB, answered, ports, ← b]
    · simp [noW, noStage, ports, w]
    · simp [noStage, answered, writeRoutes, staged, sameStaged, routesOf]
    · intro other member
      simp only [picked_append, answered, List.mem_append, List.mem_singleton] at member
      rcases member with old | rfl
      · exact full other old
      · exact doneFull
  · have donePort : port ≠ done.port := by rw [sameBase]; exact Ne.symm here
    rw [if_neg here] at answered
    rw [front] at aw staged
    simp only [Pipeline.respond, Pipeline.setPort_ports, donePort, if_false] at ports
    simp only [routesOf, here, decide_false, Bool.false_eq_true, not_false_eq_true,
      List.filter_cons_of_neg] at aw staged
    refine ⟨?_, ?_, ?_, ?_, ?_⟩
    · simp [noAw, answered, ports, writeRoutes, aw, routesOf]
    · simp [noB, answered, ports, ← b]
    · simp [noW, noStage, ports, w]
    · simp [noStage, answered, writeRoutes, staged, routesOf]
    · simpa [answered] using full

/-- Steps that write transactions do not see. -/
theorem of_quiet {more : List (Event c)} {next : Pipeline c W}
    (account : WriteAccount port history state)
    (quiet : picked (Event.aw? port) more = [] ∧ picked (Event.w? port) more = [] ∧
      picked (Event.b? port) more = [] ∧ picked (Event.stage? port) more = [])
    (unanswered : picked (Event.complete? port) more = [])
    (aw : (next.ports port).aw = (state.ports port).aw)
    (w : (next.ports port).w = (state.ports port).w)
    (b : (next.ports port).b = (state.ports port).b)
    (payloads : (routesOf port next.writeRoutes).map (fun route => route.payload) =
      (routesOf port state.writeRoutes).map fun route => route.payload)
    (staged : (routesOf port next.writeRoutes).flatMap WriteRoute.stagedBeats =
      (routesOf port state.writeRoutes).flatMap WriteRoute.stagedBeats) :
    WriteAccount port (history ++ more) next := by
  obtain ⟨noAw, noW, noB, noStage⟩ := quiet
  refine ⟨?_, ?_, ?_, ?_, ?_⟩
  · simp [noAw, unanswered, aw, payloads, account.aw]
  · simp [noB, unanswered, b, account.b]
  · simp [noW, noStage, w, account.w]
  · simp [noStage, unanswered, staged, account.staged]
  · simpa [unanswered] using account.full

theorem step {more : List (Event c)} {next : Pipeline c W}
    (account : WriteAccount port history state) (ordered : Ordered state)
    (taken : Pipeline.ActiveStep env state more next) :
    WriteAccount port (history ++ more) next := by
  obtain ⟨taken, active⟩ := taken
  cases taken with
  | acceptAw other _ room | acceptW other _ room =>
      by_cases here : other = port
      · subst here
        refine ⟨?_, ?_, ?_, ?_, ?_⟩
        · simp [account.aw]
        · simp [account.b]
        · simp [account.w]
        · simp [account.staged]
        · simpa using account.full
      · exact account.of_quiet (by simp [here]) (by simp) (by simp [Ne.symm here])
          (by simp [Ne.symm here]) (by simp [Ne.symm here]) rfl rfl
  | retireB other response rest queue =>
      by_cases here : other = port
      · subst here
        refine ⟨?_, ?_, ?_, ?_, ?_⟩
        · simp [account.aw]
        · simp [← account.b, queue]
        · simp [account.w]
        · simp [account.staged]
        · simpa using account.full
      · exact account.of_quiet (by simp [here]) (by simp) (by simp [Ne.symm here])
          (by simp [Ne.symm here]) (by simp [Ne.symm here]) (by simp) (by simp)
  | acceptAr | retireR | routeAr | reserve | resetDevices | tick =>
      exact account.of_quiet (by simp) (by simp) (by simp) (by simp) (by simp) rfl rfl
  | routeAw other payload rest cycle base queue room routed =>
      have fields := initializeRoute_routed routed
      have empty : ({ toRouteBase := base } : WriteRoute c).stagedBeats = [] :=
        WriteRoute.Untouched.stagedBeats ⟨base, fields.beat_eq, rfl⟩
      by_cases here : other = port
      · subst here
        refine ⟨?_, ?_, ?_, ?_, ?_⟩
        · simp [account.aw, routesOf, queue, fields.port_eq, fields.payload_eq]
        · simp [account.b]
        · simp [account.w]
        · simp [account.staged, routesOf, fields.port_eq, empty]
        · simpa using account.full
      · refine account.of_quiet (by simp) (by simp) ?_ (by simp [Ne.symm here])
          (by simp [Ne.symm here]) (by simp [routesOf, fields.port_eq, here])
          (by simp [routesOf, fields.port_eq, here])
        simp [Ne.symm here]
  | stage route routes beat rest cursor lanes index front built incomplete queue last mask legal
      indexEq =>
      have beats : cursor.beats = route.payload.beats := by
        rw [BurstCursor.beats, BurstCursor.payload_of_new built]
      have grown := route.stagedBeats_stageBeat beat index (route.beat + 1 == cursor.beats) indexEq
        (beats ▸ last)
      have stagedPort : (route.stageBeat beat index (route.beat + 1 == cursor.beats)).port =
        route.port := rfl
      have stagedPayload : (route.stageBeat beat index (route.beat + 1 == cursor.beats)).payload =
        route.payload := rfl
      by_cases here : route.port = port
      · subst here
        have waiting : ∀ other ∈ routes, other.stagedBeats = [] := by
          have untouched := ordered.waitingWrites
          rw [front] at untouched
          exact fun other member => (untouched other member).stagedBeats
        have waitingEmpty : (routesOf route.port routes).flatMap WriteRoute.stagedBeats = [] := by
          rw [List.flatMap_eq_nil_iff]
          exact fun other member => waiting other (List.mem_of_mem_filter member)
        have aw := account.aw
        have staged := account.staged
        have w := account.w
        rw [front] at aw staged
        rw [queue] at w
        simp only [routesOf, decide_true, List.filter_cons_of_pos, List.flatMap_cons]
          at aw staged waitingEmpty
        refine ⟨?_, ?_, ?_, ?_, ?_⟩
        · simp [aw, routesOf, stagedPort, stagedPayload]
        · simp [account.b]
        · simp [w]
        · simp [staged, routesOf, stagedPort, grown, waitingEmpty]
        · simpa using account.full
      · refine account.of_quiet (by simp [here]) (by simp) ?_ ?_ ?_ ?_ ?_
        · simp
        · simp [Ne.symm here]
        · simp
        · simp [front, routesOf, stagedPort, here]
        · simp [front, routesOf, stagedPort, here]
  | completeForced route routes front complete room regular untargeted =>
      refine account.respond
        { route with response := combineResponse route.response route.forcedResponse } ordered
        front complete ⟨rfl, rfl⟩ (by simp) ?_ rfl rfl
      simp only [picked_singleton, Event.complete?]
      split <;> rfl
  | commitExclusive route routes cursor access front built complete room exclusive finished =>
      obtain ⟨response, routeEq⟩ := finishExclusiveWrite_route finished
      have samePort : access.route.port = route.port := by rw [routeEq]
      refine account.respond access.route ordered front complete ?_ (by simp) ?_ rfl rfl
      · rw [routeEq]
        exact ⟨rfl, rfl⟩
      · simp only [picked_append, picked_singleton, Event.complete?, samePort]
        split <;> simp
  | commitLast route routes cursor mapping data strobe access front built complete room regular
      targeted staged written done =>
      obtain ⟨exitResponse, exitCode, routeEq⟩ := writeDeviceBeat_route written
      have samePort : (access.route.afterBeat access.response cursor.beats).port = route.port := by
        rw [WriteRoute.afterBeat, routeEq]
      refine account.respond (access.route.afterBeat access.response cursor.beats) ordered front
        complete ?_ (by simp) ?_ rfl rfl
      · rw [WriteRoute.afterBeat, routeEq]
        exact ⟨rfl, rfl⟩
      · simp only [picked_append, picked_singleton, Event.complete?, samePort]
        split <;> simp
  | commitBeat route routes cursor mapping data strobe access front built complete room regular
      targeted staged written more =>
      obtain ⟨exitResponse, exitCode, routeEq⟩ := writeDeviceBeat_route written
      have base : (access.route.afterBeat access.response cursor.beats).toRouteBase =
          route.toRouteBase := by rw [WriteRoute.afterBeat, routeEq]
      have beats : (access.route.afterBeat access.response cursor.beats).stagedBeats =
          route.stagedBeats := by
        rw [WriteRoute.afterBeat, routeEq]
        rfl
      refine account.of_quiet (by simp) (by simp) rfl rfl rfl ?_ ?_
      · by_cases here : route.port = port <;> simp [front, routesOf, base, here]
      · by_cases here : route.port = port <;> simp [front, routesOf, base, here, beats]
  | readBeat | readLast =>
      exact account.of_quiet (by simp) (by simp) (by simp [Pipeline.deliver])
        (by simp [Pipeline.deliver]) (by simp [Pipeline.deliver]) rfl rfl
  | reset => simp [Event.isReset] at active

end WriteAccount

/-- The next beat of a read burst. -/
theorem ReadRoute.remaining_eq (route : ReadRoute c) (running : route.beat < route.payload.beats) :
    route.remaining = (route.payload.id, route.beat + 1 == route.payload.beats) ::
      (readShape route.payload).drop (route.beat + 1) := by
  have inShape : route.beat < (readShape route.payload).length := by
    simpa [readShape] using running
  rw [ReadRoute.remaining, List.drop_eq_getElem_cons inShape]
  simp [readShape]

namespace ReadAccount

variable {env : FabricEnv W} {port : c.Port} {history : List (Event c)} {state : Pipeline c W}

theorem empty (port : c.Port) (world : W) : ReadAccount port [] (Pipeline.empty c world) := by
  constructor <;> simp [Pipeline.empty, readsOf]

/-- Steps that read transactions do not see. -/
theorem of_quiet {more : List (Event c)} {next : Pipeline c W}
    (account : ReadAccount port history state)
    (quiet : picked (Event.ar? port) more = [] ∧ picked (Event.r? port) more = [] ∧
      picked (Event.produce? port) more = [])
    (ar : (next.ports port).ar = (state.ports port).ar)
    (r : (next.ports port).r = (state.ports port).r)
    (reads : readsOf port next.readRoutes = readsOf port state.readRoutes) :
    ReadAccount port (history ++ more) next := by
  obtain ⟨noAr, noR, noProduce⟩ := quiet
  refine ⟨?_, ?_⟩
  · simp [noAr, noProduce, ar, reads, account.ar]
  · simp [noR, noProduce, r, account.r]

/-- Producing a beat moves it from the front route to the R FIFO. -/
theorem deliver {route : ReadRoute c} {routes : List (ReadRoute c)} (updated : Option (ReadRoute c))
    {access : ReadAccess c W} {cursor : BurstCursor c.dataBytes}
    (account : ReadAccount port history state) (ordered : Ordered state)
    (front : state.readRoutes = route :: routes)
    (built : BurstCursor.new route.payload = .ok cursor)
    (accessed : readDeviceBeat env state.world route cursor = .ok access)
    (kept : ∀ other ∈ updated, other.port = route.port)
    (remaining : (updated.toList.flatMap ReadRoute.remaining) =
      (readShape route.payload).drop (route.beat + 1)) :
    ReadAccount port (history ++ (Pipeline.readEvents route access ++ [.produce route access.beat]))
      (state.deliver route access (updated.toList ++ routes)) := by
  obtain ⟨idEq, lastEq⟩ := readDeviceBeat_shape accessed
  rw [BurstCursor.beats, BurstCursor.payload_of_new built] at lastEq
  have ar := account.ar
  have r := account.r
  rw [front] at ar
  by_cases here : route.port = port
  · subst here
    have next := route.remaining_eq (ordered.reads route (by simp [front]))
    have own : (updated.toList.filter fun other => other.port = route.port) = updated.toList := by
      rw [List.filter_eq_self]
      intro other member
      simpa using kept other (Option.mem_toList.mp member)
    simp only [readsOf, decide_true, List.filter_cons_of_pos, List.flatMap_cons, next] at ar
    refine ⟨?_, ?_⟩
    · simp [Pipeline.deliver, readsOf, own, ar, remaining, idEq, lastEq]
    · simp [Pipeline.deliver, ← r]
  · have others : readsOf port (updated.toList ++ routes) = readsOf port (route :: routes) := by
      cases updated <;> simp_all [readsOf]
    refine account.of_quiet (by simp [here]) ?_ ?_ ?_
    · simp [Pipeline.deliver]
    · simp [Pipeline.deliver, Ne.symm here]
    · simp [Pipeline.deliver, others, front]

theorem step {more : List (Event c)} {next : Pipeline c W}
    (account : ReadAccount port history state) (ordered : Ordered state)
    (taken : Pipeline.ActiveStep env state more next) :
    ReadAccount port (history ++ more) next := by
  obtain ⟨taken, active⟩ := taken
  cases taken with
  | acceptAr other payload room =>
      by_cases here : other = port
      · subst here
        refine ⟨?_, ?_⟩
        · simp [account.ar]
        · simp [account.r]
      · exact account.of_quiet (by simp [here]) (by simp [Ne.symm here]) (by simp [Ne.symm here]) rfl
  | retireR other beat rest queue =>
      by_cases here : other = port
      · subst here
        refine ⟨?_, ?_⟩
        · simp [account.ar]
        · simp [← account.r, queue]
      · exact account.of_quiet (by simp [here]) (by simp [Ne.symm here]) (by simp [Ne.symm here]) rfl
  | acceptAw | acceptW | routeAw | stage | completeForced | commitExclusive | commitBeat
  | commitLast | reserve | resetDevices | tick =>
      exact account.of_quiet (by simp) (by simp [Pipeline.respond]) (by simp [Pipeline.respond]) rfl
  | retireB => exact account.of_quiet (by simp) (by simp) (by simp) (by simp)
  | routeAr other payload rest cycle base queue room routed =>
      have fields := initializeRoute_routed routed
      have whole : ({ toRouteBase := base } : ReadRoute c).remaining = readShape payload := by
        simp [ReadRoute.remaining, fields.beat_eq, fields.payload_eq]
      by_cases here : other = port
      · subst here
        refine ⟨?_, ?_⟩
        · simp [account.ar, readsOf, queue, fields.port_eq, whole]
        · simp [account.r]
      · exact account.of_quiet (by simp) (by simp [Ne.symm here]) (by simp [Ne.symm here])
          (by simp [readsOf, fields.port_eq, here])
  | readBeat route routes cursor access front built room accessed more =>
      refine account.deliver (some { route with beat := route.beat + 1 }) ordered front built
        accessed (by simp) ?_
      simp [ReadRoute.remaining]
  | readLast route routes cursor access front built room accessed done =>
      refine account.deliver none ordered front built accessed (by simp) ?_
      rw [BurstCursor.beats, BurstCursor.payload_of_new built] at done
      simp [readShape, done]
  | reset => simp [Event.isReset] at active

end ReadAccount

/-- The whole accounting of a pipeline. -/
structure Conserved (history : List (Event c)) (state : Pipeline c W) : Prop where
  ordered : Ordered state
  writes : ∀ port, WriteAccount port history state
  reads : ∀ port, ReadAccount port history state

/-- Every run of steps outside reset keeps the accounts. -/
theorem Conserved.of_traces {env : FabricEnv W} {world : W} {history : List (Event c)}
    {state : Pipeline c W}
    (trace : Traces (Pipeline.ActiveStep env) (.empty c world) history state) :
    Conserved history state := by
  refine trace.invariant Conserved
    ⟨.empty world, fun port => .empty port world, fun port => .empty port world⟩ ?_
  intro history state more next conserved taken
  exact ⟨conserved.ordered.step taken.1,
    fun port => (conserved.writes port).step conserved.ordered taken,
    fun port => (conserved.reads port).step conserved.ordered taken⟩

/-! ## Idle fabrics -/

namespace AxiFabric

theorem idle_iff (fabric : AxiFabric c W) :
    fabric.idle = true ↔ fabric.view.readRoutes = [] ∧ fabric.view.writeRoutes = [] ∧
      ∀ port, (fabric.view.ports port).aw = [] ∧ (fabric.view.ports port).w = [] ∧
        (fabric.view.ports port).ar = [] ∧ (fabric.view.ports port).b = [] ∧
        (fabric.view.ports port).r = [] := by
  simp only [idle, Bool.and_eq_true, RingBuffer.empty_iff, List.all_eq_true, List.mem_finRange,
    true_implies, AxiFabric.view, PortState.queues, and_assoc]

end AxiFabric

/-- A port holds no part of a write exactly when all its writes are answered. -/
theorem WriteAccount.quiet_iff {port : c.Port} {history : List (Event c)} {state : Pipeline c W}
    (account : WriteAccount port history state) :
    (routesOf port state.writeRoutes = [] ∧ (state.ports port).aw = [] ∧
        (state.ports port).b = [] ∧ (state.ports port).w = []) ↔
      (bOf port history).map (fun response => response.id) =
          (awOf port history).map (fun payload => payload.id) ∧
        stagedOf port history = wOf port history := by
  have aw := congrArg List.length account.aw
  have b := congrArg List.length account.b
  simp only [List.length_append, List.length_map] at aw b
  constructor
  · rintro ⟨noRoutes, noAw, noB, noW⟩
    have awEq := account.aw
    have bEq := account.b
    rw [noRoutes, noAw] at awEq
    rw [noB, List.append_nil] at bEq
    refine ⟨?_, by simp [account.w, noW]⟩
    rw [awEq, bEq]
    simp [WriteRoute.responsePayload]
  · rintro ⟨ids, consumed⟩
    have lengths := congrArg List.length ids
    simp only [List.length_map] at lengths
    have noW : (state.ports port).w = [] := by
      have w := account.w
      rwa [consumed, List.self_eq_append_right] at w
    refine ⟨List.eq_nil_of_length_eq_zero ?_, List.eq_nil_of_length_eq_zero ?_,
      List.eq_nil_of_length_eq_zero ?_, noW⟩ <;> omega

/-- A port holds no part of a read exactly when all its reads are answered. -/
theorem ReadAccount.quiet_iff {port : c.Port} {history : List (Event c)} {state : Pipeline c W}
    (account : ReadAccount port history state) (ordered : Ordered state) :
    (readsOf port state.readRoutes = [] ∧ (state.ports port).ar = [] ∧
        (state.ports port).r = []) ↔
      (rOf port history).map (fun beat => (beat.id, beat.last)) =
        (arOf port history).flatMap readShape := by
  have ar := account.ar
  rw [← account.r] at ar
  constructor
  · rintro ⟨noRoutes, noAr, noR⟩
    rw [ar, noRoutes, noAr, noR]
    simp
  · intro answered
    rw [← answered, List.map_append, List.append_assoc, List.append_assoc,
      List.self_eq_append_right, List.append_eq_nil_iff, List.append_eq_nil_iff,
      List.map_eq_nil_iff, List.flatMap_eq_nil_iff, List.flatMap_eq_nil_iff] at ar
    obtain ⟨noR, noRemaining, noShapes⟩ := ar
    refine ⟨List.eq_nil_iff_forall_not_mem.mpr fun route member => ?_,
      List.eq_nil_iff_forall_not_mem.mpr fun payload member => ?_, noR⟩
    · have running := ordered.reads route (List.mem_of_mem_filter member)
      have none := noRemaining route member
      rw [route.remaining_eq running] at none
      simp at none
    · have none := noShapes payload member
      simp [readShape, AddressPayload.beats] at none

/-- The fabric is idle exactly when every port has had all its answers and has
had all its write data consumed. -/
theorem Conserved.idle_iff {fabric : AxiFabric c W} {history : List (Event c)}
    (conserved : Conserved history fabric.view) :
    fabric.idle = true ↔ ∀ port,
      (bOf port history).map (fun response => response.id) =
          (awOf port history).map (fun payload => payload.id) ∧
        (rOf port history).map (fun beat => (beat.id, beat.last)) =
          (arOf port history).flatMap readShape ∧
        stagedOf port history = wOf port history := by
  rw [AxiFabric.idle_iff]
  constructor
  · rintro ⟨noReads, noWrites, queues⟩ port
    obtain ⟨aw, w, ar, b, r⟩ := queues port
    obtain ⟨ids, consumed⟩ := (conserved.writes port).quiet_iff.mp
      ⟨by rw [noWrites]; rfl, aw, b, w⟩
    exact ⟨ids, ((conserved.reads port).quiet_iff conserved.ordered).mp
      ⟨by rw [noReads]; rfl, ar, r⟩, consumed⟩
  · intro answered
    have writes := fun port =>
      (conserved.writes port).quiet_iff.mpr ⟨(answered port).1, (answered port).2.2⟩
    have reads := fun port =>
      ((conserved.reads port).quiet_iff conserved.ordered).mpr (answered port).2.1
    refine ⟨List.eq_nil_iff_forall_not_mem.mpr fun route member => ?_,
      List.eq_nil_iff_forall_not_mem.mpr fun route member => ?_, fun port => ?_⟩
    · have none := (reads route.port).1
      simp only [readsOf, List.filter_eq_nil_iff, decide_eq_true_eq] at none
      exact none route member rfl
    · have none := (writes route.port).1
      simp only [routesOf, List.filter_eq_nil_iff, decide_eq_true_eq] at none
      exact none route member rfl
    · exact ⟨(writes port).2.1, (writes port).2.2.2, (reads port).2.1, (writes port).2.2.1,
        (reads port).2.2⟩

/-- No response is lost, duplicated, reordered or sent to another port.  On every
port the B responses carry the IDs of the oldest AW payloads and the other AW
payloads wait in the route queue and the AW FIFO; the R beats are the first beats
of the AR payloads' bursts, the other beats are due from the route queue and the
AR FIFO; and the fabric is idle exactly when nothing is outstanding.  The payloads are
those that VALID and READY have moved. -/
theorem responses_conserved (env : FabricEnv W) (cycles : List c.Inputs) (random : UInt64)
    (stall : Stall) (world : W) :
    let final := (AxiFabric.runActive env cycles (.fresh c random stall world)).state
    (∀ port,
      let answered := bOf port final.trace ++ (final.ports port).b.toList
      let produced := rOf port final.trace ++ (final.ports port).r.toList
      answered.map (fun response => response.id) =
          ((awOf port final.trace).take answered.length).map (fun payload => payload.id) ∧
        (awOf port final.trace).drop answered.length =
          (routesOf port final.writeRoutes.toList).map (fun route => route.payload) ++
            (final.ports port).aw.toList ∧
        (arOf port final.trace).flatMap readShape =
          produced.map (fun beat => (beat.id, beat.last)) ++
            (readsOf port final.readRoutes.toList).flatMap ReadRoute.remaining ++
            (final.ports port).ar.toList.flatMap readShape) ∧
      (final.idle = true ↔ ∀ port,
        (bOf port final.trace).map (fun response => response.id) =
            (awOf port final.trace).map (fun payload => payload.id) ∧
          (rOf port final.trace).map (fun beat => (beat.id, beat.last)) =
            (arOf port final.trace).flatMap readShape ∧
          stagedOf port final.trace = wOf port final.trace) ∧
      ∀ port, OnWires (AxiFabric.wires env (cycles.map fun inputs => (inputs, false))
        (.fresh c random stall world)) final.trace port := by
  intro final
  have conserved : Conserved final.trace final.view :=
    .of_traces (AxiFabric.runActive_traces env cycles random stall world)
  refine ⟨fun port => ?_, conserved.idle_iff, AxiFabric.run_onWires env _ random stall world⟩
  obtain ⟨aw, b, -, -, -⟩ := conserved.writes port
  obtain ⟨ar, r⟩ := conserved.reads port
  intro answered produced
  have answeredEq : answered = (completedOf port final.trace).map WriteRoute.responsePayload := b
  have length : answered.length =
      ((completedOf port final.trace).map fun route => route.payload).length := by
    simp [answeredEq]
  refine ⟨?_, ?_, ?_⟩
  · rw [aw, length, List.append_assoc, List.take_left, answeredEq]
    simp [WriteRoute.responsePayload]
  · rw [aw, length, List.append_assoc, List.drop_left]
    rfl
  · rw [← r] at ar
    exact ar

end AxiTestbench
