import AxiTestbench.Fabric.Effects
import AxiTestbench.Fabric.Memory

/-!
# Which transaction a beat belongs to

The accounts of `Conservation` match responses with requests by ID and shape.
Here the requests themselves are followed: the reads of a port are finished in the
order of their AR handshakes and each produced beat is the next one of its read,
and an answered write keeps the decision and the strobes it was staged with.
-/

namespace AxiTestbench

open Lib Outcome

variable {c : Config} {W : Type}

/-! ## Reads -/

/-- The reads of a port: finished ones, routed ones and those in the FIFO, with the
beats produced so far. -/
structure ReadLedger (port : c.Port) (history : List (Event c)) (state : Pipeline c W) :
    Prop where
  ar : arOf port history =
    (readsOf port (finishedReads history ++ state.readRoutes)).map (fun route => route.payload) ++
      (state.ports port).ar
  produced : (producedOf port history).length =
    totalBeats ((readsOf port (finishedReads history)).map fun route => route.payload) +
      ((readsOf port state.readRoutes).map fun route => route.beat).sum

@[simp] theorem readsOf_append (port : c.Port) (routes more : List (ReadRoute c)) :
    readsOf port (routes ++ more) = readsOf port routes ++ readsOf port more := by
  simp [readsOf]

@[simp] theorem readsOf_cons (port : c.Port) (route : ReadRoute c) (routes : List (ReadRoute c)) :
    readsOf port (route :: routes) =
      if route.port = port then route :: readsOf port routes else readsOf port routes := by
  by_cases here : route.port = port <;> simp [readsOf, here]

@[simp] theorem readsOf_nil (port : c.Port) : readsOf port ([] : List (ReadRoute c)) = [] := rfl

@[simp] theorem totalBeats_nil : totalBeats [] = 0 := rfl

namespace ReadLedger

variable {env : FabricEnv W} {port : c.Port} {history more : List (Event c)}
  {state next : Pipeline c W}

theorem empty (port : c.Port) (world : W) : ReadLedger port [] (Pipeline.empty c world) := by
  constructor <;> simp [Pipeline.empty]

theorem of_quiet (ledger : ReadLedger port history state)
    (quiet : arOf port more = [] ∧ producedOf port more = [] ∧ finishedReads more = [])
    (ar : (next.ports port).ar = (state.ports port).ar)
    (reads : next.readRoutes = state.readRoutes) : ReadLedger port (history ++ more) next := by
  obtain ⟨noAr, noProduce, noFinish⟩ := quiet
  refine ⟨?_, ?_⟩
  · simp only [picked_append, noAr, noFinish, List.append_nil, ar, reads]
    exact ledger.ar
  · simp only [picked_append, noProduce, noFinish, List.append_nil, reads]
    exact ledger.produced

theorem step (ledger : ReadLedger port history state)
    (taken : Pipeline.ActiveStep env state more next) : ReadLedger port (history ++ more) next := by
  obtain ⟨taken, active⟩ := taken
  have ar := ledger.ar
  have produced := ledger.produced
  cases taken with
  | acceptAr other payload room =>
      by_cases here : other = port
      · subst here
        refine ⟨?_, ?_⟩
        · simp [ar]
        · simp [produced]
      · exact ledger.of_quiet (by simp [here]) (by simp [Ne.symm here]) rfl
  | routeAr other payload rest cycle base queue room routed =>
      have fields := initializeRoute_routed routed
      by_cases here : other = port
      · subst here
        refine ⟨?_, ?_⟩
        · simp [ar, queue, fields.port_eq, fields.payload_eq]
        · simp [produced, fields.port_eq, fields.beat_eq]
      · refine ⟨?_, ?_⟩
        · simp [ar, fields.port_eq, here, Ne.symm here]
        · simp [produced, fields.port_eq, here]
  | readBeat route routes cursor access front built room accessed notLast =>
      have last : access.beat.last = false := by
        rw [(readDeviceBeat_shape accessed).2]
        simpa using notLast
      rw [front] at ar produced
      by_cases here : route.port = port
      · refine ⟨?_, ?_⟩
        · simpa [Pipeline.deliver, last, here] using ar
        · simp [producedOf, finishedReads, Pipeline.deliver, last, here] at produced ⊢
          omega
      · refine ⟨?_, ?_⟩
        · simpa [Pipeline.deliver, last, here] using ar
        · simpa [Pipeline.deliver, last, here] using produced
  | readLast route routes cursor access front built room accessed done =>
      have last : access.beat.last = true := by
        rw [(readDeviceBeat_shape accessed).2]
        simpa using done
      rw [BurstCursor.beats, BurstCursor.payload_of_new built] at done
      rw [front] at ar produced
      by_cases here : route.port = port
      · refine ⟨?_, ?_⟩
        · simpa [Pipeline.deliver, last, here] using ar
        · simp [producedOf, finishedReads, Pipeline.deliver, last, here] at produced ⊢
          omega
      · refine ⟨?_, ?_⟩
        · simpa [Pipeline.deliver, last, here] using ar
        · simpa [Pipeline.deliver, last, here] using produced
  | reset => simp [Event.isReset] at active
  | _ => exact ledger.of_quiet (by simp) (by simp [Pipeline.respond]) (by simp [Pipeline.respond])

theorem of_traces {world : W} (port : c.Port)
    (trace : Traces (Pipeline.ActiveStep env) (.empty c world) history state) :
    ReadLedger port history state :=
  trace.invariant (ReadLedger port) (.empty port world) fun _ _ _ _ ledger taken =>
    ledger.step taken

end ReadLedger

/-- The front read of a port and the place of its next beat. -/
theorem ReadLedger.current {history : List (Event c)} {state : Pipeline c W}
    {route : ReadRoute c} {routes : List (ReadRoute c)}
    (ledger : ReadLedger route.port history state) (ordered : Ordered state)
    (front : state.readRoutes = route :: routes) :
    ∃ earlier later, arOf route.port history = earlier ++ route.payload :: later ∧
      (producedOf route.port history).length = totalBeats earlier + route.beat := by
  have waiting : ((readsOf route.port routes).map fun route => route.beat).sum = 0 := by
    refine List.sum_eq_zero fun beat member => ?_
    obtain ⟨other, inRoutes, rfl⟩ := List.mem_map.mp member
    exact ordered.waitingReads other (by simp [front, List.mem_of_mem_filter inRoutes])
  have ar := ledger.ar
  have produced := ledger.produced
  simp only [front, readsOf_append, readsOf_cons, if_true, List.map_append, List.map_cons,
    List.sum_cons, waiting, List.append_assoc, List.cons_append] at ar produced
  exact ⟨_, _, ar, produced⟩

/-- No beat is produced beyond the reads that were accepted. -/
theorem ReadAccount.produced_le {port : c.Port} {history : List (Event c)} {state : Pipeline c W}
    (account : ReadAccount port history state) :
    (producedOf port history).length ≤ totalBeats (arOf port history) := by
  have shapes := congrArg List.length account.ar
  have beats : ((arOf port history).flatMap readShape).length = totalBeats (arOf port history) := by
    simp [readShape, totalBeats, List.length_flatMap]
  simp only [List.length_append, List.length_map] at shapes
  omega

private theorem burst_first {middle later rest : List AddressPayload}
    {payload other : AddressPayload} {index place : Nat}
    (split : payload :: later = middle ++ other :: rest) (here : index < payload.beats)
    (same : index = totalBeats middle + place) :
    middle = [] ∧ payload = other ∧ index = place := by
  cases middle with
  | nil =>
      obtain ⟨rfl, -⟩ := List.cons.inj split
      exact ⟨rfl, rfl, by simpa using same⟩
  | cons first middle =>
      obtain ⟨rfl, -⟩ := List.cons.inj split
      simp only [totalBeats, List.map_cons, List.sum_cons] at same
      omega

/-- A place in a stream of bursts lies in one of them only. -/
theorem burst_unique {earlier later others rest : List AddressPayload}
    {payload other : AddressPayload} {index place : Nat}
    (split : earlier ++ payload :: later = others ++ other :: rest)
    (here : index < payload.beats) (there : place < other.beats)
    (same : totalBeats earlier + index = totalBeats others + place) :
    earlier = others ∧ payload = other ∧ index = place := by
  rcases List.append_eq_append_iff.mp split with ⟨middle, rfl, tail⟩ | ⟨middle, rfl, tail⟩
  · have first : index = totalBeats middle + place := by
      rw [totalBeats_append] at same
      omega
    obtain ⟨rfl, rfl, rfl⟩ := burst_first tail here first
    simp
  · have first : place = totalBeats middle + index := by
      rw [totalBeats_append] at same
      omega
    obtain ⟨rfl, rfl, rfl⟩ := burst_first tail there first
    simp

/-- The event at which an entry of a selection was recorded. -/
theorem picked_split {T : Type} {select : Event c → Option T} {trace : List (Event c)}
    {place : Nat} {item : T} (found : (picked select trace)[place]? = some item) :
    ∃ before event after, trace = before ++ event :: after ∧ select event = some item ∧
      (picked select before).length = place := by
  induction trace generalizing place with
  | nil => simp at found
  | cons event trace ih =>
      cases selected : select event with
      | none =>
          have skipped : picked select (event :: trace) = picked select trace := by
            simp [picked, selected]
          rw [skipped] at found
          obtain ⟨before, other, after, rfl, chosen, length⟩ := ih found
          exact ⟨event :: before, other, after, rfl, chosen, by simpa [picked, selected] using length⟩
      | some first =>
          have taken : picked select (event :: trace) = first :: picked select trace := by
            simp [picked, selected]
          rw [taken] at found
          cases place with
          | zero =>
              obtain rfl : first = item := by simpa using found
              exact ⟨[], event, trace, rfl, selected, rfl⟩
          | succ place =>
              obtain ⟨before, other, after, rfl, chosen, length⟩ := ih (by simpa using found)
              exact ⟨event :: before, other, after, rfl, chosen,
                by simpa [picked, selected] using length⟩

/-- The state in which a read beat was produced. -/
theorem produced_from {env : FabricEnv W} {history more : List (Event c)}
    {state next : Pipeline c W} {port : c.Port} {place : Nat} {beat : c.ReadBeat}
    (later : Traces (Pipeline.ActiveStep env) state more next)
    (found : (producedOf port (history ++ more))[place]? = some beat)
    (notYet : (producedOf port history).length ≤ place) :
    ∃ front after middle route routes cursor access, more = front ++ after ∧
      Traces (Pipeline.ActiveStep env) state front middle ∧
      Traces (Pipeline.ActiveStep env) middle after next ∧
      middle.readRoutes = route :: routes ∧ route.port = port ∧
      BurstCursor.new route.payload = .ok cursor ∧
      readDeviceBeat env middle.world route cursor = .ok access ∧ access.beat = beat ∧
      (producedOf port (history ++ front)).length = place := by
  rw [producedOf, picked_append, List.getElem?_append_right notYet] at found
  obtain ⟨before, event, after, rfl, selected, length⟩ := picked_split found
  cases event with
  | produce route made =>
      simp only [Event.produce?] at selected
      split at selected
      next here =>
        obtain rfl := Option.some.inj selected
        obtain ⟨front, middle, events, back, last, rest, reaches, taken, finishes, rfl, rfl⟩ :=
          later.split
        obtain ⟨rfl, routes, cursor, access, queue, built, accessed, rfl, rfl⟩ := taken.1.of_produce
        have steps := (Traces.single taken).trans finishes
        refine ⟨front, _, middle, route, routes, cursor, access, List.append_assoc _ _ _, reaches,
          by simpa using steps, queue, here, built, accessed, rfl, ?_⟩
        have noneInCall :
            picked (Event.produce? port) (Pipeline.readEvents route access) = [] := by
          rw [picked_readEvents]
          cases access.call <;> rfl
        rw [picked_append, noneInCall, List.append_nil] at length
        rw [producedOf, picked_append, List.length_append, length]
        exact Nat.add_sub_of_le notYet
      next => cases selected
  | _ => cases selected

/-! ## Answered writes -/

theorem combineResponse_failed (response : Response) {forced : Response}
    (failed : responseIsSuccess forced = false) :
    responseIsSuccess (combineResponse response forced) = false := by
  revert failed
  cases response <;> cases forced <;> decide

/-- An answered write carries the arbiter's decision and only legal strobes, and
without a target it was answered with an error. -/
structure WriteRoute.Closed (env : FabricEnv W) (done : WriteRoute c) : Prop where
  valid : done.Valid env
  legal : done.Legal
  refused : done.target = none → responseIsSuccess done.response = false

/-- Every answered write is closed. -/
def Answered (env : FabricEnv W) (history : List (Event c)) : Prop :=
  ∀ done ∈ completedWrites history, done.Closed env

/-- A route without a target is answered with an error. -/
theorem RouteBase.Valid.refused {env : FabricEnv W} {route : RouteBase c}
    (valid : route.Valid env) (untargeted : route.target = none) :
    responseIsSuccess route.forcedResponse = false := by
  obtain ⟨world, forced⟩ := valid.forced
  rw [RouteBase.target] at untargeted
  rw [forced] at untargeted ⊢
  cases mapping : route.mapping with
  | none =>
      simp only [forcedResponseOf]
      split <;> rfl
  | some window =>
      rw [mapping] at untargeted
      simp only [forcedResponseOf] at untargeted ⊢
      split
      next => rfl
      next single =>
        split
        next => rfl
        next supported => simp [single, supported] at untargeted

namespace Answered

variable {env : FabricEnv W} {history more : List (Event c)} {state next : Pipeline c W}

theorem append (answered : Answered env history)
    (new : ∀ done ∈ completedWrites more, done.Closed env) : Answered env (history ++ more) := by
  intro done member
  rw [completedWrites, picked_append] at member
  rcases List.mem_append.mp member with old | here
  · exact answered done old
  · exact new done here

theorem step (answered : Answered env history) (sound : Sound env history state)
    (taken : Pipeline.ActiveStep env state more next) : Answered env (history ++ more) := by
  obtain ⟨taken, -⟩ := taken
  refine answered.append fun done member => ?_
  cases taken with
  | completeForced route routes front complete room regular untargeted =>
      obtain ⟨valid, legal⟩ := sound.writes route (by simp [front])
      obtain rfl : done = _ := by simpa using member
      exact ⟨valid, legal, fun _ => combineResponse_failed _ (valid.refused untargeted)⟩
  | commitExclusive route routes cursor access front built complete room exclusive finished =>
      obtain ⟨valid, legal⟩ := sound.writes route (by simp [front])
      obtain ⟨response, routeEq⟩ := finishExclusiveWrite_route finished
      obtain rfl : done = access.route := by simpa using member
      refine ⟨by rw [routeEq]; exact valid, by rw [routeEq]; exact legal, fun untargeted => ?_⟩
      have untargeted : route.target = none := by
        rw [routeEq] at untargeted
        exact untargeted
      rw [finishExclusiveWrite_forced untargeted] at finished
      cases finished
      exact valid.refused untargeted
  | commitLast route routes cursor mapping data strobe access front built complete room regular
      targeted staged written =>
      obtain ⟨valid, legal⟩ := sound.writes route (by simp [front])
      obtain ⟨exitResponse, exitCode, routeEq⟩ := writeDeviceBeat_route written
      obtain rfl : done = access.route.afterBeat access.response cursor.beats := by
        simpa using member
      rw [routeEq]
      refine ⟨valid, legal, fun untargeted => ?_⟩
      rw [show route.target = none from untargeted] at targeted
      cases targeted
  | _ => simp at member

theorem of_traces {world : W}
    (trace : Traces (Pipeline.ActiveStep env) (.empty c world) history state) :
    Answered env history := by
  refine (trace.invariant (fun history state =>
    Ordered state ∧ Sound env history state ∧ Answered env history) ?_ ?_).2.2
  · exact ⟨.empty world, .empty env world, by simp [Answered]⟩
  · rintro history state more next ⟨ordered, sound, answered⟩ taken
    exact ⟨ordered.step taken.1, sound.step ordered taken, answered.step sound taken⟩

end Answered

/-- The AW requests and W beats of a port up to one of its writes. -/
theorem WriteAccount.streams {port : c.Port} {history : List (Event c)} {state : Pipeline c W}
    {earlier later : List (WriteRoute c)} {route : WriteRoute c}
    (account : WriteAccount port history state)
    (writes : completedWrites history ++ state.writeRoutes = earlier ++ route :: later)
    (here : route.port = port) :
    ∃ laterAw laterW,
      awOf port history =
        (routesOf port earlier).map (fun route => route.payload) ++ route.payload :: laterAw ∧
      wOf port history =
        (routesOf port earlier).flatMap WriteRoute.stagedBeats ++ (route.stagedBeats ++ laterW) := by
  have split : completedOf port history ++ routesOf port state.writeRoutes =
      routesOf port earlier ++ route :: routesOf port later := by
    rw [completedOf_eq, routesOf, ← List.filter_append, writes]
    simp [routesOf, here]
  have aw := account.aw
  have w := account.w
  rw [← List.map_append, split] at aw
  rw [account.staged, ← List.flatMap_append, split] at w
  exact ⟨(routesOf port later).map (fun route => route.payload) ++ (state.ports port).aw,
    (routesOf port later).flatMap WriteRoute.stagedBeats ++ (state.ports port).w,
    by simp [aw], by simp [w]⟩

/-- The write that the head of the B FIFO answers. -/
theorem WriteAccount.answered_write {port : c.Port} {history : List (Event c)}
    {state : Pipeline c W} {response : WriteResponsePayload} {rest : List WriteResponsePayload}
    (account : WriteAccount port history state)
    (queue : (state.ports port).b = response :: rest) :
    ∃ earlier done later, completedWrites history = earlier ++ done :: later ∧
      done.port = port ∧ (routesOf port earlier).length = (bOf port history).length ∧
      done.responsePayload = response := by
  have b := account.b
  rw [queue] at b
  obtain ⟨prior, tail, completed, priorEq, tailEq⟩ := List.map_eq_append_iff.mp b.symm
  obtain ⟨done, others, rfl, doneEq, -⟩ := List.map_eq_cons_iff.mp tailEq
  rw [completedOf_eq] at completed
  obtain ⟨front, back, whole, frontEq, backEq⟩ := List.filter_eq_append_iff.mp completed
  obtain ⟨skipped, later, rfl, none, here, -⟩ := List.filter_eq_cons_iff.mp backEq
  refine ⟨front ++ skipped, done, later, by simp [whole], by simpa using here, ?_, doneEq⟩
  have skips : skipped.filter (fun route => route.port = port) = [] :=
    List.filter_eq_nil_iff.mpr none
  rw [routesOf, List.filter_append, frontEq, skips, List.append_nil, ← priorEq, List.length_map]

end AxiTestbench
