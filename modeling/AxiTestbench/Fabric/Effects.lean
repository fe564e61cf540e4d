import AxiTestbench.Fabric.Service

/-!
# Device effects

Which device calls are made on behalf of a transaction, and when.  The write
engine works on one transaction at a time, so the calls since the last completion
are the calls of the transaction at the front of the queue.
-/

namespace AxiTestbench

open Lib Outcome

variable {c : Config} {W : Type}

/-! ## Which steps make which calls -/

private theorem split_first {T : Type} {before after last : List T} {item : T} {first : Option T}
    (split : before ++ item :: after = first.toList ++ last) (notIn : item ∉ last) :
    before = [] ∧ first = some item ∧ after = last := by
  cases first with
  | none =>
      refine absurd ?_ notIn
      rw [show last = before ++ item :: after from split.symm]
      simp
  | some other =>
      cases before with
      | nil =>
          obtain ⟨rfl, rfl⟩ := List.cons.inj split
          exact ⟨rfl, rfl, rfl⟩
      | cons head before =>
          have tail : before ++ item :: after = last := (List.cons.inj split).2
          refine absurd ?_ notIn
          rw [← tail]
          simp

private theorem split_last {T : Type} {before after : List T} (front : List T) {item last : T}
    (split : before ++ item :: after = front ++ [last]) (notIn : item ∉ front) :
    before = front ∧ item = last ∧ after = [] := by
  rcases List.eq_nil_or_concat' after with rfl | ⟨rest, other, rfl⟩
  · obtain ⟨rfl, tail⟩ := List.append_inj' split (by simp)
    exact ⟨rfl, List.singleton_inj.mp tail, rfl⟩
  · have shorter : before ++ item :: rest = front := by
      rw [← List.cons_append, ← List.append_assoc] at split
      exact (List.append_inj' split rfl).1
    refine absurd ?_ notIn
    rw [← shorter]
    simp

namespace Pipeline.Step

variable {env : FabricEnv W} {state next : Pipeline c W} {before after : List (Event c)}

/-- The step that writes a device. -/
theorem of_deviceWrite {route : WriteRoute c} {call : DeviceWrite}
    (taken : Step env state (before ++ .deviceWrite route call :: after) next) :
    before = [] ∧ route.dataComplete = true ∧ ∃ routes cursor, state.writeRoutes = route :: routes ∧
      BurstCursor.new route.payload = .ok cursor ∧ ∃ access : WriteAccess c W,
        access.call = some call ∧
        ((route.exclusive = true ∧ after = [.complete access.route] ∧
            finishExclusiveWrite env state.world state.monitors route cursor = .ok access) ∨
          (route.exclusive = false ∧ ∃ mapping data strobe, route.target = some mapping ∧
            route.staged route.commitBeat = .ok (data, strobe) ∧
            writeDeviceBeat env state.world state.monitors route mapping cursor route.commitBeat
              data strobe = .ok access)) := by
  have made : ∀ {access : WriteAccess c W} {front : WriteRoute c},
      access.call.map (Event.deviceWrite front) = some (.deviceWrite route call) →
      front = route ∧ access.call = some call := by
    intro access front mapped
    obtain ⟨other, called, same⟩ := Option.map_eq_some_iff.mp mapped
    cases same
    exact ⟨rfl, called⟩
  generalize eventsEq : before ++ .deviceWrite route call :: after = events at taken
  cases taken with
  | commitExclusive front routes cursor access queue built complete room exclusive finished =>
      obtain ⟨rfl, mapped, rfl⟩ := split_first eventsEq (by simp)
      obtain ⟨rfl, called⟩ := made mapped
      exact ⟨rfl, complete, routes, cursor, queue, built, access, called,
        .inl ⟨exclusive, rfl, finished⟩⟩
  | commitBeat front routes cursor mapping data strobe access queue built complete room regular
      targeted staged written more =>
      rw [← List.append_nil (Pipeline.writeEvents front access)] at eventsEq
      obtain ⟨rfl, mapped, rfl⟩ := split_first eventsEq (by simp)
      obtain ⟨rfl, called⟩ := made mapped
      exact ⟨rfl, complete, routes, cursor, queue, built, access, called,
        .inr ⟨regular, mapping, data, strobe, targeted, staged, written⟩⟩
  | commitLast front routes cursor mapping data strobe access queue built complete room regular
      targeted staged written done =>
      obtain ⟨rfl, mapped, rfl⟩ := split_first eventsEq (by simp)
      obtain ⟨rfl, called⟩ := made mapped
      exact ⟨rfl, complete, routes, cursor, queue, built, access, called,
        .inr ⟨regular, mapping, data, strobe, targeted, staged, written⟩⟩
  | readBeat | readLast =>
      have member := congrArg (Event.deviceWrite route call ∈ ·) eventsEq
      simp [Pipeline.readEvents] at member
  | _ =>
      have member := congrArg (Event.deviceWrite route call ∈ ·) eventsEq
      simp at member

/-- The step that answers a write. -/
theorem of_complete {done : WriteRoute c}
    (taken : Step env state (before ++ .complete done :: after) next) :
    after = [] ∧ ∃ route routes, state.writeRoutes = route :: routes ∧
      route.dataComplete = true ∧
      ((route.exclusive = false ∧ route.target = none ∧ before = [] ∧
          done =
            { route with response := combineResponse route.response route.forcedResponse }) ∨
        (∃ (cursor : BurstCursor c.dataBytes) (access : WriteAccess c W),
          BurstCursor.new route.payload = .ok cursor ∧
          before = Pipeline.writeEvents route access ∧
          ((route.exclusive = true ∧ done = access.route ∧
              finishExclusiveWrite env state.world state.monitors route cursor = .ok access) ∨
            (route.exclusive = false ∧ ∃ mapping data strobe, route.target = some mapping ∧
              route.staged route.commitBeat = .ok (data, strobe) ∧
              writeDeviceBeat env state.world state.monitors route mapping cursor route.commitBeat
                data strobe = .ok access ∧
              done = access.route.afterBeat access.response cursor.beats ∧
              done.commitBeat = cursor.beats)))) := by
  generalize eventsEq : before ++ .complete done :: after = events at taken
  cases taken with
  | completeForced route routes front complete room regular untargeted =>
      obtain ⟨rfl, same, rfl⟩ := split_last [] eventsEq (by simp)
      cases same
      exact ⟨rfl, route, routes, front, complete, .inl ⟨regular, untargeted, rfl, rfl⟩⟩
  | commitExclusive route routes cursor access front built complete room exclusive finished =>
      obtain ⟨rfl, same, rfl⟩ := split_last _ eventsEq (by simp [Pipeline.writeEvents])
      cases same
      exact ⟨rfl, route, routes, front, complete,
        .inr ⟨cursor, access, built, rfl, .inl ⟨exclusive, rfl, finished⟩⟩⟩
  | commitLast route routes cursor mapping data strobe access front built complete room regular
      targeted staged written last =>
      obtain ⟨rfl, same, rfl⟩ := split_last _ eventsEq (by simp [Pipeline.writeEvents])
      cases same
      exact ⟨rfl, route, routes, front, complete,
        .inr ⟨cursor, access, built, rfl,
          .inr ⟨regular, mapping, data, strobe, targeted, staged, written, rfl, last⟩⟩⟩
  | commitBeat =>
      have member := congrArg (Event.complete done ∈ ·) eventsEq
      simp [Pipeline.writeEvents] at member
  | readBeat | readLast =>
      have member := congrArg (Event.complete done ∈ ·) eventsEq
      simp [Pipeline.readEvents] at member
  | _ =>
      have member := congrArg (Event.complete done ∈ ·) eventsEq
      simp at member

/-- A step that answers a write has no reset in it. -/
theorem active_before_complete {done : WriteRoute c}
    (taken : Step env state (before ++ .complete done :: after) next) :
    ∀ event ∈ before, event.isReset = false := by
  obtain ⟨-, route, routes, -, -, ⟨-, -, rfl, -⟩ | ⟨cursor, access, -, rfl, -⟩⟩ :=
    taken.of_complete
  · simp
  · intro event inEvents
    obtain ⟨call, -, rfl⟩ := Option.map_eq_some_iff.mp (Option.mem_toList.mp inEvents)
    rfl

/-- The step that produces a read beat. -/
theorem of_produce {route : ReadRoute c} {beat : c.ReadBeat}
    (taken : Step env state (before ++ .produce route beat :: after) next) :
    after = [] ∧ ∃ routes cursor access, state.readRoutes = route :: routes ∧
      BurstCursor.new route.payload = .ok cursor ∧
      readDeviceBeat env state.world route cursor = .ok access ∧ access.beat = beat ∧
      before = Pipeline.readEvents route access := by
  generalize eventsEq : before ++ .produce route beat :: after = events at taken
  cases taken with
  | readBeat front routes cursor access queue built room accessed =>
      obtain ⟨rfl, same, rfl⟩ := split_last _ eventsEq (by simp [Pipeline.readEvents])
      cases same
      exact ⟨rfl, routes, cursor, access, queue, built, accessed, rfl, rfl⟩
  | readLast front routes cursor access queue built room accessed =>
      obtain ⟨rfl, same, rfl⟩ := split_last _ eventsEq (by simp [Pipeline.readEvents])
      cases same
      exact ⟨rfl, routes, cursor, access, queue, built, accessed, rfl, rfl⟩
  | commitExclusive | commitBeat | commitLast =>
      have member := congrArg (Event.produce route beat ∈ ·) eventsEq
      simp [Pipeline.writeEvents] at member
  | _ =>
      have member := congrArg (Event.produce route beat ∈ ·) eventsEq
      simp at member

/-- The step that reads a device. -/
theorem of_deviceRead {route : ReadRoute c} {call : DeviceRead}
    (taken : Step env state (before ++ .deviceRead route call :: after) next) :
    before = [] ∧ ∃ routes cursor access, state.readRoutes = route :: routes ∧
      BurstCursor.new route.payload = .ok cursor ∧
      readDeviceBeat env state.world route cursor = .ok access ∧ access.call = some call ∧
      after = [.produce route access.beat] := by
  have made : ∀ {access : ReadAccess c W} {front : ReadRoute c},
      access.call.map (Event.deviceRead front) = some (.deviceRead route call) →
      front = route ∧ access.call = some call := by
    intro access front mapped
    obtain ⟨other, called, same⟩ := Option.map_eq_some_iff.mp mapped
    cases same
    exact ⟨rfl, called⟩
  generalize eventsEq : before ++ .deviceRead route call :: after = events at taken
  cases taken with
  | readBeat front routes cursor access queue built room accessed =>
      obtain ⟨rfl, mapped, rfl⟩ := split_first eventsEq (by simp)
      obtain ⟨rfl, called⟩ := made mapped
      exact ⟨rfl, routes, cursor, access, queue, built, accessed, called, rfl⟩
  | readLast front routes cursor access queue built room accessed =>
      obtain ⟨rfl, mapped, rfl⟩ := split_first eventsEq (by simp)
      obtain ⟨rfl, called⟩ := made mapped
      exact ⟨rfl, routes, cursor, access, queue, built, accessed, called, rfl⟩
  | commitExclusive | commitBeat | commitLast =>
      have member := congrArg (Event.deviceRead route call ∈ ·) eventsEq
      simp [Pipeline.writeEvents] at member
  | _ =>
      have member := congrArg (Event.deviceRead route call ∈ ·) eventsEq
      simp at member

/-- The step that makes a reservation. -/
theorem of_reserve {route : ReadRoute c}
    (taken : Step env state (before ++ .reserve route :: after) next) :
    before = [] ∧ after = [] ∧ (∃ routes, state.readRoutes = route :: routes) ∧
      route.exclusive = true ∧ route.beat = 0 ∧ route.forcedResponse = .okay := by
  generalize eventsEq : before ++ .reserve route :: after = events at taken
  cases taken with
  | reserve front routes monitors queue exclusive first okay established =>
      obtain ⟨rfl, same, rfl⟩ := split_last [] eventsEq (by simp)
      cases same
      exact ⟨rfl, rfl, ⟨routes, queue⟩, exclusive, first, okay⟩
  | commitExclusive | commitBeat | commitLast =>
      have member := congrArg (Event.reserve route ∈ ·) eventsEq
      simp [Pipeline.writeEvents] at member
  | readBeat | readLast =>
      have member := congrArg (Event.reserve route ∈ ·) eventsEq
      simp [Pipeline.readEvents] at member
  | _ =>
      have member := congrArg (Event.reserve route ∈ ·) eventsEq
      simp at member

end Pipeline.Step

/-! ## Accepted data -/

/-- All W beats of a write have been accepted and are legal: its AW follows those
of the answered writes of the port, its beats follow theirs in the W stream, each
has WLAST as its place demands and no strobe outside its lane mask. -/
structure DataAccepted (epoch : List (Event c)) (port : c.Port) (payload : AddressPayload)
    (beats : List c.WriteBeat) : Prop where
  stream : ∃ earlier later before after,
    awOf port epoch = earlier ++ payload :: later ∧
      earlier.length = (completedOf port epoch).length ∧
      wOf port epoch = before ++ beats ++ after ∧ before.length = totalBeats earlier
  count : beats.length = payload.beats
  legal : ∃ cursor : BurstCursor c.dataBytes, BurstCursor.new payload = .ok cursor ∧
    ∀ index beat, beats[index]? = some beat → beat.last = (index + 1 == payload.beats) ∧
      ∃ lanes, cursor.laneMask index = .ok lanes ∧
        ∀ lane, beat.strobe lane ≠ 0 → lanes lane ≠ 0

theorem WriteRoute.getElem?_stagedBeats {route : WriteRoute c} {index : Nat} {beat : c.WriteBeat} :
    route.stagedBeats[index]? = some beat ↔ index < route.beat ∧ route.stagedBeat index = beat := by
  simp only [WriteRoute.stagedBeats, List.getElem?_map, Option.map_eq_some_iff]
  constructor
  · rintro ⟨position, found, rfl⟩
    obtain ⟨inRange, rfl⟩ := List.getElem?_eq_some_iff.mp found
    simp only [List.length_range] at inRange
    exact ⟨inRange, by simp⟩
  · rintro ⟨inRange, rfl⟩
    exact ⟨index, List.getElem?_range inRange, rfl⟩

namespace Tracked

variable {env : FabricEnv W} {history : List (Event c)} {state : Pipeline c W}

theorem dataAccepted (tracked : Tracked env history state) {route : WriteRoute c}
    {routes : List (WriteRoute c)} (front : state.writeRoutes = route :: routes)
    (complete : route.dataComplete = true) :
    DataAccepted history route.port route.payload route.stagedBeats := by
  have member : route ∈ state.writeRoutes := by simp [front]
  have account := tracked.conserved.writes route.port
  have full := (tracked.conserved.ordered.writes route member).complete_iff.mp complete
  obtain ⟨valid, legal⟩ := tracked.sound.writes route member
  have queue : routesOf route.port state.writeRoutes = route :: routesOf route.port routes := by
    simp [front, routesOf]
  refine ⟨?_, ?_, ?_⟩
  · refine ⟨(completedOf route.port history).map (fun route => route.payload),
      (routesOf route.port routes).map (fun route => route.payload) ++ (state.ports route.port).aw,
      (completedOf route.port history).flatMap WriteRoute.stagedBeats,
      (routesOf route.port routes).flatMap WriteRoute.stagedBeats ++ (state.ports route.port).w,
      ?_, by simp, ?_, length_stagedBeats account.full⟩
    · rw [account.aw, queue]
      simp
    · rw [account.w, account.staged, queue]
      simp
  · simp [WriteRoute.stagedBeats, full]
  · obtain ⟨cursor, built, -⟩ := valid.routable.accepted
    have payloadEq := BurstCursor.payload_of_new built
    refine ⟨cursor, built, fun index beat found => ?_⟩
    obtain ⟨staged, rfl⟩ := WriteRoute.getElem?_stagedBeats.mp found
    have inRange : index < route.payload.beats := full ▸ staged
    refine ⟨rfl, _, ?_, legal index staged⟩
    have computed := cursor.laneMask_eq c.dataBytes_eq (payloadEq ▸ inRange)
      (payloadEq ▸ valid.starts inRange)
    rwa [payloadEq] at computed

end Tracked

/-! ## Calls on behalf of a transaction -/

/-- What holds when a device is written: the write is the next to answer, its data
has been accepted, and a regular write gets the call for the beat after those
already made, all of which succeeded. -/
structure WriteCalled (epoch : List (Event c)) (route : WriteRoute c) (call : DeviceWrite) :
    Prop where
  current : ((routedWrites epoch).map fun route =>
    route.decision)[(completedWrites epoch).length]? = some route.decision
  same : ∀ entry ∈ openCalls epoch, entry.1.decision = route.decision
  success : ∀ entry ∈ openCalls epoch, responseIsSuccess entry.2.response = true
  data : ∃ beats mapping, DataAccepted epoch route.port route.payload beats ∧
    route.target = some mapping ∧
    (route.exclusive = true → openCalls epoch = []) ∧
    (route.exclusive = false → ∃ beat, beats[(openCalls epoch).length]? = some beat ∧
      call = beatCall c.dataBytes route.payload mapping (openCalls epoch).length beat.data
        beat.strobe call.response)

/-- What holds when a write is answered: a route without target got no call, an
exclusive write at most one, and a regular write one for each beat up to the first
that failed. -/
structure WriteFinished (epoch : List (Event c)) (done : WriteRoute c) : Prop where
  current : ((routedWrites epoch).map fun route =>
    route.decision)[(completedWrites epoch).length]? = some done.decision
  same : ∀ entry ∈ openCalls epoch, entry.1.decision = done.decision
  data : ∃ beats, DataAccepted epoch done.port done.payload beats
  untargeted : done.target = none → openCalls epoch = []
  exclusive : done.exclusive = true → (openCalls epoch).length ≤ 1
  regular : done.exclusive = false → done.target ≠ none → ∃ calls last,
    openCalls epoch = calls ++ [last] ∧
      (∀ entry ∈ calls, responseIsSuccess entry.2.response = true) ∧
      (responseIsSuccess last.2.response = true →
        (openCalls epoch).length = done.payload.beats)

/-- What holds when a read beat is produced: the read is the next to finish, the
beat is the one after those already produced, and a route with a target has just
made the call for it. -/
structure BeatProduced (before : List (Event c)) (route : ReadRoute c) : Prop where
  current : ((routedReads (sinceReset before)).map fun route =>
    route.decision)[(finishedReads (sinceReset before)).length]? = some route.decision
  same : ∀ entry ∈ openBeats (sinceReset before), entry.decision = route.decision
  order : route.beat = (openBeats (sinceReset before)).length
  inRange : route.beat < route.payload.beats
  called : ∀ mapping, route.target = some mapping → ∃ rest response data,
    before = rest ++
      [.deviceRead route
        (readCall c.dataBytes route.payload mapping route.beat response data)]

section Calls

variable {env : FabricEnv W} {history : List (Event c)} {state next : Pipeline c W}

theorem Tracked.writeCalled (tracked : Tracked env history state) {route : WriteRoute c}
    {call : DeviceWrite} {before after : List (Event c)}
    (taken : Pipeline.Step env state (before ++ .deviceWrite route call :: after) next) :
    WriteCalled history route call := by
  obtain ⟨-, complete, routes, cursor, front, built, access, called, how⟩ :=
    taken.of_deviceWrite
  have member : route ∈ state.writeRoutes := by simp [front]
  have started := tracked.conserved.ordered.writes route member
  have engaged := tracked.writeEngine.busy route routes front
  refine ⟨tracked.served.current_write front, engaged.same, engaged.success, ?_⟩
  have accepted := tracked.dataAccepted front complete
  rcases how with ⟨exclusive, -, finished⟩ |
    ⟨regular, mapping, data, strobe, targeted, staged, written⟩
  · have targeted : ∃ mapping, route.target = some mapping := by
      cases target : route.target with
      | some mapping => exact ⟨mapping, rfl⟩
      | none =>
          rw [finishExclusiveWrite_forced target] at finished
          cases finished
          simp at called
    obtain ⟨mapping, targeted⟩ := targeted
    refine ⟨_, mapping, accepted, targeted, fun _ => ?_, fun regular => ?_⟩
    · have count := engaged.count
      rw [started.exclusive exclusive] at count
      exact List.eq_nil_of_length_eq_zero count
    · simp [exclusive] at regular
  · have inRange := started.commit_lt
    have written := writeDeviceBeat_written built inRange
      (tracked.write_below member inRange) written
    refine ⟨_, mapping, accepted, targeted, fun exclusive => ?_, fun _ => ?_⟩
    · simp [regular] at exclusive
    · have full := started.complete_iff.mp complete
      refine ⟨route.stagedBeat route.commitBeat, ?_, ?_⟩
      · rw [engaged.count]
        exact WriteRoute.getElem?_stagedBeats.mpr ⟨full ▸ inRange, rfl⟩
      · have inside : route.commitBeat < 256 := Nat.lt_of_lt_of_le inRange route.payload.beats_le
        rw [route.staged_eq inside] at staged
        cases staged
        rw [written.call] at called
        cases called
        rw [engaged.count]
        rfl

theorem DataAccepted.of_writeEvents {port : c.Port} {payload : AddressPayload}
    {beats : List c.WriteBeat} (accepted : DataAccepted history port payload beats)
    (route : WriteRoute c) (access : WriteAccess c W) :
    DataAccepted (history ++ Pipeline.writeEvents route access) port payload beats :=
  ⟨by simpa using accepted.stream, accepted.count, accepted.legal⟩

/-- The calls of a regular write when its last commit has been made. -/
theorem WriteRoute.Engaged.regular {route : WriteRoute c} {access : WriteAccess c W}
    {calls : List (WriteRoute c × DeviceWrite)} {mapping : Mapping}
    {cursor : BurstCursor c.dataBytes} {data strobe : Lanes c.dataBytes} {world : W}
    {monitors : Monitors c} (engaged : route.Engaged calls)
    (beats : cursor.beats = route.payload.beats)
    (written : BeatWritten env world monitors route mapping route.commitBeat data strobe access)
    (commitEq : access.route.commitBeat = route.commitBeat)
    (done : (access.route.afterBeat access.response cursor.beats).commitBeat = cursor.beats) :
    ∃ last : WriteRoute c × DeviceWrite,
      (access.call.map fun call => (route, call)).toList = [last] ∧
      (responseIsSuccess last.2.response = true →
        (calls ++ [last]).length = route.payload.beats) := by
  refine ⟨(route, _), by rw [written.call]; rfl, fun success => ?_⟩
  have success : responseIsSuccess access.response = true := success
  simp only [WriteRoute.afterBeat, success, if_true, commitEq] at done
  simp only [List.length_append, engaged.count, List.length_singleton]
  omega

theorem Tracked.writeFinished (tracked : Tracked env history state) {done : WriteRoute c}
    {before after : List (Event c)}
    (taken : Pipeline.Step env state (before ++ .complete done :: after) next) :
    WriteFinished (history ++ before) done := by
  obtain ⟨-, route, routes, front, complete, how⟩ := taken.of_complete
  have member : route ∈ state.writeRoutes := by simp [front]
  have started := tracked.conserved.ordered.writes route member
  have engaged := tracked.writeEngine.busy route routes front
  have current := tracked.served.current_write front
  have accepted := tracked.dataAccepted front complete
  rcases how with ⟨regular, untargeted, rfl, rfl⟩ | ⟨cursor, access, built, rfl, how⟩
  · -- Nothing was committed: the first commit already finds that there is no target.
    have untouched : openCalls history = [] := by
      by_contra made
      exact engaged.targeted made untargeted
    rw [List.append_nil]
    refine ⟨current, ?_, ⟨_, accepted⟩, fun _ => untouched, ?_, ?_⟩
    · exact engaged.same
    · simp [untouched]
    · exact fun _ targeted => absurd untargeted targeted
  · have decision : done.decision = route.decision ∧ done.target = route.target ∧
        done.exclusive = route.exclusive ∧ done.port = route.port ∧
        done.payload = route.payload := by
      rcases how with ⟨-, rfl, finished⟩ | ⟨-, mapping, data, strobe, -, -, written, rfl, -⟩
      · obtain ⟨response, routeEq⟩ := finishExclusiveWrite_route finished
        simp [routeEq]
      · obtain ⟨exitResponse, exitCode, routeEq⟩ := writeDeviceBeat_route written
        simp [WriteRoute.afterBeat, routeEq]
    obtain ⟨decisionEq, targetEq, exclusiveEq, portEq, payloadEq⟩ := decision
    have calls := openCalls_writeEvents history route access
    refine ⟨?_, ?_, ⟨_, portEq ▸ payloadEq ▸ accepted.of_writeEvents route access⟩, ?_, ?_, ?_⟩
    · rw [decisionEq]
      simpa using current
    · rw [calls, decisionEq]
      intro entry inCalls
      rcases List.mem_append.mp inCalls with old | new
      · exact engaged.same entry old
      · obtain ⟨call, -, rfl⟩ := Option.map_eq_some_iff.mp (Option.mem_toList.mp new)
        rfl
    · rw [targetEq]
      intro untargeted
      rcases how with ⟨-, -, finished⟩ | ⟨-, mapping, -, -, targeted, -⟩
      · have untouched : openCalls history = [] := by
          by_contra made
          exact engaged.targeted made untargeted
        rw [finishExclusiveWrite_forced untargeted] at finished
        rw [calls, untouched, ← Except.ok.inj finished]
        rfl
      · simp [targeted] at untargeted
    · rw [exclusiveEq]
      intro exclusive
      have count := engaged.count
      rw [started.exclusive exclusive] at count
      rw [calls, List.eq_nil_of_length_eq_zero count]
      cases access.call <;> simp
    · rw [exclusiveEq, targetEq, payloadEq]
      intro regular targeted
      rcases how with ⟨exclusive, -⟩ |
        ⟨-, mapping, data, strobe, targeted, -, written, rfl, last⟩
      · simp [exclusive] at regular
      · obtain ⟨exitResponse, exitCode, routeEq⟩ := writeDeviceBeat_route written
        have beats : cursor.beats = route.payload.beats := by
          rw [BurstCursor.beats, BurstCursor.payload_of_new built]
        have spec := writeDeviceBeat_written built started.commit_lt
          (tracked.write_below member started.commit_lt) written
        obtain ⟨final, finalEq, all⟩ := engaged.regular beats spec (by rw [routeEq]) last
        refine ⟨openCalls history, final, by rw [calls, finalEq], engaged.success, ?_⟩
        rw [calls, finalEq]
        exact all

theorem Tracked.beatProduced {trace : List (Event c)}
    (tracked : Tracked env (sinceReset trace) state) {route : ReadRoute c} {beat : c.ReadBeat}
    {before after : List (Event c)}
    (taken : Pipeline.Step env state (before ++ .produce route beat :: after) next) :
    BeatProduced (trace ++ before) route := by
  obtain ⟨-, routes, cursor, access, front, built, accessed, rfl, rfl⟩ := taken.of_produce
  have member : route ∈ state.readRoutes := by simp [front]
  have inRange := tracked.conserved.ordered.reads route member
  have engaged := tracked.readEngine.busy route routes front
  have active : ∀ event ∈ Pipeline.readEvents route access, event.isReset = false := by
    intro event inEvents
    obtain ⟨call, -, rfl⟩ := Option.map_eq_some_iff.mp (Option.mem_toList.mp inEvents)
    rfl
  have epoch := sinceReset_append_of_active trace active
  refine ⟨?_, ?_, ?_, inRange, fun mapping targeted => ?_⟩
  · rw [epoch]
    simpa using tracked.served.current_read front
  · rw [epoch, openBeats_readEvents]
    exact engaged.same
  · rw [epoch, openBeats_readEvents]
    exact engaged.count.symm
  · obtain ⟨response, data, spec⟩ := readDeviceBeat_read built targeted inRange
      (tracked.read_below member inRange) accessed
    exact ⟨trace, response, data, by rw [Pipeline.readEvents, spec.call]; rfl⟩

end Calls

/-- Every write reaches its device only when its data is complete and legal, beat
by beat and exactly once, and every read beat is read exactly once, whether the
run throws, is reset, or neither.  The requests and the data in the trace are those that VALID
and READY have moved. -/
theorem device_effects_exactly_once (env : FabricEnv W) (cycles : List (c.Inputs × Bool))
    (random : UInt64) (stall : Stall) (world : W)
    (offTop : OffTop (AxiFabric.run env cycles (.fresh c random stall world)).state.trace) :
    let trace := (AxiFabric.run env cycles (.fresh c random stall world)).state.trace
    (∀ before route call after, trace = before ++ .deviceWrite route call :: after →
        WriteCalled (sinceReset before) route call) ∧
      (∀ before done after, trace = before ++ .complete done :: after →
        WriteFinished (sinceReset before) done) ∧
      (∀ before route beat after, trace = before ++ .produce route beat :: after →
        BeatProduced before route) ∧
      (∀ before route call after, trace = before ++ .deviceRead route call :: after →
        route.target ≠ none ∧ ∃ beat rest, after = .produce route beat :: rest) ∧
      ∀ port, OnWires (AxiFabric.wires env cycles (.fresh c random stall world)) trace port := by
  intro trace
  have traces := AxiFabric.run_traces env cycles random stall world
  -- The fabric just before the step that emits a given event.
  have at_event : ∀ {before after event}, trace = before ++ event :: after →
      ∃ history state front back next rest, before = history ++ front ∧ after = back ++ rest ∧
        Tracked env (sinceReset history) state ∧
        Pipeline.Step env state (front ++ event :: back) next := by
    intro before after event split
    have found := traces
    rw [show (AxiFabric.run env cycles (.fresh c random stall world)).state.trace = _ from split]
      at found
    obtain ⟨history, state, front, back, next, rest, prior, taken, -, rfl, rfl⟩ := found.split
    obtain ⟨start, epoch⟩ := epoch_traces prior
    refine ⟨history, state, front, back, next, rest, rfl, rfl, .of_traces epoch ?_, taken⟩
    refine offTop.of_subset fun other inEpoch => ?_
    rw [show (AxiFabric.run env cycles (.fresh c random stall world)).state.trace = _ from split]
    simp [mem_of_mem_sinceReset inEpoch]
  refine ⟨?_, ?_, ?_, ?_, AxiFabric.run_onWires env cycles random stall world⟩
  · intro before route call after split
    obtain ⟨history, state, front, back, next, rest, rfl, rfl, tracked, taken⟩ := at_event split
    obtain rfl := taken.of_deviceWrite.1
    rw [List.append_nil]
    exact tracked.writeCalled taken
  · intro before done after split
    obtain ⟨history, state, front, back, next, rest, rfl, rfl, tracked, taken⟩ := at_event split
    have active := taken.active_before_complete
    rw [sinceReset_append_of_active history active]
    exact tracked.writeFinished taken
  · intro before route beat after split
    obtain ⟨history, state, front, back, next, rest, rfl, rfl, tracked, taken⟩ := at_event split
    exact tracked.beatProduced taken
  · intro before route call after split
    obtain ⟨history, state, front, back, next, rest, rfl, rfl, tracked, taken⟩ := at_event split
    obtain ⟨-, routes, cursor, access, queue, built, accessed, called, rfl⟩ :=
      taken.of_deviceRead
    refine ⟨fun untargeted => ?_, access.beat, rest, rfl⟩
    obtain ⟨forced, forcedOk, -, uncalled, -⟩ := readDeviceBeat_forced untargeted
    rw [Except.ok.inj (accessed.symm.trans forcedOk), uncalled] at called
    simp at called

/-- A write and a read of one word, then a reset. -/
theorem device_effects_exactly_once_small :
    let cycles := [(writeWord 0x1004 3 false 7, false), (readWord 0x1004 5 false, false),
      (takeAll, false), (takeAll, true)]
    let start : AxiFabric Config.small RamWorld := .fresh Config.small 1 .never smallWorld
    let trace := (AxiFabric.run smallEnv cycles start).state.trace
    (trace.filter fun event =>
        match event with
        | .deviceWrite _ _ | .complete _ | .deviceRead _ _ | .produce _ _ | .reset => true
        | _ => false).length = 5 ∧
      OffTop trace ∧
      (∀ before route call after, trace = before ++ .deviceWrite route call :: after →
        WriteCalled (sinceReset before) route call) ∧
      (∀ before done after, trace = before ++ .complete done :: after →
        WriteFinished (sinceReset before) done) ∧
      (∀ before route beat after, trace = before ++ .produce route beat :: after →
        BeatProduced before route) ∧
      (∀ before route call after, trace = before ++ .deviceRead route call :: after →
        route.target ≠ none ∧ ∃ beat rest, after = .produce route beat :: rest) ∧
      ∀ port, OnWires (AxiFabric.wires smallEnv cycles start) trace port := by
  intro cycles start trace
  have offTop : OffTop trace := by decide +kernel
  exact ⟨by decide +kernel, offTop,
    device_effects_exactly_once smallEnv cycles 1 .never smallWorld offTop⟩

end AxiTestbench
