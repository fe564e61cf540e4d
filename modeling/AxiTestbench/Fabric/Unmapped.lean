import AxiTestbench.Fabric.Exclusivity

/-!
# Accesses to unmapped bytes

What the fabric answers to a burst that covers a byte outside every window.  A
regular burst is refused with DECERR and reaches no device, unless its unmapped
bytes escape the decoder: the beat that ends at `2 ^ 64` has no lanes in the code,
so a burst whose other beats lie in one window is routed there.  An exclusive
burst is refused with SLVERR.
-/

namespace AxiTestbench

open Lib Outcome

variable {c : Config} {W : Type}

/-- Some byte of a burst is in no window. -/
def Unmapped (space : AddressSpace) (payload : AddressPayload) : Prop :=
  ∃ byte, payload.Touches byte ∧
    ∀ mapping ∈ space.mappings, ¬(mapping.base ≤ byte ∧ byte < mapping.limit)

/-- All beats of a burst lie in one window except those that end at `2 ^ 64`, and
there is one that does not end there. -/
def EndsAbove (space : AddressSpace) (payload : AddressPayload) : Prop :=
  ∃ mapping ∈ space.mappings,
    (∃ index < payload.beats, payload.beatEnd index ≠ 2 ^ 64) ∧
      ∀ index < payload.beats, payload.beatEnd index = 2 ^ 64 ∨
        (mapping.base ≤ payload.beatStart index ∧ payload.beatEnd index ≤ mapping.limit)

/-- An R beat that refuses an unmapped read, `before` being the history in which
it is produced: DECERR, zeros, and no device call for it. -/
structure ReadRefused (before : List (Event c)) (route : ReadRoute c) (beat : c.ReadBeat) :
    Prop where
  response : beat.response = .decodeError
  data : ∀ lane, beat.data lane = 0
  uncalled : ∀ earlier call, before ≠ earlier ++ [.deviceRead route call]

/-- An answer that refuses an unmapped write: DECERR, and no device call was made
for the write. -/
structure WriteRefused (before : List (Event c)) (done : WriteRoute c) : Prop where
  response : done.response = .decodeError
  uncalled : openCalls (sinceReset before) = []

/-! ## What the decoder sees -/

/-- The decoder finds a window exactly when all beats but those that end at
`2 ^ 64` lie in it. -/
theorem endsAbove_iff {space : AddressSpace} {payload : AddressPayload}
    (accepted : payload.Accepted c.dataBytes) :
    EndsAbove space payload ↔ decodedMapping space c.dataBytes payload ≠ none := by
  obtain ⟨cursor, built, below⟩ := (BurstCursor.accepted_iff c.dataBytes_eq payload).mp accepted
  have payloadEq := BurstCursor.payload_of_new built
  have endLe : ∀ index < payload.beats, payload.beatEnd index ≤ 2 ^ 64 := by
    intro index inRange
    rw [← payloadEq]
    exact cursor.beatEnd_le c.dataBytes_eq (by rw [payloadEq]; exact (below index inRange).1)
  have positive : ∀ index, payload.beatStart index < payload.beatEnd index := by
    intro index
    have word := cursor.beat_in_word c.dataBytes_eq index
    rw [payloadEq] at word
    exact word.2.1
  have visible := mem_visibleBytes_iff cursor built
  rw [Option.ne_none_iff_exists']
  simp only [decodedMapping_eq_some_iff, Decodes]
  constructor
  · rintro ⟨mapping, member, ⟨index, inRange, endNe⟩, inside⟩
    have endLt := endLe index inRange
    refine ⟨mapping, ?_, ?_⟩
    · refine List.ne_nil_of_mem ((visible (payload.beatStart index)).mpr
        ⟨index, inRange, Nat.le_refl _, positive index, by omega⟩)
    · intro byte seen
      obtain ⟨other, otherLt, lower, upper, endBelow⟩ := (visible byte).mp seen
      rcases inside other otherLt with top | ⟨baseLe, limitLe⟩
      · omega
      · exact space.resolve_byte member (by omega) (by omega)
  · rintro ⟨mapping, nonempty, all⟩
    obtain ⟨byte, seen⟩ := List.exists_mem_of_ne_nil _ nonempty
    obtain ⟨index, inRange, -, -, endBelow⟩ := (visible byte).mp seen
    obtain ⟨member, -⟩ := (space.resolve_eq_some_iff).mp (all byte seen)
    refine ⟨mapping, member, ⟨index, inRange, by omega⟩, fun other otherLt => ?_⟩
    have otherEnd := endLe other otherLt
    have otherPositive := positive other
    rcases Nat.lt_or_eq_of_le otherEnd with endLt | top
    · -- The first and the last byte of the beat are in the window.
      have first := all _ ((visible (payload.beatStart other)).mpr
        ⟨other, otherLt, by omega, by omega, endLt⟩)
      have last := all _ ((visible (payload.beatEnd other - 1)).mpr
        ⟨other, otherLt, by omega, by omega, endLt⟩)
      rw [space.resolve_eq_some_iff] at first last
      exact .inr ⟨first.2.2.1, by omega⟩
    · exact .inl top

/-- A route carries DECERR exactly when it is regular and decoded to no window. -/
theorem RouteBase.Valid.forced_decodeError_iff {env : FabricEnv W} {route : RouteBase c}
    (valid : route.Valid env) :
    route.forcedResponse = .decodeError ↔
      route.payload.lock = false ∧ ¬EndsAbove env.space route.payload := by
  obtain ⟨world, forced⟩ := valid.forced
  rw [endsAbove_iff valid.routable.accepted, not_not, ← valid.mapping_eq, forced]
  cases mapped : route.mapping with
  | none => cases lock : route.payload.lock <;> simp [forcedResponseOf, lock]
  | some mapping =>
      simp only [forcedResponseOf, reduceCtorEq, and_false, iff_false]
      split
      · simp
      · split <;> simp

/-! ## Reads -/

/-- A read beat is refused exactly when its route carries DECERR: a device answers
only to a call, and a beat without lanes is answered with success. -/
theorem readRefused_iff {env : FabricEnv W} {world : W} {route : ReadRoute c}
    {cursor : BurstCursor c.dataBytes} {access : ReadAccess c W} (history : List (Event c))
    (valid : route.Valid env) (built : BurstCursor.new route.payload = .ok cursor)
    (inRange : route.beat < route.payload.beats)
    (unread : ∀ earlier call, history ≠ earlier ++ [.deviceRead route call])
    (accessed : readDeviceBeat env world route cursor = .ok access) :
    ReadRefused (history ++ Pipeline.readEvents route access) route access.beat ↔
      route.forcedResponse = .decodeError := by
  cases targeted : route.target with
  | none =>
      obtain ⟨made, madeOk, -, uncalled, response, zeros⟩ := readDeviceBeat_forced targeted
      obtain rfl := Except.ok.inj (accessed.symm.trans madeOk)
      constructor
      · intro refused
        rw [← response]
        exact refused.response
      · intro forced
        refine ⟨response.trans forced, zeros, ?_⟩
        simpa [Pipeline.readEvents, uncalled] using unread
  | some mapping =>
      have okay := (RouteBase.Valid.target_iff.mp targeted).1
      simp only [okay, reduceCtorEq, iff_false]
      intro refused
      rcases Nat.lt_or_eq_of_le (valid.beatEnd_le inRange) with below | top
      · obtain ⟨response, data, spec⟩ := readDeviceBeat_read built targeted inRange below accessed
        refine refused.uncalled history (readCall c.dataBytes route.payload mapping route.beat
          response data) ?_
        rw [Pipeline.readEvents, spec.call]
        rfl
      · obtain ⟨made, madeOk, -, -, response, -⟩ :=
          readDeviceBeat_top built targeted inRange (valid.starts inRange) top
        obtain rfl := Except.ok.inj (accessed.symm.trans madeOk)
        have answered := refused.response
        rw [response] at answered
        simp only [ReadRoute.answer, and_true] at answered
        split at answered <;> contradiction

/-- A device read is followed at once by the beat it was made for. -/
theorem Pipeline.Step.not_last_deviceRead {env : FabricEnv W} {state next : Pipeline c W}
    {before : List (Event c)} {route : ReadRoute c} {call : DeviceRead} :
    ¬Pipeline.Step env state (before ++ [.deviceRead route call]) next := by
  intro taken
  obtain ⟨-, routes, cursor, access, -, -, -, -, impossible⟩ := taken.of_deviceRead
  contradiction

theorem not_last_deviceRead {env : FabricEnv W} {start state : Pipeline c W}
    {history : List (Event c)} (trace : Traces (Pipeline.Step env) start history state)
    (earlier : List (Event c)) (route : ReadRoute c) (call : DeviceRead) :
    history ≠ earlier ++ [.deviceRead route call] := by
  induction trace with
  | refl => simp
  | @snoc before middle events more prior taken ih =>
      rcases List.eq_nil_or_concat' more with rfl | ⟨front, last, rfl⟩
      · rw [List.append_nil]
        exact ih
      · intro equal
        rw [← List.append_assoc] at equal
        obtain ⟨-, lastEq⟩ := List.append_inj' equal rfl
        rw [List.singleton_inj.mp lastEq] at taken
        exact taken.not_last_deviceRead

/-! ## Writes -/

/-- Until a device has been called for a write, its response is the one it started
with; only a route with a target gets calls. -/
structure WriteRoute.Unanswered (route : WriteRoute c)
    (calls : List (WriteRoute c × DeviceWrite)) : Prop where
  untargeted : route.target = none → calls = []
  okay : calls = [] → route.response = .okay

theorem WriteRoute.Unanswered.of_untouched {route : WriteRoute c} (untouched : route.Untouched) :
    route.Unanswered [] := by
  obtain ⟨base, -, rfl⟩ := untouched
  exact ⟨fun _ => rfl, fun _ => rfl⟩

/-- A committed beat either calls its device or, without lanes, counts as a
success. -/
theorem RouteBase.Valid.uncalled {env : FabricEnv W} {world : W} {monitors : Monitors c}
    {route : WriteRoute c} {cursor : BurstCursor c.dataBytes} {mapping : Mapping}
    {data strobe : Lanes c.dataBytes} {access : WriteAccess c W} (valid : route.Valid env)
    (built : BurstCursor.new route.payload = .ok cursor)
    (inRange : route.commitBeat < route.payload.beats)
    (written : writeDeviceBeat env world monitors route mapping cursor route.commitBeat
      data strobe = .ok access)
    (uncalled : access.call = none) : access.route = route ∧ access.response = .okay := by
  rcases Nat.lt_or_eq_of_le (valid.beatEnd_le inRange) with below | top
  · have spec := writeDeviceBeat_written built inRange below written
    rw [spec.call] at uncalled
    contradiction
  · rw [writeDeviceBeat_top built inRange (valid.starts inRange) top] at written
    cases written
    exact ⟨rfl, rfl⟩

theorem unanswered_of_traces {env : FabricEnv W} {world : W} {history : List (Event c)}
    {state : Pipeline c W}
    (trace : Traces (Pipeline.ActiveStep env) (.empty c world) history state) :
    WriteEngine WriteRoute.Unanswered history state := by
  induction trace with
  | refl =>
      exact .of_untouched (fun _ => WriteRoute.Unanswered.of_untouched) rfl
        (by simp [Pipeline.empty])
  | snoc prior taken ih =>
      have sound : Sound env _ _ := .of_traces prior
      have ordered := (Conserved.of_traces prior).ordered
      refine ih.step ordered (fun _ => WriteRoute.Unanswered.of_untouched)
        (fun _ _ _ _ _ unanswered => ⟨unanswered.untargeted, unanswered.okay⟩) ?_ taken
      intro route member cursor mapping data strobe access built complete regular targeted written
        notDone unanswered
      obtain ⟨exitResponse, exitCode, routeEq⟩ := writeDeviceBeat_route written
      refine ⟨fun untargeted => ?_, fun uncalled => ?_⟩
      · simp only [WriteRoute.afterBeat, routeEq] at untargeted
        rw [targeted] at untargeted
        contradiction
      · obtain ⟨noCalls, noCall⟩ := List.append_eq_nil_iff.mp uncalled
        have answered := (sound.writes route member).1.uncalled built
          (ordered.writes route member).commit_lt written (by simpa using noCall)
        simp [WriteRoute.afterBeat, answered, unanswered.okay noCalls]

/-- A write is refused exactly when its route carries DECERR: an exclusive write
without a target is answered SLVERR, and with one either OKAY or by the device. -/
theorem writeRefused_iff {env : FabricEnv W} {history before after : List (Event c)}
    {state next : Pipeline c W} {done : WriteRoute c}
    (engine : WriteEngine WriteRoute.Unanswered history state) (sound : Sound env history state)
    (ordered : Ordered state)
    (taken : Pipeline.Step env state (before ++ .complete done :: after) next) :
    done.Valid env ∧ ((done.response = .decodeError ∧ openCalls (history ++ before) = []) ↔
      done.forcedResponse = .decodeError) := by
  obtain ⟨-, route, routes, front, complete, how⟩ := taken.of_complete
  have member : route ∈ state.writeRoutes := by simp [front]
  have valid := (sound.writes route member).1
  have started := ordered.writes route member
  obtain ⟨untargeted, okay⟩ := engine.busy route routes front
  rcases how with ⟨regular, noTarget, rfl, rfl⟩ | ⟨cursor, access, built, rfl, how⟩
  · have noCalls := untargeted noTarget
    refine ⟨valid, ?_⟩
    simp [noCalls, okay noCalls]
  rcases how with ⟨exclusive, rfl, finished⟩ |
    ⟨regular, mapping, data, strobe, targeted, staged, written, rfl, -⟩
  · have locked : route.payload.lock = true := valid.exclusive_eq ▸ exclusive
    have forced : route.forcedResponse ≠ .decodeError := by
      rw [Ne, valid.forced_decodeError_iff, locked]
      simp
    obtain ⟨response, routeEq⟩ := finishExclusiveWrite_route finished
    refine ⟨routeEq ▸ valid, ?_⟩
    have notForced : access.route.forcedResponse ≠ .decodeError := by
      rw [routeEq]
      exact forced
    simp only [notForced, iff_false, not_and]
    intro answered
    rw [openCalls_writeEvents]
    cases targeted : route.target with
    | none =>
        rw [finishExclusiveWrite_forced targeted] at finished
        cases finished
        exact absurd answered forced
    | some mapping =>
        by_cases held : Reserved state.monitors route.port route.payload
        · obtain ⟨made, image, madeOk, spec⟩ := finishExclusiveWrite_reserved built
            (valid.shape exclusive) (fun index inRange => valid.starts inRange) targeted held
          obtain rfl : made = access := Except.ok.inj (madeOk.symm.trans finished)
          simp [spec.call]
        · rw [finishExclusiveWrite_unreserved targeted held] at finished
          cases finished
          simp at answered
  · obtain ⟨exitResponse, exitCode, routeEq⟩ := writeDeviceBeat_route written
    have notForced : route.forcedResponse ≠ .decodeError := by
      rw [(RouteBase.Valid.target_iff.mp targeted).1]
      simp
    refine ⟨?_, ?_⟩
    · simp only [WriteRoute.afterBeat, routeEq]
      exact valid
    · simp only [WriteRoute.afterBeat, routeEq, notForced, iff_false, not_and]
      intro answered uncalled
      rw [openCalls_writeEvents] at uncalled
      obtain ⟨noCalls, noCall⟩ := List.append_eq_nil_iff.mp uncalled
      have silent := valid.uncalled built started.commit_lt written (by simpa using noCall)
      rw [okay noCalls, silent.2] at answered
      contradiction

/-! ## Runs -/

/-- The request of an R beat and the answer to it. -/
def Event.readAnswer? : Event c → Option (AddressPayload × Response)
  | .produce route beat => some (route.payload, beat.response)
  | _ => none

/-- Where in a trace a write with a given answer is. -/
theorem exists_completed {trace : List (Event c)} {payload : AddressPayload} {response : Response}
    (found : (payload, response) ∈
      (completedWrites trace).map fun done => (done.payload, done.response)) :
    ∃ before done after, trace = before ++ .complete done :: after ∧ done.payload = payload ∧
      done.response = response := by
  obtain ⟨done, member, fields⟩ := List.mem_map.mp found
  obtain ⟨event, inTrace, isDone⟩ := List.mem_filterMap.mp member
  cases event with
  | complete route =>
      cases isDone
      obtain ⟨before, after, split⟩ := List.append_of_mem inTrace
      exact ⟨before, done, after, split, Prod.mk.inj fields⟩
  | _ => simp at isDone

/-- Where in a trace an R beat with a given answer is. -/
theorem exists_produced {trace : List (Event c)} {payload : AddressPayload} {response : Response}
    (found : (payload, response) ∈ trace.filterMap Event.readAnswer?) :
    ∃ before route beat after, trace = before ++ .produce route beat :: after ∧
      route.payload = payload ∧ beat.response = response := by
  obtain ⟨event, inTrace, isBeat⟩ := List.mem_filterMap.mp found
  cases event with
  | produce route beat =>
      obtain ⟨before, after, split⟩ := List.append_of_mem inTrace
      exact ⟨before, route, beat, after, split, Prod.mk.inj (Option.some.inj isBeat)⟩
  | _ => cases isBeat

/-- In every run, a burst with an unmapped byte is refused with DECERR and without
a device call if and only if it is regular and its unmapped bytes are not hidden
above the window that holds the rest of it. -/
theorem unmapped_refused_iff (env : FabricEnv W) (cycles : List (c.Inputs × Bool))
    (random : UInt64) (stall : Stall) (world : W) :
    let trace := (AxiFabric.run env cycles (.fresh c random stall world)).state.trace
    (∀ before done after, trace = before ++ .complete done :: after →
        Unmapped env.space done.payload →
        (WriteRefused before done ↔
          done.payload.lock = false ∧ ¬EndsAbove env.space done.payload)) ∧
      ∀ before route beat after, trace = before ++ .produce route beat :: after →
        Unmapped env.space route.payload →
        (ReadRefused before route beat ↔
          route.payload.lock = false ∧ ¬EndsAbove env.space route.payload) := by
  intro trace
  have traces := AxiFabric.run_traces env cycles random stall world
  refine ⟨?_, ?_⟩
  · intro before done after split _
    rw [show (AxiFabric.run env cycles (.fresh c random stall world)).state.trace = _ from split]
      at traces
    obtain ⟨history, state, front, back, next, rest, prior, taken, -, rfl, rfl⟩ := traces.split
    obtain ⟨start, epoch⟩ := epoch_traces prior
    have active : ∀ event ∈ front, event.isReset = false := taken.active_before_complete
    obtain ⟨valid, refused⟩ := writeRefused_iff (unanswered_of_traces epoch) (.of_traces epoch)
      (Conserved.of_traces epoch).ordered taken
    rw [← valid.forced_decodeError_iff, ← refused, ← sinceReset_append_of_active history active]
    exact ⟨fun both => ⟨both.response, both.uncalled⟩, fun both => ⟨both.1, both.2⟩⟩
  · intro before route beat after split _
    rw [show (AxiFabric.run env cycles (.fresh c random stall world)).state.trace = _ from split]
      at traces
    obtain ⟨history, state, front, back, next, rest, prior, taken, -, rfl, rfl⟩ := traces.split
    obtain ⟨start, epoch⟩ := epoch_traces prior
    obtain ⟨-, routes, cursor, access, queue, built, accessed, rfl, rfl⟩ := taken.of_produce
    have sound : Sound env _ _ := .of_traces epoch
    have valid := sound.reads route (by simp [queue])
    have inRange := (Conserved.of_traces epoch).ordered.reads route (by simp [queue])
    rw [← valid.forced_decodeError_iff]
    exact readRefused_iff history valid built inRange
      (fun earlier call => not_last_deviceRead prior earlier route call) accessed

theorem unmapped_word (lock : Bool) : Unmapped smallEnv.space (wordAt 0x3000 3 lock) := by
  refine ⟨0x3000, ?_, by decide⟩
  cases lock <;> decide

/-- A regular write and a regular read of a word without a window are refused. -/
theorem unmapped_refused_small :
    let trace := (AxiFabric.run smallEnv
      [(readWord 0x3000 3 false, false), (writeWord 0x3000 3 false 7, false)]
      (.fresh Config.small 1 .never smallWorld)).state.trace
    (∃ before done after, trace = before ++ .complete done :: after ∧
        Unmapped smallEnv.space done.payload ∧ WriteRefused before done) ∧
      ∃ before route beat after, trace = before ++ .produce route beat :: after ∧
        Unmapped smallEnv.space route.payload ∧ ReadRefused before route beat := by
  intro trace
  have regular : (wordAt 0x3000 3 false).lock = false ∧
      ¬EndsAbove smallEnv.space (wordAt 0x3000 3 false) := by
    unfold EndsAbove
    decide
  obtain ⟨writes, reads⟩ := unmapped_refused_iff smallEnv
    [(readWord 0x3000 3 false, false), (writeWord 0x3000 3 false 7, false)] 1 .never smallWorld
  constructor
  · have wrote : (wordAt 0x3000 3 false, Response.decodeError) ∈
        (completedWrites trace).map fun done => (done.payload, done.response) := by decide +kernel
    obtain ⟨before, done, after, split, payloadEq, -⟩ := exists_completed wrote
    have unmapped := payloadEq ▸ unmapped_word false
    exact ⟨before, done, after, split, unmapped,
      (writes before done after split unmapped).mpr (payloadEq ▸ regular)⟩
  · have read : (wordAt 0x3000 3 false, Response.decodeError) ∈
        trace.filterMap Event.readAnswer? := by decide +kernel
    obtain ⟨before, route, beat, after, split, payloadEq, -⟩ := exists_produced read
    have unmapped := payloadEq ▸ unmapped_word false
    exact ⟨before, route, beat, after, split, unmapped,
      (reads before route beat after split unmapped).mpr (payloadEq ▸ regular)⟩

/-- An exclusive write and an exclusive read of a word without a window are both
answered SLVERR. -/
theorem unmapped_exclusive_slaveError :
    let trace := (runSmall [readWord 0x3000 3 true, writeWord 0x3000 3 true 7]).state.trace
    (¬∀ before done after, trace = before ++ .complete done :: after →
        Unmapped smallEnv.space done.payload → WriteRefused before done) ∧
      ¬∀ before route beat after, trace = before ++ .produce route beat :: after →
        Unmapped smallEnv.space route.payload → ReadRefused before route beat := by
  intro trace
  have wrote : (wordAt 0x3000 3 true, Response.slaveError) ∈
      (completedWrites trace).map fun done => (done.payload, done.response) := by decide +kernel
  have read : (wordAt 0x3000 3 true, Response.slaveError) ∈
      trace.filterMap Event.readAnswer? := by decide +kernel
  refine ⟨fun claim => ?_, fun claim => ?_⟩
  · obtain ⟨before, done, after, split, payloadEq, answered⟩ := exists_completed wrote
    have refused := claim before done after split (payloadEq ▸ unmapped_word true)
    exact absurd (refused.response.symm.trans answered) (by decide)
  · obtain ⟨before, route, beat, after, split, payloadEq, answered⟩ := exists_produced read
    have refused := claim before route beat after split (payloadEq ▸ unmapped_word true)
    exact absurd (refused.response.symm.trans answered) (by decide)

end AxiTestbench
