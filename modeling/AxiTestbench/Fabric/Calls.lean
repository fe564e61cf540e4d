import AxiTestbench.Fabric.Reservation
import AxiTestbench.Fabric.Accusation

/-!
# Device calls of one cycle

One `commit` calls at most one device, once: a write suppresses the read of the
same cycle.  Every call stays inside the window of its mapping, is no longer than
its beat (or, for an exclusive write, than 128 bytes), and enables no lane that
the initiator did not.
-/

namespace AxiTestbench

open Lib Outcome

variable {c : Config} {W : Type}

/-- A call of `Device::read` or `Device::write`. -/
def Event.accesses : Event c → Bool
  | .deviceWrite _ _ | .deviceRead _ _ => true
  | _ => false

/-- The device calls among `events`. -/
abbrev accessesOf (events : List (Event c)) : List (Event c) := events.filter Event.accesses

theorem accessesOf_append (events more : List (Event c)) :
    accessesOf (events ++ more) = accessesOf events ++ accessesOf more :=
  List.filter_append _ _

/-- A step calls at most one device. -/
theorem Pipeline.Step.length_accesses {env : FabricEnv W} {state next : Pipeline c W}
    {events : List (Event c)} (taken : Step env state events next) :
    (accessesOf events).length ≤ 1 := by
  have write : ∀ (route : WriteRoute c) (access : WriteAccess c W),
      (accessesOf (Pipeline.writeEvents route access)).length ≤ 1 := by
    intro route access
    refine (List.length_filter_le _ _).trans ?_
    cases call : access.call <;> simp [Pipeline.writeEvents, call]
  have read : ∀ (route : ReadRoute c) (access : ReadAccess c W),
      (accessesOf (Pipeline.readEvents route access)).length ≤ 1 := by
    intro route access
    refine (List.length_filter_le _ _).trans ?_
    cases call : access.call <;> simp [Pipeline.readEvents, call]
  cases taken with
  | commitExclusive route _ _ access =>
      simpa [accessesOf, List.filter_append, Event.accesses] using write route access
  | commitBeat route _ _ _ _ _ access => exact write route access
  | commitLast route _ _ _ _ _ access =>
      simpa [accessesOf, List.filter_append, Event.accesses] using write route access
  | readBeat route _ _ access =>
      simpa [accessesOf, List.filter_append, Event.accesses] using read route access
  | readLast route _ _ access =>
      simpa [accessesOf, List.filter_append, Event.accesses] using read route access
  | _ => simp [accessesOf, Event.accesses]

/-! ## Where the calls of a cycle come from -/

/-- The code called no device. -/
def Silent (env : FabricEnv W) (before after : AxiFabric c W) : Prop :=
  ∃ events, Advances env before after events ∧ accessesOf events = []

namespace Silent

variable {env : FabricEnv W}

theorem refl (fabric : AxiFabric c W) : Silent env fabric fabric := ⟨[], .refl fabric, rfl⟩

theorem trans {first second third : AxiFabric c W} (left : Silent env first second)
    (right : Silent env second third) : Silent env first third := by
  obtain ⟨events, advances, none⟩ := left
  obtain ⟨more, further, moreNone⟩ := right
  refine ⟨events ++ more, advances.trans further, ?_⟩
  rw [accessesOf_append, none, moreNone, List.nil_append]

theorem of_events {before after : AxiFabric c W} {events : List (Event c)}
    (advances : Advances env before after events)
    (silent : ∀ event ∈ events, event.accesses = false) : Silent env before after :=
  ⟨events, advances, List.filter_eq_nil_iff.mpr fun event member => by simp [silent event member]⟩

theorem of_unseen {before after : AxiFabric c W} (unseen : Unseen before after) :
    Silent env before after :=
  ⟨[], .of_unseen unseen, rfl⟩

theorem of_prepared {before after : AxiFabric c W} (prepared : Prepared env before after) :
    Silent env before after := by
  obtain ⟨events, advances, prepares⟩ := prepared
  refine .of_events advances fun event member => ?_
  have here := prepares event member
  cases event <;> first | rfl | simp [Event.prepares] at here

theorem of_arrived {inputs : c.Inputs} {before after : AxiFabric c W}
    (arrives : AxiFabric.Arrived env inputs before after) : Silent env before after := by
  refine .of_events arrives.advances fun event member => ?_
  cases AxiFabric.shaken_of_mem member <;> rfl

theorem of_awRound {before after : AxiFabric c W} (round : AxiFabric.AwRound env before after) :
    Silent env before after ∧ after.monitors = before.monitors := by
  cases round with
  | full | none => exact ⟨.refl _, rfl⟩
  | grant _ _ _ _ _ _ _ took view =>
      exact ⟨.of_events took.advances (by simp [Event.accesses]), congrArg Pipeline.monitors view⟩

theorem of_arRound {before after : AxiFabric c W} (round : AxiFabric.ArRound env before after) :
    Silent env before after ∧ after.monitors = before.monitors := by
  cases round with
  | full | none => exact ⟨.refl _, rfl⟩
  | grant _ _ _ _ _ _ _ took view =>
      exact ⟨.of_events took.advances (by simp [Event.accesses]), congrArg Pipeline.monitors view⟩

end Silent

/-- The calls of a cycle come from one step of one engine.  A write finds the
monitors as the cycle found them. -/
inductive Calling (env : FabricEnv W) (before after : AxiFabric c W) : Prop where
  | none (silent : Silent env before after)
  | write {start finish : AxiFabric c W} {step : List (Event c)}
      (first : Silent env before start) (took : Took env start finish step)
      (last : Silent env finish after) (monitors : start.monitors = before.monitors)
      (writes : ∀ event ∈ step, event.commits = true)
  | read {start finish : AxiFabric c W} {step : List (Event c)}
      (first : Silent env before start) (took : Took env start finish step)
      (last : Silent env finish after) (reads : ∀ event ∈ step, event.ofReadEngine = true)

namespace Calling

variable {env : FabricEnv W}

theorem prepend {before middle after : AxiFabric c W} (silent : Silent env before middle)
    (monitors : middle.monitors = before.monitors) (calling : Calling env middle after) :
    Calling env before after := by
  cases calling with
  | none rest => exact .none (silent.trans rest)
  | write first took last same writes =>
      exact .write (silent.trans first) took last (same.trans monitors) writes
  | read first took last reads => exact .read (silent.trans first) took last reads

theorem append {before middle after : AxiFabric c W} (calling : Calling env before middle)
    (silent : Silent env middle after) : Calling env before after := by
  cases calling with
  | none rest => exact .none (rest.trans silent)
  | write first took last same writes => exact .write first took (last.trans silent) same writes
  | read first took last reads => exact .read first took (last.trans silent) reads

theorem of_commitTurn {before after : AxiFabric c W} {route : WriteRoute c}
    (turn : AxiFabric.CommitTurn env before route after) : Calling env before after := by
  cases turn with
  | blocked => exact .none (.refl _)
  | took events took _ commits => exact .write (.refl _) took (.refl _) rfl commits

theorem staged_monitors {before after : AxiFabric c W} {route : WriteRoute c} {beat : c.WriteBeat}
    (staged : Took env before after [.stage route beat]) : after.monitors = before.monitors := by
  have taken := staged.step
  generalize eventsEq : [Event.stage route beat] = events at taken
  suffices same : after.view.monitors = before.view.monitors from same
  generalize after.view = next at taken
  cases taken with
  | commitExclusive | commitBeat | commitLast =>
      have member := congrArg (Event.stage route beat ∈ ·) eventsEq
      simp [Pipeline.writeEvents] at member
  | stage => rfl
  | readBeat | readLast =>
      have member := congrArg (Event.stage route beat ∈ ·) eventsEq
      simp [Pipeline.readEvents] at member
  | _ => simp at eventsEq

theorem of_writeTurn {before after : AxiFabric c W} (turn : AxiFabric.WriteTurn env before after) :
    Calling env before after := by
  cases turn with
  | empty | starved => exact .none (.refl _)
  | commit _ _ _ _ turn => exact .of_commitTurn turn
  | stage route done beat staged _ _ turn =>
      have silent := Silent.of_events staged.advances (by simp [Event.accesses])
      rcases turn with rfl | turn
      · exact .none silent
      · exact (of_commitTurn turn).prepend silent (staged_monitors staged)

theorem of_readTurn {before middle after : AxiFabric c W} (silent : Silent env before middle)
    (turn : AxiFabric.ReadTurn env middle after) : Calling env before after := by
  cases turn with
  | empty | blocked => exact .none silent
  | beat route access took =>
      exact .read silent took (.refl _) fun event => Event.ofReadEngine_of_beat
  | reserved route access reserve took =>
      have reserves := Silent.of_events reserve.advances (by simp [Event.accesses])
      exact .read (silent.trans reserves) took (.refl _) fun event => Event.ofReadEngine_of_beat

end Calling

/-- A turn of the write engine that does not suppress the read calls no device. -/
theorem Silent.of_writeTurn {env : FabricEnv W} {before after : AxiFabric c W}
    (turn : AxiFabric.WriteTurn env before after) (unsuppressed : after.suppressRead = false) :
    Silent env before after := by
  have commit : ∀ {before : AxiFabric c W} {route : WriteRoute c},
      AxiFabric.CommitTurn env before route after → Silent env before after := by
    intro before route turn
    cases turn with
    | blocked => exact .refl _
    | took events took _ commits suppressed =>
        refine .of_events took.advances fun event member => ?_
        cases event with
        | deviceWrite other call =>
            rw [suppressed other call member] at unsuppressed
            cases unsuppressed
        | deviceRead other call => exact absurd (commits _ member) (by simp [Event.commits])
        | _ => rfl
  cases turn with
  | empty | starved => exact .refl _
  | commit _ _ _ _ turn => exact commit turn
  | stage route done beat staged _ _ turn =>
      have silent := Silent.of_events staged.advances (by simp [Event.accesses])
      rcases turn with rfl | turn
      · exact silent
      · exact silent.trans (commit turn)

namespace AxiFabric

/-- A cycle without reset calls at most one device, also when it throws. -/
theorem commit_calling (env : FabricEnv W) (inputs : c.Inputs) (fabric : AxiFabric c W)
    (driven : Driven fabric) : Calling env fabric (commit env inputs false fabric).state := by
  -- Up to the write engine no device is called and no monitor changes.
  have entering : ∀ {arrived granted routed : AxiFabric c W}, Arrived env inputs fabric arrived →
      AwRound env arrived granted → ArRound env granted routed →
      Silent env fabric { routed with suppressRead := false } ∧
        routed.monitors = fabric.monitors := by
    intro arrived granted routed arrives aw ar
    obtain ⟨awSilent, awMonitors⟩ := Silent.of_awRound aw
    obtain ⟨arSilent, arMonitors⟩ := Silent.of_arRound ar
    have unsuppressed : Silent env routed { routed with suppressRead := false } :=
      .of_unseen ⟨rfl, rfl, rfl⟩
    exact ⟨(((Silent.of_arrived arrives).trans awSilent).trans arSilent).trans unsuppressed,
      arMonitors.trans (awMonitors.trans arrives.monitors)⟩
  have both : Ends (commit env inputs false fabric) (Calling env fabric)
      fun _ => Calling env fabric := by
    refine (commit_cycle env inputs fabric driven).mono ?_ ?_
    · rintro after ⟨arrives, aw, ar, write, read⟩
      rename_i arrived granted routed written finished
      obtain ⟨start, monitors⟩ := entering arrives aw ar
      have ticked : Silent env finished
          ({ finished with cycle := finished.cycle + 1 }.emit [.tick]) :=
        .of_events (.step rfl rfl .tick) (by simp [Event.accesses])
      rcases read with ⟨-, rfl⟩ | ⟨quiet, turn⟩
      · exact (Calling.prepend start monitors (.of_writeTurn write)).append ticked
      · have wrote := start.trans (Silent.of_writeTurn write quiet)
        exact (Calling.of_readTurn wrote turn).append ticked
    · intro fault after failed
      cases failed with
      | unstable thrown =>
          have unseen := checkStability_unseen inputs { fabric with wasReset := false }
          rw [thrown] at unseen
          have start : Unseen fabric { fabric with wasReset := false } := ⟨rfl, rfl, rfl⟩
          exact .none (.of_unseen (start.trans unseen))
      | aw arrives => exact .none (.of_arrived arrives)
      | ar arrives aw =>
          exact .none ((Silent.of_arrived arrives).trans (Silent.of_awRound aw).1)
      | write arrives aw ar failed =>
          exact .none ((entering arrives aw ar).1.trans (.of_prepared failed.1))
      | read arrives aw ar write failed =>
          obtain ⟨start, monitors⟩ := entering arrives aw ar
          exact (Calling.prepend start monitors (.of_writeTurn write)).append
            (.of_prepared failed.1)
  exact both.state_of_both

end AxiFabric

/-! ## The contract -/

/-- The bus address of the first byte of a write call. -/
def WriteRoute.firstByte (route : WriteRoute c) : Nat :=
  if route.exclusive then route.payload.address.toNat else route.payload.beatStart route.commitBeat

/-- What a device may rely on in a call of `Device::write` that a run with trace
`trace` makes for `route`. -/
structure WriteContract (env : FabricEnv W) (trace : List (Event c)) (route : WriteRoute c)
    (call : DeviceWrite) (mapping : Mapping) : Prop where
  mapped : mapping ∈ env.space.mappings
  device : call.device = mapping.device
  sameLength : call.strobe.length = call.data.length
  nonempty : 1 ≤ call.data.length
  bounded : call.data.length ≤ if route.exclusive then 128 else c.dataBytes
  beat : route.exclusive = false → call.data.length ≤ route.payload.beatBytes
  base : mapping.base ≤ route.firstByte
  offset : call.offset = route.firstByte - mapping.base
  inside : call.offset + call.data.length ≤ mapping.size
  strobed : ∀ index < call.data.length, byteAt call.strobe index ≠ 0 →
    ∃ beat < route.payload.beats, ∃ lane : Fin c.dataBytes,
      route.payload.busWord c.dataBytes beat + lane = route.firstByte + index ∧
        (route.stagedBeat beat).strobe lane ≠ 0 ∧ route.stagedBeat beat ∈ wOf route.port trace

/-- What a device may rely on in a call of `Device::read` made for `route`. -/
structure ReadContract (env : FabricEnv W) (route : ReadRoute c) (call : DeviceRead)
    (mapping : Mapping) : Prop where
  mapped : mapping ∈ env.space.mappings
  device : call.device = mapping.device
  sameLength : call.enable.length = call.length
  nonempty : 1 ≤ call.enable.length
  bounded : call.enable.length ≤ c.dataBytes
  beat : call.enable.length ≤ route.payload.beatBytes
  base : mapping.base ≤ route.payload.beatStart route.beat
  offset : call.offset = route.payload.beatStart route.beat - mapping.base
  inside : call.offset + call.enable.length ≤ mapping.size
  enabled : ∀ index < call.enable.length, byteAt call.enable index ≠ 0

/-- A beat below the top of the address space lies in its window. -/
theorem RouteBase.Valid.placed {env : FabricEnv W} {route : RouteBase c} (valid : route.Valid env)
    {mapping : Mapping} (targeted : route.target = some mapping) {index : Nat}
    (inRange : index < route.payload.beats) (below : route.payload.beatEnd index < 2 ^ 64) :
    mapping ∈ env.space.mappings ∧ mapping.base ≤ route.payload.beatStart index ∧
      sub64 (route.payload.beatStart index) mapping.base =
        route.payload.beatStart index - mapping.base ∧
      sub64 (route.payload.beatStart index) mapping.base + route.payload.beatLength index ≤
        mapping.size ∧
      0 < route.payload.beatLength index ∧ route.payload.beatLength index ≤ c.dataBytes ∧
      route.payload.beatLength index ≤ route.payload.beatBytes := by
  obtain ⟨cursor, built, -⟩ := valid.routable.accepted
  obtain ⟨member, baseLe, endLe⟩ := valid.window targeted inRange below
  obtain ⟨-, -, endEq, positive, fits⟩ := beat_span built index
  have inWord := cursor.beat_in_word c.dataBytes_eq index
  rw [BurstCursor.payload_of_new built] at inWord
  have offsetEq : sub64 (route.payload.beatStart index) mapping.base =
      route.payload.beatStart index - mapping.base := sub64_eq baseLe (by omega)
  rw [Mapping.limit] at endLe
  exact ⟨member, baseLe, offsetEq, by omega, positive, by omega, by omega⟩

theorem readContract {env : FabricEnv W} {world : W} {route : ReadRoute c} {call : DeviceRead}
    {cursor : BurstCursor c.dataBytes} {access : ReadAccess c W} (valid : route.Valid env)
    (running : route.beat < route.payload.beats)
    (built : BurstCursor.new route.payload = .ok cursor)
    (accessed : readDeviceBeat env world route cursor = .ok access)
    (called : access.call = some call) :
    ∃ mapping, route.target = some mapping ∧ ReadContract env route call mapping := by
  cases target : route.target with
  | none =>
      obtain ⟨other, done, -, silent, -⟩ : ∃ access,
          readDeviceBeat env world route cursor = .ok access ∧ access.world = world ∧
            access.call = none ∧ access.beat.response = route.forcedResponse ∧
              ∀ lane, access.beat.data lane = 0 := readDeviceBeat_forced target
      rw [accessed] at done
      cases done
      rw [silent] at called
      cases called
  | some mapping =>
      rcases (valid.beatEnd_le running).lt_or_eq with below | top
      · obtain ⟨response, data, read⟩ := readDeviceBeat_read built target running below accessed
        obtain rfl := Option.some.inj (called.symm.trans read.call)
        obtain ⟨member, baseLe, offsetEq, inside, positive, bounded, beat⟩ :=
          valid.placed target running below
        obtain ⟨-, startEq, endEq, -, fits⟩ := beat_span built route.beat
        have lengthEq := length_span (route.payload.mask c.dataBytes route.beat) fits
        refine ⟨mapping, rfl, member, rfl, lengthEq, lengthEq ▸ positive, lengthEq ▸ bounded,
          lengthEq ▸ beat, baseLe, offsetEq, ?_, ?_⟩
        · simpa only [readCall, lengthEq] using inside
        · intro index inSpan
          simp only [readCall, lengthEq] at inSpan ⊢
          rw [byteAt_span _ inSpan fits, AddressPayload.mask_ne_zero_iff]
          exact ⟨by simp only; omega, by simp only; omega, below⟩
      · obtain ⟨other, done, -, silent, -⟩ := readDeviceBeat_top built target running
          (valid.starts running) top
        rw [accessed] at done
        cases done
        rw [silent] at called
        cases called

section WriteContract

variable {env : FabricEnv W} {world : W} {monitors : Monitors c} {route : WriteRoute c}
  {call : DeviceWrite} {cursor : BurstCursor c.dataBytes} {access : WriteAccess c W}
  {trace : List (Event c)}

theorem writeContract_regular {mapping : Mapping} {data strobe : Lanes c.dataBytes}
    (valid : route.Valid env) (started : route.Started)
    (sent : ∀ beat < route.payload.beats, route.stagedBeat beat ∈ wOf route.port trace)
    (built : BurstCursor.new route.payload = .ok cursor) (regular : route.exclusive = false)
    (targeted : route.target = some mapping)
    (staged : route.staged route.commitBeat = .ok (data, strobe))
    (written : writeDeviceBeat env world monitors route mapping cursor route.commitBeat
      data strobe = .ok access)
    (called : access.call = some call) : WriteContract env trace route call mapping := by
  have inRange := started.commit_lt
  have firstEq : route.firstByte = route.payload.beatStart route.commitBeat := by
    simp [WriteRoute.firstByte, regular]
  rw [route.staged_eq (Nat.lt_of_lt_of_le inRange route.payload.beats_le)] at staged
  cases staged
  rcases (valid.beatEnd_le inRange).lt_or_eq with below | top
  · have write := writeDeviceBeat_written built inRange below written
    obtain rfl := Option.some.inj (called.symm.trans write.call)
    obtain ⟨member, baseLe, offsetEq, inside, positive, bounded, beat⟩ :=
      valid.placed targeted inRange below
    obtain ⟨-, startEq, -, -, fits⟩ := beat_span built route.commitBeat
    have lengthEq := length_span (route.stagedBeat route.commitBeat).data fits
    have strobeEq := length_span (route.payload.effective c.dataBytes route.commitBeat
      (route.stagedBeat route.commitBeat).strobe) fits
    refine
      { mapped := member
        device := rfl
        sameLength := strobeEq.trans lengthEq.symm
        nonempty := lengthEq ▸ positive
        bounded := ?_
        beat := fun _ => lengthEq ▸ beat
        base := firstEq ▸ baseLe
        offset := firstEq ▸ offsetEq
        inside := ?_
        strobed := ?_ }
    · simpa [regular, beatCall, lengthEq] using bounded
    · simpa only [beatCall, lengthEq] using inside
    · intro index inSpan enabled
      simp only [beatCall, lengthEq] at inSpan enabled
      rw [byteAt_span _ inSpan fits] at enabled
      have strobed : ∀ lane, route.payload.effective c.dataBytes route.commitBeat
          (route.stagedBeat route.commitBeat).strobe lane ≠ 0 →
          (route.stagedBeat route.commitBeat).strobe lane ≠ 0 := by
        intro lane on
        by_contra off
        exact on (if_neg fun both => both.2 off)
      refine ⟨route.commitBeat, inRange, _, ?_, strobed _ enabled, sent _ inRange⟩
      rw [firstEq]
      simp only
      omega
  · rw [writeDeviceBeat_top built inRange (valid.starts inRange) top] at written
    cases written
    cases called

theorem writeContract_exclusive {mapping : Mapping} (valid : route.Valid env)
    (sent : ∀ beat < route.payload.beats, route.stagedBeat beat ∈ wOf route.port trace)
    (built : BurstCursor.new route.payload = .ok cursor) (exclusive : route.exclusive = true)
    (offTop : ¬route.payload.TouchesTop) (targeted : route.target = some mapping)
    (reserved : Reserved monitors route.port route.payload)
    (finished : finishExclusiveWrite env world monitors route cursor = .ok access)
    (called : access.call = some call) : WriteContract env trace route call mapping := by
  have shape := valid.shape exclusive
  have firstEq : route.firstByte = route.payload.address.toNat := by
    simp [WriteRoute.firstByte, exclusive]
  obtain ⟨other, image, done, written⟩ := finishExclusiveWrite_reserved built shape
    (fun _ inRange => valid.starts inRange) targeted reserved
  rw [finished] at done
  cases done
  obtain rfl := Option.some.inj (called.symm.trans written.call)
  -- The first and the last beat give the ends of the span.
  have positive := route.payload.beats_pos
  have inWindow : ∀ index < route.payload.beats, mapping ∈ env.space.mappings ∧
      mapping.base ≤ route.payload.beatStart index ∧
      route.payload.beatEnd index ≤ mapping.limit :=
    fun index inRange => valid.window targeted inRange (valid.beatEnd_lt offTop inRange)
  obtain ⟨member, baseLe, -⟩ := inWindow 0 positive
  obtain ⟨-, -, endLe⟩ := inWindow (route.payload.beats - 1) (by omega)
  rw [shape.beatStart_eq, Nat.zero_mul, Nat.add_zero] at baseLe
  rw [shape.beatEnd_eq, Nat.sub_add_cancel positive, Mapping.limit] at endLe
  change route.payload.address.toNat + route.payload.total ≤ _ at endLe
  have totalPos : 0 < route.payload.total :=
    Nat.mul_pos positive (Nat.two_pow_pos _)
  have fits : 0 + route.payload.total ≤ 128 := by simpa using shape.total
  have lengthEq := length_span image.1 fits
  have strobeEq := length_span image.2 fits
  have offsetEq : sub64 route.payload.address.toNat mapping.base =
      route.payload.address.toNat - mapping.base :=
    sub64_eq baseLe route.payload.address.toNat_lt
  refine
    { mapped := member
      device := rfl
      sameLength := strobeEq.trans lengthEq.symm
      nonempty := lengthEq ▸ totalPos
      bounded := ?_
      beat := fun regular => by simp [exclusive] at regular
      base := firstEq ▸ baseLe
      offset := firstEq ▸ offsetEq
      inside := ?_
      strobed := ?_ }
  · simpa [exclusive, exclusiveCall, lengthEq] using shape.total
  · simp only [exclusiveCall, lengthEq, offsetEq]
    omega
  · intro index inSpan enabled
    simp only [exclusiveCall, lengthEq] at inSpan enabled
    rw [byteAt_span _ inSpan fits] at enabled
    obtain ⟨beat, inRange, lane, -, strobed, place⟩ := (written.staged.strobed_iff _).mp enabled
    refine ⟨beat, inRange, lane, ?_, strobed, sent beat inRange⟩
    rw [firstEq, place]
    simp

end WriteContract

/-- The beats of a complete write have come from its port. -/
theorem sent_of_complete {history : List (Event c)} {state : Pipeline c W} {route : WriteRoute c}
    (conserved : Conserved history state) (member : route ∈ state.writeRoutes)
    (complete : route.dataComplete = true) :
    ∀ beat < route.payload.beats, route.stagedBeat beat ∈ wOf route.port history := by
  intro beat inRange
  have account := conserved.writes route.port
  have full : route.beat = route.payload.beats :=
    (conserved.ordered.writes route member).complete_iff.mp complete
  rw [account.w, account.staged]
  refine List.mem_append_left _ (List.mem_append_right _ (List.mem_flatMap.mpr ⟨route, ?_, ?_⟩))
  · simpa [routesOf] using member
  · exact List.mem_map.mpr ⟨beat, List.mem_range.mpr (full ▸ inRange), rfl⟩

theorem picked_subset {T : Type} {select : Event c → Option T} {part trace : List (Event c)}
    (subset : ∀ event ∈ part, event ∈ trace) {item : T} (member : item ∈ picked select part) :
    item ∈ picked select trace := by
  obtain ⟨event, inPart, selected⟩ := List.mem_filterMap.mp member
  exact List.mem_filterMap.mpr ⟨event, subset event inPart, selected⟩

/-- The call events of a cycle are those of one step, taken from a state whose
trace extends the one before the cycle. -/
theorem Calling.source {env : FabricEnv W} {before after : AxiFabric c W}
    (calling : Calling env before after) :
    ∃ events, after.trace = before.trace ++ events ∧ (accessesOf events = [] ∨
      ∃ start finish step earlier, Advances env before start earlier ∧ earlier <+: events ∧
        Took env start finish step ∧ accessesOf events = accessesOf step ∧
        ((start.monitors = before.monitors ∧ ∀ event ∈ step, event.commits = true) ∨
          ∀ event ∈ step, event.ofReadEngine = true)) := by
  cases calling with
  | none silent =>
      obtain ⟨events, advances, none⟩ := silent
      exact ⟨events, advances.trace, .inl none⟩
  | @write start finish step first took last monitors writes =>
      obtain ⟨earlier, advances, none⟩ := first
      obtain ⟨later, further, laterNone⟩ := last
      refine ⟨earlier ++ (step ++ later), ?_, .inr ⟨start, finish, step, earlier, advances,
        List.prefix_append _ _, took, ?_, .inl ⟨monitors, writes⟩⟩⟩
      · rw [further.trace, took.trace, advances.trace]
        simp
      · rw [accessesOf_append, accessesOf_append, none, laterNone, List.nil_append, List.append_nil]
  | @read start finish step first took last reads =>
      obtain ⟨earlier, advances, none⟩ := first
      obtain ⟨later, further, laterNone⟩ := last
      refine ⟨earlier ++ (step ++ later), ?_, .inr ⟨start, finish, step, earlier, advances,
        List.prefix_append _ _, took, ?_, .inr reads⟩⟩
      · rw [further.trace, took.trace, advances.trace]
        simp
      · rw [accessesOf_append, accessesOf_append, none, laterNone, List.nil_append, List.append_nil]

/-- A reset cycle calls no device. -/
theorem reset_calling (env : FabricEnv W) (inputs : c.Inputs) (fabric : AxiFabric c W) :
    Calling env fabric (AxiFabric.commit env inputs true fabric).state := by
  obtain ⟨after, done, advances⟩ := AxiFabric.commit_reset env inputs fabric
  rw [done]
  refine .none (.of_events advances fun event member => ?_)
  rcases List.mem_append.mp member with cleared | ticked
  · split at cleared
    · simp at cleared
    · rcases List.mem_cons.mp cleared with rfl | devices
      · rfl
      · split at devices
        · obtain rfl := List.mem_singleton.mp devices
          rfl
        · simp at devices
  · obtain rfl := List.mem_singleton.mp ticked
    rfl

theorem cycle_calling (env : FabricEnv W) (fabric : AxiFabric c W) (input : c.Inputs × Bool) :
    Calling env (fabric.drive input.2) (AxiFabric.cycleWith env fabric input).state := by
  obtain ⟨inputs, resetActive⟩ := input
  cases resetActive with
  | true => exact reset_calling env inputs (fabric.drive true)
  | false => exact AxiFabric.commit_calling env inputs (fabric.drive false) fabric.drive_driven

section Contract

variable {env : FabricEnv W} {world : W} {before start finish : AxiFabric c W}
  {earlier step : List (Event c)}

/-- An exclusive write that reaches a device was reserved before the cycle, so its
burst stays away from the top of the address space. -/
theorem offTop_of_reserved (traces : Traces (Pipeline.Step env) (.empty c world) before.trace
      before.view) (offTop : OffTop before.trace) {port : c.Port} {payload : AddressPayload}
    (reserved : Reserved before.monitors port payload) : ¬payload.TouchesTop := by
  obtain ⟨epochStart, epoch⟩ := epoch_traces traces
  have offEpoch : OffTop (sinceReset before.trace) :=
    offTop.of_subset fun _ => mem_of_mem_sinceReset
  have monitored := Monitored.of_traces epoch (offEpoch.reserves epoch)
  obtain ⟨front, read, rest, split, -, rfl, -⟩ := (monitored.reserved_iff port payload).mp reserved
  exact offEpoch.reserves epoch read (by simp [split])

theorem writeContract_of_took
    (traces : Traces (Pipeline.Step env) (.empty c world) before.trace before.view)
    (offTop : OffTop before.trace) (advances : Advances env before start earlier)
    (monitors : start.monitors = before.monitors) (took : Took env start finish step)
    {route : WriteRoute c} {call : DeviceWrite} (made : .deviceWrite route call ∈ step)
    {trace : List (Event c)} (longer : ∀ event ∈ start.trace, event ∈ trace) :
    ∃ mapping, route.target = some mapping ∧ WriteContract env trace route call mapping := by
  have reached : Traces (Pipeline.Step env) (.empty c world) start.trace start.view := by
    rw [advances.trace]
    exact traces.trans advances.steps
  obtain ⟨epochStart, epoch⟩ := epoch_traces reached
  obtain ⟨front, back, rfl⟩ := List.append_of_mem made
  obtain ⟨-, complete, routes, cursor, queue, built, access, called, kind⟩ := took.step.of_deviceWrite
  obtain ⟨valid, started⟩ := Reachable.validWrite ⟨world, _, reached⟩ queue
  have conserved := Conserved.of_traces epoch
  have sent : ∀ beat < route.payload.beats, route.stagedBeat beat ∈ wOf route.port trace :=
    fun beat inRange => picked_subset
      (fun event member => longer event (mem_of_mem_sinceReset member))
      (sent_of_complete conserved (by simp [queue]) complete beat inRange)
  rcases kind with ⟨exclusive, -, finished⟩ | ⟨regular, mapping, data, strobe, targeted, staged,
    written⟩
  · cases target : route.target with
    | none =>
        rw [finishExclusiveWrite_forced target] at finished
        cases finished
        cases called
    | some mapping =>
        have reserved : Reserved start.view.monitors route.port route.payload := by
          by_contra unreserved
          rw [finishExclusiveWrite_unreserved target unreserved] at finished
          cases finished
          cases called
        have earlierReserved : Reserved before.monitors route.port route.payload := by
          rw [← monitors]
          exact reserved
        have away := offTop_of_reserved traces offTop earlierReserved
        exact ⟨mapping, rfl, writeContract_exclusive valid sent built exclusive away target
          reserved finished called⟩
  · exact ⟨mapping, targeted, writeContract_regular valid started sent built regular targeted
      staged written called⟩

theorem readContract_of_took
    (traces : Traces (Pipeline.Step env) (.empty c world) before.trace before.view)
    (advances : Advances env before start earlier) (took : Took env start finish step)
    {route : ReadRoute c} {call : DeviceRead} (made : .deviceRead route call ∈ step) :
    ∃ mapping, route.target = some mapping ∧ ReadContract env route call mapping := by
  obtain ⟨front, back, rfl⟩ := List.append_of_mem made
  obtain ⟨-, routes, cursor, access, queue, built, accessed, called, -⟩ := took.step.of_deviceRead
  obtain ⟨valid, running⟩ := Reachable.validRead ⟨world, _, traces.trans advances.steps⟩ queue
  exact readContract valid running built accessed called

end Contract

open AxiFabric in
/-- In a state reached by accepting only bursts that stay away from byte
`2 ^ 64 - 1`, one cycle with any inputs calls at most one device, once, and the
call keeps the contract. -/
theorem device_call_contract (env : FabricEnv W) (cycles : List (c.Inputs × Bool))
    (input : c.Inputs × Bool) (random : UInt64) (stall : Stall) (world : W)
    (offTop : OffTop (persist env cycles (.fresh c random stall world)).trace) :
    let before := persist env cycles (.fresh c random stall world)
    let after := (cycleWith env before input).state
    let events := after.trace.drop before.trace.length
    (accessesOf events).length ≤ 1 ∧
      (∀ route call, .deviceWrite route call ∈ events →
        ∃ mapping, route.target = some mapping ∧
          WriteContract env after.trace route call mapping) ∧
      ∀ route call, .deviceRead route call ∈ events →
        ∃ mapping, route.target = some mapping ∧ ReadContract env route call mapping := by
  intro before after events
  have traces := persist_traces env cycles random stall world
  rw [← trace_drive input.2, ← view_drive input.2] at traces
  rw [← trace_drive input.2] at offTop
  obtain ⟨made, trace, calls⟩ := (cycle_calling env before input).source
  obtain rfl : events = made := by
    simp only [events, after, trace, trace_drive, List.drop_left]
  rcases calls with none | ⟨start, finish, step, earlier, advances, first, took, same, engine⟩
  · have silent : ∀ event ∈ events, event.accesses = false := by
      simpa using List.filter_eq_nil_iff.mp none
    refine ⟨by simp [none], fun route call member => ?_, fun route call member => ?_⟩
    · cases silent _ member
    · cases silent _ member
  · have inStep : ∀ event ∈ events, event.accesses = true → event ∈ step := by
      intro event member accesses
      have kept : event ∈ accessesOf events := List.mem_filter.mpr ⟨member, accesses⟩
      rw [same] at kept
      exact (List.mem_filter.mp kept).1
    have longer : ∀ event ∈ start.trace, event ∈ after.trace := by
      intro event member
      rw [advances.trace] at member
      rw [show after.trace = _ from trace]
      rcases List.mem_append.mp member with old | new
      · exact List.mem_append_left _ old
      · exact List.mem_append_right _ (first.subset new)
    refine ⟨same ▸ took.step.length_accesses, fun route call member => ?_,
      fun route call member => ?_⟩
    · have made := inStep _ member rfl
      rcases engine with ⟨monitors, -⟩ | reads
      · exact writeContract_of_took traces offTop advances monitors took made longer
      · exact absurd (reads _ made) (by simp [Event.ofReadEngine])
    · exact readContract_of_took traces advances took (inStep _ member rfl)

/-- An exclusive read and an exclusive write of two words, whose second beat is still missing. -/
def halfPair : List (Config.small.Inputs × Bool) :=
  [(fun _ => { rReady := true, arValid := true, ar := { wordAt 0x1008 3 true with length := 1 } },
      false),
    (takeAll, false),
    (fun _ =>
      { awValid := true
        aw := { wordAt 0x1008 3 true with length := 1 }
        wValid := true
        w := { data := fun _ => 8, strobe := fun _ => 1 } },
      false)]

/-- The second beat. -/
def otherHalf : Config.small.Inputs := fun _ =>
  { wValid := true, w := { data := fun _ => 9, strobe := fun _ => 1, last := true } }

open AxiFabric in
/-- After two accepted bursts, the beat that completes the exclusive write calls the device with
both words. -/
theorem device_call_contract_small :
    let before := persist smallEnv halfPair (.fresh Config.small 1 .never smallWorld)
    let after := (cycleWith smallEnv before (otherHalf, false)).state
    (awOf ⟨0, by decide⟩ before.trace).length = 1 ∧
      (arOf ⟨0, by decide⟩ before.trace).length = 1 ∧ OffTop before.trace ∧
      ∃ route call mapping, .deviceWrite route call ∈ after.trace.drop before.trace.length ∧
        call.data = [8, 8, 8, 8, 9, 9, 9, 9] ∧
        WriteContract smallEnv after.trace route call mapping := by
  intro before after
  have offTop : OffTop before.trace := by decide +kernel
  have made : ((after.trace.drop before.trace.length).any fun event =>
      match event with
      | .deviceWrite _ call => call.data == [8, 8, 8, 8, 9, 9, 9, 9]
      | _ => false) = true := by
    decide +kernel
  obtain ⟨-, writes, -⟩ := device_call_contract smallEnv halfPair (otherHalf, false) 1 .never
    smallWorld offTop
  obtain ⟨event, member, isWrite⟩ := List.any_eq_true.mp made
  refine ⟨by decide +kernel, by decide +kernel, offTop, ?_⟩
  cases event with
  | deviceWrite route call =>
      obtain ⟨mapping, -, contract⟩ := writes route call member
      exact ⟨route, call, mapping, member, eq_of_beq isWrite, contract⟩
  | _ => cases isWrite

end AxiTestbench
