import AxiTestbench.Fabric.Bursts
import AxiTestbench.Fabric.Drain
import AxiTestbench.Fabric.Service

/-!
# Lawful initiators

What the protocol asks of an initiator is stated on the wires of its port: a
stalled request is held, a request has a legal shape, and the W beats are those
that the accepted AW requests announce.  Initiators that obey are not accused of
anything, with one exception that the fabric makes on purpose: the table of
exclusive monitors has `routeDepth` entries and an exclusive read that finds it
taken by others ends the simulation.
-/

namespace AxiTestbench

open Lib Outcome

variable {c : Config} {W : Type}

/-! ## What the protocol asks -/

/-- A request that the protocol allows. -/
structure AddressPayload.Lawful (c : Config) (payload : AddressPayload) : Prop where
  burst : payload.LegalBurst c.dataBytes
  inWidth : payload.address.toNat < 2 ^ c.addressBits
  exclusive : payload.lock = true → ExclusiveShape payload

theorem AddressPayload.Lawful.routable {payload : AddressPayload} (lawful : payload.Lawful c) :
    Routable c payload := by
  refine ⟨lawful.burst.accepted c.dataBytes_eq, fun byte visible => ?_, lawful.exclusive⟩
  obtain ⟨cursor, built⟩ := lawful.burst.built c.dataBytes_eq
  obtain ⟨index, inRange, lower, upper, -⟩ := (mem_visibleBytes_iff cursor built byte).mp visible
  have page := lawful.burst.page c.dataBytes_eq inRange ⟨lower, upper⟩
  have address := lawful.inWidth
  -- The width is a whole number of pages.
  rcases c.addressBits_eq with bits | bits
  · have limit : addressLimit c = 2 ^ 32 - 1 := by simp [addressLimit, bits]
    rw [bits] at address
    omega
  · have limit : addressLimit c = 2 ^ 64 - 1 := by simp [addressLimit, bits]
    rw [bits] at address
    omega

/-- A W beat that the protocol allows where it is owed.  Byte addresses are
unbounded integers. -/
structure OwedBeat.Lawful (owed : OwedBeat) (beat : c.WriteBeat) : Prop where
  last : beat.last = (owed.index + 1 == owed.payload.beats)
  lanes : ∀ lane, beat.strobe lane ≠ 0 →
    owed.payload.beatStart owed.index ≤ owed.payload.busWord c.dataBytes owed.index + lane ∧
      owed.payload.busWord c.dataBytes owed.index + lane < owed.payload.beatEnd owed.index

/-- The beat strobes no lane if it ends where the address space does. -/
def OwedBeat.BelowTop (owed : OwedBeat) (beat : c.WriteBeat) : Prop :=
  (∃ lane, beat.strobe lane ≠ 0) → owed.payload.beatEnd owed.index < 2 ^ 64

theorem OwedBeat.Lawful.fits {owed : OwedBeat} {beat : c.WriteBeat} (lawful : owed.Lawful beat)
    (below : owed.BelowTop beat) : owed.Fits beat := by
  refine ⟨lawful.last, fun lane strobed => ?_⟩
  obtain ⟨lower, upper⟩ := lawful.lanes lane strobed
  exact (owed.payload.mask_ne_zero_iff owed.index lane).mpr ⟨lower, upper, below ⟨lane, strobed⟩⟩

/-- The W beats of a port, each with the beat that the AW requests of the port
announce in its place. -/
def wStream (port : c.Port) (history : List (Event c)) : List (OwedBeat × c.WriteBeat) :=
  ((awOf port history).flatMap fun payload => owedFrom payload 0).zip (wOf port history)

/-- The requests and W beats of every port obey the protocol. -/
structure Lawful (history : List (Event c)) : Prop where
  aw : ∀ port, ∀ payload ∈ awOf port history, payload.Lawful c
  ar : ∀ port, ∀ payload ∈ arOf port history, payload.Lawful c
  w : ∀ port, ∀ pair ∈ wStream port history, pair.1.Lawful pair.2

/-- No W beat strobes a byte in a beat that ends at the top of the 64-bit space. -/
def BelowTop (history : List (Event c)) : Prop :=
  ∀ port, ∀ pair ∈ wStream port history, pair.1.BelowTop pair.2

instance (previous : MasterSignals c.dataBytes) (signals : SlaveSignals c.dataBytes)
    (current : MasterSignals c.dataBytes) :
    Decidable (AxiFabric.Violates previous signals current) :=
  inferInstanceAs (Decidable (_ ∨ _ ∨ _))

/-- In consecutive cycles without reset no stalled request is withdrawn. -/
def AxiFabric.Holds (env : FabricEnv W) (cycles : List (c.Inputs × Bool))
    (start : AxiFabric c W) : Prop :=
  ∀ earlier last next rest before, cycles = earlier ++ last :: next :: rest →
    last.2 = false → next.2 = false → run env earlier start = .ok before →
    ∀ port, ¬Violates (last.1 port) ((drive false before).outputs port) (next.1 port)

/-! ## The place of a W beat -/

theorem owedFrom_zero_split {payload : AddressPayload} (first : Nat) :
    owedFrom payload 0 =
      ((List.range payload.beats).take first).map (OwedBeat.mk payload) ++
        owedFrom payload first := by
  simp only [owedFrom, List.drop_zero]
  rw [← List.map_append, List.take_append_drop]

theorem length_owed (payloads : List AddressPayload) :
    (payloads.flatMap fun payload => owedFrom payload 0).length = totalBeats payloads := by
  simp [owedFrom, totalBeats, List.length_flatMap]

/-- The head of the W FIFO stands in the W stream where the front route needs it. -/
theorem WriteAccount.next_pair {history : List (Event c)} {state : Pipeline c W}
    {route : WriteRoute c} {routes : List (WriteRoute c)} {beat : c.WriteBeat}
    {rest : List c.WriteBeat} (account : WriteAccount route.port history state)
    (ordered : Ordered state) (front : state.writeRoutes = route :: routes)
    (running : route.beat < route.payload.beats)
    (queue : (state.ports route.port).w = beat :: rest) :
    (⟨route.payload, route.beat⟩, beat) ∈ wStream route.port history := by
  have waiting : (routesOf route.port routes).flatMap WriteRoute.stagedBeats = [] := by
    refine List.flatMap_eq_nil_iff.mpr fun other member => ?_
    have tail : other ∈ state.writeRoutes.tail := by
      rw [front]
      exact List.mem_of_mem_filter member
    exact (ordered.waitingWrites other tail).stagedBeats
  have here : routesOf route.port state.writeRoutes = route :: routesOf route.port routes := by
    simp [routesOf, front]
  have aw := account.aw
  have w := account.w
  rw [account.staged, here, List.flatMap_cons, waiting, List.append_nil, queue] at w
  rw [here, List.map_cons] at aw
  rw [wStream, aw, w, List.append_assoc, List.flatMap_append, List.cons_append, List.flatMap_cons,
    owedFrom_zero_split route.beat, owedFrom_of_lt running, ← List.append_assoc,
    ← List.append_assoc, List.append_assoc _ (_ :: _), List.cons_append, List.zip_append]
  · simp
  · rw [List.length_append, List.length_append, length_owed, length_stagedBeats account.full]
    simp [WriteRoute.stagedBeats, Nat.min_eq_left (Nat.le_of_lt running)]

/-! ## Who asks for monitors -/

/-- The port and ID of an exclusive read. -/
@[simp] def Event.exclusiveKey? : Event c → Option (c.Port × UInt64)
  | .ar port payload => if payload.lock then some (port, payload.id) else none
  | _ => none

/-- The ports and IDs of the exclusive reads that were accepted. -/
def exclusiveKeys (history : List (Event c)) : Finset (c.Port × UInt64) :=
  (picked Event.exclusiveKey? history).toFinset

theorem mem_exclusiveKeys {history : List (Event c)} {port : c.Port} {payload : AddressPayload}
    (accepted : .ar port payload ∈ history) (lock : payload.lock = true) :
    (port, payload.id) ∈ exclusiveKeys history := by
  rw [exclusiveKeys, List.mem_toFinset]
  exact List.mem_filterMap.mpr ⟨_, accepted, by simp [lock]⟩

theorem exclusiveKeys_mono (history more : List (Event c)) :
    exclusiveKeys history ⊆ exclusiveKeys (history ++ more) := by
  intro key member
  rw [exclusiveKeys, List.mem_toFinset] at member ⊢
  rw [picked_append]
  exact List.mem_append_left _ member

/-- Every monitor in use was asked for by an accepted exclusive read. -/
def Claimed (history : List (Event c)) (monitors : Monitors c) : Prop :=
  ∀ slot, (monitors slot).valid = true → (monitors slot).key ∈ exclusiveKeys history

theorem Sound.claims {env : FabricEnv W} {history : List (Event c)} {state : Pipeline c W}
    (sound : Sound env history state) {route : ReadRoute c} (member : route ∈ state.readRoutes)
    (exclusive : route.exclusive = true) : route.key ∈ exclusiveKeys history := by
  have lock : route.payload.lock = true := by
    rw [← (sound.reads route member).exclusive_eq]
    exact exclusive
  exact mem_exclusiveKeys (sound.readsAccepted route member) lock

theorem Claimed.step {env : FabricEnv W} {history more : List (Event c)}
    {state next : Pipeline c W} (claimed : Claimed history state.monitors)
    (sound : Sound env history state) (taken : Pipeline.Step env state more next) :
    Claimed (history ++ more) next.monitors := by
  intro slot valid
  apply exclusiveKeys_mono history more
  rcases taken.table with dropped | ⟨route, routes, front, exclusive, -, -, established⟩
  · have same := dropped slot valid
    rw [same] at valid ⊢
    exact claimed slot valid
  · obtain ⟨made, key, others, -⟩ := establishMonitor_slot established
    by_cases here : slot = made
    · rw [here, key]
      exact sound.claims (by simp [front]) exclusive
    · rw [others slot here] at valid ⊢
      exact claimed slot valid

theorem Claimed.of_traces {env : FabricEnv W} {world : W} {history : List (Event c)}
    {state : Pipeline c W}
    (trace : Traces (Pipeline.ActiveStep env) (.empty c world) history state) :
    Claimed history state.monitors := by
  refine (trace.invariant (fun history state =>
    Ordered state ∧ Sound env history state ∧ Claimed history state.monitors) ?_ ?_).2.2
  · refine ⟨.empty world, .empty env world, fun slot valid => ?_⟩
    simp [Pipeline.empty] at valid
  · rintro history state more next ⟨ordered, sound, claimed⟩ taken
    exact ⟨ordered.step taken.1, sound.step ordered taken, claimed.step sound taken.1⟩

namespace AxiFabric

/-! ## What the fabric has recorded -/

/-- The trace of the fabric explains its state. -/
def Recorded (env : FabricEnv W) (fabric : AxiFabric c W) : Prop :=
  ∃ world, Traces (Pipeline.Step env) (.empty c world) fabric.trace fabric.view

/-- The requests and beats since the last reset. -/
abbrev epoch (fabric : AxiFabric c W) : List (Event c) := sinceReset fabric.trace

namespace Recorded

variable {env : FabricEnv W} {fabric after : AxiFabric c W}

theorem reachable (recorded : Recorded env fabric) : Reachable env fabric.view := by
  obtain ⟨world, traces⟩ := recorded
  exact ⟨world, _, traces⟩

theorem advance {events : List (Event c)} (recorded : Recorded env fabric)
    (advances : Advances env fabric after events) : Recorded env after := by
  obtain ⟨world, traces⟩ := recorded
  refine ⟨world, ?_⟩
  rw [advances.trace]
  exact traces.trans advances.steps

theorem works (recorded : Recorded env fabric) (works : Works env fabric after) :
    Recorded env after := by
  obtain ⟨events, advances, -⟩ := works
  exact recorded.advance advances

theorem accounts (recorded : Recorded env fabric) :
    Conserved fabric.epoch fabric.view ∧ Sound env fabric.epoch fabric.view ∧
      Claimed fabric.epoch fabric.monitors := by
  obtain ⟨world, traces⟩ := recorded
  obtain ⟨start, epoch⟩ := epoch_traces traces
  exact ⟨.of_traces epoch, .of_traces epoch, .of_traces epoch⟩

end Recorded

end AxiFabric

/-- Internal work only adds internal events to the epoch. -/
theorem Works.epoch_eq {env : FabricEnv W} {fabric after : AxiFabric c W}
    (works : Works env fabric after) :
    ∃ work, after.epoch = fabric.epoch ++ work ∧ ∀ event ∈ work, event.internal = true := by
  obtain ⟨work, advances, internal⟩ := works
  refine ⟨work, ?_, internal⟩
  rw [AxiFabric.epoch, advances.trace]
  exact sinceReset_append_of_active _ fun event member =>
    Event.isReset_of_internal (internal event member)

theorem Works.picked_eq {env : FabricEnv W} {fabric after : AxiFabric c W}
    (works : Works env fabric after) {T : Type} (select : Event c → Option T)
    (silent : ∀ event, event.internal = true → select event = none) :
    picked select after.epoch = picked select fabric.epoch := by
  obtain ⟨work, longer, internal⟩ := works.epoch_eq
  have none : picked select work = [] :=
    List.filterMap_eq_nil_iff.mpr fun event member => silent event (internal event member)
  rw [longer, picked_append, none, List.append_nil]

theorem Works.wStream_eq {env : FabricEnv W} {fabric after : AxiFabric c W}
    (works : Works env fabric after) (port : c.Port) :
    wStream port after.epoch = wStream port fabric.epoch := by
  have aw : awOf port after.epoch = awOf port fabric.epoch := by
    refine works.picked_eq _ fun event internal => ?_
    cases event <;> first | rfl | cases internal
  have w : wOf port after.epoch = wOf port fabric.epoch := by
    refine works.picked_eq _ fun event internal => ?_
    cases event <;> first | rfl | cases internal
  rw [wStream, wStream, aw, w]

/-- Internal work is not seen on the wires. -/
theorem Works.lawful {env : FabricEnv W} {fabric after : AxiFabric c W}
    (works : Works env fabric after) (lawful : Lawful after.epoch) : Lawful fabric.epoch := by
  obtain ⟨work, longer, -⟩ := works.epoch_eq
  refine ⟨fun port payload member => lawful.aw port payload ?_,
    fun port payload member => lawful.ar port payload ?_, fun port pair member => ?_⟩
  · rw [mem_awOf, longer]
    exact List.mem_append_left _ (mem_awOf.mp member)
  · rw [mem_arOf, longer]
    exact List.mem_append_left _ (mem_arOf.mp member)
  · exact lawful.w port pair (by rwa [works.wStream_eq port])

theorem Works.belowTop {env : FabricEnv W} {fabric after : AxiFabric c W}
    (works : Works env fabric after) (below : BelowTop after.epoch) : BelowTop fabric.epoch := by
  intro port pair member
  rw [← works.wStream_eq port] at member
  exact below port pair member

namespace AxiFabric

/-! ## Accusations of lawful initiators -/

theorem writeDeviceBeat_monitors {env : FabricEnv W} {world : W} {monitors : Monitors c}
    {route : WriteRoute c} {mapping : Mapping} {cursor : BurstCursor c.dataBytes}
    {beatIndex : Nat} {data strobe : Lanes c.dataBytes} {access : WriteAccess c W}
    (written : writeDeviceBeat env world monitors route mapping cursor beatIndex data strobe =
      .ok access) (uncalled : access.call = none) : access.monitors = monitors := by
  simp only [writeDeviceBeat, bind, Except.bind, pure, Except.pure] at written
  repeat' split at written
  all_goals first | contradiction | cases written
  all_goals first | rfl | cases uncalled

/-- A refused reservation changes nothing: the table is the one that refused it. -/
theorem Prepared.table {env : FabricEnv W} {before after : AxiFabric c W} {route : ReadRoute c}
    {routes : List (ReadRoute c)} (prepared : Prepared env before after)
    (front : before.view.readRoutes = route :: routes)
    (exhausted : establishMonitor before.monitors route = none) :
    after.monitors = before.monitors := by
  obtain ⟨events, advances, prepares⟩ := prepared
  have kept := (advances.steps.restrict prepares).invariant
    (fun _ state => state.monitors = before.monitors ∧ state.readRoutes = route :: routes)
    ⟨rfl, front⟩ ?_
  · exact kept.1
  · rintro _ state more next ⟨monitors, reads⟩ ⟨taken, prepares⟩
    cases taken with
    | stage => exact ⟨monitors, reads⟩
    | reserve other others table readFront exclusive first okay established =>
        obtain ⟨rfl, rfl⟩ := List.cons.inj (readFront.symm.trans reads)
        rw [monitors, exhausted] at established
        cases established
    | commitBeat other others cursor mapping data strobe access writeFront built complete room
        regular targeted staged written =>
        -- A beat without an enabled lane is committed without a call.
        have uncalled : access.call = none := by
          cases call : access.call with
          | none => rfl
          | some made => simp [Pipeline.writeEvents, call, Event.prepares] at prepares
        exact ⟨(writeDeviceBeat_monitors written uncalled).trans monitors, reads⟩
    | commitExclusive | commitLast | readBeat | readLast =>
        have impossible := prepares _ (List.mem_append_right _ (List.mem_singleton_self _))
        simp [Event.prepares] at impossible
    | _ => simp [Event.prepares] at prepares

/-- The read engine has refused an exclusive read because other ports and IDs hold
every monitor. -/
def TableFull (fault : Fault) (after : AxiFabric c W) : Prop :=
  ∃ cycle port payload,
    fault = protocolError cycle port .ar "exclusive monitor table exhausted" (some payload) ∧
      payload ∈ arOf port after.epoch ∧ payload.lock = true ∧
      (∀ slot, (after.monitors slot).valid = true ∧
        (after.monitors slot).key ≠ (port, payload.id)) ∧
      c.routeDepth < (exclusiveKeys after.epoch).card

variable {env : FabricEnv W} {inputs : c.Inputs} {fabric after : AxiFabric c W} {fault : Fault}

theorem Refused.unlawful {channel : Channel} {queue : Queues c → List AddressPayload}
    (refused : Refused env fabric channel queue fault)
    (lawful : ∀ port, ∀ payload ∈ queue (fabric.view.ports port), payload.Lawful c) : False := by
  obtain ⟨port, payload, rest, head, unroutable, -⟩ := refused.accused
  exact unroutable (lawful port payload (by simp [head])).routable

theorem WriteFailed.unlawful (failed : WriteFailed env fabric fault after)
    (recorded : Recorded env fabric) (lawful : Lawful fabric.epoch)
    (below : BelowTop fabric.epoch) : False := by
  obtain ⟨route, routes, beat, rest, front, incomplete, queue, misfit, -⟩ :=
    failed.accused recorded.reachable
  obtain ⟨conserved, -, -⟩ := recorded.accounts
  have started := conserved.ordered.writes route (by simp [front])
  have pair := (conserved.writes route.port).next_pair conserved.ordered front
    (started.beat_lt incomplete) queue
  obtain ⟨last, lanes⟩ := (lawful.w route.port _ pair).fits (below route.port _ pair)
  rcases misfit with misplaced | ⟨lane, strobed, illegal⟩
  · exact misplaced last
  · exact lanes lane strobed illegal

theorem ReadFailed.tableFull (failed : ReadFailed env fabric fault after)
    (recorded : Recorded env fabric) : TableFull fault after := by
  obtain ⟨route, routes, front, exclusive, -, -, exhausted, rfl⟩ :=
    failed.accused recorded.reachable
  obtain ⟨-, sound, claimed⟩ := recorded.accounts
  obtain ⟨prepared, -, -⟩ := failed
  have member : route ∈ fabric.view.readRoutes := by simp [front]
  have lock : route.payload.lock = true := by
    rw [← (sound.reads route member).exclusive_eq]
    exact exclusive
  obtain ⟨work, longer, -⟩ := prepared.works.epoch_eq
  have table := Prepared.table prepared front exhausted
  refine ⟨_, route.port, route.payload, rfl, ?_, lock, fun slot => ?_, ?_⟩
  · rw [mem_arOf, longer]
    exact List.mem_append_left _ (sound.readsAccepted route member)
  · rw [table]
    exact establishMonitor_eq_none exhausted slot
  · rw [longer]
    exact recorded.reachable.distinct.exhausted exhausted
      (fun slot valid => exclusiveKeys_mono _ _ (claimed slot valid))
      (exclusiveKeys_mono _ _ (sound.claims member exclusive))

/-- A cycle in which no request is withdrawn and the requests and beats so far are
lawful fails only at the monitor table. -/
theorem FailedCycle.tableFull (failed : FailedCycle env inputs fabric fault after)
    (recorded : Recorded env fabric) (held : ¬∃ port, (fabric.ports port).Broken (inputs port))
    (lawful : Lawful after.epoch) (below : BelowTop after.epoch) : TableFull fault after := by
  have unsuppressed : ∀ routed : AxiFabric c W,
      Works env routed { routed with suppressRead := false } :=
    fun routed => .of_unseen ⟨rfl, rfl, rfl⟩
  cases failed with
  | unstable thrown =>
      have check := checkStability_eq inputs { fabric with wasReset := false }
      rw [thrown] at check
      exact absurd check.1 held
  | aw arrives refused =>
      obtain ⟨-, sound, -⟩ := (recorded.advance arrives.advances).accounts
      refine (refused.unlawful fun port payload member => ?_).elim
      exact lawful.aw port payload (mem_awOf.mpr (sound.awAccepted port payload member))
  | ar arrives aw refused =>
      obtain ⟨-, sound, -⟩ := ((recorded.advance arrives.advances).works aw.works).accounts
      refine (refused.unlawful fun port payload member => ?_).elim
      exact lawful.ar port payload (mem_arOf.mpr (sound.arAccepted port payload member))
  | write arrives aw ar failed =>
      have here := (((recorded.advance arrives.advances).works aw.works).works ar.works).works
        (unsuppressed _)
      have prepared := failed.1.works
      exact (failed.unlawful here (prepared.lawful lawful) (prepared.belowTop below)).elim
  | read arrives aw ar write failed =>
      have here := (((recorded.advance arrives.advances).works aw.works).works ar.works).works
        (unsuppressed _)
      exact failed.tableFull (here.works write.works)

/-! ## Whole runs -/

/-- A run that throws has returned from all cycles before the one that throws. -/
theorem run_error_split {cycles : List (c.Inputs × Bool)} {thrown : Fault × AxiFabric c W}
    (failed : run env cycles fabric = .error thrown) :
    ∃ earlier input rest before, cycles = earlier ++ input :: rest ∧
      run env earlier fabric = .ok before ∧ cycleWith env before input = .error thrown := by
  induction cycles generalizing fabric with
  | nil => cases failed
  | cons input cycles ih =>
      rw [run, List.foldlM_cons] at failed
      cases first : cycleWith env fabric input with
      | error other =>
          rw [first] at failed
          obtain rfl := Except.error.inj failed
          exact ⟨[], input, cycles, fabric, rfl, rfl, first⟩
      | ok middle =>
          rw [first] at failed
          obtain ⟨earlier, last, rest, before, rfl, returned, thrown⟩ := ih failed
          refine ⟨input :: earlier, last, rest, before, rfl, ?_, thrown⟩
          rw [run, List.foldlM_cons, first]
          exact returned

theorem run_snoc (env : FabricEnv W) (cycles : List (c.Inputs × Bool))
    (input : c.Inputs × Bool) (fabric : AxiFabric c W) :
    run env (cycles ++ [input]) fabric = run env cycles fabric >>= (cycleWith env · input) := by
  simp [run, List.foldlM_append]

/-- No watch finds a request withdrawn if every stalled request is held. -/
theorem not_broken_of_holds {earlier rest : List (c.Inputs × Bool)} {random : UInt64}
    {stall : Stall} {world : W}
    (held : Holds env (earlier ++ (inputs, false) :: rest) (.fresh c random stall world))
    (returned : run env earlier (.fresh c random stall world) = .ok fabric) :
    ¬∃ port, (fabric.ports port).Broken (inputs port) := by
  have before : ∀ front last, earlier = front ++ [last] → ∃ middle,
      run env front (.fresh c random stall world) = .ok middle ∧
        cycleWith env middle last = .ok fabric := by
    rintro front last rfl
    rw [run_snoc] at returned
    cases first : run env front (.fresh c random stall world) with
    | error thrown =>
        rw [first] at returned
        cases returned
    | ok middle =>
        rw [first] at returned
        exact ⟨middle, rfl, returned⟩
  rw [← persist_eq_of_run returned, persist_broken_iff env earlier inputs random stall world]
  · rintro ⟨front, last, port, rfl, active, violates⟩
    obtain ⟨middle, first, -⟩ := before front last rfl
    rw [persist_eq_of_run first] at violates
    exact held front last (inputs, false) rest middle (by simp) active rfl first port violates
  · rintro front last split ⟨fault, after, thrown, -⟩
    obtain ⟨middle, first, done⟩ := before front last split
    rw [persist_eq_of_run first, done] at thrown
    cases thrown

/-- What every handshake of a run has, and every other event, the trace has. -/
theorem run_forall {env : FabricEnv W} {cycles : List (c.Inputs × Bool)} {fabric : AxiFabric c W}
    {holds : Event c → Prop}
    (quiet : ∀ event : Event c, event.internal = true ∨ event = .tick ∨ event = .reset ∨
      event = .resetDevices → holds event)
    (shaken : ∀ input ∈ cycles, ∀ outputs event, Shaken outputs input.1 event → holds event)
    (start : ∀ event ∈ fabric.trace, holds event) :
    ∀ event ∈ (run env cycles fabric).state.trace, holds event := by
  have one : ∀ input ∈ cycles, ∀ before : AxiFabric c W, (∀ event ∈ before.trace, holds event) →
      ∀ event ∈ (cycleWith env before input).state.trace, holds event := by
    rintro ⟨inputs, resetActive⟩ member before start
    cases resetActive with
    | true =>
        obtain ⟨after, done, advances⟩ := commit_reset env inputs (drive true before)
        rw [show cycleWith env before (inputs, true) = .ok after from done, state_ok,
          (follows_of_advances advances).trace]
        intro event inTrace
        rcases List.mem_append.mp inTrace with old | new
        · exact start event old
        · refine quiet event ?_
          split at new <;> simp at new <;> tauto
    | false =>
        have shake : ∀ event ∈ handshakes (drive false before).outputs inputs, holds event :=
          fun event inShakes => shaken _ member _ event (shaken_of_mem inShakes)
        have ends := commit_active env inputs (drive false before) (drive_driven before)
        have both : Ends (cycleWith env before (inputs, false))
            (fun after => ∀ event ∈ after.trace, holds event)
            fun _ after => ∀ event ∈ after.trace, holds event := by
          refine ends.mono ?_ ?_
          · rintro after ⟨work, internal, advances⟩ event inTrace
            rw [(follows_of_advances advances).trace] at inTrace
            simp only [List.mem_append, List.mem_singleton] at inTrace
            rcases inTrace with old | (new | inWork) | rfl
            · exact start event old
            · exact shake event new
            · exact quiet event (.inl (internal event inWork))
            · exact quiet _ (.inr (.inl rfl))
          · rintro _ after (advances | ⟨work, internal, advances⟩) event inTrace
            · rw [(follows_of_advances advances).trace, List.append_nil] at inTrace
              exact start event inTrace
            · rw [(follows_of_advances advances).trace] at inTrace
              simp only [List.mem_append] at inTrace
              rcases inTrace with old | new | inWork
              · exact start event old
              · exact shake event new
              · exact quiet event (.inl (internal event inWork))
        exact both.state_of_both
  induction cycles generalizing fabric with
  | nil => exact start
  | cons input cycles ih =>
      have first := one input (by simp) fabric start
      rw [run, List.foldlM_cons]
      cases done : cycleWith env fabric input with
      | error thrown =>
          rw [done] at first
          exact first
      | ok middle =>
          rw [done] at first
          exact ih (fun other member => shaken other (by simp [member])) first
            fun other member => one other (by simp [member])

/-- Check along a run that every stalled request is held. -/
def holdsFrom (env : FabricEnv W) : AxiFabric c W → List (c.Inputs × Bool) → Bool
  | fabric, last :: next :: rest =>
      (last.2 || next.2 || decide (∀ port,
        ¬Violates (last.1 port) ((drive false fabric).outputs port) (next.1 port))) &&
        match cycleWith env fabric last with
        | .ok after => holdsFrom env after (next :: rest)
        | .error _ => true
  | _, _ => true

theorem holds_of_holdsFrom {cycles : List (c.Inputs × Bool)}
    (checked : holdsFrom env fabric cycles = true) : Holds env cycles fabric := by
  intro earlier last next rest before split active still returned port
  induction earlier generalizing fabric cycles with
  | nil =>
      subst split
      obtain rfl := Except.ok.inj returned
      simp only [List.nil_append, holdsFrom, active, still, Bool.false_or, Bool.and_eq_true,
        decide_eq_true_eq] at checked
      exact checked.1 port
  | cons first earlier ih =>
      subst split
      rw [run, List.foldlM_cons] at returned
      cases done : cycleWith env fabric first with
      | error thrown =>
          rw [done] at returned
          cases returned
      | ok middle =>
          rw [done] at returned
          refine ih ?_ rfl returned
          obtain ⟨second, others, equal⟩ :=
            List.exists_cons_of_ne_nil (List.append_ne_nil_of_right_ne_nil earlier
              (List.cons_ne_nil last (next :: rest)))
          rw [List.cons_append, equal, holdsFrom, done, Bool.and_eq_true] at checked
          rw [equal]
          exact checked.2

end AxiFabric

open AxiFabric in
/-- A run of lawful initiators throws for want of a monitor only. -/
theorem tableFull_of_thrown {env : FabricEnv W} {cycles : List (c.Inputs × Bool)}
    {random : UInt64} {stall : Stall} {world : W} {fault : Fault} {after : AxiFabric c W}
    (outcome : run env cycles (.fresh c random stall world) = .error (fault, after))
    (held : Holds env cycles (.fresh c random stall world)) (lawful : Lawful after.epoch)
    (below : BelowTop after.epoch) : TableFull fault after := by
  obtain ⟨earlier, ⟨inputs, resetActive⟩, rest, before, rfl, returned, thrown⟩ :=
    run_error_split outcome
  cases resetActive with
  | true =>
      obtain ⟨other, done, -⟩ := commit_reset env inputs (drive true before)
      rw [show cycleWith env before (inputs, true) = .ok other from done] at thrown
      cases thrown
  | false =>
      have failed := commit_cycle env inputs (drive false before) (drive_driven before)
      rw [show commit env inputs false (drive false before) = .error (fault, after) from thrown]
        at failed
      have recorded : Recorded env (drive false before) := by
        refine ⟨world, ?_⟩
        have traces := run_traces env earlier random stall world
        rw [returned] at traces
        simpa using traces
      refine FailedCycle.tableFull failed recorded ?_ lawful below
      rw [ports_drive]
      exact not_broken_of_holds held returned

open AxiFabric in
/-- Initiators that hold their stalled requests and whose requests and W beats are
lawful are never accused, as long as no strobed beat ends at the top of the 64-bit
space and exclusive reads find a monitor. -/
theorem lawful_initiators_unaccused (env : FabricEnv W) (cycles : List (c.Inputs × Bool))
    (random : UInt64) (stall : Stall) (world : W)
    (held : Holds env cycles (.fresh c random stall world))
    (lawful : Lawful (run env cycles (.fresh c random stall world)).state.epoch)
    (below : BelowTop (run env cycles (.fresh c random stall world)).state.epoch) :
    (∃ final, run env cycles (.fresh c random stall world) = .ok final) ∨
      ∃ fault after, run env cycles (.fresh c random stall world) = .error (fault, after) ∧
        TableFull fault after := by
  cases outcome : run env cycles (.fresh c random stall world) with
  | ok final => exact .inl ⟨final, rfl⟩
  | error thrown =>
      obtain ⟨fault, after⟩ := thrown
      rw [outcome] at lawful below
      exact .inr ⟨fault, after, rfl, tableFull_of_thrown outcome held lawful below⟩

/-- A request for one word is lawful on a 32-bit bus. -/
theorem wordAt_lawful (data : c.dataBits = 32) (bits : c.addressBits = 32) (id : UInt64)
    (lock : Bool) : (wordAt 0x1004 id lock).Lawful c := by
  have bytes : c.dataBytes = 4 := by rw [Config.dataBytes, data]
  have shape : ExclusiveShape (wordAt 0x1004 id lock) :=
    ⟨rfl, (by decide : 1 ≤ 16), (by decide : 4 ≤ 128), ⟨2, rfl⟩, (by decide : 4 ∣ 0x1004)⟩
  refine ⟨⟨?_, ?_, ?_, ?_, ?_⟩, ?_, fun _ => shape⟩
  · rw [bytes]
    exact (by decide : 2 ^ 2 ≤ 4)
  · exact (by decide : Burst.increment ≠ .reserved)
  · exact (by decide : Burst.increment = .fixed → 1 ≤ 16)
  · exact fun impossible => Burst.noConfusion impossible
  · exact fun _ => (by decide : 0x1004 / 4096 = (0x1004 / 2 ^ 2 * 2 ^ 2 + 1 * 2 ^ 2 - 1) / 4096)
  · rw [bits]
    exact (by decide : 0x1004 < 2 ^ 32)

open AxiFabric in
/-- A write of one word and a read of it. -/
theorem lawful_initiators_unaccused_small :
    (∃ final, run smallEnv [(writeWord 0x1004 3 false 7, false), (readWord 0x1004 5 false, false)]
        (.fresh Config.small 1 .never smallWorld) = .ok final) ∨
      ∃ fault after, run smallEnv
        [(writeWord 0x1004 3 false 7, false), (readWord 0x1004 5 false, false)]
        (.fresh Config.small 1 .never smallWorld) = .error (fault, after) ∧
        TableFull fault after := by
  let history := (run smallEnv
    [(writeWord 0x1004 3 false 7, false), (readWord 0x1004 5 false, false)]
    (.fresh Config.small 1 .never smallWorld)).state.epoch
  have requests : ∀ port, (∀ payload ∈ awOf port history, payload = wordAt 0x1004 3 false) ∧
      ∀ payload ∈ arOf port history, payload = wordAt 0x1004 5 false := by
    decide +kernel
  have beats : ∀ port, ∀ pair ∈ wStream port history,
      pair.2.last = (pair.1.index + 1 == pair.1.payload.beats) ∧
        pair.1.payload.beatEnd pair.1.index < 2 ^ 64 ∧ ∀ lane, pair.2.strobe lane ≠ 0 →
          pair.1.payload.beatStart pair.1.index ≤ pair.1.payload.busWord 4 pair.1.index + lane ∧
            pair.1.payload.busWord 4 pair.1.index + lane <
              pair.1.payload.beatEnd pair.1.index := by
    decide +kernel
  refine lawful_initiators_unaccused smallEnv _ 1 .never smallWorld
    (holds_of_holdsFrom (by decide +kernel)) ⟨?_, ?_, ?_⟩ ?_
  · intro port payload member
    rw [(requests port).1 payload member]
    exact wordAt_lawful rfl rfl 3 false
  · intro port payload member
    rw [(requests port).2 payload member]
    exact wordAt_lawful rfl rfl 5 false
  · intro port pair member
    obtain ⟨last, -, lanes⟩ := beats port pair member
    exact ⟨last, lanes⟩
  · intro port pair member _
    exact (beats port pair member).2.1

/-- One 32-bit port with IDs of eight bits. -/
def Config.wideIds : Config :=
  { Config.small with idBits := 8, idBits_range := by decide }

/-- An initiator that reserves one word under one ID after the other. -/
def reserveMany : List (Config.wideIds.Inputs × Bool) :=
  (List.range 65).map fun id =>
    (fun _ => { rReady := true, arValid := true, ar := wordAt 0x1004 (UInt64.ofNat id) true },
      false)

/-- The initiator drives nothing but lawful AR requests. -/
def Event.OnlyReads : Event c → Prop
  | .aw _ _ | .w _ _ => False
  | .ar _ payload => payload.Lawful c
  | _ => True

open AxiFabric in
/-- Every request of `reserveMany` is lawful, and the 65th finds no monitor. -/
theorem lawful_reads_exhaust_table :
    Holds smallEnv reserveMany (.fresh Config.wideIds 1 .never smallWorld) ∧
      Lawful (run smallEnv reserveMany (.fresh Config.wideIds 1 .never smallWorld)).state.epoch ∧
      BelowTop (run smallEnv reserveMany (.fresh Config.wideIds 1 .never smallWorld)).state.epoch ∧
      ∃ context after, run smallEnv reserveMany (.fresh Config.wideIds 1 .never smallWorld) =
        .error (.protocol (some context) "exclusive monitor table exhausted", after) := by
  have driven : ∀ event ∈
      (run smallEnv reserveMany (.fresh Config.wideIds 1 .never smallWorld)).state.epoch,
      event.OnlyReads := by
    intro event member
    refine run_forall (fun event quiet => ?_) (fun input inCycles outputs event shaken => ?_)
      (by simp [fresh]) event (mem_of_mem_sinceReset member)
    · cases event <;> first | exact True.intro | simp [Event.internal] at quiet
    · obtain ⟨id, -, rfl⟩ := List.mem_map.mp inCycles
      cases shaken with
      | b | r => exact True.intro
      | aw port valid | w port valid => cases valid
      | ar port valid => exact wordAt_lawful rfl rfl _ true
  have noWrites : ∀ port payload, payload ∉ awOf port
      (run smallEnv reserveMany (.fresh Config.wideIds 1 .never smallWorld)).state.epoch :=
    fun port payload member => driven _ (mem_awOf.mp member)
  have noBeats : ∀ port, wStream port
      (run smallEnv reserveMany (.fresh Config.wideIds 1 .never smallWorld)).state.epoch = [] := by
    intro port
    simp [wStream, List.eq_nil_iff_forall_not_mem.mpr (noWrites port)]
  have held : Holds smallEnv reserveMany (.fresh Config.wideIds 1 .never smallWorld) :=
    holds_of_holdsFrom (by decide +kernel)
  have lawful : Lawful
      (run smallEnv reserveMany (.fresh Config.wideIds 1 .never smallWorld)).state.epoch := by
    refine ⟨?_, ?_, ?_⟩
    · exact fun port payload member => absurd member (noWrites port payload)
    · exact fun port payload member => driven _ (mem_arOf.mp member)
    · exact fun port pair member => by simp [noBeats port] at member
  have below : BelowTop
      (run smallEnv reserveMany (.fresh Config.wideIds 1 .never smallWorld)).state.epoch :=
    fun port pair member => by simp [noBeats port] at member
  refine ⟨held, lawful, below, ?_⟩
  have throws :
      (run smallEnv reserveMany (.fresh Config.wideIds 1 .never smallWorld)).isOk = false := by
    decide +kernel
  cases outcome : run smallEnv reserveMany (.fresh Config.wideIds 1 .never smallWorld) with
  | ok final =>
      rw [outcome] at throws
      cases throws
  | error thrown =>
      obtain ⟨fault, after⟩ := thrown
      rw [outcome] at lawful below
      obtain ⟨cycle, port, payload, rfl, -⟩ := tableFull_of_thrown outcome held lawful below
      exact ⟨_, after, rfl⟩

end AxiTestbench
