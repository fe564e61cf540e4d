import AxiTestbench.Lib.Numbering
import AxiTestbench.Fabric.Ledger

/-!
# A write response means global visibility

The RAMs hold what the log of stores leaves, and the log only grows.  A read beat
returns what a prefix of the log leaves: one that holds every store of a write
whose response was taken no later than the AR handshake of the read, and none of a
write whose last W beat had not been accepted when the beat was taken.
-/

namespace AxiTestbench

open Lib Outcome

variable {c : Config} {W : Type}

/-! ## Numbers in the log -/

theorem WriteRoute.write_of_stores {route : WriteRoute c} {number count : Nat} {mapping : Mapping}
    {store : Store c} (member : store ∈ route.stores number mapping count) :
    store.write = number := by
  obtain ⟨index, -, rfl⟩ := List.mem_map.mp member
  rfl

theorem WriteRoute.write_of_performed {done : WriteRoute c} {number : Nat} {store : Store c}
    (member : store ∈ done.performed number) : store.write = number := by
  simp only [WriteRoute.performed] at member
  split at member
  next => simp at member
  next mapping targeted =>
    split at member
    next => exact write_of_stores member
    next => simp at member

theorem WriteRoute.write_of_committed {route : WriteRoute c} {number : Nat} {store : Store c}
    (member : store ∈ route.committed number) : store.write = number := by
  simp only [WriteRoute.committed] at member
  split at member
  next => simp at member
  next => exact write_of_stores member

section Log

variable {trace : List (Event c)} {queue : List (WriteRoute c)}

theorem serialStores_eq (trace : List (Event c)) (queue : List (WriteRoute c)) :
    serialStores trace queue = blocks WriteRoute.performed (completedWrites trace) ++
      (queue.take 1).flatMap fun route => route.committed (completedWrites trace).length :=
  rfl

/-- A store in the log belongs to the answered write with its number, or to the
write at the front of the queue. -/
theorem mem_serialStores {store : Store c} (member : store ∈ serialStores trace queue) :
    (∃ done, (completedWrites trace)[store.write]? = some done ∧
        store ∈ done.performed store.write) ∨
      store.write = (completedWrites trace).length ∧ ∃ route routes, queue = route :: routes ∧
        store ∈ route.committed store.write := by
  rw [serialStores_eq] at member
  rcases List.mem_append.mp member with answered | serving
  · exact .inl (mem_blocks (fun _ _ _ => WriteRoute.write_of_performed) answered)
  · obtain ⟨route, inQueue, committed⟩ := List.mem_flatMap.mp serving
    have number := WriteRoute.write_of_committed committed
    cases queue with
    | nil => simp at inQueue
    | cons front routes =>
        obtain rfl : route = front := by simpa using inQueue
        exact .inr ⟨number, route, routes, rfl, number ▸ committed⟩

private theorem write_of_serving {store : Store c}
    (member : store ∈ (queue.take 1).flatMap fun route =>
      route.committed (completedWrites trace).length) :
    store.write = (completedWrites trace).length := by
  obtain ⟨route, -, committed⟩ := List.mem_flatMap.mp member
  exact WriteRoute.write_of_committed committed

/-- The log is ordered by the numbers of the writes. -/
theorem serialStores_sorted (trace : List (Event c)) (queue : List (WriteRoute c)) :
    (serialStores trace queue).Pairwise fun left right => left.write ≤ right.write := by
  rw [serialStores_eq]
  refine List.pairwise_append.mpr
    ⟨blocks_sorted (fun _ _ _ => WriteRoute.write_of_performed) _, ?_, ?_⟩
  · refine List.pairwise_of_forall_mem_list fun left inLeft right inRight => ?_
    rw [write_of_serving inLeft, write_of_serving inRight]
  · intro left answered right serving
    have before := number_lt_of_mem_blocks (fun _ _ _ => WriteRoute.write_of_performed) answered
    rw [write_of_serving serving]
    exact Nat.le_of_lt before

/-- The stores with the number of an answered write are those it performed. -/
theorem serialStores_filter {number : Nat} {done : WriteRoute c}
    (answered : (completedWrites trace)[number]? = some done) :
    (serialStores trace queue).filter (fun store => store.write = number) =
      done.performed number := by
  rw [serialStores_eq, List.filter_append,
    blocks_filter (fun _ _ _ => WriteRoute.write_of_performed) answered]
  have inRange := (List.getElem?_eq_some_iff.mp answered).1
  have none : ((queue.take 1).flatMap fun route =>
      route.committed (completedWrites trace).length).filter (fun store => store.write = number) =
      [] := by
    refine List.filter_eq_nil_iff.mpr fun store serving => ?_
    rw [write_of_serving serving, decide_eq_true_eq]
    omega
  rw [none, List.append_nil]

/-- The log at the answer of a write holds all stores of the write. -/
theorem serialStores_answered {more : List (Event c)} {later : List (WriteRoute c)} {number : Nat}
    {done : WriteRoute c} {newer : List (Store c)}
    (answered : (completedWrites trace)[number]? = some done)
    (grows : serialStores (trace ++ more) later = serialStores trace queue ++ newer) :
    (∀ store ∈ done.performed number, store ∈ serialStores trace queue) ∧
      ∀ store ∈ newer, store.write ≠ number := by
  have now : (serialStores trace queue).filter (fun store => store.write = number) =
      done.performed number :=
    serialStores_filter answered
  have atLast : (serialStores (trace ++ more) later).filter (fun store => store.write = number) =
      done.performed number := by
    refine serialStores_filter ?_
    rw [completedWrites, picked_append,
      List.getElem?_append_left (List.getElem?_eq_some_iff.mp answered).1]
    exact answered
  rw [grows, List.filter_append, now, List.append_right_eq_self] at atLast
  refine ⟨fun store member => ?_, fun store member number => ?_⟩
  · rw [← now] at member
    exact List.mem_of_mem_filter member
  · simpa [number] using List.filter_eq_nil_iff.mp atLast store member

end Log

section Ram

variable {space : AddressSpace} {resetDevices : Bool} {world : RamWorld}

/-- The log only grows. -/
theorem serialStores_extends {history more : List (Event c)} {state next : Pipeline c RamWorld}
    (fits : ∀ mapping ∈ space.mappings, mapping.size ≤ (world mapping.device).size)
    (trace : Traces (Pipeline.ActiveStep { bank := ramBank, space, resetDevices })
      (.empty c world) history state)
    (later : Traces (Pipeline.ActiveStep { bank := ramBank, space, resetDevices })
      state more next) :
    serialStores history state.writeRoutes <+: serialStores (history ++ more) next.writeRoutes := by
  induction later with
  | refl => simp
  | snoc prior taken ih =>
      have whole := trace.trans prior
      have memorized : Memorized world _ _ := .of_traces fits whole
      obtain ⟨stores, logged, -, -⟩ := Logs.step
        (fun mapping member => (memorized.sizes mapping.device).symm ▸ fits mapping member)
        (Conserved.of_traces whole).ordered (.of_traces whole) taken
      rw [← List.append_assoc, logged]
      exact ih.trans (List.prefix_append _ _)

/-! ## What a read beat returns -/

/-- The byte of a device that a bus address stands for. -/
def AddressSpace.storageAt (space : AddressSpace) (address : Nat) : Option StorageByte :=
  (space.resolve address 1).map fun mapping => (mapping.device, address - mapping.base)

/-- An enabled lane of a route with a target stands for a byte of that target. -/
theorem RouteBase.Valid.storage {env : FabricEnv W} {route : RouteBase c}
    (valid : route.Valid env) {mapping : Mapping} (targeted : route.target = some mapping)
    {index : Nat} (inRange : index < route.payload.beats) {lane : Fin c.dataBytes}
    (enabled : route.payload.mask c.dataBytes index lane ≠ 0) :
    mapping.base ≤ route.payload.busWord c.dataBytes index + lane ∧
      env.space.storageAt (route.payload.busWord c.dataBytes index + lane) =
        some (mapping.device, route.payload.busWord c.dataBytes index + lane - mapping.base) := by
  have decodes : Decodes env.space c.dataBytes route.payload mapping := by
    rw [← decodedMapping_eq_some_iff, ← valid.mapping_eq]
    exact (RouteBase.Valid.target_iff.mp targeted).2
  obtain ⟨cursor, built, -⟩ := valid.routable.accepted
  have resolved := decodes.2 _ ((mem_visibleBytes_iff cursor built _).mpr
    ⟨index, inRange, (route.payload.mask_ne_zero_iff index lane).mp enabled⟩)
  obtain ⟨-, -, lower, -⟩ := env.space.resolve_eq_some_iff.mp resolved
  exact ⟨lower, by rw [AddressSpace.storageAt, resolved]; rfl⟩

variable {route : ReadRoute c} {cursor : BurstCursor c.dataBytes} {access : ReadAccess c RamWorld}

/-- A lane of a read beat that a RAM answers, from a window that the RAM holds. -/
theorem BeatRead.lane {mapping : Mapping} {response : Response} {data : List UInt8}
    (spec : BeatRead { bank := ramBank, space, resetDevices } world route mapping response data
      access)
    (valid : route.Valid { bank := ramBank, space, resetDevices })
    (built : BurstCursor.new route.payload = .ok cursor)
    (targeted : route.target = some mapping) (inRange : route.beat < route.payload.beats)
    (below : route.payload.beatEnd route.beat < 2 ^ 64)
    (fits : mapping.size ≤ (world mapping.device).size) (lane : Fin c.dataBytes) :
    response = .okay ∧ access.beat.data lane =
      if route.payload.mask c.dataBytes route.beat lane ≠ 0 then
        ramMemory world (mapping.device,
          route.payload.busWord c.dataBytes route.beat + lane - mapping.base)
      else
        0 := by
  obtain ⟨wordLe, firstEq, endEq, positive, inWord⟩ := beat_span built route.beat
  obtain ⟨-, baseLe, endLe⟩ := valid.window targeted inRange below
  have limitEq : mapping.limit = mapping.base + mapping.size := rfl
  have device := spec.device
  rw [sub64_eq baseLe (by omega)] at device
  have inside : route.payload.beatStart route.beat - mapping.base +
      (span (route.payload.mask c.dataBytes route.beat)
        (route.payload.firstLane c.dataBytes route.beat)
        (route.payload.beatLength route.beat)).length ≤ (world mapping.device).size := by
    rw [length_span _ inWord]
    omega
  obtain ⟨okay, bytes⟩ := (world mapping.device).readImpl_inside inside
  obtain ⟨-, rfl, rfl⟩ : world = access.world ∧ _ = response ∧ _ = data := by
    simpa only [ramBank, Prod.mk.injEq] using device
  refine ⟨okay, ?_⟩
  have enabled := route.payload.mask_ne_zero_iff route.beat lane
  rw [spec.data lane]
  split
  next inLanes =>
    have inSpan : lane.val - route.payload.firstLane c.dataBytes route.beat <
        route.payload.beatLength route.beat := by omega
    rw [length_span _ inWord] at bytes
    rw [bytes _ inSpan, byteAt_span _ inSpan inWord]
    have laneEq : (⟨route.payload.firstLane c.dataBytes route.beat +
        (lane.val - route.payload.firstLane c.dataBytes route.beat), by omega⟩ :
          Fin c.dataBytes) = lane := Fin.ext (by simp only []; omega)
    rw [laneEq]
    refine if_congr Iff.rfl ?_ rfl
    rw [ramMemory]
    exact congrArg _ (by omega)
  next outside =>
    rw [if_neg fun visible => outside ?_]
    have := enabled.mp visible
    omega

/-- An enabled lane of a successful read beat returns the byte it stands for. -/
theorem readDeviceBeat_lane (valid : route.Valid { bank := ramBank, space, resetDevices })
    (built : BurstCursor.new route.payload = .ok cursor)
    (inRange : route.beat < route.payload.beats)
    (fits : ∀ mapping ∈ space.mappings, mapping.size ≤ (world mapping.device).size)
    (accessed : readDeviceBeat { bank := ramBank, space, resetDevices } world route cursor =
      .ok access) {lane : Fin c.dataBytes}
    (success : responseIsSuccess access.beat.response = true)
    (enabled : route.payload.mask c.dataBytes route.beat lane ≠ 0) :
    ∃ byte, space.storageAt (route.payload.busWord c.dataBytes route.beat + lane) = some byte ∧
      access.beat.data lane = ramMemory world byte := by
  obtain ⟨-, -, below⟩ := (route.payload.mask_ne_zero_iff route.beat lane).mp enabled
  cases targeted : route.target with
  | none =>
      obtain ⟨made, madeOk, -, -, response, -⟩ := readDeviceBeat_forced targeted
      rw [Except.ok.inj (accessed.symm.trans madeOk), response, valid.refused targeted] at success
      cases success
  | some mapping =>
      obtain ⟨response, data, spec⟩ := readDeviceBeat_read built targeted inRange below accessed
      obtain ⟨member, -, -⟩ := valid.window targeted inRange below
      obtain ⟨-, dataEq⟩ := spec.lane valid built targeted inRange below (fits mapping member) lane
      rw [if_pos enabled] at dataEq
      exact ⟨_, (valid.storage targeted inRange enabled).2, dataEq⟩

/-- Every other lane of a read beat returns zero. -/
theorem readDeviceBeat_blank (valid : route.Valid { bank := ramBank, space, resetDevices })
    (built : BurstCursor.new route.payload = .ok cursor)
    (inRange : route.beat < route.payload.beats)
    (fits : ∀ mapping ∈ space.mappings, mapping.size ≤ (world mapping.device).size)
    (accessed : readDeviceBeat { bank := ramBank, space, resetDevices } world route cursor =
      .ok access) {lane : Fin c.dataBytes}
    (blank : responseIsSuccess access.beat.response = false ∨
      route.payload.mask c.dataBytes route.beat lane = 0) : access.beat.data lane = 0 := by
  cases targeted : route.target with
  | none =>
      obtain ⟨made, madeOk, -, -, -, zero⟩ := readDeviceBeat_forced targeted
      rw [Except.ok.inj (accessed.symm.trans madeOk), zero]
  | some mapping =>
      rcases (valid.beatEnd_le inRange).lt_or_eq with below | top
      · obtain ⟨response, data, spec⟩ := readDeviceBeat_read built targeted inRange below accessed
        obtain ⟨member, -, -⟩ := valid.window targeted inRange below
        obtain ⟨rfl, dataEq⟩ := spec.lane valid built targeted inRange below (fits mapping member)
          lane
        have success : responseIsSuccess access.beat.response = true := by
          rw [spec.response, ReadRoute.answer]
          split <;> rfl
        rcases blank with failed | masked
        · rw [success] at failed
          cases failed
        · rw [dataEq, if_neg (not_not.mpr masked)]
      · obtain ⟨made, madeOk, -, -, -, zero⟩ :=
          readDeviceBeat_top built targeted inRange (valid.starts inRange) top
        rw [Except.ok.inj (accessed.symm.trans madeOk), zero]

end Ram

/-! ## Writes by number -/

/-- The write of a port that follows `count` others has this number in the order of
routing. -/
def Numbered (trace : List (Event c)) (port : c.Port) (count number : Nat) : Prop :=
  ((routedWrites trace).map fun route => route.port)[number]? = some port ∧
    (((routedWrites trace).map fun route => route.port).take number).count port = count

section Numbers

variable {history more : List (Event c)} {state : Pipeline c W}
  {earlier later : List (WriteRoute c)} {route : WriteRoute c}

theorem Served.ports (served : Served history state) :
    (routedWrites history).map (fun route => route.port) =
      (completedWrites history ++ state.writeRoutes).map fun route => route.port := by
  have decisions := congrArg (List.map fun base : RouteBase c => base.port) served.writes
  simpa [Function.comp_def, RouteBase.decision] using decisions

theorem Served.numbered_iff (served : Served history state)
    (writes : completedWrites history ++ state.writeRoutes = earlier ++ route :: later)
    (port : c.Port) (count : Nat) :
    Numbered (history ++ more) port count earlier.length ↔
      route.port = port ∧ (routesOf port earlier).length = count := by
  have ports : (routedWrites (history ++ more)).map (fun route => route.port) =
      earlier.map (fun route => route.port) ++ (route.port :: (later.map (fun route => route.port) ++
        (routedWrites more).map fun route => route.port)) := by
    rw [routedWrites, picked_append, List.map_append, served.ports, writes]
    simp
  have counted : (earlier.map fun route => route.port).count port =
      (routesOf port earlier).length := by
    rw [routesOf, ← List.countP_eq_length_filter, List.count, List.countP_map]
    exact List.countP_congr fun other _ => by simp
  rw [Numbered, ports, List.getElem?_append_right (by simp), List.take_append_of_le_length (by simp)]
  simp [counted, ← List.map_take]

theorem Conserved.full (conserved : Conserved history state) :
    ∀ done ∈ completedWrites history, done.beat = done.payload.beats := by
  intro done member
  refine (conserved.writes done.port).full done ?_
  rw [completedOf_eq]
  simp [member]

/-- The data of a write that has a store in the log was complete. -/
theorem full_of_mem_serialStores (conserved : Conserved history state) {store : Store c}
    (member : store ∈ serialStores history state.writeRoutes) :
    ∃ earlier route later,
      completedWrites history ++ state.writeRoutes = earlier ++ route :: later ∧
      earlier.length = store.write ∧
      ∀ other ∈ earlier ++ [route], other.beat = other.payload.beats := by
  have answered := conserved.full
  rcases mem_serialStores member with ⟨done, found, -⟩ | ⟨number, route, routes, queue, committed⟩
  · obtain ⟨earlier, later, split, number⟩ := split_of_getElem? found
    refine ⟨earlier, done, later ++ state.writeRoutes, by simp [split], number, ?_⟩
    intro other inWrites
    refine answered other ?_
    rw [split]
    rcases List.mem_append.mp inWrites with front | last
    · exact List.mem_append_left _ front
    · simp [List.mem_singleton.mp last]
  · refine ⟨completedWrites history, route, routes, by rw [queue], number.symm, ?_⟩
    intro other inWrites
    rcases List.mem_append.mp inWrites with front | last
    · exact answered other front
    · obtain rfl := List.mem_singleton.mp last
      have started := conserved.ordered.writes other (by simp [queue])
      have positive : 0 < other.commitBeat := by
        rw [Nat.pos_iff_ne_zero]
        intro none
        rw [WriteRoute.committed_zero none] at committed
        simp at committed
      by_contra partly
      have incomplete : other.dataComplete = false :=
        Bool.eq_false_iff.mpr fun complete => partly (started.complete_iff.mp complete)
      have := started.uncommitted incomplete
      omega

/-- The log holds no store of a write before its last W beat is accepted. -/
theorem accepted_of_mem_serialStores (conserved : Conserved history state)
    (served : Served history state) {store : Store c}
    (member : store ∈ serialStores history state.writeRoutes) {port : c.Port} {count : Nat}
    (numbered : Numbered (history ++ more) port count store.write) :
    totalBeats ((awOf port (history ++ more)).take (count + 1)) ≤ (wOf port history).length := by
  obtain ⟨earlier, route, later, writes, number, full⟩ := full_of_mem_serialStores conserved member
  rw [← number, served.numbered_iff writes] at numbered
  obtain ⟨rfl, rfl⟩ := numbered
  obtain ⟨laterAw, laterW, aw, w⟩ := (conserved.writes route.port).streams writes rfl
  have before : ∀ other ∈ routesOf route.port earlier, other.beat = other.payload.beats :=
    fun other inRoutes => full other (List.mem_append_left _ (List.mem_of_mem_filter inRoutes))
  have requests : (awOf route.port (history ++ more)).take
      ((routesOf route.port earlier).length + 1) =
        (routesOf route.port earlier).map (fun route => route.payload) ++ [route.payload] := by
    rw [awOf] at aw ⊢
    rw [picked_append, aw, List.append_assoc, List.take_append, List.length_map]
    simp
  rw [requests, w, totalBeats_append, totalBeats_singleton, List.length_append,
    length_stagedBeats before, List.length_append]
  simp [WriteRoute.stagedBeats, full route (by simp)]

/-- The response says that the write took effect. -/
def Succeeded (payload : AddressPayload) (response : WriteResponsePayload) : Prop :=
  response.response = if payload.lock then .exclusiveOkay else .okay

/-- A write that took effect, with its beats in the W stream of the port. -/
structure Performed (env : FabricEnv W) (trace : List (Event c)) (port : c.Port) (count : Nat)
    (payload : AddressPayload) (number : Nat) (mapping : Mapping) (done : WriteRoute c) :
    Prop where
  closed : done.Closed env
  payload_eq : done.payload = payload
  target : done.target = some mapping
  full : done.beat = payload.beats
  stores : done.performed number = done.stores number mapping payload.beats
  numbered : Numbered trace port count number
  beats : ∀ index < payload.beats,
    (wOf port trace)[totalBeats ((awOf port trace).take count) + index]? =
      some (done.stagedBeat index)

theorem performed_of_response {env : FabricEnv W} {world : W} {port : c.Port}
    {response : WriteResponsePayload} {rest : List WriteResponsePayload}
    {payload : AddressPayload}
    (traces : Traces (Pipeline.ActiveStep env) (.empty c world) history state)
    (queue : (state.ports port).b = response :: rest)
    (requested : (awOf port (history ++ more))[(bOf port history).length]? = some payload)
    (succeeded : Succeeded payload response) :
    ∃ number mapping done, (completedWrites history)[number]? = some done ∧
      Performed env (history ++ more) port (bOf port history).length payload number mapping
        done := by
  have conserved : Conserved history state := .of_traces traces
  obtain ⟨earlier, done, later, completed, rfl, counted, rfl⟩ :=
    (conserved.writes port).answered_write queue
  have closed := Answered.of_traces traces done (by simp [completed])
  have full := conserved.full
  have writes : completedWrites history ++ state.writeRoutes =
      earlier ++ done :: (later ++ state.writeRoutes) := by
    simp [completed]
  obtain ⟨laterAw, laterW, aw, w⟩ := (conserved.writes done.port).streams writes rfl
  have allAw : awOf done.port (history ++ more) =
      (routesOf done.port earlier).map (fun route => route.payload) ++
        done.payload :: (laterAw ++ awOf done.port more) := by
    rw [awOf] at aw ⊢
    rw [picked_append, aw]
    simp
  have allW : wOf done.port (history ++ more) =
      (routesOf done.port earlier).flatMap WriteRoute.stagedBeats ++
        (done.stagedBeats ++ (laterW ++ wOf done.port more)) := by
    rw [wOf] at w ⊢
    rw [picked_append, w]
    simp
  rw [← counted] at requested ⊢
  obtain rfl : done.payload = payload := by
    rw [allAw, List.getElem?_append_right (by simp)] at requested
    simpa using requested
  have doneFull := full done (by simp [completed])
  have before : ∀ other ∈ routesOf done.port earlier, other.beat = other.payload.beats :=
    fun other inRoutes => full other (by simp [completed, List.mem_of_mem_filter inRoutes])
  -- An error would have been answered without a target.
  obtain ⟨mapping, target⟩ : ∃ mapping, done.target = some mapping := by
    refine Option.ne_none_iff_exists'.mp fun untargeted => ?_
    have failed := closed.refused untargeted
    rw [show done.response = _ from succeeded] at failed
    split at failed <;> cases failed
  refine ⟨earlier.length, mapping, done, by simp [completed], closed, rfl, target, doneFull, ?_, ?_,
    fun index inRange => ?_⟩
  · have effective : done.exclusive = false ∨ done.response = .exclusiveOkay := by
      rw [closed.valid.exclusive_eq, show done.response = _ from succeeded]
      cases done.payload.lock <;> simp
    simp only [WriteRoute.performed, target, if_pos effective]
  · exact ((Served.of_traces traces).numbered_iff writes _ _).mpr ⟨rfl, rfl⟩
  · have place : totalBeats ((awOf done.port (history ++ more)).take
        (routesOf done.port earlier).length) =
          ((routesOf done.port earlier).flatMap WriteRoute.stagedBeats).length := by
      rw [length_stagedBeats before, allAw, List.take_left' (by simp)]
    rw [place, allW, List.getElem?_append_right (by simp), List.getElem?_append_left
      (by simpa [WriteRoute.stagedBeats, doneFull] using inRange)]
    simp [WriteRoute.stagedBeats, doneFull, inRange]

end Numbers

/-! ## Cycles of a run -/

namespace AxiFabric

/-- The fabric at the start of a cycle of a run. -/
def atCycle (env : FabricEnv W) (cycles : List c.Inputs) (start : AxiFabric c W) (time : Nat) :
    AxiFabric c W :=
  (runActive env (cycles.take time) start).state

/-- What the fabric drives in a cycle of a run. -/
def driven (env : FabricEnv W) (cycles : List c.Inputs) (start : AxiFabric c W) (time : Nat) :
    c.Outputs :=
  (drive false (atCycle env cycles start time)).outputs

section Cycles

variable (env : FabricEnv W) (cycles : List c.Inputs) (start : AxiFabric c W) (time : Nat)
  (port : c.Port) (count : Nat)

/-- In the cycle the port takes a B response, after `count` others. -/
structure TakesB (response : WriteResponsePayload) : Prop where
  ready : ∃ inputs, cycles[time]? = some inputs ∧ (inputs port).bReady = true
  valid : (driven env cycles start time port).bValid = true
  response_eq : (driven env cycles start time port).b = response
  count_eq : (bOf port (atCycle env cycles start time).trace).length = count

/-- In the cycle the port takes an R beat, after `count` others. -/
structure TakesR (beat : c.ReadBeat) : Prop where
  ready : ∃ inputs, cycles[time]? = some inputs ∧ (inputs port).rReady = true
  valid : (driven env cycles start time port).rValid = true
  beat_eq : (driven env cycles start time port).r = beat
  count_eq : (rOf port (atCycle env cycles start time).trace).length = count

/-- In the cycle the fabric accepts an AR request of the port, after `count` others. -/
structure AcceptsAr (request : AddressPayload) : Prop where
  valid : ∃ inputs, cycles[time]? = some inputs ∧ (inputs port).arValid = true ∧
    (inputs port).ar = request
  ready : (driven env cycles start time port).arReady = true
  count_eq : (arOf port (atCycle env cycles start time).trace).length = count

end Cycles

variable {env : FabricEnv W} {cycles : List c.Inputs} {start final : AxiFabric c W}

/-- The fabric has moved between two cycles by steps that its trace records. -/
theorem atCycle_later (env : FabricEnv W) (cycles : List c.Inputs) (start : AxiFabric c W)
    {time later : Nat} (order : time ≤ later) :
    ∃ more, (atCycle env cycles start later).trace = (atCycle env cycles start time).trace ++ more ∧
      Traces (Pipeline.ActiveStep env) (atCycle env cycles start time).view more
        (atCycle env cycles start later).view := by
  have split : cycles.take later = cycles.take time ++ (cycles.take later).drop time :=
    (List.take_append_drop time (cycles.take later)).symm.trans
      (by rw [List.take_take, Nat.min_eq_left order])
  simp only [atCycle]
  rw [split, runActive_append]
  cases first : runActive env (cycles.take time) start with
  | error thrown => exact ⟨[], by simp [bind, Except.bind], .refl _⟩
  | ok middle =>
      obtain ⟨events, follows, active⟩ := run_follows env
        (((cycles.take later).drop time).map fun inputs => (inputs, false)) middle
      refine ⟨events, follows.trace, follows.steps.restrict (active fun input member => ?_)⟩
      obtain ⟨inputs, -, rfl⟩ := List.mem_map.mp member
      rfl

theorem atCycle_length (returned : runActive env cycles start = .ok final) :
    atCycle env cycles start cycles.length = final := by
  rw [atCycle, List.take_length, returned]
  rfl

theorem atCycle_final (returned : runActive env cycles start = .ok final) {time : Nat}
    (inRun : time ≤ cycles.length) :
    ∃ more, final.trace = (atCycle env cycles start time).trace ++ more ∧
      Traces (Pipeline.ActiveStep env) (atCycle env cycles start time).view more final.view := by
  rw [← atCycle_length returned]
  exact atCycle_later env cycles start inRun

/-- An accepted request is the next one in the record of its port. -/
theorem AcceptsAr.recorded {time count : Nat} {port : c.Port} {request : AddressPayload}
    (accepts : AcceptsAr env cycles start time port count request)
    (returned : runActive env cycles start = .ok final) :
    ∃ later, arOf port final.trace =
      arOf port (atCycle env cycles start time).trace ++ request :: later := by
  obtain ⟨⟨inputs, found, valid, rfl⟩, ready, -⟩ := accepts
  obtain ⟨first, others, rfl, length⟩ := split_of_getElem? found
  obtain ⟨before, after, reached, done, rest⟩ := runActive_split returned
  have beforeEq : atCycle env (first ++ inputs :: others) start time = before := by
    rw [atCycle, ← length, List.take_left, reached]
    rfl
  obtain ⟨work, internal, follows⟩ := cycleWith_ok done
  obtain ⟨events, later, -⟩ := run_follows env
    (others.map fun inputs => (inputs, false)) after
  have trace : final.trace = before.trace ++
      (handshakes (drive false before).outputs inputs ++ (work ++ [.tick]) ++ events) := by
    rw [show run env _ after = .ok final from rest] at later
    have extended : final.trace = after.trace ++ events := later.trace
    rw [extended, follows.trace]
    simp
  rw [driven, beforeEq] at ready
  -- The handshakes of the cycle hold the request, and no other of this port.
  have shaken : (inputs port).ar ∈
      arOf port (handshakes (drive false before).outputs inputs) := by
    refine List.mem_filterMap.mpr ⟨.ar port (inputs port).ar, ?_, by simp⟩
    simp [handshakes, allAcceptEvents, acceptEvents, valid, ready]
  have same : ∀ payload ∈ arOf port (handshakes (drive false before).outputs inputs),
      payload = (inputs port).ar := by
    intro payload member
    obtain ⟨event, inShakes, selected⟩ := List.mem_filterMap.mp member
    cases shaken_of_mem inShakes with
    | ar other valid =>
        simp only [Event.ar?] at selected
        split at selected
        next here => rw [← here]; exact (Option.some.inj selected).symm
        next => cases selected
    | _ => cases selected
  obtain ⟨payload, followers, cons⟩ := List.exists_cons_of_ne_nil (List.ne_nil_of_mem shaken)
  obtain rfl := same payload (by simp [cons])
  refine ⟨followers ++ (arOf port (work ++ [.tick]) ++ arOf port events), ?_⟩
  rw [beforeEq, trace]
  simp only [arOf, picked_append] at cons ⊢
  rw [cons]
  simp

/-! ## The read -/

section Transactions

variable {random : UInt64} {stall : Stall} {world : W}

theorem atCycle_traces (env : FabricEnv W) (cycles : List c.Inputs) (random : UInt64)
    (stall : Stall) (world : W) (time : Nat) :
    Traces (Pipeline.ActiveStep env) (.empty c world)
      (atCycle env cycles (.fresh c random stall world) time).trace
      (atCycle env cycles (.fresh c random stall world) time).view :=
  runActive_traces env (cycles.take time) random stall world

/-- A beat that a port takes was produced in its place. -/
theorem TakesR.produced {time place : Nat} {port : c.Port} {beat : c.ReadBeat}
    (takes : TakesR env cycles (.fresh c random stall world) time port place beat) :
    (producedOf port (atCycle env cycles (.fresh c random stall world) time).trace)[place]? =
      some beat := by
  have conserved := Conserved.of_traces (atCycle_traces env cycles random stall world time)
  have driven := drive_driven (atCycle env cycles (.fresh c random stall world) time) port
  rw [view_drive] at driven
  obtain ⟨rest, queue⟩ := driven.r takes.valid
  have beatEq : ((drive false (atCycle env cycles (.fresh c random stall world) time)).outputs
      port).r = beat := takes.beat_eq
  have r := (conserved.reads port).r
  rw [queue, beatEq] at r
  rw [← r, ← takes.count_eq, List.getElem?_append_right (Nat.le_refl _)]
  simp

/-- A beat in the place of a request is a beat of that request, and it was produced
after the request was accepted. -/
theorem TakesR.of_request {arTime time count place index : Nat} {port : c.Port}
    {request : AddressPayload} {beat : c.ReadBeat}
    (returned : runActive env cycles (.fresh c random stall world) = .ok final)
    (accepts : AcceptsAr env cycles (.fresh c random stall world) arTime port count request)
    (takes : TakesR env cycles (.fresh c random stall world) time port place beat)
    (inPlace : place = totalBeats ((arOf port final.trace).take count) + index)
    (inRange : index < request.beats) :
    ∃ front after middle route routes cursor access,
      (atCycle env cycles (.fresh c random stall world) time).trace =
        (atCycle env cycles (.fresh c random stall world) arTime).trace ++ (front ++ after) ∧
      Traces (Pipeline.ActiveStep env)
        (atCycle env cycles (.fresh c random stall world) arTime).view front middle ∧
      Traces (Pipeline.ActiveStep env) middle after
        (atCycle env cycles (.fresh c random stall world) time).view ∧
      middle.readRoutes = route :: routes ∧ route.payload = request ∧ route.beat = index ∧
      BurstCursor.new route.payload = .ok cursor ∧
      readDeviceBeat env middle.world route cursor = .ok access ∧ access.beat = beat := by
  obtain ⟨laterAr, recorded⟩ := accepts.recorded returned
  have first : (arOf port final.trace).take count =
      arOf port (atCycle env cycles (.fresh c random stall world) arTime).trace := by
    rw [recorded, ← accepts.count_eq, List.take_left]
  rw [first] at inPlace
  have traces := atCycle_traces env cycles random stall world
  have accepted := ((Conserved.of_traces (traces arTime)).reads port).produced_le
  have found := takes.produced
  have order : arTime ≤ time := by
    by_contra early
    obtain ⟨more, extended, -⟩ := atCycle_later env cycles (.fresh c random stall world)
      (Nat.le_of_not_le early)
    have inProduced := (List.getElem?_eq_some_iff.mp found).1
    rw [extended] at accepted inPlace
    simp only [producedOf, arOf, picked_append, List.length_append] at inProduced accepted inPlace
    omega
  obtain ⟨more, extended, segment⟩ := atCycle_later env cycles (.fresh c random stall world) order
  rw [extended] at found
  obtain ⟨front, after, middle, route, routes, cursor, access, rfl, reaches, finishes, queue, here,
    built, accessed, beatEq, length⟩ := produced_from segment found (by omega)
  have whole := (traces arTime).trans reaches
  have ordered := (Conserved.of_traces whole).ordered
  subst here
  obtain ⟨earlier, later, ar, produced⟩ := (ReadLedger.of_traces route.port whole).current ordered
    queue
  -- The record of the port holds the request in one place only.
  obtain ⟨rest, prolonged, -⟩ := atCycle_final returned
    (Nat.le_of_lt (List.getElem?_eq_some_iff.mp takes.ready.choose_spec.1).1)
  have same : arOf route.port (atCycle env cycles (.fresh c random stall world) arTime).trace ++
      request :: laterAr =
        earlier ++ route.payload :: (later ++ arOf route.port (after ++ rest)) := by
    rw [← recorded, prolonged, extended, ← List.append_assoc, List.append_assoc]
    simp only [arOf] at ar ⊢
    rw [picked_append, ar]
    simp
  obtain ⟨-, rfl, rfl⟩ := burst_unique same inRange (ordered.reads route (by simp [queue]))
    (by omega)
  exact ⟨front, after, middle, route, routes, cursor, access, extended, reaches, finishes, queue,
    rfl, rfl, built, accessed, beatEq⟩

/-- The write whose response a port takes. -/
theorem TakesB.performed {time count : Nat} {port : c.Port} {response : WriteResponsePayload}
    {payload : AddressPayload}
    (returned : runActive env cycles (.fresh c random stall world) = .ok final)
    (takes : TakesB env cycles (.fresh c random stall world) time port count response)
    (requested : (awOf port final.trace)[count]? = some payload)
    (succeeded : Succeeded payload response) :
    ∃ number mapping done,
      (completedWrites (atCycle env cycles (.fresh c random stall world) time).trace)[number]? =
        some done ∧ Performed env final.trace port count payload number mapping done := by
  have driven := drive_driven (atCycle env cycles (.fresh c random stall world) time) port
  rw [view_drive] at driven
  obtain ⟨rest, queue⟩ := driven.b takes.valid
  have responseEq : ((drive false (atCycle env cycles (.fresh c random stall world) time)).outputs
      port).b = response := takes.response_eq
  rw [responseEq] at queue
  obtain ⟨more, extended, -⟩ := atCycle_final returned
    (Nat.le_of_lt (List.getElem?_eq_some_iff.mp takes.ready.choose_spec.1).1)
  rw [← takes.count_eq, extended] at requested ⊢
  exact performed_of_response (atCycle_traces env cycles random stall world time) queue requested
    succeeded

end Transactions

end AxiFabric

/-! ## Visibility -/

/-- The write of a port that follows `count` others strobes the byte in one of its
beats. -/
structure Strobes (space : AddressSpace) (trace : List (Event c)) (port : c.Port) (count : Nat)
    (payload : AddressPayload) (index : Nat) (beat : c.WriteBeat) (byte : StorageByte) :
    Prop where
  requested : (awOf port trace)[count]? = some payload
  inRange : index < payload.beats
  sent : (wOf port trace)[totalBeats ((awOf port trace).take count) + index]? = some beat
  strobed : ∃ lane, beat.strobe lane ≠ 0 ∧
    space.storageAt (payload.busWord c.dataBytes index + lane) = some byte

/-- The value is that of the last beat of the write that strobes the byte, or of a
beat that was committed after it. -/
def Current (log : List (Store c)) (number : Nat) (byte : StorageByte) (value : UInt8) : Prop :=
  ∃ before store after, log = before ++ store :: after ∧ store.value byte = some value ∧
    number ≤ store.write ∧ ∀ later ∈ after, later.write = number → later.value byte = none

/-- A strobed byte of a write that took effect has a store in the log. -/
theorem Performed.store {env : FabricEnv W} {trace : List (Event c)} {port : c.Port}
    {count number index : Nat} {payload : AddressPayload} {mapping : Mapping}
    {done : WriteRoute c} {beat : c.WriteBeat} {byte : StorageByte}
    (performed : Performed env trace port count payload number mapping done)
    (strobes : Strobes env.space trace port count payload index beat byte) :
    (⟨number, mapping, payload, index, beat⟩ : Store c) ∈ done.performed number ∧
      (⟨number, mapping, payload, index, beat⟩ : Store c).value byte ≠ none := by
  obtain ⟨closed, rfl, target, full, stores, -, beats⟩ := performed
  obtain ⟨-, inRange, sent, lane, strobed, storage⟩ := strobes
  obtain rfl : done.stagedBeat index = beat := by
    rw [beats index inRange] at sent
    exact Option.some.inj sent
  refine ⟨?_, fun none => ?_⟩
  · rw [stores]
    exact List.mem_map.mpr ⟨index, List.mem_range.mpr inRange, rfl⟩
  · have enabled := closed.legal index (full ▸ inRange) lane strobed
    obtain ⟨baseLe, resolved⟩ := closed.valid.storage target inRange enabled
    rw [resolved] at storage
    obtain rfl := Option.some.inj storage
    exact strobed (Store.value_eq_none_iff.mp none lane rfl (Nat.add_sub_of_le baseLe) enabled)

/-- What a prefix of the log leaves in a byte that a write in it strobes. -/
theorem current_of_replay {log seen unseen : List (Store c)} {memory : StorageByte → UInt8}
    {byte : StorageByte} {store : Store c} (sorted : log.Pairwise fun left right =>
      left.write ≤ right.write) (split : log = seen ++ unseen) (member : store ∈ seen)
    (stored : store.value byte ≠ none)
    (complete : ∀ later ∈ unseen, later.write ≠ store.write) :
    Current log store.write byte (replay Store.value memory seen byte) := by
  rcases untouched_or_last Store.value seen byte with untouched | ⟨before, last, after, item, rfl,
    value, none⟩
  · exact absurd (untouched store member) stored
  · refine ⟨before, last, after ++ unseen, by simp [split], ?_, ?_, ?_⟩
    · rw [replay_of_last value none]
      exact value
    · rw [split, List.append_assoc] at sorted
      obtain ⟨-, -, ordered⟩ := List.pairwise_append.mp sorted
      rcases List.mem_append.mp member with earlier | here
      · exact ordered store earlier last (by simp)
      · rcases List.mem_cons.mp here with rfl | later
        · exact Nat.le_refl _
        · exact absurd (none store later) stored
    · intro later inRest number
      rcases List.mem_append.mp inRest with seenLater | inUnseen
      · exact none later seenLater
      · exact absurd number (complete later inUnseen)

section Ram

variable {space : AddressSpace} {resetDevices : Bool} {world : RamWorld}
  {history front rest : List (Event c)} {state middle last : Pipeline c RamWorld}

/-- A read that is served after the answer of a write sees the write or newer data. -/
theorem Performed.current {port : c.Port} {count number index : Nat} {payload : AddressPayload}
    {mapping : Mapping} {done : WriteRoute c} {beat : c.WriteBeat} {byte : StorageByte}
    (fits : ∀ mapping ∈ space.mappings, mapping.size ≤ (world mapping.device).size)
    (answers : Traces (Pipeline.ActiveStep { bank := ramBank, space, resetDevices })
      (.empty c world) history state)
    (reaches : Traces (Pipeline.ActiveStep { bank := ramBank, space, resetDevices })
      state front middle)
    (finishes : Traces (Pipeline.ActiveStep { bank := ramBank, space, resetDevices })
      middle rest last)
    (completed : (completedWrites history)[number]? = some done)
    (performed : Performed { bank := ramBank, space, resetDevices } (history ++ front ++ rest) port
      count payload number mapping done)
    (strobes : Strobes space (history ++ front ++ rest) port count payload index beat byte)
    (memory : StorageByte → UInt8) :
    ⟨number, mapping, payload, index, beat⟩ ∈
        serialStores (history ++ front) middle.writeRoutes ∧
      Current (serialStores (history ++ front ++ rest) last.writeRoutes) number byte
        (replay Store.value memory (serialStores (history ++ front) middle.writeRoutes) byte) := by
  obtain ⟨inDone, stored⟩ := performed.store strobes
  obtain ⟨newer, seenEq⟩ := serialStores_extends fits answers reaches
  obtain ⟨unseen, logEq⟩ := serialStores_extends fits (answers.trans reaches) finishes
  have grows : serialStores (history ++ (front ++ rest)) last.writeRoutes =
      serialStores history state.writeRoutes ++ (newer ++ unseen) := by
    rw [← List.append_assoc, ← List.append_assoc, seenEq, logEq]
  obtain ⟨held, complete⟩ := serialStores_answered completed grows
  have member : (⟨number, mapping, payload, index, beat⟩ : Store c) ∈
      serialStores (history ++ front) middle.writeRoutes := by
    rw [← seenEq]
    exact List.mem_append_left _ (held _ inDone)
  exact ⟨member, current_of_replay (serialStores_sorted _ _) logEq.symm member stored
    fun later inUnseen => complete later (List.mem_append_right _ inUnseen)⟩

end Ram

/-- A read sees no write whose last W beat was not accepted before it was served. -/
theorem unseen_of_unaccepted {history more : List (Event c)} {readTrace : List (Event c)}
    {state : Pipeline c W} {port : c.Port} {count number : Nat}
    (conserved : Conserved history state) (served : Served history state)
    (earlier : history <+: readTrace)
    (unaccepted : (wOf port readTrace).length <
      totalBeats ((awOf port (history ++ more)).take (count + 1)))
    (numbered : Numbered (history ++ more) port count number) :
    ∀ store ∈ serialStores history state.writeRoutes, store.write ≠ number := by
  rintro store member rfl
  have accepted := accepted_of_mem_serialStores conserved served member numbered
  obtain ⟨later, rfl⟩ := earlier
  simp only [wOf, picked_append, List.length_append] at unaccepted accepted
  omega

open AxiFabric in
/-- Global visibility.  A successful read beat returns in each of its lanes what a
prefix of the log of stores leaves.  The prefix holds the writes whose responses
were taken by the time of the AR handshake, so the lane carries the value of such a
write or a newer one; it holds no write whose last W beat had not been accepted when
the beat was taken.  Other lanes carry zero. -/
theorem write_response_visible (space : AddressSpace) (resetDevices : Bool)
    (cycles : List c.Inputs) (random : UInt64) (stall : Stall) (world : RamWorld)
    (final : AxiFabric c RamWorld)
    (fits : ∀ mapping ∈ space.mappings, mapping.size ≤ (world mapping.device).size)
    (returned : runActive { bank := ramBank, space, resetDevices } cycles
      (.fresh c random stall world) = .ok final)
    (reader : c.Port) (arTime reads readTime place index : Nat) (request : AddressPayload)
    (beat : c.ReadBeat)
    (accepts : AcceptsAr { bank := ramBank, space, resetDevices } cycles
      (.fresh c random stall world) arTime reader reads request)
    (takes : TakesR { bank := ramBank, space, resetDevices } cycles (.fresh c random stall world)
      readTime reader place beat)
    (inPlace : place = totalBeats ((arOf reader final.trace).take reads) + index)
    (inRange : index < request.beats) (lane : Fin c.dataBytes) :
    let env : FabricEnv RamWorld := { bank := ramBank, space, resetDevices }
    let start := AxiFabric.fresh c random stall world
    let log := serialStores final.trace final.writeRoutes.toList
    (responseIsSuccess beat.response = false ∨ request.mask c.dataBytes index lane = 0 →
      beat.data lane = 0) ∧
    (responseIsSuccess beat.response = true → request.mask c.dataBytes index lane ≠ 0 →
      ∃ byte seen unseen,
        space.storageAt (request.busWord c.dataBytes index + lane) = some byte ∧
        log = seen ++ unseen ∧ beat.data lane = replay Store.value (ramMemory world) seen byte ∧
        (∀ writer time writes response payload sentIndex sent, time ≤ arTime →
          TakesB env cycles start time writer writes response → Succeeded payload response →
          Strobes space final.trace writer writes payload sentIndex sent byte →
          ∃ number mapping, Numbered final.trace writer writes number ∧
            ⟨number, mapping, payload, sentIndex, sent⟩ ∈ seen ∧
            Current log number byte (beat.data lane)) ∧
        ∀ writer writes number,
          (wOf writer (atCycle env cycles start readTime).trace).length <
            totalBeats ((awOf writer final.trace).take (writes + 1)) →
          Numbered final.trace writer writes number → ∀ store ∈ seen, store.write ≠ number) := by
  intro env start log
  obtain ⟨front, after, middle, route, routes, cursor, access, extended, reaches, finishes, queue,
    rfl, rfl, built, accessed, rfl⟩ := takes.of_request returned accepts inPlace inRange
  have whole := (atCycle_traces env cycles random stall world arTime).trans reaches
  have conserved : Conserved _ middle := .of_traces whole
  have memorized : Memorized world _ middle := .of_traces fits whole
  have valid := (Sound.of_traces whole).reads route (by simp [queue])
  have fitsNow : ∀ mapping ∈ space.mappings, mapping.size ≤ (middle.world mapping.device).size :=
    fun mapping member => (memorized.sizes mapping.device).symm ▸ fits mapping member
  refine ⟨fun blank => readDeviceBeat_blank valid built inRange fitsNow accessed blank,
    fun success enabled => ?_⟩
  obtain ⟨byte, storage, data⟩ := readDeviceBeat_lane valid built inRange fitsNow accessed success
    enabled
  rw [memorized.memory] at data
  obtain ⟨rest, prolonged, finals⟩ := atCycle_final returned
    (Nat.le_of_lt (List.getElem?_eq_some_iff.mp takes.ready.choose_spec.1).1)
  have later := finishes.trans finals
  have traceEq : final.trace =
      (atCycle env cycles start arTime).trace ++ front ++ (after ++ rest) := by
    rw [prolonged, extended]
    simp [env, start]
  obtain ⟨unseen, logEq⟩ := serialStores_extends fits whole later
  refine ⟨byte, _, unseen, storage, by rw [logEq, ← traceEq]; rfl, data, ?_, ?_⟩
  · intro writer time writes response payload sentIndex sent order takesB succeeded strobes
    obtain ⟨number, mapping, done, completed, performed⟩ :=
      takesB.performed returned strobes.requested succeeded
    obtain ⟨between, elapsed, segment⟩ := atCycle_later env cycles start order
    have traced : final.trace = (atCycle env cycles start time).trace ++ (between ++ front) ++
        (after ++ rest) := by
      rw [traceEq, elapsed]
      simp
    have seenTrace : (atCycle env cycles start arTime).trace ++ front =
        (atCycle env cycles start time).trace ++ (between ++ front) := by
      rw [elapsed, List.append_assoc]
    rw [traced] at performed strobes
    obtain ⟨member, current⟩ := performed.current fits
      (atCycle_traces env cycles random stall world time) (segment.trans reaches) later completed
      strobes (ramMemory world)
    refine ⟨number, mapping, traced ▸ performed.numbered, ?_, ?_⟩
    · rw [seenTrace]
      exact member
    · rw [data, seenTrace]
      rw [← traced] at current
      exact current
  · intro writer writes number unaccepted numbered
    rw [traceEq] at numbered unaccepted
    refine unseen_of_unaccepted conserved (.of_traces whole) ⟨after, ?_⟩ unaccepted numbered
    rw [List.append_assoc]
    exact extended.symm

/-- A port of the small system. -/
def smallPort : Config.small.Port := ⟨0, by decide⟩

def smallStart : AxiFabric Config.small RamWorld := .fresh Config.small 1 .never smallWorld

/-- A write of one word, and a read that is accepted as its response is taken. -/
def writeThenRead (write : UInt64) (read : AddressPayload) : List Config.small.Inputs :=
  [writeWord write 3 false 7,
    fun _ => { bReady := true, rReady := true, arValid := true, ar := read }, takeAll, takeAll]

open AxiFabric in
theorem write_response_visible_small :
    let cycles := writeThenRead 0x1004 (wordAt 0x1004 5 false)
    let final := (runSmall cycles).state
    let response := (driven smallEnv cycles smallStart 1 smallPort).b
    let beat := (driven smallEnv cycles smallStart 2 smallPort).r
    let sent : Config.small.WriteBeat :=
      { data := fun _ => 7, strobe := fun _ => 1, last := true }
    TakesB smallEnv cycles smallStart 1 smallPort 0 response ∧
      AcceptsAr smallEnv cycles smallStart 1 smallPort 0 (wordAt 0x1004 5 false) ∧
      TakesR smallEnv cycles smallStart 2 smallPort 0 beat ∧
      Strobes smallEnv.space final.trace smallPort 0 (wordAt 0x1004 3 false) 0 sent (0, 4) ∧
      ∃ number, Numbered final.trace smallPort 0 number ∧
        Current (serialStores final.trace final.writeRoutes.toList) number (0, 4)
          (beat.data ⟨0, by decide⟩) := by
  intro cycles final response beat sent
  have returned : runActive smallEnv cycles smallStart = .ok final :=
    eq_ok_of_isOk (by decide +kernel)
  have takesB : TakesB smallEnv cycles smallStart 1 smallPort 0 response :=
    ⟨⟨_, rfl, rfl⟩, by decide +kernel, rfl, by decide +kernel⟩
  have succeeded : Succeeded (wordAt 0x1004 3 false) response := by
    unfold Succeeded
    decide +kernel
  have accepts : AcceptsAr smallEnv cycles smallStart 1 smallPort 0 (wordAt 0x1004 5 false) :=
    ⟨⟨_, rfl, rfl, rfl⟩, by decide +kernel, by decide +kernel⟩
  have takes : TakesR smallEnv cycles smallStart 2 smallPort 0 beat :=
    ⟨⟨_, rfl, rfl⟩, by decide +kernel, rfl, by decide +kernel⟩
  have strobes : Strobes smallEnv.space final.trace smallPort 0 (wordAt 0x1004 3 false) 0 sent
      (0, 4) :=
    ⟨by decide +kernel, by decide, by decide +kernel, ⟨0, by decide⟩, by decide, by decide +kernel⟩
  obtain ⟨byte, seen, unseen, storage, -, -, visible, -⟩ :=
    (write_response_visible smallEnv.space true cycles 1 .never smallWorld final (by decide)
      returned smallPort 1 0 2 0 0 (wordAt 0x1004 5 false) beat accepts takes (by decide +kernel)
      (by decide) ⟨0, by decide⟩).2 (by decide +kernel) (by decide +kernel)
  obtain rfl : (0, 4) = byte := Option.some.inj (Eq.trans (by decide +kernel) storage)
  obtain ⟨number, -, numbered, -, current⟩ :=
    visible smallPort 1 0 _ _ 0 sent (Nat.le_refl 1) takesB succeeded strobes
  exact ⟨takesB, accepts, takes, strobes, number, numbered, current⟩

open AxiFabric in
/-- A burst that leaves its window is refused as a whole: its first beat covers a
byte that was just written, and returns zero. -/
theorem refused_read_hides_write :
    let request : AddressPayload := { id := 5, address := 0x100C, length := 1, size := 2 }
    let cycles := writeThenRead 0x100C request
    let final := (runSmall cycles).state
    let response := (driven smallEnv cycles smallStart 1 smallPort).b
    let beat := (driven smallEnv cycles smallStart 2 smallPort).r
    let sent : Config.small.WriteBeat :=
      { data := fun _ => 7, strobe := fun _ => 1, last := true }
    let lane : Fin Config.small.dataBytes := ⟨0, by decide⟩
    runActive smallEnv cycles smallStart = .ok final ∧
      (∀ mapping ∈ smallEnv.space.mappings, mapping.size ≤ (smallWorld mapping.device).size) ∧
      TakesB smallEnv cycles smallStart 1 smallPort 0 response ∧
      Succeeded (wordAt 0x100C 3 false) response ∧
      AcceptsAr smallEnv cycles smallStart 1 smallPort 0 request ∧
      TakesR smallEnv cycles smallStart 2 smallPort 0 beat ∧
      Strobes smallEnv.space final.trace smallPort 0 (wordAt 0x100C 3 false) 0 sent (0, 12) ∧
      request.mask Config.small.dataBytes 0 lane ≠ 0 ∧
      smallEnv.space.storageAt (request.busWord Config.small.dataBytes 0 + lane) = some (0, 12) ∧
      ¬∃ number, Current (serialStores final.trace final.writeRoutes.toList) number (0, 12)
        (beat.data lane) := by
  intro request cycles final response beat sent lane
  have succeeded : Succeeded (wordAt 0x100C 3 false) response := by
    unfold Succeeded
    decide +kernel
  have stale : ∀ store ∈ serialStores final.trace final.writeRoutes.toList,
      store.value (0, 12) ≠ some (beat.data lane) := by decide +kernel
  refine ⟨eq_ok_of_isOk (by decide +kernel), by decide,
    ⟨⟨_, rfl, rfl⟩, by decide +kernel, rfl, by decide +kernel⟩, succeeded,
    ⟨⟨_, rfl, rfl, rfl⟩, by decide +kernel, by decide +kernel⟩,
    ⟨⟨_, rfl, rfl⟩, by decide +kernel, rfl, by decide +kernel⟩,
    ⟨by decide +kernel, by decide, by decide +kernel, ⟨0, by decide⟩, by decide,
      by decide +kernel⟩, by decide +kernel, by decide +kernel, ?_⟩
  rintro ⟨number, before, store, after, split, value, -⟩
  exact stale store (by rw [split]; simp) value

end AxiTestbench
