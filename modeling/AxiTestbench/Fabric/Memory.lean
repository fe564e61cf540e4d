import AxiTestbench.Lib.Overlay
import AxiTestbench.Ram
import AxiTestbench.Fabric.Service

/-!
# Memory

The fabric over RAM devices behaves like one memory that executes write beats one
after the other.  A memory is a function from storage bytes to values; a storage
byte is a RAM and an offset in it, so windows that alias share their bytes.
-/

namespace AxiTestbench

open Lib Outcome

variable {c : Config}

/-! ## Storage -/

/-- A byte of a RAM: the device and the offset in it. -/
abbrev StorageByte := DeviceId × Nat

/-- Contents of all RAMs. -/
def ramMemory (world : RamWorld) : StorageByte → UInt8 := fun byte =>
  byteAt (world byte.1).bytes byte.2

/-- One write beat into a window.  `write` numbers the writes in the order in which
they are routed. -/
structure Store (c : Config) where
  write : Nat
  mapping : Mapping
  payload : AddressPayload
  index : Nat
  beat : c.WriteBeat

namespace Store

/-- The lane of the bus word that carries a storage byte. -/
def lane? (store : Store c) (byte : StorageByte) : Option (Fin c.dataBytes) :=
  if inside : byte.1 = store.mapping.device ∧
      store.payload.busWord c.dataBytes store.index ≤ store.mapping.base + byte.2 ∧
      store.mapping.base + byte.2 - store.payload.busWord c.dataBytes store.index <
        c.dataBytes then
    some ⟨_, inside.2.2⟩
  else
    none

/-- The value a beat gives to a storage byte: that of its lane, if the lane
belongs to the beat and is strobed. -/
def value (store : Store c) (byte : StorageByte) : Option UInt8 :=
  (store.lane? byte).bind fun lane =>
    if store.payload.mask c.dataBytes store.index lane ≠ 0 ∧ store.beat.strobe lane ≠ 0 then
      some (store.beat.data lane)
    else
      none

theorem lane?_eq_some_iff {store : Store c} {byte : StorageByte} {lane : Fin c.dataBytes} :
    store.lane? byte = some lane ↔ byte.1 = store.mapping.device ∧
      store.mapping.base + byte.2 = store.payload.busWord c.dataBytes store.index + lane := by
  simp only [lane?]
  split
  next inside =>
    obtain ⟨device, lower, upper⟩ := inside
    simp only [Option.some.injEq, Fin.ext_iff, device, true_and]
    omega
  next outside =>
    simp only [reduceCtorEq, false_iff, not_and]
    intro device placed
    have := lane.isLt
    exact outside ⟨device, by omega, by omega⟩

theorem value_eq_some_iff {store : Store c} {byte : StorageByte} {item : UInt8} :
    store.value byte = some item ↔ ∃ lane : Fin c.dataBytes,
      byte.1 = store.mapping.device ∧
      store.mapping.base + byte.2 = store.payload.busWord c.dataBytes store.index + lane ∧
      store.payload.mask c.dataBytes store.index lane ≠ 0 ∧ store.beat.strobe lane ≠ 0 ∧
      store.beat.data lane = item := by
  simp only [value, Option.bind_eq_some_iff, lane?_eq_some_iff, Option.ite_none_right_eq_some,
    Option.some.injEq, and_assoc]

theorem value_eq_none_iff {store : Store c} {byte : StorageByte} :
    store.value byte = none ↔ ∀ lane : Fin c.dataBytes, byte.1 = store.mapping.device →
      store.mapping.base + byte.2 = store.payload.busWord c.dataBytes store.index + lane →
      store.payload.mask c.dataBytes store.index lane ≠ 0 → store.beat.strobe lane = 0 := by
  rw [Option.eq_none_iff_forall_ne_some]
  simp only [ne_eq, value_eq_some_iff, not_exists, not_and]
  constructor
  · intro none lane device placed enabled
    by_contra strobed
    exact none _ lane device placed enabled strobed rfl
  · intro none item lane device placed enabled strobed _
    exact strobed (none lane device placed enabled)

end Store

/-! ## Device writes as stores -/

/-- Same RAM sizes. -/
def SameSizes (world after : RamWorld) : Prop := ∀ device, (after device).size = (world device).size

/-- A device write that stays inside its RAM. -/
theorem ramBank_write {world after : RamWorld} {device : DeviceId} {offset : Nat}
    {data strobe : List UInt8} {response : Response}
    (written : ramBank.writeImpl device world offset data strobe = (after, response))
    (sameLength : data.length = strobe.length)
    (fits : offset + data.length ≤ (world device).size) :
    response = .okay ∧ SameSizes world after ∧
      ∀ byte, ramMemory after byte =
        if byte.1 = device ∧ offset ≤ byte.2 ∧ byte.2 < offset + data.length ∧
            byteAt strobe (byte.2 - offset) ≠ 0 then
          byteAt data (byte.2 - offset)
        else
          ramMemory world byte := by
  obtain ⟨okay, size, bytes⟩ := (world device).writeImpl_inside sameLength fits
  have afterEq : Function.update world device ((world device).writeImpl offset data strobe).1 =
      after := congrArg Prod.fst written
  have responseEq : ((world device).writeImpl offset data strobe).2 = response :=
    congrArg Prod.snd written
  subst afterEq responseEq
  refine ⟨okay, fun other => ?_, fun byte => ?_⟩
  · simp only [Function.update_apply]
    split
    next same => rw [same, size]
    next => rfl
  · simp only [ramMemory, Function.update_apply]
    by_cases same : byte.1 = device
    · simp only [same, if_true, true_and]
      exact bytes byte.2
    · simp [same]

/-- A regular beat into a window of a RAM that holds it. -/
theorem ramBank_write_beat {payload : AddressPayload} {cursor : BurstCursor c.dataBytes}
    (write : Nat) {world after : RamWorld} {mapping : Mapping} {index : Nat} {beat : c.WriteBeat}
    {response : Response} (built : BurstCursor.new payload = .ok cursor)
    (written : ramBank.writeImpl mapping.device world
      (sub64 (payload.beatStart index) mapping.base)
      (span beat.data (payload.firstLane c.dataBytes index) (payload.beatLength index))
      (span (payload.effective c.dataBytes index beat.strobe)
        (payload.firstLane c.dataBytes index) (payload.beatLength index)) = (after, response))
    (baseLe : mapping.base ≤ payload.beatStart index)
    (endLe : payload.beatEnd index ≤ mapping.limit) (below : payload.beatEnd index < 2 ^ 64)
    (fits : mapping.size ≤ (world mapping.device).size) :
    response = .okay ∧ SameSizes world after ∧
      ramMemory after =
        overlay Store.value (ramMemory world) ⟨write, mapping, payload, index, beat⟩ := by
  obtain ⟨wordLe, firstEq, endEq, positive, inWord⟩ := beat_span built index
  have limitEq : mapping.limit = mapping.base + mapping.size := rfl
  rw [sub64_eq baseLe (by omega)] at written
  obtain ⟨okay, sizes, bytes⟩ := ramBank_write written
    (by rw [length_span _ inWord, length_span _ inWord]) (by rw [length_span _ inWord]; omega)
  refine ⟨okay, sizes, funext fun byte => ?_⟩
  rw [bytes byte, length_span _ inWord, overlay]
  split
  next inside =>
    obtain ⟨device, lower, upper, strobed⟩ := inside
    have inSpan : byte.2 - (payload.beatStart index - mapping.base) < payload.beatLength index := by
      omega
    rw [byteAt_span _ inSpan inWord] at strobed ⊢
    have stored : Store.value ⟨write, mapping, payload, index, beat⟩ byte =
        some (beat.data ⟨payload.firstLane c.dataBytes index +
          (byte.2 - (payload.beatStart index - mapping.base)), by omega⟩) := by
      simp only [AddressPayload.effective] at strobed
      split at strobed
      next both => exact Store.value_eq_some_iff.mpr ⟨_, device, by simp only []; omega, both.1,
        both.2, rfl⟩
      next => exact absurd rfl strobed
    rw [stored, Option.getD_some]
  next outside =>
    have unstored : Store.value ⟨write, mapping, payload, index, beat⟩ byte = none := by
      rw [Store.value_eq_none_iff]
      intro lane device placed enabled
      by_contra strobed
      obtain ⟨lower, upper, -⟩ := (payload.mask_ne_zero_iff index lane).mp enabled
      have laneLt := lane.isLt
      simp only [] at device placed
      have inSpan : byte.2 - (payload.beatStart index - mapping.base) <
          payload.beatLength index := by omega
      refine outside ⟨device, by omega, by omega, ?_⟩
      rw [byteAt_span _ inSpan inWord]
      have laneEq : (⟨payload.firstLane c.dataBytes index +
          (byte.2 - (payload.beatStart index - mapping.base)), by omega⟩ : Fin c.dataBytes) =
          lane := Fin.ext (by simp only []; omega)
      rw [laneEq]
      simp [AddressPayload.effective, enabled, strobed]
    rw [unstored, Option.getD_none]

/-- A beat that ends at the top of the address space stores nothing. -/
theorem overlay_top {store : Store c} (top : store.payload.beatEnd store.index = 2 ^ 64)
    (memory : StorageByte → UInt8) : overlay Store.value memory store = memory := by
  funext byte
  have unstored : store.value byte = none := by
    rw [Store.value_eq_none_iff]
    intro lane _ _ enabled
    have := (store.payload.mask_ne_zero_iff store.index lane).mp enabled
    omega
  rw [overlay, unstored, Option.getD_none]

/-- The first beats of a write as stores into a window. -/
def WriteRoute.stores (route : WriteRoute c) (write : Nat) (mapping : Mapping) (count : Nat) :
    List (Store c) :=
  (List.range count).map fun index =>
    ⟨write, mapping, route.payload, index, route.stagedBeat index⟩

theorem WriteRoute.stores_succ (route : WriteRoute c) (write : Nat) (mapping : Mapping)
    (count : Nat) :
    route.stores write mapping (count + 1) =
      route.stores write mapping count ++
        [⟨write, mapping, route.payload, count, route.stagedBeat count⟩] := by
  simp [WriteRoute.stores, List.range_succ]

/-- An exclusive write stores its beats one after the other. -/
theorem ramBank_write_image {route : WriteRoute c} (write : Nat) {world after : RamWorld}
    {mapping : Mapping} {image : Lanes 128 × Lanes 128} {response : Response}
    (shape : ExclusiveShape route.payload) (staged : Image route route.payload.beats image)
    (written : ramBank.writeImpl mapping.device world
      (sub64 route.payload.address.toNat mapping.base) (span image.1 0 route.payload.total)
      (span image.2 0 route.payload.total) = (after, response))
    (baseLe : mapping.base ≤ route.payload.address.toNat)
    (fits : route.payload.address.toNat - mapping.base + route.payload.total ≤
      (world mapping.device).size) :
    response = .okay ∧ SameSizes world after ∧
      ramMemory after = replay Store.value (ramMemory world)
        (route.stores write mapping route.payload.beats) := by
  have inArray : 0 + route.payload.total ≤ 128 := by
    have := shape.total
    omega
  rw [sub64_eq baseLe route.payload.address.toNat_lt] at written
  obtain ⟨okay, sizes, bytes⟩ := ramBank_write written
    (by rw [length_span _ inArray, length_span _ inArray]) (by rw [length_span _ inArray]; omega)
  refine ⟨okay, sizes, funext fun byte => ?_⟩
  rw [bytes byte, length_span _ inArray]
  -- Where a beat of the burst that strobes the byte lies, and what it gives.
  have strobing : ∀ store ∈ route.stores write mapping route.payload.beats, ∀ item,
      store.value byte = some item → byte.1 = mapping.device ∧
        ∃ position : Fin 128, position.val < route.payload.total ∧
          mapping.base + byte.2 = route.payload.address.toNat + position ∧
          image.2 position ≠ 0 ∧ image.1 position = item := by
    intro store member item stored
    obtain ⟨index, inRange, rfl⟩ := List.mem_map.mp member
    have inRange := List.mem_range.mp inRange
    obtain ⟨lane, device, placed, enabled, strobed, dataEq⟩ := Store.value_eq_some_iff.mp stored
    simp only [] at device placed enabled strobed dataEq
    obtain ⟨lower, upper, -⟩ := (route.payload.mask_ne_zero_iff index lane).mp enabled
    have startEq := shape.beatStart_eq index
    have endTotal := shape.beatEnd_le_total inRange
    have inTotal : route.payload.busWord c.dataBytes index + lane - route.payload.address.toNat <
        route.payload.total := by omega
    have placedAt : route.payload.busWord c.dataBytes index + lane =
        route.payload.address.toNat +
          (route.payload.busWord c.dataBytes index + lane - route.payload.address.toNat) := by
      omega
    obtain ⟨dataIs, strobeIs⟩ := staged.covered index inRange lane enabled
      ⟨_, Nat.lt_of_lt_of_le inTotal (by omega)⟩ placedAt
    refine ⟨device, ⟨_, Nat.lt_of_lt_of_le inTotal (by omega)⟩, inTotal, by simp only []; omega,
      ?_, by rw [dataIs, dataEq]⟩
    rw [strobeIs, if_pos strobed]
    decide
  split
  next inside =>
    obtain ⟨device, lower, upper, strobed⟩ := inside
    have inTotal : byte.2 - (route.payload.address.toNat - mapping.base) < route.payload.total := by
      omega
    rw [byteAt_span _ inTotal inArray] at strobed ⊢
    obtain ⟨index, inRange, lane, enabled, laneStrobed, placed⟩ :=
      (staged.strobed_iff _).mp strobed
    have dataIs := (staged.covered index inRange lane enabled _ placed).1
    simp only [Nat.zero_add] at placed
    have stored : Store.value ⟨write, mapping, route.payload, index, route.stagedBeat index⟩ byte =
        some ((route.stagedBeat index).data lane) :=
      Store.value_eq_some_iff.mpr ⟨lane, device, by simp only []; omega, enabled, laneStrobed, rfl⟩
    rw [dataIs]
    refine (replay_of_agreed (List.mem_map.mpr ⟨index, List.mem_range.mpr inRange, rfl⟩) stored
      fun other member found otherStored => ?_).symm
    obtain ⟨-, position, inOther, otherPlaced, -, rfl⟩ := strobing other member found otherStored
    rw [← dataIs]
    refine congrArg image.1 (Fin.ext ?_)
    simp only []
    omega
  next outside =>
    refine (replay_of_untouched fun store member => ?_).symm
    rw [Option.eq_none_iff_forall_ne_some]
    intro item stored
    obtain ⟨device, position, inTotal, placed, strobed, -⟩ := strobing store member item stored
    refine outside ⟨device, by omega, by omega, ?_⟩
    rw [byteAt_span _ (by omega) inArray]
    convert strobed using 2
    apply Fin.ext
    simp only []
    omega

/-! ## Windows -/

/-- The window that holds every byte of a burst. -/
def AddressSpace.windowOf (space : AddressSpace) (payload : AddressPayload) : Option Mapping :=
  space.mappings.find? fun mapping =>
    decide (∀ index < payload.beats,
      mapping.base ≤ payload.beatStart index ∧ payload.beatEnd index ≤ mapping.limit)

theorem AddressSpace.windowOf_holds {space : AddressSpace} {payload : AddressPayload}
    {mapping : Mapping} (found : space.windowOf payload = some mapping) :
    mapping ∈ space.mappings ∧ ∀ index < payload.beats,
      mapping.base ≤ payload.beatStart index ∧ payload.beatEnd index ≤ mapping.limit := by
  refine ⟨List.mem_of_find?_eq_some found, ?_⟩
  have holds := List.find?_some found
  exact of_decide_eq_true holds

/-- The fabric decodes a burst to the window that holds it. -/
theorem AddressSpace.windowOf_eq (space : AddressSpace) {payload : AddressPayload}
    (accepted : payload.Accepted c.dataBytes) (offTop : ¬payload.TouchesTop) :
    space.windowOf payload = decodedMapping space c.dataBytes payload := by
  have visible := mem_visibleBytes_iff_touches accepted offTop
  obtain ⟨cursor, built, -⟩ := accepted
  have span : ∀ index, payload.beatStart index < payload.beatEnd index := by
    intro index
    obtain ⟨-, -, endEq, positive, -⟩ := beat_span built index
    omega
  have firstTouched : payload.Touches (payload.beatStart 0) :=
    ⟨0, payload.beats_pos, Nat.le_refl _, span 0⟩
  have inside : ∀ {mapping byte}, (∀ index < payload.beats,
      mapping.base ≤ payload.beatStart index ∧ payload.beatEnd index ≤ mapping.limit) →
      mapping ∈ space.mappings → payload.Touches byte → space.resolve byte 1 = some mapping := by
    rintro mapping byte holds member ⟨index, inRange, lower, upper⟩
    have := holds index inRange
    exact space.resolve_byte member (by omega) (by omega)
  ext mapping
  rw [decodedMapping_eq_some_iff]
  constructor
  · intro found
    obtain ⟨member, holds⟩ := AddressSpace.windowOf_holds found
    refine ⟨List.ne_nil_of_mem ((visible _).mpr firstTouched), fun byte inBytes => ?_⟩
    exact inside holds member ((visible byte).mp inBytes)
  · rintro ⟨-, all⟩
    have resolved : ∀ byte, payload.Touches byte →
        mapping ∈ space.mappings ∧ mapping.base ≤ byte ∧ byte + 1 ≤ mapping.limit := by
      intro byte touched
      obtain ⟨member, -, lower, upper⟩ :=
        space.resolve_eq_some_iff.mp (all byte ((visible byte).mpr touched))
      exact ⟨member, lower, upper⟩
    have holds : ∀ index < payload.beats,
        mapping.base ≤ payload.beatStart index ∧ payload.beatEnd index ≤ mapping.limit := by
      intro index inRange
      have spanIndex := span index
      obtain ⟨-, lower, -⟩ := resolved (payload.beatStart index)
        ⟨index, inRange, Nat.le_refl _, spanIndex⟩
      obtain ⟨-, -, upper⟩ := resolved (payload.beatEnd index - 1)
        ⟨index, inRange, by omega, by omega⟩
      omega
    have member := (resolved _ firstTouched).1
    have some : (space.windowOf payload).isSome = true :=
      List.find?_isSome.mpr ⟨mapping, member, decide_eq_true holds⟩
    obtain ⟨first, found⟩ := Option.isSome_iff_exists.mp some
    obtain ⟨firstMember, firstHolds⟩ := AddressSpace.windowOf_holds found
    have same := (inside firstHolds firstMember firstTouched).symm.trans
      (all _ ((visible _).mpr firstTouched))
    rw [found, same]

/-- Over RAM a route has a target exactly when a window holds its burst. -/
theorem RouteBase.Valid.target_eq {space : AddressSpace} {resetDevices : Bool}
    {route : RouteBase c} (valid : route.Valid { bank := ramBank, space, resetDevices })
    (offTop : ¬route.payload.TouchesTop) : route.target = space.windowOf route.payload := by
  rw [space.windowOf_eq valid.routable.accepted offTop, ← valid.mapping_eq, RouteBase.target]
  obtain ⟨world, forced⟩ := valid.forced
  cases mapping : route.mapping with
  | none => simp
  | some window =>
      rw [forced, mapping]
      simp [forcedResponseOf, ramBank]

/-- An exclusive burst with a target starts in its window. -/
theorem RouteBase.Valid.base_le {W : Type} {env : FabricEnv W} {route : RouteBase c}
    (valid : route.Valid env) (exclusive : route.exclusive = true) {mapping : Mapping}
    (targeted : route.target = some mapping) :
    mapping ∈ env.space.mappings ∧ mapping.base ≤ route.payload.address.toNat := by
  have shape := valid.shape exclusive
  have positive := route.payload.beats_pos
  have startEq := shape.beatStart_eq 0
  obtain ⟨cursor, built, -⟩ := valid.routable.accepted
  rcases Nat.lt_or_eq_of_le (valid.beatEnd_le positive) with below | top
  · obtain ⟨member, baseLe, -⟩ := valid.window targeted positive below
    rw [startEq, Nat.zero_mul, Nat.add_zero] at baseLe
    exact ⟨member, baseLe⟩
  · -- The burst is one beat that ends at the top, so no byte of it was decoded.
    have decodes : Decodes env.space c.dataBytes route.payload mapping := by
      rw [← decodedMapping_eq_some_iff, ← valid.mapping_eq]
      exact (RouteBase.Valid.target_iff.mp targeted).2
    obtain ⟨byte, visible⟩ := List.exists_mem_of_ne_nil _ decodes.1
    obtain ⟨index, inRange, lower, upper, below⟩ :=
      (mem_visibleBytes_iff cursor built byte).mp visible
    have startLt := valid.starts inRange
    rcases Nat.eq_zero_or_pos index with rfl | later
    · omega
    · have := shape.beatEnd_le_beatStart later
      omega

/-! ## The log of stores -/

/-- The stores of an answered write: all its beats, if it has a target and is not an
exclusive write that failed. -/
def WriteRoute.performed (done : WriteRoute c) (write : Nat) : List (Store c) :=
  match done.target with
  | none => []
  | some mapping =>
      if done.exclusive = false ∨ done.response = .exclusiveOkay then
        done.stores write mapping done.payload.beats
      else
        []

/-- The stores of a write that is being served: its committed beats. -/
def WriteRoute.committed (route : WriteRoute c) (write : Nat) : List (Store c) :=
  match route.target with
  | none => []
  | some mapping => route.stores write mapping route.commitBeat

/-- The stores of the answered writes, in the order of the answers, then those of
the write at the front of the queue. -/
def serialStores (trace : List (Event c)) (queue : List (WriteRoute c)) : List (Store c) :=
  ((completedWrites trace).zipIdx.flatMap fun entry => entry.1.performed entry.2) ++
    (queue.take 1).flatMap fun route => route.committed (completedWrites trace).length

theorem SameSizes.trans {first second third : RamWorld} (left : SameSizes first second)
    (right : SameSizes second third) : SameSizes first third := fun device =>
  (right device).trans (left device)

theorem WriteRoute.committed_zero {route : WriteRoute c} (uncommitted : route.commitBeat = 0)
    (write : Nat) : route.committed write = [] := by
  simp only [WriteRoute.committed, uncommitted]
  split <;> rfl

theorem WriteRoute.Untouched.committed {route : WriteRoute c} (untouched : route.Untouched)
    (write : Nat) : route.committed write = [] := by
  obtain ⟨base, -, rfl⟩ := untouched
  exact WriteRoute.committed_zero rfl write

/-- A step appends stores to the log and applies them to the RAMs. -/
def Logs (history more : List (Event c)) (state next : Pipeline c RamWorld) : Prop :=
  ∃ stores, serialStores (history ++ more) next.writeRoutes =
      serialStores history state.writeRoutes ++ stores ∧
    ramMemory next.world = replay Store.value (ramMemory state.world) stores ∧
    SameSizes state.world next.world

namespace Logs

variable {history more : List (Event c)} {state next : Pipeline c RamWorld}

theorem of_quiet (world : next.world = state.world) (incomplete : completedWrites more = [])
    (queue : ∀ write, ((next.writeRoutes.take 1).flatMap fun route => route.committed write) =
      (state.writeRoutes.take 1).flatMap fun route => route.committed write) :
    Logs history more state next := by
  refine ⟨[], ?_, ?_, ?_⟩
  · simp [serialStores, incomplete, queue]
  · rw [world]
    rfl
  · rw [world]
    exact fun _ => rfl

/-- Answering the front write, with the stores that its last step makes. -/
theorem of_completed {route : WriteRoute c} {routes : List (WriteRoute c)}
    (ordered : Ordered state) (front : state.writeRoutes = route :: routes) (done : WriteRoute c)
    (completed : completedWrites more = [done]) (writeRoutes : next.writeRoutes = routes)
    (stores : List (Store c))
    (split : done.performed (completedWrites history).length =
      route.committed (completedWrites history).length ++ stores)
    (memory : ramMemory next.world = replay Store.value (ramMemory state.world) stores)
    (sizes : SameSizes state.world next.world) : Logs history more state next := by
  refine ⟨stores, ?_, memory, sizes⟩
  have waiting : ∀ write,
      ((routes.take 1).flatMap fun route => route.committed write) = [] := by
    intro write
    rw [List.flatMap_eq_nil_iff]
    intro other member
    have untouched := ordered.waitingWrites other (by rw [front]; exact List.mem_of_mem_take member)
    exact untouched.committed write
  simp [serialStores, front, completed, writeRoutes, split, waiting, List.zipIdx_append]

end Logs

/-- Resetting RAMs keeps their contents. -/
theorem AddressSpace.reset_ramBank (space : AddressSpace) (world : RamWorld) :
    space.reset ramBank world = world := by
  have loop : ∀ (mappings : List Mapping) (seen : List DeviceId),
      (mappings.foldl (fun (seen, world) mapping =>
        if mapping.device ∈ seen then (seen, world)
        else (mapping.device :: seen, ramBank.reset mapping.device world))
        (seen, world)).2 = world := by
    intro mappings
    induction mappings with
    | nil => exact fun _ => rfl
    | cons mapping mappings ih =>
        intro seen
        rw [List.foldl_cons]
        simp only []
        split
        next => exact ih seen
        next => exact ih (mapping.device :: seen)
  exact loop space.mappings []

theorem ramBank_read_world (device : DeviceId) (world : RamWorld) (offset : Nat)
    (enable : List UInt8) : (ramBank.readImpl device world offset enable).1 = world := rfl

/-- Reading RAMs keeps their contents. -/
theorem readDeviceBeat_ramBank {space : AddressSpace} {resetDevices : Bool} {world : RamWorld}
    {route : ReadRoute c} {cursor : BurstCursor c.dataBytes} {access : ReadAccess c RamWorld}
    (valid : route.Valid { bank := ramBank, space, resetDevices })
    (built : BurstCursor.new route.payload = .ok cursor)
    (inRange : route.beat < route.payload.beats)
    (accessed : readDeviceBeat { bank := ramBank, space, resetDevices } world route cursor =
      .ok access) : access.world = world := by
  cases target : route.target with
  | none =>
      obtain ⟨forced, forcedOk, worldEq, -⟩ := readDeviceBeat_forced target
      rw [Except.ok.inj (accessed.symm.trans forcedOk), worldEq]
  | some mapping =>
      rcases Nat.lt_or_eq_of_le (valid.beatEnd_le inRange) with below | top
      · obtain ⟨response, data, spec⟩ := readDeviceBeat_read built target inRange below accessed
        have worldEq := ramBank_read_world mapping.device world
          (sub64 (route.payload.beatStart route.beat) mapping.base)
          (span (route.payload.mask c.dataBytes route.beat)
            (route.payload.firstLane c.dataBytes route.beat)
            (route.payload.beatLength route.beat))
        rwa [spec.device] at worldEq
      · obtain ⟨made, madeOk, worldEq, -⟩ :=
          readDeviceBeat_top built target inRange (valid.starts inRange) top
        rw [Except.ok.inj (accessed.symm.trans madeOk), worldEq]

/-- A write beyond the end of a RAM has no effect. -/
theorem ramBank_write_outside {world after : RamWorld} {device : DeviceId} {offset : Nat}
    {data strobe : List UInt8} {response : Response}
    (written : ramBank.writeImpl device world offset data strobe = (after, response))
    (outside : (world device).size < offset + data.length) :
    response = .slaveError ∧ after = world := by
  have refused := (world device).writeImpl_outside strobe outside
  have afterEq : Function.update world device ((world device).writeImpl offset data strobe).1 =
      after := congrArg Prod.fst written
  have responseEq : ((world device).writeImpl offset data strobe).2 = response :=
    congrArg Prod.snd written
  rw [refused] at afterEq responseEq
  exact ⟨responseEq.symm, by rw [← afterEq]; exact Function.update_eq_self device world⟩

namespace Logs

variable {space : AddressSpace} {resetDevices : Bool} {history more : List (Event c)}
  {state next : Pipeline c RamWorld}

/-- A regular beat of the front write is one store. -/
theorem write_beat (write : Nat)
    (fits : ∀ mapping ∈ space.mappings, mapping.size ≤ (state.world mapping.device).size)
    (ordered : Ordered state) (sound : Sound { bank := ramBank, space, resetDevices } history state)
    {route : WriteRoute c} (member : route ∈ state.writeRoutes) {cursor : BurstCursor c.dataBytes}
    {mapping : Mapping} {data strobe : Lanes c.dataBytes} {access : WriteAccess c RamWorld}
    (built : BurstCursor.new route.payload = .ok cursor)
    (targeted : route.target = some mapping)
    (staged : route.staged route.commitBeat = .ok (data, strobe))
    (written : writeDeviceBeat { bank := ramBank, space, resetDevices } state.world state.monitors
      route mapping cursor route.commitBeat data strobe = .ok access) :
    access.response = .okay ∧ SameSizes state.world access.world ∧
      ramMemory access.world = replay Store.value (ramMemory state.world)
        [⟨write, mapping, route.payload, route.commitBeat, route.stagedBeat route.commitBeat⟩] := by
  have inRange := (ordered.writes route member).commit_lt
  have valid := (sound.writes route member).1
  rcases Nat.lt_or_eq_of_le (valid.beatEnd_le inRange) with below | top
  · have spec := writeDeviceBeat_written built inRange below written
    obtain ⟨inSpace, baseLe, endLe⟩ := valid.window targeted inRange below
    rw [route.staged_eq (Nat.lt_of_lt_of_le inRange route.payload.beats_le)] at staged
    obtain ⟨rfl, rfl⟩ := Prod.mk.inj (Except.ok.inj staged)
    exact ramBank_write_beat write built spec.device baseLe endLe below (fits mapping inSpace)
  · rw [writeDeviceBeat_top built inRange (valid.starts inRange) top] at written
    rw [← Except.ok.inj written, replay_singleton, overlay_top top]
    exact ⟨rfl, fun _ => rfl, rfl⟩

theorem step (fits : ∀ mapping ∈ space.mappings,
      mapping.size ≤ (state.world mapping.device).size)
    (ordered : Ordered state) (sound : Sound { bank := ramBank, space, resetDevices } history state)
    (taken : Pipeline.ActiveStep { bank := ramBank, space, resetDevices } state more next) :
    Logs history more state next := by
  obtain ⟨taken, active⟩ := taken
  cases taken with
  | acceptAw | acceptW | acceptAr | retireB | retireR | routeAr | reserve | tick =>
      exact of_quiet (by simp) (by simp) (by simp)
  | resetDevices => exact of_quiet (space.reset_ramBank _) (by simp) fun _ => rfl
  | routeAw port payload rest cycle base queue free routed =>
      refine of_quiet rfl (by simp) fun write => ?_
      have untouched : ({ toRouteBase := base } : WriteRoute c).Untouched :=
        ⟨base, (initializeRoute_routed routed).beat_eq, rfl⟩
      cases routes : state.writeRoutes with
      | nil => simp [untouched.committed write]
      | cons front others => simp
  | stage route routes beat rest cursor lanes index front built incomplete =>
      refine of_quiet rfl (by simp) fun write => ?_
      have uncommitted := (ordered.writes route (by simp [front])).uncommitted incomplete
      have stagedZero : (route.stageBeat beat index
          (route.beat + 1 == cursor.beats)).commitBeat = 0 := uncommitted
      have stagedCommitted := WriteRoute.committed_zero stagedZero write
      simp [front, WriteRoute.committed_zero uncommitted write, stagedCommitted]
  | completeForced route routes front complete free regular untargeted =>
      refine of_completed ordered front
        { route with response := combineResponse route.response route.forcedResponse } (by simp)
        rfl [] ?_ rfl fun _ => rfl
      simp [WriteRoute.performed, WriteRoute.committed, untargeted]
  | commitBeat route routes cursor mapping data strobe access front built complete free regular
      targeted staged written notDone =>
      have member : route ∈ state.writeRoutes := by simp [front]
      obtain ⟨-, sizes, memory⟩ := write_beat (completedWrites history).length fits ordered sound
        member built targeted staged written
      obtain ⟨-, -, count⟩ :=
        (ordered.writes route member).commitBeat built complete regular written notDone
      obtain ⟨exitResponse, exitCode, routeEq⟩ := writeDeviceBeat_route written
      refine ⟨_, ?_, memory, sizes⟩
      have committed : (access.route.afterBeat access.response cursor.beats).committed
          (completedWrites history).length =
          route.committed (completedWrites history).length ++
            [⟨(completedWrites history).length, mapping, route.payload, route.commitBeat,
              route.stagedBeat route.commitBeat⟩] := by
        have targetEq : (access.route.afterBeat access.response cursor.beats).target =
            some mapping := by simp [WriteRoute.afterBeat, routeEq, targeted]
        simp only [WriteRoute.committed, targetEq, targeted, count, ← WriteRoute.stores_succ]
        simp only [WriteRoute.afterBeat, routeEq]
        rfl
      simp [serialStores, committed, front]
  | commitLast route routes cursor mapping data strobe access front built complete free regular
      targeted staged written last =>
      have member : route ∈ state.writeRoutes := by simp [front]
      obtain ⟨okay, sizes, memory⟩ := write_beat (completedWrites history).length fits ordered
        sound member built targeted staged written
      obtain ⟨exitResponse, exitCode, routeEq⟩ := writeDeviceBeat_route written
      have count : route.payload.beats = route.commitBeat + 1 := by
        rw [okay] at last
        simp only [WriteRoute.afterBeat, routeEq, BurstCursor.beats,
          BurstCursor.payload_of_new built] at last
        exact last.symm
      refine of_completed ordered front (access.route.afterBeat access.response cursor.beats)
        (by simp) rfl _ ?_ memory sizes
      have targetEq : (access.route.afterBeat access.response cursor.beats).target =
          some mapping := by simp [WriteRoute.afterBeat, routeEq, targeted]
      have payloadEq : (access.route.afterBeat access.response cursor.beats).payload =
          route.payload := by simp [WriteRoute.afterBeat, routeEq]
      have exclusiveEq : (access.route.afterBeat access.response cursor.beats).exclusive =
          false := by simp [WriteRoute.afterBeat, routeEq, regular]
      simp only [WriteRoute.performed, WriteRoute.committed, targetEq, targeted, payloadEq,
        exclusiveEq, true_or, if_true, count, ← WriteRoute.stores_succ]
      simp only [WriteRoute.afterBeat, routeEq]
      rfl
  | commitExclusive route routes cursor access front built complete free exclusive finished =>
      have member : route ∈ state.writeRoutes := by simp [front]
      have valid := (sound.writes route member).1
      have uncommitted : ∀ write, route.committed write = [] :=
        WriteRoute.committed_zero ((ordered.writes route member).exclusive exclusive)
      cases targeted : route.target with
      | none =>
          rw [finishExclusiveWrite_forced targeted] at finished
          cases finished
          refine of_completed ordered front { route with response := route.forcedResponse }
            (by simp) rfl [] ?_ rfl fun _ => rfl
          simp [WriteRoute.performed, uncommitted, targeted]
      | some mapping =>
          by_cases reserved : Reserved state.monitors route.port route.payload
          · obtain ⟨made, image, madeOk, spec⟩ := finishExclusiveWrite_reserved built
              (valid.shape exclusive) (fun index inRange => valid.starts inRange) targeted reserved
            obtain rfl : made = access := Except.ok.inj (madeOk.symm.trans finished)
            obtain ⟨inSpace, baseLe⟩ := valid.base_le exclusive targeted
            by_cases inside : route.payload.address.toNat - mapping.base + route.payload.total ≤
                (state.world mapping.device).size
            · obtain ⟨okay, sizes, memory⟩ := ramBank_write_image (completedWrites history).length
                (valid.shape exclusive) spec.staged spec.device baseLe inside
              refine of_completed ordered front made.route (by simp) rfl _ ?_ memory sizes
              rw [uncommitted, List.nil_append, spec.answered, okay]
              simp only [WriteRoute.performed, targeted]
              rw [if_pos (.inr rfl)]
              rfl
            · -- A burst that ends at the top may leave the RAM; the device refuses it.
              have inArray : 0 + route.payload.total ≤ 128 := by
                have := (valid.shape exclusive).total
                omega
              have device := spec.device
              rw [sub64_eq baseLe route.payload.address.toNat_lt] at device
              obtain ⟨failed, worldEq⟩ := ramBank_write_outside device (by
                rw [length_span _ inArray]
                omega)
              refine of_completed ordered front made.route (by simp) rfl [] ?_
                (congrArg ramMemory worldEq) (worldEq ▸ fun _ => rfl)
              rw [uncommitted, spec.answered, failed]
              simp [WriteRoute.performed, targeted, exclusive, responseIsSuccess]
          · rw [finishExclusiveWrite_unreserved targeted reserved] at finished
            cases finished
            refine of_completed ordered front { route with response := .okay } (by simp) rfl [] ?_
              rfl fun _ => rfl
            simp [WriteRoute.performed, uncommitted, exclusive, targeted]
  | readBeat route routes cursor access front built free accessed =>
      have member : route ∈ state.readRoutes := by simp [front]
      exact of_quiet (readDeviceBeat_ramBank (sound.reads route member) built
        (ordered.reads route member) accessed) (by simp) fun _ => rfl
  | readLast route routes cursor access front built free accessed =>
      have member : route ∈ state.readRoutes := by simp [front]
      exact of_quiet (readDeviceBeat_ramBank (sound.reads route member) built
        (ordered.reads route member) accessed) (by simp) fun _ => rfl
  | reset => simp [Event.isReset] at active

end Logs

/-- The RAMs hold what the log leaves. -/
structure Memorized (initial : RamWorld) (history : List (Event c))
    (state : Pipeline c RamWorld) : Prop where
  sizes : SameSizes initial state.world
  memory : ramMemory state.world =
    replay Store.value (ramMemory initial) (serialStores history state.writeRoutes)

section Runs

variable {space : AddressSpace} {resetDevices : Bool} {initial : RamWorld}
  {history : List (Event c)} {state : Pipeline c RamWorld}
  (fits : ∀ mapping ∈ space.mappings, mapping.size ≤ (initial mapping.device).size)

include fits

theorem Memorized.of_traces
    (trace : Traces (Pipeline.ActiveStep { bank := ramBank, space, resetDevices })
      (.empty c initial) history state) : Memorized initial history state := by
  induction trace with
  | refl => exact ⟨fun _ => rfl, rfl⟩
  | snoc prior taken memorized =>
      obtain ⟨stores, logged, memory, sizes⟩ := Logs.step
        (fun mapping member => (memorized.sizes mapping.device).symm ▸ fits mapping member)
        (Conserved.of_traces prior).ordered (.of_traces prior) taken
      refine ⟨memorized.sizes.trans sizes, ?_⟩
      rw [memory, memorized.memory, logged, replay_append]

end Runs

/-- A routed write carries the decision of the arbiter for an accepted payload. -/
theorem routedWrites_valid {W : Type} {env : FabricEnv W} {world : W} {history : List (Event c)}
    {state : Pipeline c W}
    (trace : Traces (Pipeline.ActiveStep env) (.empty c world) history state) :
    ∀ route ∈ routedWrites history, route.Valid env ∧ .aw route.port route.payload ∈ history := by
  induction trace with
  | refl => simp
  | @snoc state next events more prior taken ih =>
      have sound : Sound env events state := .of_traces prior
      intro route member
      simp only [picked_append, List.mem_append] at member
      rcases member with old | new
      · obtain ⟨valid, accepted⟩ := ih route old
        exact ⟨valid, List.mem_append_left _ accepted⟩
      · obtain ⟨taken, -⟩ := taken
        cases taken with
        | routeAw port payload rest cycle base queue free routed =>
            have fields := initializeRoute_routed routed
            simp only [picked_singleton, Event.routeWrite?, Option.toList_some,
              List.mem_singleton] at new
            subst new
            refine ⟨.of_routed routed, List.mem_append_left _ ?_⟩
            simp only [fields.port_eq, fields.payload_eq]
            exact sound.awAccepted port payload (by simp [queue])
        | _ => simp at new

/-- Memory serialization.  After every cycle the RAMs hold their initial contents
with write beats applied one after the other: those of the answered writes, in the
order in which the arbiter routed them, then the committed beats of the write at
the front of the queue.  The beats of a write are the next ones of the W stream of
its port, which is what WVALID and WREADY have moved, and it has a target exactly when one
window holds all its bytes. -/
theorem memory_serialized (space : AddressSpace) (resetDevices : Bool) (cycles : List c.Inputs)
    (random : UInt64) (stall : Stall) (world : RamWorld)
    (fits : ∀ mapping ∈ space.mappings, mapping.size ≤ (world mapping.device).size)
    (offTop : OffTop (AxiFabric.runActive { bank := ramBank, space, resetDevices } cycles
      (.fresh c random stall world)).state.trace) :
    let final := (AxiFabric.runActive { bank := ramBank, space, resetDevices } cycles
      (.fresh c random stall world)).state
    let writes := completedWrites final.trace ++ final.writeRoutes.toList
    (∀ device, (final.world device).size = (world device).size) ∧
      ramMemory final.world = replay Store.value (ramMemory world)
        (serialStores final.trace final.writeRoutes.toList) ∧
      writes.map (fun route => route.decision) =
        (routedWrites final.trace).map (fun route => route.decision) ∧
      (∀ route ∈ writes, route.target = space.windowOf route.payload) ∧
      (∀ port, wOf port final.trace =
        (writes.filter fun route => route.port = port).flatMap WriteRoute.stagedBeats ++
          (final.ports port).w.toList) ∧
      (∀ route ∈ completedWrites final.trace, route.stagedBeats.length = route.payload.beats) ∧
      (∀ route ∈ final.writeRoutes.toList, 0 < route.commitBeat →
        route.stagedBeats.length = route.payload.beats) ∧
      ∀ port, OnWires (AxiFabric.wires { bank := ramBank, space, resetDevices }
        (cycles.map fun inputs => (inputs, false)) (.fresh c random stall world))
          final.trace port := by
  intro final writes
  have traces := AxiFabric.runActive_traces { bank := ramBank, space, resetDevices } cycles random
    stall world
  have conserved : Conserved final.trace final.view := .of_traces traces
  have served : Served final.trace final.view := .of_traces traces
  have memorized : Memorized world final.trace final.view := .of_traces fits traces
  refine ⟨memorized.sizes, memorized.memory, served.writes.symm, ?_, ?_, ?_, ?_,
    AxiFabric.run_onWires _ _ random stall world⟩
  · intro route member
    -- The decision was made for a routed write, and that one was accepted.
    have decided : route.decision ∈ (routedWrites final.trace).map fun route => route.decision := by
      rw [served.writes]
      exact List.mem_map_of_mem member
    obtain ⟨routed, inRouted, same⟩ := List.mem_map.mp decided
    obtain ⟨valid, accepted⟩ := routedWrites_valid traces routed inRouted
    obtain ⟨-, payloadEq, -, targetEq⟩ := RouteBase.of_decision same
    rw [← targetEq, ← payloadEq]
    exact valid.target_eq ((offTop routed.port).1 _ (mem_awOf.mpr accepted))
  · intro port
    have account := conserved.writes port
    rw [account.w, account.staged, completedOf_eq, List.filter_append, List.flatMap_append]
    rfl
  · intro route member
    have inPort : route ∈ completedOf route.port final.trace := by
      rw [completedOf_eq]
      simp [member]
    simpa [WriteRoute.stagedBeats] using (conserved.writes route.port).full route inPort
  · intro route member committed
    have started := conserved.ordered.writes route member
    have complete : route.dataComplete = true := by
      by_contra incomplete
      have := started.uncommitted (Bool.eq_false_iff.mpr incomplete)
      omega
    simpa [WriteRoute.stagedBeats] using started.complete_iff.mp complete

/-- The first beat of a write of two words, with its request. -/
def startPair : Config.small.Inputs := fun _ =>
  { bReady := true
    rReady := true
    awValid := true
    aw := { wordAt 0x1008 3 false with length := 1 }
    wValid := true
    w := { data := fun _ => 8, strobe := fun _ => 1, last := false } }

/-- The second beat. -/
def finishPair : Config.small.Inputs := fun _ =>
  { bReady := true
    rReady := true
    wValid := true
    w := { data := fun _ => 9, strobe := fun _ => 1, last := true } }

/-- One word has been written and answered, and the first of two more is committed. -/
def pairUnderWay : AxiFabric Config.small RamWorld :=
  (AxiFabric.runActive { bank := ramBank, space := smallEnv.space }
    [writeWord 0x1004 3 false 7, startPair, finishPair]
    (.fresh Config.small 1 .never smallWorld)).state

theorem memory_serialized_small :
    let writes := completedWrites pairUnderWay.trace ++ pairUnderWay.writeRoutes.toList
    (completedWrites pairUnderWay.trace).length = 1 ∧
      (pairUnderWay.writeRoutes.toList.map fun route => route.commitBeat) = [1] ∧
      (pairUnderWay.world 0).bytes = [0, 0, 0, 0, 7, 7, 7, 7, 8, 8, 8, 8, 0, 0, 0, 0] ∧
      OffTop pairUnderWay.trace ∧
      (∀ device, (pairUnderWay.world device).size = (smallWorld device).size) ∧
      ramMemory pairUnderWay.world = replay Store.value (ramMemory smallWorld)
        (serialStores pairUnderWay.trace pairUnderWay.writeRoutes.toList) ∧
      writes.map (fun route => route.decision) =
        (routedWrites pairUnderWay.trace).map (fun route => route.decision) ∧
      (∀ route ∈ writes, route.target = smallEnv.space.windowOf route.payload) ∧
      (∀ port, wOf port pairUnderWay.trace =
        (writes.filter fun route => route.port = port).flatMap WriteRoute.stagedBeats ++
          (pairUnderWay.ports port).w.toList) ∧
      (∀ route ∈ completedWrites pairUnderWay.trace,
        route.stagedBeats.length = route.payload.beats) ∧
      (∀ route ∈ pairUnderWay.writeRoutes.toList, 0 < route.commitBeat →
        route.stagedBeats.length = route.payload.beats) ∧
      ∀ port, OnWires (AxiFabric.wires { bank := ramBank, space := smallEnv.space }
        ([writeWord 0x1004 3 false 7, startPair, finishPair].map fun inputs => (inputs, false))
        (.fresh Config.small 1 .never smallWorld)) pairUnderWay.trace port := by
  have fits : ∀ mapping ∈ smallEnv.space.mappings,
      mapping.size ≤ (smallWorld mapping.device).size := by decide
  have offTop : OffTop pairUnderWay.trace := by decide +kernel
  exact ⟨by decide +kernel, by decide +kernel, by decide +kernel, offTop,
    memory_serialized smallEnv.space true _ 1 .never smallWorld fits offTop⟩

end AxiTestbench
