import AxiTestbench.Fabric.Bursts
import AxiTestbench.Fabric.Memory

/-!
# The flattened exclusive write

`finish_exclusive_write` copies the staged beats into one array and writes that array
with a single device call.  The copy is a bijection between the enabled lanes and the
bytes of the transfer, and on a RAM the single call does what the staged beats would
do one after the other.
-/

namespace AxiTestbench

open Lib Outcome

variable {c : Config}

/-! ## Places in the staging arrays -/

/-- The lanes of all beats that `finish_exclusive_write` does not skip. -/
def enabledLanes (cursor : BurstCursor c.dataBytes) : Set (Nat × Fin c.dataBytes) :=
  {entry | entry.1 < cursor.beats ∧
    ∃ mask, cursor.laneMask entry.1 = .ok mask ∧ mask entry.2 ≠ 0}

/-- `index` of `finish_exclusive_write`. -/
def stagingIndex (cursor : BurstCursor c.dataBytes) (entry : Nat × Fin c.dataBytes) : Nat :=
  match cursor.busWordAddress entry.1 with
  | .ok base => sub64 (add64 base entry.2) cursor.payload.address.toNat
  | .error _ => 0

/-- Every byte of the burst lies in the window. -/
def AddressPayload.Within (payload : AddressPayload) (mapping : Mapping) : Prop :=
  ∀ byte, payload.Touches byte → mapping.base ≤ byte ∧ byte < mapping.limit

namespace AddressPayload.Within

variable {payload : AddressPayload} {cursor : BurstCursor c.dataBytes} {mapping : Mapping}
  {index : Nat}

theorem beat (within : payload.Within mapping) (built : BurstCursor.new payload = .ok cursor)
    (inRange : index < payload.beats) :
    mapping.base ≤ payload.beatStart index ∧ payload.beatEnd index ≤ mapping.limit := by
  obtain ⟨-, -, endEq, positive, -⟩ := beat_span built index
  have first := within (payload.beatStart index) ⟨index, inRange, by omega, by omega⟩
  have last := within (payload.beatEnd index - 1) ⟨index, inRange, by omega, by omega⟩
  omega

theorem below (within : payload.Within mapping) (built : BurstCursor.new payload = .ok cursor)
    (bounded : mapping.limit ≤ 2 ^ 64 - 1) (inRange : index < payload.beats) :
    payload.beatEnd index < 2 ^ 64 := by
  have := (within.beat built inRange).2
  omega

end AddressPayload.Within

section Places

variable {cursor : BurstCursor c.dataBytes}
  (below : ∀ index < cursor.payload.beats, cursor.payload.beatEnd index < 2 ^ 64)

include below

theorem mem_enabledLanes_iff (entry : Nat × Fin c.dataBytes) :
    entry ∈ enabledLanes cursor ↔ entry.1 < cursor.payload.beats ∧
      cursor.payload.beatStart entry.1 ≤
        cursor.payload.busWord c.dataBytes entry.1 + entry.2 ∧
      cursor.payload.busWord c.dataBytes entry.1 + entry.2 < cursor.payload.beatEnd entry.1 := by
  refine and_congr_right fun inRange => ?_
  have inRange : entry.1 < cursor.payload.beats := inRange
  have belowHere := below entry.1 inRange
  have nonempty := (cursor.beat_in_word c.dataBytes_eq entry.1).2.1
  rw [cursor.laneMask_eq c.dataBytes_eq inRange (by omega)]
  simp only [Except.ok.injEq, exists_eq_left', AddressPayload.mask_ne_zero_iff, belowHere, and_true]

theorem stagingIndex_eq (shape : ExclusiveShape cursor.payload) {entry : Nat × Fin c.dataBytes}
    (enabled : entry ∈ enabledLanes cursor) :
    cursor.payload.busWord c.dataBytes entry.1 + entry.2 =
      cursor.payload.address.toNat + stagingIndex cursor entry := by
  obtain ⟨inRange, lower, upper⟩ := (mem_enabledLanes_iff below entry).mp enabled
  have belowHere := below entry.1 inRange
  have startEq := shape.beatStart_eq entry.1
  have startLt : cursor.payload.beatStart entry.1 < 2 ^ 64 := by omega
  simp only [stagingIndex, cursor.busWordAddress_eq c.dataBytes_eq inRange startLt]
  rw [add64_eq (by omega), sub64_eq (by omega) (by omega)]
  omega

/-- The enabled lanes are in bijection with the bytes of the transfer. -/
theorem stagingIndex_bijOn (shape : ExclusiveShape cursor.payload) :
    Set.BijOn (stagingIndex cursor) (enabledLanes cursor) (Set.Iio cursor.payload.total) := by
  have tiles := AddressPayload.tiles_increment shape.burst
  have aligned : cursor.payload.address.toNat / cursor.payload.beatBytes *
      cursor.payload.beatBytes = cursor.payload.address.toNat :=
    Nat.div_mul_cancel ((Nat.dvd_mul_left _ _).trans shape.aligned)
  rw [aligned] at tiles
  refine ⟨fun entry enabled => ?_, fun left leftIn right rightIn same => ?_, fun place inside => ?_⟩
  · have placed := stagingIndex_eq below shape enabled
    obtain ⟨inRange, lower, upper⟩ := (mem_enabledLanes_iff below entry).mp enabled
    have := ((tiles.covers _).mpr ⟨entry.1, inRange, lower, upper⟩).2
    rw [Set.mem_Iio]
    omega
  · have leftPlaced := stagingIndex_eq below shape leftIn
    have rightPlaced := stagingIndex_eq below shape rightIn
    obtain ⟨leftRange, leftBeat⟩ := (mem_enabledLanes_iff below left).mp leftIn
    obtain ⟨rightRange, rightBeat⟩ := (mem_enabledLanes_iff below right).mp rightIn
    have byteEq : cursor.payload.busWord c.dataBytes left.1 + left.2 =
        cursor.payload.busWord c.dataBytes right.1 + right.2 := by omega
    have inWhole := (tiles.covers _).mpr ⟨left.1, leftRange, leftBeat⟩
    have beatEq : left.1 = right.1 :=
      (tiles.existsUnique inWhole).unique ⟨leftRange, leftBeat⟩ ⟨rightRange, byteEq ▸ rightBeat⟩
    refine Prod.ext beatEq (Fin.ext ?_)
    rw [beatEq] at byteEq
    omega
  · obtain ⟨index, inRange, lower, upper⟩ := (tiles.covers (cursor.payload.address.toNat + place)).mp
      ⟨Nat.le_add_right _ _, Nat.add_lt_add_left inside _⟩
    obtain ⟨wordLe, -, -, endInWord⟩ := cursor.beat_in_word c.dataBytes_eq index
    let lane : Fin c.dataBytes :=
      ⟨cursor.payload.address.toNat + place - cursor.payload.busWord c.dataBytes index, by omega⟩
    have byteEq : cursor.payload.busWord c.dataBytes index + lane =
        cursor.payload.address.toNat + place := by
      simp only [lane]
      omega
    have enabled : (index, lane) ∈ enabledLanes cursor :=
      (mem_enabledLanes_iff below _).mpr ⟨inRange, byteEq ▸ lower, byteEq ▸ upper⟩
    refine ⟨(index, lane), enabled, ?_⟩
    have := stagingIndex_eq below shape enabled
    simp only [] at this
    omega

end Places

/-! ## Beat by beat -/

/-- The first staged beats of a route, committed one by one as `process_write_commit`
does for a regular write. -/
def commitStaged {W : Type} (env : FabricEnv W) (route : WriteRoute c) (mapping : Mapping)
    (cursor : BurstCursor c.dataBytes) (state : W × Monitors c) (count : Nat) :
    Except Fault (W × Monitors c) :=
  (List.range count).foldlM
    (fun state beat => do
      let (data, strobe) ← route.staged beat
      let access ← writeDeviceBeat env state.1 state.2 route mapping cursor beat data strobe
      return (access.world, access.monitors))
    state

/-- Bus addresses of the strobed lanes among the first staged beats. -/
def WriteRoute.StrobedBytes (route : WriteRoute c) (count byte : Nat) : Prop :=
  ∃ index < count, ∃ lane : Fin c.dataBytes, route.payload.mask c.dataBytes index lane ≠ 0 ∧
    (route.stagedBeat index).strobe lane ≠ 0 ∧
    byte = route.payload.busWord c.dataBytes index + lane

/-- The table after an invalidation is determined by the invalidated bytes. -/
theorem Invalidated.unique {touched : Nat → Prop} {before left right : Monitors c}
    (leftDone : Invalidated touched before left) (rightDone : Invalidated touched before right) :
    left = right := by
  funext slot
  by_cases covered : ∃ byte, touched byte ∧ (before slot).first ≤ byte ∧ byte < (before slot).last
  · rw [(leftDone slot).1 covered, (rightDone slot).1 covered]
  · rw [(leftDone slot).2 covered, (rightDone slot).2 covered]

/-- Worlds of RAM devices with the same sizes and bytes are equal. -/
theorem ramWorld_ext {left right : RamWorld} (sizes : SameSizes left right)
    (memory : ramMemory left = ramMemory right) : left = right := by
  funext device
  have sizeEq : (right device).bytes.length = (left device).bytes.length := sizes device
  suffices same : (left device).bytes = (right device).bytes by
    cases leftEq : left device
    cases rightEq : right device
    rw [leftEq, rightEq] at same
    exact congrArg RamDevice.mk same
  refine List.ext_getElem sizeEq.symm fun offset leftLt rightLt => ?_
  have byteEq := congrFun memory (device, offset)
  simpa [ramMemory, byteAt, leftLt, rightLt] using byteEq

theorem effective_ne_zero_iff (payload : AddressPayload) (index : Nat)
    (strobe : Lanes c.dataBytes) (lane : Fin c.dataBytes) :
    payload.effective c.dataBytes index strobe lane ≠ 0 ↔
      payload.mask c.dataBytes index lane ≠ 0 ∧ strobe lane ≠ 0 := by
  simp only [AddressPayload.effective]
  split
  next both => simp [both]
  next neither => exact ⟨fun impossible => absurd rfl impossible, fun both => absurd both neither⟩

theorem commitStaged_spec {env : FabricEnv RamWorld} {route : WriteRoute c} {mapping : Mapping}
    {cursor : BurstCursor c.dataBytes} {world : RamWorld} (monitors : Monitors c)
    (rams : env.bank = ramBank) (built : BurstCursor.new route.payload = .ok cursor)
    (within : route.payload.Within mapping) (bounded : mapping.limit ≤ 2 ^ 64 - 1)
    (fits : mapping.size ≤ (world mapping.device).size) {count : Nat}
    (inRange : count ≤ route.payload.beats) :
    ∃ after, commitStaged env route mapping cursor (world, monitors) count = .ok after ∧
      SameSizes world after.1 ∧
      ramMemory after.1 = replay Store.value (ramMemory world) (route.stores 0 mapping count) ∧
      Invalidated (route.StrobedBytes count) monitors after.2 := by
  induction count with
  | zero =>
      refine ⟨(world, monitors), rfl, fun _ => rfl, rfl, ?_⟩
      refine (Invalidated.of_false monitors).congr fun byte => ?_
      simp [WriteRoute.StrobedBytes]
  | succ count ih =>
      obtain ⟨middle, done, sizes, memory, dropped⟩ := ih (by omega)
      have beatInRange : count < route.payload.beats := inRange
      have staged := route.staged_eq (Nat.lt_of_lt_of_le beatInRange route.payload.beats_le)
      have below := within.below built bounded beatInRange
      obtain ⟨baseLe, endLe⟩ := within.beat built beatInRange
      obtain ⟨access, written, spec⟩ :
          ∃ access, writeDeviceBeat env middle.1 middle.2 route mapping cursor count
              (route.stagedBeat count).data (route.stagedBeat count).strobe = .ok access ∧
            BeatWritten env middle.1 middle.2 route mapping count (route.stagedBeat count).data
              (route.stagedBeat count).strobe access :=
        writeDeviceBeat_spec built beatInRange below
      have device := spec.device
      rw [rams] at device
      obtain ⟨okay, moreSizes, moreMemory⟩ := ramBank_write_beat 0 built device baseLe endLe below
        (by rw [sizes]; exact fits)
      refine ⟨(access.world, access.monitors), ?_, sizes.trans moreSizes, ?_, ?_⟩
      · rw [commitStaged] at done ⊢
        rw [List.range_succ, List.foldlM_append, done, ok_bind, List.foldlM_cons, staged, ok_bind]
        simp only [written, ok_bind]
        rfl
      · rw [WriteRoute.stores_succ, replay_append, ← memory, replay_singleton]
        exact moreMemory
      · have later := spec.dropped (by rw [okay]; rfl)
        refine (dropped.trans later).congr fun byte => ?_
        rw [beatCall_strobes_iff built]
        simp only [WriteRoute.StrobedBytes, Nat.lt_succ_iff_lt_or_eq, or_and_right, exists_or,
          exists_eq_left, effective_ne_zero_iff, and_assoc]

/-- The places that the flattened write strobes are the strobed lanes of the beats. -/
theorem Image.strobedBytes_iff {route : WriteRoute c} {image : Lanes 128 × Lanes 128}
    (staged : Image route route.payload.beats image) (shape : ExclusiveShape route.payload)
    (byte : Nat) :
    (∃ position : Fin 128, position.val < route.payload.total ∧ image.2 position ≠ 0 ∧
      byte = route.payload.address.toNat + position) ↔
      route.StrobedBytes route.payload.beats byte := by
  constructor
  · rintro ⟨position, -, strobed, rfl⟩
    obtain ⟨index, inRange, lane, enabled, laneStrobed, placed⟩ :=
      (staged.strobed_iff position).mp strobed
    exact ⟨index, inRange, lane, enabled, laneStrobed, placed.symm⟩
  · rintro ⟨index, inRange, lane, enabled, strobed, rfl⟩
    obtain ⟨lower, upper, -⟩ := (route.payload.mask_ne_zero_iff index lane).mp enabled
    have total := shape.total
    have startEq := shape.beatStart_eq index
    have endLe := shape.beatEnd_le_total inRange
    have inside : route.payload.busWord c.dataBytes index + lane -
        route.payload.address.toNat < 128 := by omega
    have placed : route.payload.busWord c.dataBytes index + lane =
        route.payload.address.toNat + (⟨_, inside⟩ : Fin 128) := by
      simp only []
      omega
    refine ⟨⟨_, inside⟩, by simp only []; omega, ?_, placed⟩
    exact (staged.strobed_iff _).mpr ⟨index, inRange, lane, enabled, strobed, placed⟩

/-- The single device write of an exclusive write is the beat-wise write.  The lanes of
all beats are copied to distinct places that make up the transfer, and on a RAM that
holds the window the memory and the dropped reservations are those of the staged beats
committed one by one. -/
theorem exclusive_write_flattened (env : FabricEnv RamWorld) (rams : env.bank = ramBank)
    (route : WriteRoute c) (mapping : Mapping) (cursor : BurstCursor c.dataBytes)
    (cycle : UInt64) (channel : Channel) (world : RamWorld) (monitors : Monitors c)
    (built : BurstCursor.new route.payload = .ok cursor)
    (shaped : validateExclusive cycle route.port channel route.payload cursor = .ok ())
    (mapped : mapping ∈ env.space.mappings) (within : route.payload.Within mapping)
    (fits : mapping.size ≤ (world mapping.device).size) (targeted : route.target = some mapping)
    (reserved : Reserved monitors route.port route.payload) :
    Set.BijOn (stagingIndex cursor) (enabledLanes cursor) (Set.Iio route.payload.total) ∧
      route.payload.total ≤ 128 ∧
      (∃ image, atomicImage route cursor = .ok image ∧
        ∀ entry ∈ enabledLanes cursor, ∀ inside : stagingIndex cursor entry < 128,
          image.1 ⟨stagingIndex cursor entry, inside⟩ = (route.stagedBeat entry.1).data entry.2 ∧
            image.2 ⟨stagingIndex cursor entry, inside⟩ =
              if (route.stagedBeat entry.1).strobe entry.2 ≠ 0 then 1 else 0) ∧
      ∃ access beatwise, finishExclusiveWrite env world monitors route cursor = .ok access ∧
        commitStaged env route mapping cursor (world, monitors) cursor.beats = .ok beatwise ∧
        access.world = beatwise.1 ∧
        Invalidated (route.StrobedBytes cursor.beats) monitors beatwise.2 ∧
        access.monitors = clearMonitor beatwise.2 route.port route.payload.id := by
  have payloadEq := BurstCursor.payload_of_new built
  have beatsEq : cursor.beats = route.payload.beats := by rw [BurstCursor.beats, payloadEq]
  have shape := (validateExclusive_eq_ok_iff built).mp shaped
  have bounded := env.space.layout.bounded mapping mapped
  have below : ∀ index < route.payload.beats, route.payload.beatEnd index < 2 ^ 64 :=
    fun index inRange => within.below built bounded inRange
  have starts : ∀ index < route.payload.beats, route.payload.beatStart index < 2 ^ 64 := by
    intro index inRange
    have := (beat_span built index).2.2.2.1
    have := (beat_span built index).2.2.1
    have := below index inRange
    omega
  have belowCursor : ∀ index < cursor.payload.beats, cursor.payload.beatEnd index < 2 ^ 64 :=
    payloadEq ▸ below
  have shapeCursor : ExclusiveShape cursor.payload := payloadEq ▸ shape
  obtain ⟨image, flattened, staged⟩ := atomicImage_spec built shape starts
  refine ⟨payloadEq ▸ stagingIndex_bijOn belowCursor shapeCursor, shape.total,
    ⟨image, flattened, fun entry enabled inside => ?_⟩, ?_⟩
  · obtain ⟨inRange, lower, upper⟩ := (mem_enabledLanes_iff belowCursor entry).mp enabled
    have placed := stagingIndex_eq belowCursor shapeCursor enabled
    rw [payloadEq] at inRange lower upper placed
    refine staged.covered entry.1 inRange entry.2 ?_ ⟨_, inside⟩ placed
    exact (route.payload.mask_ne_zero_iff entry.1 entry.2).mpr ⟨lower, upper, below _ inRange⟩
  · obtain ⟨access, written, finished, spec⟩ :
        ∃ access image, finishExclusiveWrite env world monitors route cursor = .ok access ∧
          ExclusiveWritten env world monitors route mapping image access :=
      finishExclusiveWrite_reserved built shape starts targeted reserved
    obtain ⟨beatwise, committed, sizes, memory, dropped⟩ :=
      commitStaged_spec monitors rams built within bounded fits (Nat.le_refl _)
    have device := spec.device
    rw [rams] at device
    obtain ⟨baseLe, -⟩ := within.beat built route.payload.beats_pos
    have lastEnd := (within.beat built (Nat.sub_lt route.payload.beats_pos Nat.one_pos)).2
    rw [shape.beatStart_eq, Nat.zero_mul, Nat.add_zero] at baseLe
    rw [shape.beatEnd_eq, Nat.sub_add_cancel route.payload.beats_pos] at lastEnd
    change route.payload.address.toNat + route.payload.total ≤ mapping.base + mapping.size at lastEnd
    obtain ⟨okay, flatSizes, flatMemory⟩ := ramBank_write_image 0 shape spec.staged device baseLe
      (by omega)
    obtain ⟨middle, flatDropped, cleared⟩ := spec.dropped (by rw [okay]; rfl)
    have sameBytes : Invalidated (route.StrobedBytes route.payload.beats) monitors middle := by
      refine flatDropped.congr fun byte => ?_
      rw [exclusiveCall_strobes_iff shape, spec.staged.strobedBytes_iff shape]
    rw [beatsEq]
    refine ⟨access, beatwise, finished, committed, ?_, dropped, ?_⟩
    · refine ramWorld_ext (fun device => ?_) (flatMemory.trans memory.symm)
      rw [sizes device, flatSizes device]
    · rw [cleared, sameBytes.unique dropped]

/-- An exclusive write of two words after an exclusive read of the same words. -/
def pairWrite : WriteRoute Config.small where
  payload := { id := 3, address := 0x1008, length := 1, size := 2, lock := true }
  mapping := some { base := 0x1000, size := 16, device := 0 }
  exclusive := true
  dataComplete := true
  stagedData := fun beat _ => UInt8.ofNat beat.val
  stagedStrobe := fun _ lane => if lane.val = 1 then 0 else 1

def pairCursor : BurstCursor Config.small.dataBytes where
  payload := pairWrite.payload
  size_lt := by decide
  fits := by decide
  not_reserved := by decide
  fixed_beats := by decide
  wrap_beats := by decide
  wrap_aligned := by decide

/-- The table with the reservation of `pairWrite`. -/
def pairMonitors : Monitors Config.small := fun slot =>
  if slot.val = 0 then
    { valid := true, id := 3, payload := pairWrite.payload, first := 0x1008, last := 0x1010 }
  else
    {}

theorem exclusive_write_flattened_pair :
    ∃ access beatwise,
      finishExclusiveWrite smallEnv smallWorld pairMonitors pairWrite pairCursor = .ok access ∧
        commitStaged smallEnv pairWrite { base := 0x1000, size := 16, device := 0 } pairCursor
          (smallWorld, pairMonitors) pairCursor.beats = .ok beatwise ∧
        access.world = beatwise.1 := by
  have within : pairWrite.payload.Within { base := 0x1000, size := 16, device := 0 } := by
    rintro byte ⟨index, inRange, lower, upper⟩
    have beats : pairWrite.payload.beats = 2 := rfl
    rw [beats] at inRange
    have starts : ∀ index < 2, 0x1000 ≤ pairWrite.payload.beatStart index ∧
        pairWrite.payload.beatEnd index ≤ 0x1010 := by decide
    have := starts index inRange
    constructor
    · exact this.1.trans lower
    · exact upper.trans_le this.2
  have reserved : Reserved pairMonitors pairWrite.port pairWrite.payload :=
    ⟨⟨0, by decide⟩, by decide, rfl⟩
  obtain ⟨-, -, -, access, beatwise, finished, committed, same, -⟩ :=
    exclusive_write_flattened smallEnv rfl pairWrite { base := 0x1000, size := 16, device := 0 }
      pairCursor 0 .aw smallWorld pairMonitors pairCursor.new_payload (by decide)
      (by decide) within (by decide) rfl reserved
  exact ⟨access, beatwise, finished, committed, same⟩

end AxiTestbench
