import AxiTestbench.Elf.Format

/-!
# Loading is all or nothing

A plan checks its chunks before it changes any device, so that every load of
`apply` is accepted.  Applying a plan therefore either changes nothing or stores
every chunk.
-/

namespace AxiTestbench

open Lib Outcome

variable {W : Type}

namespace Chunk

/-- The byte that a chunk puts at its load address plus `k`. -/
def byte (chunk : Chunk) (k : Nat) : UInt8 :=
  if k < chunk.segment.fileSize then chunk.data.byte k else 0

/-- All bytes of a chunk: those of the file, then zeros. -/
def bytes (chunk : Chunk) : List UInt8 :=
  chunk.data.bytes ++ List.replicate (chunk.segment.memorySize - chunk.segment.fileSize) 0

/-- The chunk stores a byte of the device. -/
def Covers (space : AddressSpace) (chunk : Chunk) (device : DeviceId) (index : Nat) : Prop :=
  ∃ mapping, space.resolve chunk.segment.loadAddress chunk.segment.memorySize = some mapping ∧
    mapping.device = device ∧ chunk.segment.loadAddress - mapping.base ≤ index ∧
    index < chunk.segment.loadAddress - mapping.base + chunk.segment.memorySize

/-- Two chunks store no common byte of a device. -/
def Separate (space : AddressSpace) (left right : Chunk) : Prop :=
  ∀ device index, ¬(left.Covers space device index ∧ right.Covers space device index)

/-- What the checks of `add_elf` and `add_raw` establish for a chunk. -/
structure Planned (space : AddressSpace) (bank : LoadBank W) (world : W) (chunk : Chunk) :
    Prop where
  placed : chunk.segment.Placed
  filled : chunk.data.size = chunk.segment.fileSize
  sizes : chunk.segment.fileSize ≤ chunk.segment.memorySize
  target : LoadTarget space bank world chunk.segment.loadAddress chunk.segment.memorySize

variable {space : AddressSpace} {bank : LoadBank W} {world : W} {chunk : Chunk}

theorem Planned.length_bytes (planned : chunk.Planned space bank world) :
    chunk.bytes.length = chunk.segment.memorySize := by
  have filled := planned.filled
  have sizes := planned.sizes
  simp only [ImageBytes.size] at filled
  simp only [bytes, List.length_append, List.length_replicate]
  omega

theorem Planned.getElem?_bytes (planned : chunk.Planned space bank world) {k : Nat}
    (inside : k < chunk.segment.memorySize) : chunk.bytes[k]? = some (chunk.byte k) := by
  have filled := planned.filled
  simp only [ImageBytes.size] at filled
  rw [bytes, byte, ImageBytes.byte]
  by_cases inFile : k < chunk.segment.fileSize
  · rw [if_pos inFile, List.getElem?_append_left (by omega),
      List.getElem?_eq_getElem (by omega), Option.getD_some]
  · rw [if_neg inFile, List.getElem?_append_right (by omega), List.getElem?_replicate,
      if_pos (by omega)]

/-- The window of a planned chunk. -/
theorem Planned.resolve (planned : chunk.Planned space bank world) :
    ∃ mapping, space.resolve chunk.segment.loadAddress chunk.segment.memorySize = some mapping ∧
      bank.loadable mapping.device world = true ∧
      bank.canLoad mapping.device world (chunk.segment.loadAddress - mapping.base)
        chunk.segment.memorySize = true := by
  obtain ⟨mapping, member, base, limit, loadable, accepted⟩ := planned.target
  exact ⟨mapping, space.resolve_eq_some_iff.mpr ⟨member, planned.placed.1, base, limit⟩,
    loadable, accepted⟩

end Chunk

/-! ## Storing one chunk -/

section Storing

variable {space : AddressSpace} {bank : LoadBank W} {storage : Storage bank} {mapping : Mapping}
  {world : W} {address length : Nat}

/-- A load inside an accepted range does not throw. -/
theorem loadOrThrow_stores (storage : Storage bank)
    (found : space.resolve address length = some mapping)
    (loadable : bank.loadable mapping.device world = true)
    (accepted : bank.canLoad mapping.device world (address - mapping.base) length = true)
    {first : Nat} {data : List UInt8} (nonempty : data ≠ []) (atOrAbove : address ≤ first)
    (within : first + data.length ≤ address + length) (what : String) :
    ∃ after, loadOrThrow space bank world first data what = .ok after ∧
      Stored storage mapping.device (first - mapping.base) data world after := by
  have base := (AddressSpace.resolve_lt found).1
  have part := AddressSpace.resolve_part found (List.length_pos_iff.mpr nonempty) atOrAbove within
  have partAccepted := storage.part mapping.device world (address - mapping.base) length
    (first - mapping.base) data.length accepted (by omega) (by omega)
  obtain ⟨after, response, loads, success, stored⟩ :=
    AddressSpace.load_stores storage part loadable partAccepted
  exact ⟨after, by rw [loadOrThrow, loads]; exact if_pos success, stored⟩

/-- The zeros are stored in pieces of at most 4096 bytes. -/
theorem applyZeros_stores (storage : Storage bank)
    (found : space.resolve address length = some mapping) (remaining : Nat) :
    ∀ {world : W} (first : Nat), bank.loadable mapping.device world = true →
      bank.canLoad mapping.device world (address - mapping.base) length = true →
      address ≤ first → first + remaining ≤ address + length →
      ∃ after, applyZeros space bank world first remaining = .ok after ∧
        Stored storage mapping.device (first - mapping.base) (List.replicate remaining 0)
          world after := by
  induction remaining using Nat.strong_induction_on with
  | h remaining ih =>
    intro world first loadable accepted atOrAbove within
    have base := AddressSpace.resolve_lt found
    rw [applyZeros]
    by_cases done : remaining = 0
    · subst done
      exact ⟨world, if_neg (by simp), .refl storage _ _ world⟩
    · rw [if_pos done]
      obtain ⟨middle, loads, stored⟩ := loadOrThrow_stores storage found loadable accepted
        (show List.replicate (min remaining 4096) 0 ≠ [] by simp [done]) atOrAbove
        (by rw [List.length_replicate]; omega) "device rejected PT_LOAD BSS at "
      obtain ⟨after, rest, restStored⟩ := ih (remaining - min remaining 4096) (by omega)
        (first + min remaining 4096) ((stored.loadable _).trans loadable)
        ((stored.canLoad _ _ _).trans accepted) (by omega) (by omega)
      have joined : List.replicate (min remaining 4096) (0 : UInt8) ++
          List.replicate (remaining - min remaining 4096) 0 = List.replicate remaining 0 := by
        rw [List.replicate_append_replicate]
        congr 1
        omega
      have inside := storage.inside _ _ _ _ accepted
      refine ⟨after, ?_, joined ▸ stored.append ?_ ?_⟩
      · dsimp only
        rw [loads, ok_bind, add64_eq (by omega), rest]
      · rw [List.length_replicate, ← Nat.sub_add_comm (by omega)]
        exact restStored
      · simp only [List.length_replicate]
        omega

/-- Applying a planned chunk stores its bytes. -/
theorem applySegment_stores (storage : Storage bank) {chunk : Chunk}
    (planned : chunk.Planned space bank world)
    (found : space.resolve chunk.segment.loadAddress chunk.segment.memorySize = some mapping) :
    ∃ after,
      applySegment space bank chunk.data { publicSegment := chunk.segment } world = .ok after ∧
      Stored storage mapping.device (chunk.segment.loadAddress - mapping.base) chunk.bytes
        world after := by
  obtain ⟨other, same, loadable, accepted⟩ := planned.resolve
  rw [found] at same
  cases same
  have base := AddressSpace.resolve_lt found
  have filled := planned.filled
  have sizes := planned.sizes
  have inside := storage.inside _ _ _ _ accepted
  have file : ∃ middle,
      applyFileBytes space bank chunk.data { publicSegment := chunk.segment } world = .ok middle ∧
      Stored storage mapping.device (chunk.segment.loadAddress - mapping.base) chunk.data.bytes
        world middle := by
    rw [applyFileBytes]
    by_cases empty : chunk.segment.fileSize = 0
    · have noBytes : chunk.data.bytes = [] := List.length_eq_zero_iff.mp (filled.trans empty)
      rw [noBytes]
      exact ⟨world, if_neg (not_not.mpr empty), .refl storage _ _ world⟩
    · have whole : chunk.data.subspan 0 chunk.segment.fileSize = .ok chunk.data := by
        rw [← filled]
        exact chunk.data.subspan_whole
      have nonempty : chunk.data.bytes ≠ [] := by
        intro noBytes
        simp [ImageBytes.size, noBytes] at filled
        omega
      have within : chunk.segment.loadAddress + chunk.data.bytes.length ≤
          chunk.segment.loadAddress + chunk.segment.memorySize := by
        simp only [ImageBytes.size] at filled
        omega
      obtain ⟨middle, loads, stored⟩ := loadOrThrow_stores storage found loadable accepted
        nonempty le_rfl within "device rejected PT_LOAD data at "
      refine ⟨middle, ?_, stored⟩
      dsimp only
      rw [if_pos empty, whole]
      exact loads
  obtain ⟨middle, loads, stored⟩ := file
  obtain ⟨after, rest, restStored⟩ := applyZeros_stores storage found
    (chunk.segment.memorySize - chunk.segment.fileSize)
    (chunk.segment.loadAddress + chunk.segment.fileSize)
    ((stored.loadable _).trans loadable) ((stored.canLoad _ _ _).trans accepted)
    (by omega) (by omega)
  have zeroAddress := add64_eq
    (show chunk.segment.loadAddress + chunk.segment.fileSize < 2 ^ 64 by omega)
  have zeroLength := sub64_eq sizes (by omega)
  refine ⟨after, ?_, stored.append ?_ ?_⟩
  · rw [applySegment]
    dsimp only
    rw [loads, ok_bind, zeroAddress, zeroLength, rest]
  · simp only [ImageBytes.size] at filled
    rw [filled, ← Nat.sub_add_comm (by omega)]
    exact restStored
  · simp only [ImageBytes.size] at filled
    simp only [List.length_replicate]
    omega

/-- A store changes no acceptance, so planned chunks stay planned. -/
theorem Chunk.Planned.after {chunk : Chunk} {device : DeviceId} {offset : Nat} {data : List UInt8}
    {after : W} (planned : chunk.Planned space bank world)
    (stored : Stored storage device offset data world after) :
    chunk.Planned space bank after := by
  obtain ⟨window, member, base, limit, loadable, accepted⟩ := planned.target
  exact ⟨planned.placed, planned.filled, planned.sizes, window, member, base, limit,
    (stored.loadable _).trans loadable, (stored.canLoad _ _ _).trans accepted⟩

/-- What applying chunks leaves in the devices. -/
structure Loaded (storage : Storage bank) (space : AddressSpace) (chunks : List Chunk)
    (before after : W) : Prop where
  stored : ∀ chunk ∈ chunks, ∃ mapping,
    space.resolve chunk.segment.loadAddress chunk.segment.memorySize = some mapping ∧
    ∀ k < chunk.segment.memorySize,
      (storage.content mapping.device after)[chunk.segment.loadAddress - mapping.base + k]? =
        some (chunk.byte k)
  kept : ∀ device index, (∀ chunk ∈ chunks, ¬chunk.Covers space device index) →
    (storage.content device after)[index]? = (storage.content device before)[index]?

/-- Storing a chunk before others that keep off it. -/
theorem Loaded.cons {chunk : Chunk} {chunks : List Chunk} {middle after : W}
    (planned : chunk.Planned space bank world)
    (found : space.resolve chunk.segment.loadAddress chunk.segment.memorySize = some mapping)
    (first : Stored storage mapping.device (chunk.segment.loadAddress - mapping.base) chunk.bytes
      world middle)
    (separate : ∀ later ∈ chunks, chunk.Separate space later)
    (rest : Loaded storage space chunks middle after) :
    Loaded storage space (chunk :: chunks) world after := by
  obtain ⟨other, same, -, accepted⟩ := planned.resolve
  rw [found] at same
  cases same
  have fits := storage.inside _ _ _ _ accepted
  rw [← planned.length_bytes] at fits
  constructor
  · intro stored member
    rcases List.mem_cons.mp member with rfl | member
    · refine ⟨mapping, found, fun k inside => ?_⟩
      have covered : stored.Covers space mapping.device
          (stored.segment.loadAddress - mapping.base + k) :=
        ⟨mapping, found, rfl, by omega, by omega⟩
      rw [rest.kept _ _ fun later laterMember laterCovers =>
        separate later laterMember _ _ ⟨covered, laterCovers⟩]
      rw [first.getElem? fits, planned.length_bytes, if_pos ⟨rfl, by omega, by omega⟩,
        Nat.add_sub_cancel_left, planned.getElem?_bytes inside]
    · exact rest.stored stored member
  · intro device index uncovered
    rw [rest.kept device index fun later member => uncovered later (List.mem_cons_of_mem _ member),
      first.getElem? fits, if_neg]
    rintro ⟨rfl, atOrAbove, below⟩
    rw [planned.length_bytes] at below
    exact uncovered chunk List.mem_cons_self ⟨mapping, found, rfl, atOrAbove, below⟩

/-- Separate planned chunks are all stored. -/
theorem applyChunks_loads (storage : Storage bank) {chunks : List Chunk} :
    ∀ {world : W}, (∀ chunk ∈ chunks, chunk.Planned space bank world) →
      chunks.Pairwise (Chunk.Separate space) →
      ∃ after, ImageLoadPlan.applyChunks space bank chunks world = .ok after ∧
        Loaded storage space chunks world after := by
  induction chunks with
  | nil =>
      intro world _ _
      exact ⟨world, rfl, by simp, fun _ _ _ => rfl⟩
  | cons chunk chunks ih =>
      intro world planned separate
      have chunkPlanned := planned chunk List.mem_cons_self
      obtain ⟨mapping, found, -⟩ := chunkPlanned.resolve
      obtain ⟨middle, applied, stored⟩ := applySegment_stores storage chunkPlanned found
      obtain ⟨after, rest, loaded⟩ := ih
        (fun later member => (planned later (List.mem_cons_of_mem _ member)).after stored)
        separate.tail
      refine ⟨after, ?_, loaded.cons chunkPlanned found stored (List.pairwise_cons.mp separate).1⟩
      rw [ImageLoadPlan.applyChunks, List.foldlM_cons, applied, ok_bind]
      exact rest

end Storing

/-! ## The check of the whole plan -/

section Checking

variable {space : AddressSpace} {bank : LoadBank W} {world : W}

/-- The comparison of offsets finds a common byte of one device. -/
theorem checkOverlap_eq_ok_iff {later earlier : Chunk}
    (laterPlanned : later.Planned space bank world)
    (earlierPlanned : earlier.Planned space bank world) :
    ImageLoadPlan.checkOverlap space later.segment earlier.segment = .ok ⟨⟩ ↔
      earlier.Separate space later := by
  obtain ⟨ma, laterFound, -⟩ := laterPlanned.resolve
  obtain ⟨mb, earlierFound, -⟩ := earlierPlanned.resolve
  have laterBase := AddressSpace.resolve_lt laterFound
  have earlierBase := AddressSpace.resolve_lt earlierFound
  have laterPositive := laterPlanned.placed.1
  have earlierPositive := earlierPlanned.placed.1
  simp only [ImageLoadPlan.checkOverlap, laterFound, earlierFound]
  rw [reject_eq_ok_iff, sub64_eq laterBase.1 (by omega), sub64_eq earlierBase.1 (by omega),
    add64_eq (by omega), add64_eq (by omega)]
  constructor
  · rintro apart device index ⟨⟨_, found, rfl, lower, upper⟩, ⟨_, otherFound, same, low, high⟩⟩
    rw [earlierFound] at found
    rw [laterFound] at otherFound
    cases found
    cases otherFound
    exact apart ⟨same, by omega, by omega⟩
  · rintro separate ⟨same, before, behind⟩
    refine separate mb.device (max (later.segment.loadAddress - ma.base)
      (earlier.segment.loadAddress - mb.base)) ⟨⟨mb, earlierFound, rfl, ?_, ?_⟩,
      ⟨ma, laterFound, same, ?_, ?_⟩⟩ <;> omega

theorem checkChunks_eq_ok_iff {chunks : List Chunk}
    (planned : ∀ chunk ∈ chunks, chunk.Planned space bank world) :
    ImageLoadPlan.checkChunks space bank world chunks = .ok ⟨⟩ ↔
      chunks.Pairwise (Chunk.Separate space) := by
  rw [ImageLoadPlan.checkChunks, forM_eq_ok_iff, ← pairwise_iff_zipIdx_take]
  refine forall₂_congr fun pair member => ?_
  have here := planned pair.1 (List.fst_mem_of_mem_zipIdx member)
  have target : validateLoadTarget space bank world pair.1.segment pair.2 = .ok ⟨⟩ :=
    validateLoadTarget_eq_ok_iff.mpr ⟨here.placed.1, here.target⟩
  dsimp only
  rw [target, ok_bind, forM_eq_ok_iff]
  exact forall₂_congr fun earlier earlierMember =>
    checkOverlap_eq_ok_iff here (planned earlier (List.mem_of_mem_take earlierMember))

end Checking

/-! ## Adding images -/

/-- The chunks that a call adds. -/
def PlanCall.chunks : PlanCall → List Chunk
  | .elf image => image.loadSegments.map image.chunk
  | .raw image address =>
      if image.size = 0 then []
      else [{
        segment := { loadAddress := address, fileSize := image.size, memorySize := image.size }
        data := image }]

namespace ImageLoadPlan

variable {space : AddressSpace} {bank : LoadBank W} {plan after : ImageLoadPlan W}

theorem addElf_planned {image : ImageBytes} (format : ElfFormat space bank plan.world image) :
    ∀ chunk ∈ (PlanCall.elf image).chunks, chunk.Planned space bank plan.world := by
  intro chunk member
  obtain ⟨parsed, parsedMember, rfl⟩ := List.mem_map.mp member
  obtain ⟨placed, inside⟩ := placed_of_loadable format.loadable parsedMember
  obtain ⟨index, inTable, loads, rfl⟩ := ImageBytes.mem_loadSegments.mp parsedMember
  have entry := format.loadable index inTable loads.1
  exact ⟨placed, ImageBytes.length_slice inside, entry.sizes, entry.target loads.2⟩

theorem addRaw_planned {image : ImageBytes} {address : Nat}
    (added : plan.addRaw space bank image address = .ok after) :
    (∀ chunk ∈ (PlanCall.raw image address).chunks, chunk.Planned space bank plan.world) ∧
      after = { plan with chunks := plan.chunks ++ (PlanCall.raw image address).chunks } := by
  rw [addRaw] at added
  rw [PlanCall.chunks]
  by_cases empty : image.size = 0
  · rw [if_pos empty] at added
    cases added
    simp [empty]
  · have positive : 0 < image.size := Nat.pos_of_ne_zero empty
    rw [if_neg empty] at added ⊢
    obtain ⟨_, inRange, added⟩ := attempt_bind_eq_ok_iff.mp added
    obtain ⟨⟨⟩, target, added⟩ := attempt_bind_eq_ok_iff.mp added
    cases added
    rw [← bind_pure (checkedAdd _ _ _), checkedAdd_bind_eq_ok_iff (.inr positive)] at inRange
    have range : address + image.size ≤ 2 ^ 64 - 1 := by omega
    refine ⟨fun chunk member => ?_, rfl⟩
    obtain rfl := List.mem_singleton.mp member
    exact ⟨⟨positive, range⟩, rfl, le_rfl, (validateLoadTarget_eq_ok_iff.mp target).2⟩

/-- A call that returns adds planned chunks and changes nothing else. -/
theorem add_planned {call : PlanCall} (added : plan.add space bank call = .ok after) :
    (∀ chunk ∈ call.chunks, chunk.Planned space bank plan.world) ∧
      after = { plan with chunks := plan.chunks ++ call.chunks } := by
  cases call with
  | elf image =>
      obtain ⟨⟨next, result⟩, accepted, returned⟩ := bind_eq_ok_iff.mp added
      obtain ⟨format, rfl, -⟩ := addElf_eq_ok_iff.mp accepted
      cases returned
      exact ⟨addElf_planned format, rfl⟩
  | raw image address => exact addRaw_planned added

/-- A call that throws changes nothing. -/
theorem add_avoids (plan : ImageLoadPlan W) (call : PlanCall) :
    Avoids plan.Harm (plan.add space bank call) := by
  cases call with
  | elf image => exact (addElf_avoids plan image).bind fun _ _ => .ok _
  | raw image address =>
      change Avoids plan.Harm (plan.addRaw space bank image address)
      rw [addRaw]
      split
      · exact .ok _
      · exact (attempt_avoids (checkedAdd_avoids _ _ _)).bind fun _ _ =>
          (attempt_avoids (validateLoadTarget_avoids space bank plan.world _ _)).bind fun _ _ =>
            .ok _

/-- After any calls the chunks are those of the calls, all of them planned. -/
theorem addAll_planned {calls : List PlanCall} (added : plan.addAll space bank calls = .ok after)
    (planned : ∀ chunk ∈ plan.chunks, chunk.Planned space bank plan.world) :
    after.world = plan.world ∧ after.chunks = plan.chunks ++ calls.flatMap PlanCall.chunks ∧
      ∀ chunk ∈ after.chunks, chunk.Planned space bank after.world := by
  induction calls generalizing plan with
  | nil =>
      cases added
      exact ⟨rfl, by simp, planned⟩
  | cons call calls ih =>
      rw [addAll, List.foldlM_cons] at added
      obtain ⟨next, first, rest⟩ := bind_eq_ok_iff.mp added
      obtain ⟨callPlanned, rfl⟩ := add_planned first
      obtain ⟨world, chunks, afterPlanned⟩ := ih rest fun chunk member =>
        (List.mem_append.mp member).elim (planned chunk) (callPlanned chunk)
      exact ⟨world, by rw [chunks, List.flatMap_cons, List.append_assoc], afterPlanned⟩

/-! ## Applying the plan -/

/-- A plan of separate chunks stores all of them; any other throws and changes nothing. -/
theorem apply_spec (storage : Storage bank)
    (planned : ∀ chunk ∈ plan.chunks, chunk.Planned space bank plan.world) :
    (plan.chunks.Pairwise (Chunk.Separate space) ∧
      ∃ world, plan.apply space bank = .ok { plan with world } ∧
        Loaded storage space plan.chunks plan.world world) ∨
    (¬plan.chunks.Pairwise (Chunk.Separate space) ∧
      ∃ fault, plan.apply space bank = .error (fault, plan)) := by
  rw [apply]
  cases checked : checkChunks space bank plan.world plan.chunks with
  | ok done =>
      have separate := (checkChunks_eq_ok_iff planned).mp checked
      obtain ⟨world, applied, loaded⟩ := applyChunks_loads storage planned separate
      refine .inl ⟨separate, world, ?_, loaded⟩
      rw [attempt, ok_bind, applied]
  | error fault =>
      refine .inr ⟨fun separate => ?_, fault, rfl⟩
      rw [(checkChunks_eq_ok_iff planned).mpr separate] at checked
      cases checked

end ImageLoadPlan

/-- Loading is all or nothing and exact. -/
theorem image_loading_atomic {bank : LoadBank W} (storage : Storage bank) (space : AddressSpace)
    (world : W) (calls : List PlanCall) (plan : ImageLoadPlan W)
    (added : ({ world } : ImageLoadPlan W).addAll space bank calls = .ok plan) :
    plan.world = world ∧ plan.chunks = calls.flatMap PlanCall.chunks ∧
      (∀ call fault after, plan.add space bank call = .error (fault, after) → after = plan) ∧
      (∀ fault after, plan.apply space bank = .error (fault, after) → after = plan) ∧
      ((∃ fault after, plan.apply space bank = .error (fault, after)) ↔
        ∃ (first second : Fin plan.chunks.length) (device : DeviceId) (index : Nat),
          first < second ∧ (plan.chunks.get first).Covers space device index ∧
            (plan.chunks.get second).Covers space device index) ∧
      ∀ after, plan.apply space bank = .ok after →
        after.chunks = plan.chunks ∧ Loaded storage space plan.chunks world after.world := by
  obtain ⟨unchanged, chunks, planned⟩ := ImageLoadPlan.addAll_planned added (by simp)
  change plan.world = world at unchanged
  have overlap : ¬plan.chunks.Pairwise (Chunk.Separate space) ↔
      ∃ (first second : Fin plan.chunks.length) (device : DeviceId) (index : Nat),
        first < second ∧ (plan.chunks.get first).Covers space device index ∧
          (plan.chunks.get second).Covers space device index := by
    rw [List.pairwise_iff_get]
    simp only [Chunk.Separate, not_forall, not_not]
    constructor
    · rintro ⟨first, second, ordered, device, index, both⟩
      exact ⟨first, second, device, index, ordered, both⟩
    · rintro ⟨first, second, device, index, ordered, both⟩
      exact ⟨first, second, ordered, device, index, both⟩
  refine ⟨unchanged, chunks, ?_, ?_⟩
  · intro call fault after failed
    by_contra changed
    exact ImageLoadPlan.add_avoids plan call _ failed (.inr changed)
  · rw [← overlap]
    rcases ImageLoadPlan.apply_spec storage planned with
      ⟨separate, final, applied, loaded⟩ | ⟨overlapping, fault, failed⟩
    · simp only [applied, reduceCtorEq, exists_false, false_iff, not_not, Except.ok.injEq]
      refine ⟨nofun, separate, ?_⟩
      rintro _ rfl
      exact ⟨rfl, unchanged ▸ loaded⟩
    · rw [failed]
      refine ⟨?_, ⟨fun _ => overlapping, fun _ => ⟨fault, plan, rfl⟩⟩, nofun⟩
      rintro _ _ ⟨⟩
      rfl

def hostWindow : Mapping where
  base := 0x1000
  size := 8
  device := 0

/-- A window larger than the device. -/
def aliasWindow : Mapping where
  base := 0x2000
  size := 16
  device := 0

def hostSpace : AddressSpace where
  mappings := [hostWindow, aliasWindow]
  frozen := true
  layout := ⟨by decide, by decide, by decide⟩

/-- A RAM of 8 bytes. -/
def hostWorld : HostWorld := fun _ => .ram ⟨List.replicate 8 0⟩

/-- Two images at addresses of the same RAM byte. -/
def aliasedCalls : List PlanCall :=
  [.raw ⟨[1, 2], by decide⟩ 0x1000, .raw ⟨[3], by decide⟩ 0x2001]

def aliasedPlan : ImageLoadPlan HostWorld where
  chunks := aliasedCalls.flatMap PlanCall.chunks
  world := hostWorld

theorem image_loading_atomic_aliased :
    ∃ fault after, aliasedPlan.apply hostSpace hostBank = .error (fault, after) := by
  have added : ({ world := hostWorld } : ImageLoadPlan HostWorld).addAll hostSpace hostBank
      aliasedCalls = .ok aliasedPlan := by rfl
  obtain ⟨-, -, -, -, throws, -⟩ :=
    image_loading_atomic hostStorage hostSpace hostWorld aliasedCalls aliasedPlan added
  exact throws.mpr ⟨⟨0, by decide⟩, ⟨1, by decide⟩, 0, 1, by decide,
    ⟨hostWindow, by decide, by decide, by decide, by decide⟩,
    ⟨aliasWindow, by decide, by decide, by decide, by decide⟩⟩

end AxiTestbench
