import AxiTestbench.Elf.Parse

/-!
# Load plans

`ImageLoadPlan` of `elf_loader.cpp`.  Images are added to a plan one after another;
`apply` checks all of them against each other and then stores them.
-/

namespace AxiTestbench

open Lib Outcome

/-- `ImageLoadPlan::Chunk`. -/
structure Chunk where
  segment : ElfSegment
  data : ImageBytes

/-- The plan, together with the devices that it is going to change. -/
structure ImageLoadPlan (W : Type) where
  chunks : List Chunk := []
  world : W

/-- One call that adds an image. -/
inductive PlanCall where
  | elf (image : ImageBytes)
  | raw (image : ImageBytes) (address : Nat)

section Code

variable {W : Type} (space : AddressSpace) (bank : LoadBank W)

/-! ## Storing -/

/-- One load, with the exception when a device rejects it. -/
def loadOrThrow (world : W) (address : Nat) (data : List UInt8) (what : String) :
    Outcome ElfFault W W :=
  let (world, response) := space.load bank world address data
  if responseIsSuccess response then .ok world
  else .error (.error (what ++ hexadecimal address), world)

/-- The loop of `apply_segment` over the zero-initialized rest. -/
def applyZeros (world : W) (zeroAddress remaining : Nat) : Outcome ElfFault W W :=
  if remaining ≠ 0 then do
    let count := min remaining 4096
    let world ← loadOrThrow space bank world zeroAddress (List.replicate count 0)
      "device rejected PT_LOAD BSS at "
    applyZeros world (add64 zeroAddress count) (remaining - count)
  else
    .ok world
termination_by remaining

/-- The first part of `apply_segment`. -/
def applyFileBytes (image : ImageBytes) (segment : ParsedSegment) (world : W) :
    Outcome ElfFault W W :=
  let info := segment.publicSegment
  if info.fileSize ≠ 0 then do
    let fileBytes ← attempt world (image.subspan segment.fileOffset info.fileSize)
    loadOrThrow space bank world info.loadAddress fileBytes.bytes
      "device rejected PT_LOAD data at "
  else
    .ok world

/-- `apply_segment`. -/
def applySegment (image : ImageBytes) (segment : ParsedSegment) (world : W) :
    Outcome ElfFault W W := do
  let info := segment.publicSegment
  let world ← applyFileBytes space bank image segment world
  applyZeros space bank world (add64 info.loadAddress info.fileSize)
    (sub64 info.memorySize info.fileSize)

/-! ## The plan -/

namespace ImageLoadPlan

/-- The loop of `add_elf` over the segments. -/
def additions (image : ImageBytes) (segments : List ParsedSegment) :
    Except ElfFault (List Chunk) :=
  segments.foldlM
    (fun additions segment => do
      let data ← image.subspan segment.fileOffset segment.publicSegment.fileSize
      return additions ++ [{ segment := segment.publicSegment, data }])
    []

/-- `ImageLoadPlan::add_elf`. -/
def addElf (plan : ImageLoadPlan W) (image : ImageBytes) :
    Outcome ElfFault (ImageLoadPlan W) (ImageLoadPlan W × ElfLoadResult) := do
  let header ← attempt plan (parseHeader image)
  let segments ← attempt plan (parseLoadSegments space bank plan.world image header)
  attempt plan (validateNoOverlap segments)
  let chunks ← attempt plan (additions image segments)
  return (
    { plan with chunks := plan.chunks ++ chunks },
    { entry := header.entry
      is64Bit := header.is64Bit
      segments := segments.map ParsedSegment.publicSegment })

/-- `ImageLoadPlan::add_raw`. -/
def addRaw (plan : ImageLoadPlan W) (image : ImageBytes) (address : Nat) :
    Outcome ElfFault (ImageLoadPlan W) (ImageLoadPlan W) :=
  if image.size = 0 then
    .ok plan
  else do
    let segment : ElfSegment :=
      { loadAddress := address, fileSize := image.size, memorySize := image.size }
    let _ ← attempt plan (checkedAdd address image.size "raw image range")
    attempt plan (validateLoadTarget space bank plan.world segment 0)
    return { plan with chunks := plan.chunks ++ [{ segment, data := image }] }

/-- The comparison of two chunks in `apply`. -/
def checkOverlap (a b : ElfSegment) : Except ElfFault Unit :=
  match space.resolve a.loadAddress a.memorySize, space.resolve b.loadAddress b.memorySize with
  | some ma, some mb =>
      let ao := sub64 a.loadAddress ma.base
      let bo := sub64 b.loadAddress mb.base
      reject (ma.device = mb.device ∧ ao < add64 bo b.memorySize ∧ bo < add64 ao a.memorySize)
        (.error ("image ranges overlap (including BSS or device aliases) at " ++
          hexadecimal a.loadAddress))
  | _, _ => .error .nullMapping

/-- The first loop of `apply`: the chunks before the one at `i` are those that `j` visits. -/
def checkChunks (world : W) (chunks : List Chunk) : Except ElfFault Unit :=
  forM chunks.zipIdx fun (chunk, i) => do
    validateLoadTarget space bank world chunk.segment i
    forM (chunks.take i) fun earlier => checkOverlap space chunk.segment earlier.segment

/-- The second loop of `apply`. -/
def applyChunks (chunks : List Chunk) (world : W) : Outcome ElfFault W W :=
  chunks.foldlM
    (fun world chunk => applySegment space bank chunk.data { publicSegment := chunk.segment } world)
    world

/-- `ImageLoadPlan::apply`. -/
def apply (plan : ImageLoadPlan W) : Outcome ElfFault (ImageLoadPlan W) (ImageLoadPlan W) := do
  attempt plan (checkChunks space bank plan.world plan.chunks)
  match applyChunks space bank plan.chunks plan.world with
  | .ok world => .ok { plan with world }
  | .error (fault, world) => .error (fault, { plan with world })

/-- The effect of a call on the plan. -/
def add (plan : ImageLoadPlan W) : PlanCall → Outcome ElfFault (ImageLoadPlan W) (ImageLoadPlan W)
  | .elf image => do
      let (plan, _) ← plan.addElf space bank image
      return plan
  | .raw image address => plan.addRaw space bank image address

/-- A sequence of calls, all of which return. -/
def addAll (plan : ImageLoadPlan W) (calls : List PlanCall) :
    Outcome ElfFault (ImageLoadPlan W) (ImageLoadPlan W) :=
  calls.foldlM (fun plan call => plan.add space bank call) plan

end ImageLoadPlan

/-- `load_elf`. -/
def loadElf (image : ImageBytes) (world : W) :
    Outcome ElfFault (ImageLoadPlan W) (ImageLoadPlan W × ElfLoadResult) := do
  let plan : ImageLoadPlan W := { world }
  let (plan, result) ← plan.addElf space bank image
  let plan ← plan.apply space bank
  return (plan, result)

/-- `load_raw_image`. -/
def loadRawImage (image : ImageBytes) (world : W) (address : Nat) :
    Outcome ElfFault (ImageLoadPlan W) (ImageLoadPlan W) := do
  let plan : ImageLoadPlan W := { world }
  let plan ← plan.addRaw space bank image address
  plan.apply space bank

end Code

end AxiTestbench
