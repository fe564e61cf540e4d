import AxiTestbench.Elf.Loading

/-!
# Encoded images

What it means that an image encodes an entry point and a list of program headers in
one of the two ELF classes, with any distance of the entries and any placement in
the file.  The parser inverts the encoding, so the two classes are loaded alike.
-/

namespace AxiTestbench

open Lib Outcome

/-- The bytes of a field are those of the value. -/
def ImageBytes.Holds (image : ImageBytes) (base : Nat) (field : Field) (value : Nat) : Prop :=
  value < 256 ^ field.width ∧
    image.slice (base + field.offset) field.width = leBytes field.width value

theorem ImageBytes.Holds.eq {image : ImageBytes} {base value : Nat} {field : Field}
    (holds : image.Holds base field value) : image.field base field = value := by
  rw [ImageBytes.field, number, holds.2, leValue_leBytes_of_lt holds.1]

/-- The choices of an encoder: the class, and where things are put. -/
structure Encoding where
  is64Bit : Bool
  declaredHeaderSize : Nat
  tableOffset : Nat
  stride : Nat
  fileOffset : Nat → Nat

namespace Encoding

def layout (encoding : Encoding) : ClassLayout :=
  if encoding.is64Bit then layout64 else layout32

/-- An entry of the table, with the file offset that the encoder chose for it. -/
structure EntryHolds (encoding : Encoding) (image : ImageBytes) (index : Nat)
    (entry : ProgramHeader) : Prop where
  type : image.Holds (encoding.tableOffset + index * encoding.stride) ⟨0, 4⟩ entry.type
  flags : image.Holds (encoding.tableOffset + index * encoding.stride)
    encoding.layout.flags entry.flags
  fileOffset : image.Holds (encoding.tableOffset + index * encoding.stride)
    encoding.layout.fileOffset (encoding.fileOffset index)
  virtualAddress : image.Holds (encoding.tableOffset + index * encoding.stride)
    encoding.layout.virtualAddress entry.virtualAddress
  physicalAddress : image.Holds (encoding.tableOffset + index * encoding.stride)
    encoding.layout.physicalAddress entry.physicalAddress
  fileSize : image.Holds (encoding.tableOffset + index * encoding.stride)
    encoding.layout.fileSize entry.fileSize
  memorySize : image.Holds (encoding.tableOffset + index * encoding.stride)
    encoding.layout.memorySize entry.memorySize
  alignment : image.Holds (encoding.tableOffset + index * encoding.stride)
    encoding.layout.alignment entry.alignment

/-- The image encodes the entry point and the headers. -/
structure Encodes (encoding : Encoding) (entry : Nat) (headers : List ProgramHeader)
    (image : ImageBytes) : Prop where
  long : encoding.layout.headerSize ≤ image.size
  magic : image.slice 0 4 = [0x7f, 0x45, 0x4c, 0x46]
  elfClass : image.byte 4 = if encoding.is64Bit then 2 else 1
  data : image.byte 5 = 1
  identificationVersion : image.byte 6 = 1
  version : image.Holds 0 ⟨20, 4⟩ 1
  entry : image.Holds 0 encoding.layout.entry entry
  tableOffset : image.Holds 0 encoding.layout.tableOffset encoding.tableOffset
  declaredHeaderSize :
    image.Holds 0 encoding.layout.declaredHeaderSize encoding.declaredHeaderSize
  stride : image.Holds 0 encoding.layout.declaredEntrySize encoding.stride
  count : image.Holds 0 encoding.layout.count headers.length
  headerSize : encoding.layout.headerSize ≤ encoding.declaredHeaderSize
  entrySize : encoding.layout.entrySize ≤ encoding.stride
  table : encoding.tableOffset + headers.length * encoding.stride ≤ image.size
  entries : ∀ index (inTable : index < headers.length),
    encoding.EntryHolds image index headers[index]
  payload : ∀ index (inTable : index < headers.length), headers[index].type = ptLoad →
    encoding.fileOffset index + headers[index].fileSize ≤ image.size

end Encoding

/-! ## Decoding inverts encoding -/

namespace Encoding.Encodes

variable {encoding : Encoding} {entry : Nat} {headers : List ProgramHeader} {image : ImageBytes}

theorem is64Bit_eq (encoded : encoding.Encodes entry headers image) :
    image.is64Bit = encoding.is64Bit := by
  rw [ImageBytes.is64Bit, encoded.elfClass, elfClass64]
  cases encoding.is64Bit <;> rfl

theorem layout_eq (encoded : encoding.Encodes entry headers image) :
    image.layout = encoding.layout := by
  rw [ImageBytes.layout, encoded.is64Bit_eq, Encoding.layout]

theorem entryPoint_eq (encoded : encoding.Encodes entry headers image) :
    image.entryPoint = entry := by
  rw [ImageBytes.entryPoint, encoded.layout_eq, encoded.entry.eq]

theorem tableOffset_eq (encoded : encoding.Encodes entry headers image) :
    image.tableOffset = encoding.tableOffset := by
  rw [ImageBytes.tableOffset, encoded.layout_eq, encoded.tableOffset.eq]

theorem stride_eq (encoded : encoding.Encodes entry headers image) :
    image.stride = encoding.stride := by
  rw [ImageBytes.stride, encoded.layout_eq, encoded.stride.eq]

theorem count_eq (encoded : encoding.Encodes entry headers image) :
    image.programHeaderCount = headers.length := by
  rw [ImageBytes.programHeaderCount, encoded.layout_eq, encoded.count.eq]

/-- Every entry is read back with the file offset of this image. -/
theorem programHeader_eq (encoded : encoding.Encodes entry headers image) {index : Nat}
    (inTable : index < headers.length) :
    image.programHeader index =
      { headers[index] with fileOffset := encoding.fileOffset index } := by
  have holds := encoded.entries index inTable
  have type : image.number (encoding.tableOffset + index * encoding.stride) 4 =
      headers[index].type := holds.type.eq
  simp only [ImageBytes.programHeader, encoded.layout_eq, encoded.tableOffset_eq,
    encoded.stride_eq, type, holds.flags.eq, holds.fileOffset.eq, holds.virtualAddress.eq,
    holds.physicalAddress.eq, holds.fileSize.eq, holds.memorySize.eq, holds.alignment.eq]

theorem identified (encoded : encoding.Encodes entry headers image) : Identified image := by
  have long := encoded.long
  refine ⟨?_, encoded.magic, ?_, encoded.data, encoded.identificationVersion⟩
  · rw [Encoding.layout] at long
    cases wide : encoding.is64Bit <;> simp [wide, layout32, layout64] at long <;> omega
  · rw [encoded.elfClass]
    cases encoding.is64Bit <;> simp

theorem headerFits (encoded : encoding.Encodes entry headers image)
    (few : headers.length < 0xffff) : HeaderFits image where
  long := by
    rw [encoded.layout_eq]
    exact encoded.long
  version := encoded.version.eq
  headerSize := by
    rw [encoded.layout_eq, encoded.declaredHeaderSize.eq]
    exact encoded.headerSize
  count := by
    rw [encoded.count_eq]
    omega
  entrySize := by
    rw [encoded.layout_eq, encoded.stride_eq]
    exact .inr encoded.entrySize
  table := by
    rw [encoded.tableOffset_eq, encoded.count_eq, encoded.stride_eq]
    exact encoded.table

/-- What an entry loads does not depend on its file offset. -/
theorem parsed?_eq (encoded : encoding.Encodes entry headers image) {index : Nat}
    (inTable : index < headers.length) :
    (image.programHeader index).parsed? index =
      if headers[index].Loads then
        some { headers[index].parsed index with fileOffset := encoding.fileOffset index }
      else none := by
  rw [encoded.programHeader_eq inTable]
  rfl

end Encoding.Encodes

/-- A loop over the indices of a list visits its elements. -/
theorem filterMap_range_length {α β : Type} {items : List α} {visit : Nat → Option β}
    {value : α → Option β}
    (agree : ∀ index (inside : index < items.length), visit index = value items[index]) :
    (List.range items.length).filterMap visit = items.filterMap value := by
  induction items using List.reverseRecOn with
  | nil => rfl
  | append_singleton items last ih =>
      have front : ∀ index (inside : index < items.length), visit index = value items[index] := by
        intro index inside
        rw [agree index (by rw [List.length_append]; omega), List.getElem_append_left inside]
      have final : visit items.length = value last := by
        rw [agree items.length (by simp)]
        simp
      rw [List.length_append, List.length_singleton, List.range_succ, List.filterMap_append,
        List.filterMap_append, ih front]
      simp only [List.filterMap_cons, final, List.filterMap_nil]

/-- The segments that a list of headers describes. -/
def encodedSegments (headers : List ProgramHeader) : List ElfSegment :=
  (headers.filter fun entry => entry.Loads).map ProgramHeader.segment

/-- The nonempty loadable segments are read back field for field, in their order. -/
theorem Encoding.Encodes.segments_eq {encoding : Encoding} {entry : Nat}
    {headers : List ProgramHeader} {image : ImageBytes}
    (encoded : encoding.Encodes entry headers image) :
    image.loadSegments.map ParsedSegment.publicSegment = encodedSegments headers := by
  rw [ImageBytes.loadSegments, encoded.count_eq, List.map_filterMap, encodedSegments,
    ← List.filterMap_eq_filter, List.map_filterMap]
  refine filterMap_range_length fun index inTable => ?_
  rw [encoded.parsed?_eq inTable]
  by_cases loads : headers[index].Loads
  · simp [loads, Option.guard, ProgramHeader.parsed]
  · simp [loads, Option.guard]

/-- An entry with one file offset is acceptable if it is with a congruent one inside. -/
theorem ProgramHeader.Loadable.moved {W : Type} {space : AddressSpace} {bank : LoadBank W}
    {world : W} {entry : ProgramHeader} {length other first second : Nat}
    (loadable : { entry with fileOffset := first }.Loadable space bank world length)
    (congruent : 1 < entry.alignment → first % entry.alignment = second % entry.alignment)
    (inside : second + entry.fileSize ≤ other) :
    { entry with fileOffset := second }.Loadable space bank world other where
  sizes := loadable.sizes
  data := inside
  aligned := by
    rcases loadable.aligned with small | ⟨power, aligned⟩
    · exact .inl small
    · by_cases above : 1 < entry.alignment
      · exact .inr ⟨power, aligned.trans (congruent above)⟩
      · exact .inl (Nat.le_of_not_lt above)
  range := loadable.range
  target := loadable.target

/-- Acceptance does not depend on the encoding. -/
theorem Encoding.Encodes.format_of {W : Type} {space : AddressSpace} {bank : LoadBank W}
    {world : W} {first second : Encoding} {entry : Nat} {headers : List ProgramHeader}
    {image other : ImageBytes} (encoded : first.Encodes entry headers image)
    (few : headers.length < 0xffff) (encodedOther : second.Encodes entry headers other)
    (congruent : ∀ index (inTable : index < headers.length), headers[index].type = ptLoad →
      1 < headers[index].alignment →
        first.fileOffset index % headers[index].alignment =
          second.fileOffset index % headers[index].alignment)
    (format : ElfFormat space bank world image) : ElfFormat space bank world other := by
  refine ⟨encodedOther.identified, encodedOther.headerFits few, ?_, ?_⟩
  · intro index inTable load
    rw [encodedOther.count_eq] at inTable
    have loadable := format.loadable index (by rw [encoded.count_eq]; exact inTable)
    rw [encodedOther.programHeader_eq inTable] at load ⊢
    rw [encoded.programHeader_eq inTable] at loadable
    exact (loadable load).moved (congruent index inTable load)
      (encodedOther.payload index inTable load)
  · rw [encodedOther.segments_eq, ← encoded.segments_eq]
    exact format.disjoint

/-! ## The two classes -/

/-- The images encode one list of headers in the two classes, with equal payloads and with
file offsets that are congruent modulo the alignment. -/
structure SameProgram (narrow wide : Encoding) (entry : Nat) (headers : List ProgramHeader)
    (image32 image64 : ImageBytes) : Prop where
  few : headers.length < 0xffff
  is32Bit : narrow.is64Bit = false
  is64Bit : wide.is64Bit = true
  encoded32 : narrow.Encodes entry headers image32
  encoded64 : wide.Encodes entry headers image64
  congruent : ∀ index (inTable : index < headers.length), headers[index].type = ptLoad →
    1 < headers[index].alignment →
      narrow.fileOffset index % headers[index].alignment =
        wide.fileOffset index % headers[index].alignment
  payload : ∀ index (inTable : index < headers.length), headers[index].type = ptLoad →
    image32.slice (narrow.fileOffset index) headers[index].fileSize =
      image64.slice (wide.fileOffset index) headers[index].fileSize

namespace SameProgram

variable {narrow wide : Encoding} {entry : Nat} {headers : List ProgramHeader}
  {image32 image64 : ImageBytes}

/-- The planned chunks are the same. -/
theorem chunks_eq (same : SameProgram narrow wide entry headers image32 image64) :
    image32.loadSegments.map image32.chunk = image64.loadSegments.map image64.chunk := by
  rw [ImageBytes.loadSegments, ImageBytes.loadSegments, same.encoded32.count_eq,
    same.encoded64.count_eq, List.map_filterMap, List.map_filterMap]
  refine List.filterMap_congr fun index member => ?_
  have inTable := List.mem_range.mp member
  rw [same.encoded32.parsed?_eq inTable, same.encoded64.parsed?_eq inTable]
  by_cases loads : headers[index].Loads
  · have data : image32.part (narrow.fileOffset index) headers[index].fileSize =
        image64.part (wide.fileOffset index) headers[index].fileSize := by
      simp only [ImageBytes.part, same.payload index inTable loads.1]
    simp only [loads, ↓reduceIte, Option.map_some, ImageBytes.chunk]
    exact congrArg (fun data => some (Chunk.mk headers[index].segment data)) data
  · simp [loads]

variable {W : Type} {space : AddressSpace} {bank : LoadBank W} {world : W}

/-- Either both images are accepted or none. -/
theorem format_iff (same : SameProgram narrow wide entry headers image32 image64) :
    ElfFormat space bank world image32 ↔ ElfFormat space bank world image64 :=
  ⟨same.encoded32.format_of same.few same.encoded64 same.congruent,
    same.encoded64.format_of same.few same.encoded32 fun index inTable load above =>
      (same.congruent index inTable load above).symm⟩

end SameProgram

/-- The devices after `load_elf`, whether it returned or threw. -/
def finalWorld {W : Type} :
    Outcome ElfFault (ImageLoadPlan W) (ImageLoadPlan W × ElfLoadResult) → W
  | .ok (plan, _) => plan.world
  | .error (_, plan) => plan.world

section LoadElf

variable {W : Type} {space : AddressSpace} {bank : LoadBank W} {world : W} {image : ImageBytes}

/-- A rejected image leaves the devices as they were. -/
theorem loadElf_rejected (rejected : ¬ElfFormat space bank world image) :
    (loadElf space bank image world).toOption = none ∧
      finalWorld (loadElf space bank image world) = world := by
  cases outcome : ({ world } : ImageLoadPlan W).addElf space bank image with
  | ok returned => exact absurd (ImageLoadPlan.addElf_eq_ok_iff.mp outcome).1 rejected
  | error thrown =>
      have unchanged : thrown.2 = { world } := by
        by_contra changed
        exact ImageLoadPlan.addElf_avoids { world } image thrown outcome (.inr changed)
      rw [loadElf]
      dsimp only
      rw [outcome, error_bind]
      exact ⟨rfl, congrArg ImageLoadPlan.world unchanged⟩

/-- An accepted image is loaded by applying the plan of its segments. -/
theorem loadElf_accepted (format : ElfFormat space bank world image) :
    loadElf space bank image world =
      (ImageLoadPlan.apply space bank
        { chunks := image.loadSegments.map image.chunk, world }).map (·, image.loadResult) := by
  have added : ({ world } : ImageLoadPlan W).addElf space bank image =
      .ok ({ chunks := image.loadSegments.map image.chunk, world }, image.loadResult) :=
    ImageLoadPlan.addElf_eq_ok_iff.mpr ⟨format, rfl, rfl⟩
  rw [loadElf]
  dsimp only
  rw [added, ok_bind]
  rfl

end LoadElf

/-- The two classes are accepted alike, return what was encoded, and are loaded alike. -/
theorem elf_classes_agree {W : Type} (space : AddressSpace) (bank : LoadBank W) (world : W)
    {narrow wide : Encoding} {entry : Nat} {headers : List ProgramHeader}
    {image32 image64 : ImageBytes}
    (same : SameProgram narrow wide entry headers image32 image64) :
    ((∃ after result, ({ world } : ImageLoadPlan W).addElf space bank image32 =
        .ok (after, result)) ↔
      ∃ after result, ({ world } : ImageLoadPlan W).addElf space bank image64 =
        .ok (after, result)) ∧
      (∀ after result,
        ({ world } : ImageLoadPlan W).addElf space bank image32 = .ok (after, result) →
          result = { entry, is64Bit := false, segments := encodedSegments headers }) ∧
      (∀ after result,
        ({ world } : ImageLoadPlan W).addElf space bank image64 = .ok (after, result) →
          result = { entry, is64Bit := true, segments := encodedSegments headers }) ∧
      (loadElf space bank image32 world).toOption.map Prod.fst =
        (loadElf space bank image64 world).toOption.map Prod.fst ∧
      finalWorld (loadElf space bank image32 world) =
        finalWorld (loadElf space bank image64 world) := by
  have accepted : ∀ image, (∃ after result,
      ({ world } : ImageLoadPlan W).addElf space bank image = .ok (after, result)) ↔
        ElfFormat space bank world image := fun image =>
    ⟨fun ⟨_, _, added⟩ => (ImageLoadPlan.addElf_eq_ok_iff.mp added).1,
      fun format => ⟨_, _, ImageLoadPlan.addElf_eq_ok_iff.mpr ⟨format, rfl, rfl⟩⟩⟩
  refine ⟨?_, ?_, ?_, ?_⟩
  · rw [accepted, accepted, same.format_iff]
  · intro after result added
    rw [(ImageLoadPlan.addElf_eq_ok_iff.mp added).2.2, ImageBytes.loadResult,
      same.encoded32.entryPoint_eq, same.encoded32.is64Bit_eq, same.is32Bit,
      same.encoded32.segments_eq]
  · intro after result added
    rw [(ImageLoadPlan.addElf_eq_ok_iff.mp added).2.2, ImageBytes.loadResult,
      same.encoded64.entryPoint_eq, same.encoded64.is64Bit_eq, same.is64Bit,
      same.encoded64.segments_eq]
  · by_cases format : ElfFormat space bank world image32
    · rw [loadElf_accepted format, loadElf_accepted (same.format_iff.mp format), same.chunks_eq]
      cases ImageLoadPlan.apply space bank
        { chunks := image64.loadSegments.map image64.chunk, world } with
      | ok plan => exact ⟨rfl, rfl⟩
      | error thrown => exact ⟨rfl, rfl⟩
    · obtain ⟨fails32, kept32⟩ := loadElf_rejected format
      obtain ⟨fails64, kept64⟩ := loadElf_rejected (mt same.format_iff.mpr format)
      rw [fails32, fails64, kept32, kept64]
      exact ⟨rfl, rfl⟩

/-! ### One program in both classes -/

instance (image : ImageBytes) (base : Nat) (field : Field) (value : Nat) :
    Decidable (image.Holds base field value) :=
  inferInstanceAs (Decidable (_ ∧ _))

def writeFields (bytes : List UInt8) (base : Nat) (fields : List (Field × Nat)) : List UInt8 :=
  fields.foldl
    (fun bytes field =>
      RamDevice.copyIn bytes (base + field.1.offset) (leBytes field.1.width field.2))
    bytes

/-- An image of 128 bytes that holds one entry and, at its file offset, a payload. -/
def makeElf (encoding : Encoding) (entry : Nat) (header : ProgramHeader) (payload : List UInt8) :
    List UInt8 :=
  let blank := RamDevice.copyIn (List.replicate 128 0) 0
    [0x7f, 0x45, 0x4c, 0x46, if encoding.is64Bit then 2 else 1, 1, 1]
  let headed := writeFields blank 0
    [(⟨20, 4⟩, 1), (encoding.layout.entry, entry),
      (encoding.layout.tableOffset, encoding.tableOffset),
      (encoding.layout.declaredHeaderSize, encoding.declaredHeaderSize),
      (encoding.layout.declaredEntrySize, encoding.stride), (encoding.layout.count, 1)]
  let listed := writeFields headed encoding.tableOffset
    [(⟨0, 4⟩, header.type), (encoding.layout.flags, header.flags),
      (encoding.layout.fileOffset, encoding.fileOffset 0),
      (encoding.layout.virtualAddress, header.virtualAddress),
      (encoding.layout.physicalAddress, header.physicalAddress),
      (encoding.layout.fileSize, header.fileSize),
      (encoding.layout.memorySize, header.memorySize),
      (encoding.layout.alignment, header.alignment)]
  RamDevice.copyIn listed (encoding.fileOffset 0) payload

def tinyHeader : ProgramHeader where
  type := ptLoad
  flags := 6
  fileOffset := 0
  virtualAddress := 0x1000
  physicalAddress := 0
  fileSize := 3
  memorySize := 5
  alignment := 4

def tinyEncoding (is64Bit : Bool) : Encoding where
  is64Bit
  declaredHeaderSize := if is64Bit then 64 else 52
  tableOffset := if is64Bit then 64 else 56
  stride := if is64Bit then 56 else 40
  fileOffset _ := if is64Bit then 124 else 120

def tinyElf (is64Bit : Bool) : ImageBytes where
  bytes := makeElf (tinyEncoding is64Bit) 0x1000 tinyHeader [1, 2, 3]
  sized := by cases is64Bit <;> decide +kernel

theorem tinyElf_entryHolds (is64Bit : Bool) :
    (tinyEncoding is64Bit).EntryHolds (tinyElf is64Bit) 0 tinyHeader := by
  cases is64Bit <;> constructor <;> decide +kernel

theorem tinyElf_encodes (is64Bit : Bool) :
    (tinyEncoding is64Bit).Encodes 0x1000 [tinyHeader] (tinyElf is64Bit) where
  long := by cases is64Bit <;> decide +kernel
  magic := by cases is64Bit <;> decide +kernel
  elfClass := by cases is64Bit <;> decide +kernel
  data := by cases is64Bit <;> decide +kernel
  identificationVersion := by cases is64Bit <;> decide +kernel
  version := by cases is64Bit <;> decide +kernel
  entry := by cases is64Bit <;> decide +kernel
  tableOffset := by cases is64Bit <;> decide +kernel
  declaredHeaderSize := by cases is64Bit <;> decide +kernel
  stride := by cases is64Bit <;> decide +kernel
  count := by cases is64Bit <;> decide +kernel
  headerSize := by cases is64Bit <;> decide +kernel
  entrySize := by cases is64Bit <;> decide +kernel
  table := by cases is64Bit <;> decide +kernel
  entries
    | 0, _ => tinyElf_entryHolds is64Bit
  payload
    | 0, _, _ => by
        change (tinyEncoding is64Bit).fileOffset 0 + 3 ≤ (tinyElf is64Bit).size
        cases is64Bit <;> decide +kernel

theorem elf_classes_agree_tiny :
    finalWorld (loadElf hostSpace hostBank (tinyElf false) hostWorld) =
      finalWorld (loadElf hostSpace hostBank (tinyElf true) hostWorld) :=
  (elf_classes_agree hostSpace hostBank hostWorld
    { few := by decide
      is32Bit := rfl
      is64Bit := rfl
      encoded32 := tinyElf_encodes false
      encoded64 := tinyElf_encodes true
      congruent
        | 0, _, _, _ => show 120 % 4 = 124 % 4 by decide
      payload
        | 0, _, _ => show (tinyElf false).slice 120 3 = (tinyElf true).slice 124 3 by
            decide +kernel }).2.2.2.2

/-- The program is accepted. -/
example : ((({ world := hostWorld } : ImageLoadPlan HostWorld).addElf hostSpace hostBank
    (tinyElf false)).toOption.map fun added => added.2.segments.length) = some 1 := by
  decide +kernel

end AxiTestbench
