import AxiTestbench.Elf.Plan
import AxiTestbench.Lib.Intervals

/-!
# The accepted format

The two ELF layouts as tables of fields, and what an image must satisfy to be
accepted, in unbounded arithmetic.  The parser accepts an image exactly when it
satisfies it, and then returns the fields that the tables name.
-/

namespace AxiTestbench

open Lib Outcome

/-- Where a header keeps a number. -/
structure Field where
  offset : Nat
  width : Nat

/-- The layout of an ELF class. -/
structure ClassLayout where
  headerSize : Nat
  entrySize : Nat
  entry : Field
  tableOffset : Field
  declaredHeaderSize : Field
  declaredEntrySize : Field
  count : Field
  flags : Field
  fileOffset : Field
  virtualAddress : Field
  physicalAddress : Field
  fileSize : Field
  memorySize : Field
  alignment : Field

def layout32 : ClassLayout where
  headerSize := 52
  entrySize := 32
  entry := ⟨24, 4⟩
  tableOffset := ⟨28, 4⟩
  declaredHeaderSize := ⟨40, 2⟩
  declaredEntrySize := ⟨42, 2⟩
  count := ⟨44, 2⟩
  fileOffset := ⟨4, 4⟩
  virtualAddress := ⟨8, 4⟩
  physicalAddress := ⟨12, 4⟩
  fileSize := ⟨16, 4⟩
  memorySize := ⟨20, 4⟩
  flags := ⟨24, 4⟩
  alignment := ⟨28, 4⟩

def layout64 : ClassLayout where
  headerSize := 64
  entrySize := 56
  entry := ⟨24, 8⟩
  tableOffset := ⟨32, 8⟩
  declaredHeaderSize := ⟨52, 2⟩
  declaredEntrySize := ⟨54, 2⟩
  count := ⟨56, 2⟩
  flags := ⟨4, 4⟩
  fileOffset := ⟨8, 8⟩
  virtualAddress := ⟨16, 8⟩
  physicalAddress := ⟨24, 8⟩
  fileSize := ⟨32, 8⟩
  memorySize := ⟨40, 8⟩
  alignment := ⟨48, 8⟩

/-- The fields of an entry of the program-header table. -/
structure ProgramHeader where
  type : Nat
  flags : Nat
  fileOffset : Nat
  virtualAddress : Nat
  physicalAddress : Nat
  fileSize : Nat
  memorySize : Nat
  alignment : Nat
  deriving DecidableEq, Repr

namespace ImageBytes

variable (image : ImageBytes)

def is64Bit : Bool := image.byte 4 == elfClass64

def layout : ClassLayout := if image.is64Bit then layout64 else layout32

variable {image} in
theorem layout_eq_layout32 (narrow : image.is64Bit = false) : image.layout = layout32 := by
  simp [layout, narrow]

variable {image} in
theorem layout_eq_layout64 (wide : image.is64Bit = true) : image.layout = layout64 := by
  simp [layout, wide]

/-- The field of the header that starts at `base`. -/
def field (base : Nat) (field : Field) : Nat := image.number (base + field.offset) field.width

def entryPoint : Nat := image.field 0 image.layout.entry

def tableOffset : Nat := image.field 0 image.layout.tableOffset

/-- The distance of two entries of the program-header table. -/
def stride : Nat := image.field 0 image.layout.declaredEntrySize

def programHeaderCount : Nat := image.field 0 image.layout.count

def programHeader (index : Nat) : ProgramHeader :=
  let base := image.tableOffset + index * image.stride
  { type := image.number base 4
    flags := image.field base image.layout.flags
    fileOffset := image.field base image.layout.fileOffset
    virtualAddress := image.field base image.layout.virtualAddress
    physicalAddress := image.field base image.layout.physicalAddress
    fileSize := image.field base image.layout.fileSize
    memorySize := image.field base image.layout.memorySize
    alignment := image.field base image.layout.alignment }

def header : ParsedHeader where
  entry := image.entryPoint
  programHeaderOffset := image.tableOffset
  programHeaderSize := image.stride
  programHeaderCount := image.programHeaderCount
  is64Bit := image.is64Bit

end ImageBytes

namespace ProgramHeader

/-- The bus address: `p_paddr`, or `p_vaddr` when that is zero. -/
def loadAddress (entry : ProgramHeader) : Nat :=
  if entry.physicalAddress ≠ 0 then entry.physicalAddress else entry.virtualAddress

def segment (entry : ProgramHeader) : ElfSegment where
  virtualAddress := entry.virtualAddress
  physicalAddress := entry.physicalAddress
  loadAddress := entry.loadAddress
  fileSize := entry.fileSize
  memorySize := entry.memorySize
  flags := entry.flags

def parsed (entry : ProgramHeader) (index : Nat) : ParsedSegment where
  publicSegment := entry.segment
  fileOffset := entry.fileOffset
  alignment := entry.alignment
  programHeaderIndex := index

/-- The entry stands for a nonempty segment. -/
def Loads (entry : ProgramHeader) : Prop := entry.type = ptLoad ∧ 0 < entry.memorySize

instance (entry : ProgramHeader) : Decidable entry.Loads :=
  inferInstanceAs (Decidable (_ ∧ _))

/-- What an entry contributes: nothing unless it loads something. -/
def parsed? (entry : ProgramHeader) (index : Nat) : Option ParsedSegment :=
  if entry.Loads then some (entry.parsed index) else none

end ProgramHeader

/-- The nonempty loadable entries in table order, with their index. -/
def ImageBytes.loadSegments (image : ImageBytes) : List ParsedSegment :=
  (List.range image.programHeaderCount).filterMap fun index =>
    (image.programHeader index).parsed? index

/-! ## Acceptance -/

/-- The identification bytes. -/
structure Identified (image : ImageBytes) : Prop where
  long : 16 ≤ image.size
  magic : image.slice 0 4 = [0x7f, 0x45, 0x4c, 0x46]
  elfClass : image.byte 4 = 1 ∨ image.byte 4 = 2
  data : image.byte 5 = 1
  version : image.byte 6 = 1

/-- The fields of the file header. -/
structure HeaderFits (image : ImageBytes) : Prop where
  long : image.layout.headerSize ≤ image.size
  version : image.number 20 4 = 1
  headerSize : image.layout.headerSize ≤ image.field 0 image.layout.declaredHeaderSize
  count : image.programHeaderCount ≠ 0xffff
  entrySize : image.programHeaderCount = 0 ∨ image.layout.entrySize ≤ image.stride
  table : image.tableOffset + image.programHeaderCount * image.stride ≤ image.size

section Target

variable {W : Type} (space : AddressSpace) (bank : LoadBank W) (world : W)

/-- A range lies in one window of a device that can load it. -/
def LoadTarget (address size : Nat) : Prop :=
  ∃ mapping ∈ space.mappings, mapping.base ≤ address ∧ address + size ≤ mapping.limit ∧
    bank.loadable mapping.device world = true ∧
    bank.canLoad mapping.device world (address - mapping.base) size = true

/-- What a `PT_LOAD` entry must satisfy in an image of the given length. -/
structure ProgramHeader.Loadable (length : Nat) (entry : ProgramHeader) : Prop where
  sizes : entry.fileSize ≤ entry.memorySize
  data : entry.fileOffset + entry.fileSize ≤ length
  aligned : entry.alignment ≤ 1 ∨ (∃ exponent, entry.alignment = 2 ^ exponent) ∧
    entry.virtualAddress % entry.alignment = entry.fileOffset % entry.alignment
  range : entry.loadAddress + entry.memorySize ≤ 2 ^ 64 - 1
  target : 0 < entry.memorySize → LoadTarget space bank world entry.loadAddress entry.memorySize

/-- Two segments have no address in common. -/
def ElfSegment.Disjoint (left right : ElfSegment) : Prop :=
  Apart ElfSegment.loadAddress ElfSegment.memorySize left right

/-- What the loader accepts. -/
structure ElfFormat (image : ImageBytes) : Prop where
  identified : Identified image
  header : HeaderFits image
  loadable : ∀ index < image.programHeaderCount, (image.programHeader index).type = ptLoad →
    (image.programHeader index).Loadable space bank world image.size
  disjoint : (image.loadSegments.map ParsedSegment.publicSegment).Pairwise ElfSegment.Disjoint

end Target

/-! ## The parser accepts the format -/

theorem ImageBytes.get_bind_eq_ok_iff {image : ImageBytes} {index : Nat} (inside : index < image.size)
    {β : Type} {next : UInt8 → Except ElfFault β} {result : β} :
    (image.get index >>= next) = .ok result ↔ next (image.byte index) = .ok result := by
  rw [get_eq inside, ok_bind]

@[simp] theorem elfVersionCurrent_toNat : elfVersionCurrent.toNat = 1 := rfl

/-- The first four bytes. -/
private theorem slice_four {image : ImageBytes} (long : 16 ≤ image.size) :
    image.slice 0 4 = [image.byte 0, image.byte 1, image.byte 2, image.byte 3] := by
  have empty : image.slice 0 0 = [] := by simp [ImageBytes.slice]
  rw [ImageBytes.slice_succ (by omega), ImageBytes.slice_succ (by omega),
    ImageBytes.slice_succ (by omega), ImageBytes.slice_succ (by omega), empty]
  rfl

theorem parseIdentification_eq_ok_iff {image : ImageBytes} {is64Bit : Bool} :
    parseIdentification image = .ok is64Bit ↔ Identified image ∧ is64Bit = image.is64Bit := by
  rw [parseIdentification, requireRange_bind_eq_ok_iff]
  by_cases long : 16 ≤ image.size
  · simp only [ImageBytes.get_bind_eq_ok_iff (show 0 < image.size by omega),
      ImageBytes.get_bind_eq_ok_iff (show 1 < image.size by omega),
      ImageBytes.get_bind_eq_ok_iff (show 2 < image.size by omega),
      ImageBytes.get_bind_eq_ok_iff (show 3 < image.size by omega),
      ImageBytes.get_bind_eq_ok_iff (show 4 < image.size by omega),
      ImageBytes.get_bind_eq_ok_iff (show 5 < image.size by omega),
      ImageBytes.get_bind_eq_ok_iff (show 6 < image.size by omega), reject_bind_eq_ok_iff,
      pure_eq_ok_iff]
    constructor
    · rintro ⟨-, magic, elfClass, data, version, rfl⟩
      refine ⟨⟨long, ?_, ?_, not_not.mp data, not_not.mp version⟩, rfl⟩
      · rw [slice_four long]
        simpa [not_or] using magic
      · tauto
    · rintro ⟨⟨-, magic, elfClass, data, version⟩, rfl⟩
      rw [slice_four long] at magic
      simp only [List.cons.injEq, and_true] at magic
      refine ⟨by omega, by tauto, by tauto, not_not.mpr data, not_not.mpr version, rfl⟩
  · exact ⟨fun accepted => absurd accepted.1 (by omega), fun both => absurd both.1.long long⟩

theorem headerFits_iff {image : ImageBytes} :
    HeaderFits image ↔ image.layout.headerSize ≤ image.size ∧ image.number 20 4 = 1 ∧
      image.layout.headerSize ≤ image.field 0 image.layout.declaredHeaderSize ∧
      image.programHeaderCount ≠ 0xffff ∧
      (image.programHeaderCount = 0 ∨ image.layout.entrySize ≤ image.stride) ∧
      image.tableOffset + image.programHeaderCount * image.stride ≤ image.size :=
  ⟨fun ⟨long, version, headerSize, count, entrySize, table⟩ =>
    ⟨long, version, headerSize, count, entrySize, table⟩,
  fun ⟨long, version, headerSize, count, entrySize, table⟩ =>
    ⟨long, version, headerSize, count, entrySize, table⟩⟩

theorem parseHeaderFields_eq_ok_iff {image : ImageBytes} {header : ParsedHeader} :
    parseHeaderFields image image.is64Bit = .ok header ↔
      HeaderFits image ∧ header = image.header := by
  have sized : image.size < 2 ^ 64 := image.sized
  rw [parseHeaderFields, headerFits_iff]
  -- After the case split both sides name the same bytes; what differs is arithmetic.
  cases wide : image.is64Bit with
  | false =>
      simp only [Bool.false_eq_true, ↓reduceIte, requireRange_bind_eq_ok_iff,
        readLittleEndian_bind_eq_ok_iff, reject_bind_eq_ok_iff, checkedMultiply_bind_eq_ok_iff,
        pure_eq_ok_iff]
      simp only [ImageBytes.header, ImageBytes.field, ImageBytes.entryPoint,
        ImageBytes.tableOffset, ImageBytes.stride, ImageBytes.programHeaderCount, wide,
        ImageBytes.layout_eq_layout32 wide, layout32, Nat.zero_add, elfVersionCurrent_toNat]
      constructor
      · rintro ⟨long, _, version, _, _, _, _, _, headerSize, count, entrySize, _, table, rfl⟩
        exact ⟨by omega, rfl⟩
      · rintro ⟨fits, rfl⟩
        refine ⟨?_, ?_, ?_, ?_, ?_, ?_, ?_, ?_, ?_, ?_, ?_, ?_, ?_, rfl⟩ <;> omega
  | true =>
      simp only [↓reduceIte, requireRange_bind_eq_ok_iff,
        readLittleEndian_bind_eq_ok_iff, reject_bind_eq_ok_iff, checkedMultiply_bind_eq_ok_iff,
        pure_eq_ok_iff]
      simp only [ImageBytes.header, ImageBytes.field, ImageBytes.entryPoint,
        ImageBytes.tableOffset, ImageBytes.stride, ImageBytes.programHeaderCount, wide,
        ImageBytes.layout_eq_layout64 wide, layout64, Nat.zero_add, elfVersionCurrent_toNat]
      constructor
      · rintro ⟨long, _, version, _, _, _, _, _, headerSize, count, entrySize, _, table, rfl⟩
        exact ⟨by omega, rfl⟩
      · rintro ⟨fits, rfl⟩
        refine ⟨?_, ?_, ?_, ?_, ?_, ?_, ?_, ?_, ?_, ?_, ?_, ?_, ?_, rfl⟩ <;> omega

theorem parseHeader_eq_ok_iff {image : ImageBytes} {header : ParsedHeader} :
    parseHeader image = .ok header ↔
      (Identified image ∧ HeaderFits image) ∧ header = image.header := by
  rw [parseHeader, bind_eq_ok_iff]
  constructor
  · rintro ⟨is64Bit, accepted, fields⟩
    obtain ⟨identified, rfl⟩ := parseIdentification_eq_ok_iff.mp accepted
    obtain ⟨fits, rfl⟩ := parseHeaderFields_eq_ok_iff.mp fields
    exact ⟨⟨identified, fits⟩, rfl⟩
  · rintro ⟨⟨identified, fits⟩, rfl⟩
    exact ⟨_, parseIdentification_eq_ok_iff.mpr ⟨identified, rfl⟩,
      parseHeaderFields_eq_ok_iff.mpr ⟨fits, rfl⟩⟩

/-- An entry of the table lies inside the image. -/
theorem HeaderFits.entry_le {image : ImageBytes} (fits : HeaderFits image) {index : Nat}
    (inTable : index < image.programHeaderCount) :
    image.tableOffset + index * image.stride + image.layout.entrySize ≤ image.size := by
  have table := fits.table
  have entrySize : image.layout.entrySize ≤ image.stride := by
    have := fits.entrySize
    omega
  calc
    image.tableOffset + index * image.stride + image.layout.entrySize
        ≤ image.tableOffset + (index + 1) * image.stride := by
          rw [Nat.add_mul]
          omega
    _ ≤ image.tableOffset + image.programHeaderCount * image.stride :=
        Nat.add_le_add_left (Nat.mul_le_mul_right _ inTable) _
    _ ≤ image.size := table

/-- The fields of an entry as they are read, before its load address is known. -/
def ProgramHeader.fields (entry : ProgramHeader) (index : Nat) : ParsedSegment :=
  { entry.parsed index with publicSegment := { entry.segment with loadAddress := 0 } }

/-- Inside the image the position of a field does not wrap. -/
theorem readLittleEndian_add64_eq {image : ImageBytes} {base offset width : Nat}
    (description : String) (inside : base + offset + width ≤ image.size) :
    readLittleEndian width image (add64 base offset) description =
      .ok (image.number (base + offset) width) := by
  have sized : image.size < 2 ^ 64 := image.sized
  rw [add64_eq (by omega), readLittleEndian_eq description inside]

theorem readSegment_eq {image : ImageBytes} (fits : HeaderFits image) {index : Nat}
    (inTable : index < image.programHeaderCount) :
    readSegment image image.is64Bit (image.tableOffset + index * image.stride) index =
      .ok ((image.programHeader index).fields index) := by
  have inside := fits.entry_le inTable
  cases wide : image.is64Bit with
  | false =>
      simp only [ImageBytes.layout_eq_layout32 wide, layout32] at inside
      simp (disch := omega) only [readSegment, Bool.false_eq_true, ↓reduceIte,
        readLittleEndian_add64_eq, ok_bind]
      simp only [ProgramHeader.fields, ProgramHeader.parsed, ProgramHeader.segment,
        ImageBytes.programHeader, ImageBytes.field, ImageBytes.layout_eq_layout32 wide, layout32]
      rfl
  | true =>
      simp only [ImageBytes.layout_eq_layout64 wide, layout64] at inside
      simp (disch := omega) only [readSegment, ↓reduceIte, readLittleEndian_add64_eq, ok_bind]
      simp only [ProgramHeader.fields, ProgramHeader.parsed, ProgramHeader.segment,
        ImageBytes.programHeader, ImageBytes.field, ImageBytes.layout_eq_layout64 wide, layout64]
      rfl

/-- A field is a number of at most eight bytes. -/
theorem ImageBytes.loadAddress_lt (image : ImageBytes) (index : Nat) :
    (image.programHeader index).loadAddress < 2 ^ 64 := by
  have narrow : image.layout.physicalAddress.width ≤ 8 ∧ image.layout.virtualAddress.width ≤ 8 := by
    cases wide : image.is64Bit with
    | false => simp [layout_eq_layout32 wide, layout32]
    | true => simp [layout_eq_layout64 wide, layout64]
  have word : ∀ offset width, width ≤ 8 → image.number offset width < 2 ^ 64 := by
    intro offset width short
    calc
      image.number offset width < 256 ^ width := image.number_lt offset width
      _ ≤ 256 ^ 8 := Nat.pow_le_pow_right (by decide) short
      _ = 2 ^ 64 := by decide
  rw [ProgramHeader.loadAddress]
  split
  · exact word _ _ narrow.1
  · exact word _ _ narrow.2

theorem checkSegment_eq_ok_iff {image : ImageBytes} {entry : ProgramHeader} {index : Nat}
    {result : ParsedSegment} (word : entry.loadAddress < 2 ^ 64) :
    checkSegment image (entry.fields index) index = .ok result ↔
      (entry.fileSize ≤ entry.memorySize ∧ entry.fileOffset + entry.fileSize ≤ image.size ∧
        (entry.alignment ≤ 1 ∨ (∃ exponent, entry.alignment = 2 ^ exponent) ∧
          entry.virtualAddress % entry.alignment = entry.fileOffset % entry.alignment) ∧
        entry.loadAddress + entry.memorySize ≤ 2 ^ 64 - 1) ∧
      result = entry.parsed index := by
  have power : entry.alignment > 1 → (entry.alignment &&& (entry.alignment - 1) = 0 ↔
      ∃ exponent, entry.alignment = 2 ^ exponent) := fun above =>
    Nat.and_sub_one_eq_zero_iff_isPowerOfTwo (by omega)
  have address : (if (entry.fields index).publicSegment.physicalAddress ≠ 0 then
      (entry.fields index).publicSegment.physicalAddress
    else (entry.fields index).publicSegment.virtualAddress) < 2 ^ 64 := word
  rw [checkSegment, reject_bind_eq_ok_iff, requireRange_bind_eq_ok_iff, reject_bind_eq_ok_iff,
    reject_bind_eq_ok_iff, checkedAdd_bind_eq_ok_iff (.inl address), pure_eq_ok_iff]
  change ¬entry.fileSize > entry.memorySize ∧ entry.fileOffset + entry.fileSize ≤ image.size ∧
    ¬(entry.alignment > 1 ∧ entry.alignment &&& (entry.alignment - 1) ≠ 0) ∧
    ¬(entry.alignment > 1 ∧
      entry.virtualAddress % entry.alignment ≠ entry.fileOffset % entry.alignment) ∧
    entry.loadAddress + entry.memorySize < 2 ^ 64 ∧ result = entry.parsed index ↔ _
  constructor
  · rintro ⟨sizes, data, isPower, congruent, range, rfl⟩
    refine ⟨⟨by omega, data, ?_, by omega⟩, rfl⟩
    by_cases above : entry.alignment > 1
    · exact .inr ⟨(power above).mp (by tauto), by tauto⟩
    · exact .inl (by omega)
  · rintro ⟨⟨sizes, data, aligned, range⟩, rfl⟩
    refine ⟨by omega, data, ?_, ?_, by omega, rfl⟩
    · rintro ⟨above, notPower⟩
      rcases aligned with small | ⟨isPower, -⟩
      · omega
      · exact notPower ((power above).mpr isPower)
    · rintro ⟨above, incongruent⟩
      rcases aligned with small | ⟨-, congruent⟩
      · omega
      · exact incongruent congruent

theorem validateLoadTarget_eq_ok_iff {W : Type} {space : AddressSpace} {bank : LoadBank W}
    {world : W} {segment : ElfSegment} {index : Nat} :
    validateLoadTarget space bank world segment index = .ok ⟨⟩ ↔
      0 < segment.memorySize ∧
        LoadTarget space bank world segment.loadAddress segment.memorySize := by
  rw [validateLoadTarget]
  split
  next missing =>
    simp only [reduceCtorEq, false_iff, not_and]
    rintro positive ⟨mapping, member, base, limit, -⟩
    have found := space.resolve_eq_some_iff.mpr ⟨member, positive, base, limit⟩
    simp [missing] at found
  next mapping found =>
    obtain ⟨member, positive, base, limit⟩ := space.resolve_eq_some_iff.mp found
    have offset := sub64_eq base (by have := AddressSpace.resolve_lt found; omega)
    rw [reject_bind_eq_ok_iff, reject_eq_ok_iff, offset, Bool.not_eq_false, Bool.not_eq_false]
    constructor
    · rintro ⟨loadable, accepted⟩
      exact ⟨positive, mapping, member, base, limit, loadable, accepted⟩
    · rintro ⟨-, other, otherMember, otherBase, otherLimit, loadable, accepted⟩
      have same := space.resolve_eq_some_iff.mpr ⟨otherMember, positive, otherBase, otherLimit⟩
      rw [found] at same
      cases same
      exact ⟨loadable, accepted⟩

section Segments

variable {W : Type} {space : AddressSpace} {bank : LoadBank W} {world : W} {image : ImageBytes}

/-- The end of `parse_program_header`, for an entry of the right type. -/
private theorem returnSegment_eq_ok_iff {entry : ProgramHeader} (load : entry.type = ptLoad)
    {index : Nat} {result : Option ParsedSegment} :
    (if (entry.parsed index).publicSegment.memorySize = 0 then pure none
      else do
        validateLoadTarget space bank world (entry.parsed index).publicSegment index
        return some (entry.parsed index)) = .ok result ↔
      (0 < entry.memorySize → LoadTarget space bank world entry.loadAddress entry.memorySize) ∧
      result = entry.parsed? index := by
  have size : (entry.parsed index).publicSegment.memorySize = entry.memorySize := rfl
  by_cases empty : entry.memorySize = 0
  · rw [if_pos (size.trans empty), pure_eq_ok_iff]
    simp [ProgramHeader.parsed?, ProgramHeader.Loads, empty]
  · have positive : 0 < entry.memorySize := Nat.pos_of_ne_zero empty
    rw [if_neg (size ▸ empty), bind_eq_ok_iff, ProgramHeader.parsed?, if_pos ⟨load, positive⟩]
    constructor
    · rintro ⟨⟨⟩, valid, returned⟩
      exact ⟨fun _ => (validateLoadTarget_eq_ok_iff.mp valid).2, pure_eq_ok_iff.mp returned⟩
    · rintro ⟨mapped, returned⟩
      exact ⟨⟨⟩, validateLoadTarget_eq_ok_iff.mpr ⟨positive, mapped positive⟩,
        pure_eq_ok_iff.mpr returned⟩

theorem parseProgramHeader_eq_ok_iff (fits : HeaderFits image) {index : Nat}
    (inTable : index < image.programHeaderCount) {result : Option ParsedSegment} :
    parseProgramHeader space bank world image image.header index = .ok result ↔
      ((image.programHeader index).type = ptLoad →
        (image.programHeader index).Loadable space bank world image.size) ∧
      result = (image.programHeader index).parsed? index := by
  have inside := fits.entry_le inTable
  have sized : image.size < 2 ^ 64 := image.sized
  have entrySize : 32 ≤ image.layout.entrySize := by
    cases wide : image.is64Bit with
    | false => simp [ImageBytes.layout_eq_layout32 wide, layout32]
    | true => simp [ImageBytes.layout_eq_layout64 wide, layout64]
  rw [parseProgramHeader, checkedMultiply_bind_eq_ok_iff]
  simp only [ImageBytes.header]
  rw [checkedAdd_bind_eq_ok_iff (by omega), readLittleEndian_bind_eq_ok_iff]
  rw [and_iff_right (by omega), and_iff_right (by omega), and_iff_right (by omega)]
  change (if (image.programHeader index).type ≠ ptLoad then _ else _) = _ ↔ _
  by_cases load : (image.programHeader index).type = ptLoad
  · rw [if_neg (not_not.mpr load), readSegment_eq fits inTable, ok_bind, bind_eq_ok_iff]
    simp only [checkSegment_eq_ok_iff (image.loadAddress_lt index)]
    constructor
    · rintro ⟨_, ⟨⟨sizes, data, aligned, range⟩, rfl⟩, returned⟩
      obtain ⟨target, rfl⟩ := (returnSegment_eq_ok_iff load).mp returned
      exact ⟨fun _ => ⟨sizes, data, aligned, range, target⟩, rfl⟩
    · rintro ⟨loadable, rfl⟩
      obtain ⟨sizes, data, aligned, range, target⟩ := loadable load
      exact ⟨_, ⟨⟨sizes, data, aligned, range⟩, rfl⟩,
        (returnSegment_eq_ok_iff load).mpr ⟨target, rfl⟩⟩
  · rw [if_pos load, pure_eq_ok_iff]
    simp [load, ProgramHeader.parsed?, ProgramHeader.Loads]

theorem parseLoadSegments_eq_ok_iff (fits : HeaderFits image) {result : List ParsedSegment} :
    parseLoadSegments space bank world image image.header = .ok result ↔
      (∀ index < image.programHeaderCount, (image.programHeader index).type = ptLoad →
        (image.programHeader index).Loadable space bank world image.size) ∧
      result = image.loadSegments := by
  have visits := @foldlM_collect_eq_ok_iff _ _ _
    (parseProgramHeader space bank world image image.header) (List.range image.programHeaderCount)
    (fun index => (image.programHeader index).type = ptLoad →
      (image.programHeader index).Loadable space bank world image.size)
    (fun index => (image.programHeader index).parsed? index)
    (fun index member result => parseProgramHeader_eq_ok_iff fits (List.mem_range.mp member))
    [] result
  simp only [List.mem_range, List.nil_append] at visits
  exact visits

end Segments

/-! ### Overlap -/

/-- A nonempty range that ends in 64-bit addresses. -/
def ElfSegment.Placed (segment : ElfSegment) : Prop :=
  0 < segment.memorySize ∧ segment.loadAddress + segment.memorySize ≤ 2 ^ 64 - 1

theorem validateNoOverlap_eq_ok_iff {segments : List ParsedSegment}
    (placed : ∀ parsed ∈ segments, parsed.publicSegment.Placed) :
    validateNoOverlap segments = .ok ⟨⟩ ↔
      (segments.map ParsedSegment.publicSegment).Pairwise ElfSegment.Disjoint := by
  have ordered : (addressOrder segments).Pairwise fun left right =>
      left.publicSegment.loadAddress ≤ right.publicSegment.loadAddress := by
    refine (List.pairwise_mergeSort ?_ ?_ segments).imp of_decide_eq_true
    · intro first second third
      simp only [decide_eq_true_eq]
      omega
    · intro first second
      simp only [Bool.or_eq_true, decide_eq_true_eq]
      omega
  have perm : (addressOrder segments).Perm segments := List.mergeSort_perm _ _
  have sorted := isChain_iff_pairwise_apart
    (fun parsed : ParsedSegment => parsed.publicSegment.loadAddress)
    (fun parsed => parsed.publicSegment.memorySize)
    perm ordered fun parsed member => (placed parsed member).1
  rw [validateNoOverlap, forM_eq_ok_iff, List.pairwise_map]
  refine Iff.trans ?_ sorted
  rw [isChain_iff_forall_mem_zip_tail]
  refine forall₂_congr fun pair member => ?_
  have inSegments := perm.mem_iff.mp (List.of_mem_zip member).1
  rw [reject_eq_ok_iff, add64_eq (by have := (placed _ inSegments).2; omega), gt_iff_lt, not_lt]

/-! ### Undefined accesses -/

theorem parseIdentification_avoids (image : ImageBytes) :
    Avoids ElfFault.Wild (parseIdentification image) := by
  refine (requireRange_avoids _ _ _ _).bind fun _ inRange => ?_
  have long : 16 ≤ image.size := by
    rw [requireRange, reject_eq_ok_iff] at inRange
    omega
  have byte : ∀ index < 7, Avoids ElfFault.Wild (image.get index) := by
    intro index small
    rw [ImageBytes.get_eq (by omega)]
    exact .ok _
  refine (byte 0 (by omega)).bind fun _ _ => (byte 1 (by omega)).bind fun _ _ =>
    (byte 2 (by omega)).bind fun _ _ => (byte 3 (by omega)).bind fun _ _ =>
    (Avoids.reject (ElfFault.not_wild _)).bind fun _ _ => (byte 4 (by omega)).bind fun _ _ =>
    (Avoids.reject (ElfFault.not_wild _)).bind fun _ _ => (byte 5 (by omega)).bind fun _ _ =>
    (Avoids.reject (ElfFault.not_wild _)).bind fun _ _ => (byte 6 (by omega)).bind fun _ _ =>
    (Avoids.reject (ElfFault.not_wild _)).bind fun _ _ => .ok _

private theorem reject_avoids {bad : Prop} [Decidable bad] {what : String} :
    Avoids ElfFault.Wild (reject bad (.error what)) :=
  .reject (ElfFault.not_wild _)

theorem parseHeaderFields_avoids (image : ImageBytes) (is64Bit : Bool) :
    Avoids ElfFault.Wild (parseHeaderFields image is64Bit) := by
  have read := fun width offset description =>
    readLittleEndian_avoids width image offset description
  cases is64Bit <;>
    exact (requireRange_avoids _ _ _ _).bind fun _ _ => (read _ _ _).bind fun _ _ =>
      reject_avoids.bind fun _ _ => (read _ _ _).bind fun _ _ => (read _ _ _).bind fun _ _ =>
      (read _ _ _).bind fun _ _ => (read _ _ _).bind fun _ _ => (read _ _ _).bind fun _ _ =>
      reject_avoids.bind fun _ _ => reject_avoids.bind fun _ _ => reject_avoids.bind fun _ _ =>
      (checkedMultiply_avoids _ _ _).bind fun _ _ =>
      (requireRange_avoids _ _ _ _).bind fun _ _ => .ok _

theorem readSegment_avoids (image : ImageBytes) (is64Bit : Bool) (offset index : Nat) :
    Avoids ElfFault.Wild (readSegment image is64Bit offset index) := by
  have read := fun width offset description =>
    readLittleEndian_avoids width image offset description
  cases is64Bit <;>
    exact (read _ _ _).bind fun _ _ => (read _ _ _).bind fun _ _ => (read _ _ _).bind fun _ _ =>
      (read _ _ _).bind fun _ _ => (read _ _ _).bind fun _ _ => (read _ _ _).bind fun _ _ =>
      (read _ _ _).bind fun _ _ => .ok _

theorem checkSegment_avoids (image : ImageBytes) (parsed : ParsedSegment) (index : Nat) :
    Avoids ElfFault.Wild (checkSegment image parsed index) :=
  reject_avoids.bind fun _ _ => (requireRange_avoids _ _ _ _).bind fun _ _ =>
    reject_avoids.bind fun _ _ => reject_avoids.bind fun _ _ =>
    (checkedAdd_avoids _ _ _).bind fun _ _ => .ok _

section Target

variable {W : Type} (space : AddressSpace) (bank : LoadBank W) (world : W)

theorem validateLoadTarget_avoids (segment : ElfSegment) (index : Nat) :
    Avoids ElfFault.Wild (validateLoadTarget space bank world segment index) := by
  rw [validateLoadTarget]
  split
  · exact .error (ElfFault.not_wild _)
  · exact reject_avoids.bind fun _ _ => reject_avoids

theorem parseProgramHeader_avoids (image : ImageBytes) (header : ParsedHeader) (index : Nat) :
    Avoids ElfFault.Wild (parseProgramHeader space bank world image header index) := by
  refine (checkedMultiply_avoids _ _ _).bind fun _ _ => (checkedAdd_avoids _ _ _).bind fun _ _ =>
    (readLittleEndian_avoids _ _ _ _).bind fun type _ => ?_
  split
  · exact .ok _
  · refine (readSegment_avoids _ _ _ _).bind fun _ _ => (checkSegment_avoids _ _ _).bind
      fun _ _ => ?_
    split
    · exact .ok _
    · exact (validateLoadTarget_avoids space bank world _ _).bind fun _ _ => .ok _

theorem parseLoadSegments_avoids (image : ImageBytes) (header : ParsedHeader) :
    Avoids ElfFault.Wild (parseLoadSegments space bank world image header) :=
  .foldlM (fun _ index =>
    (parseProgramHeader_avoids space bank world image header index).bind fun _ _ => .ok _) _ _

end Target

theorem validateNoOverlap_avoids (segments : List ParsedSegment) :
    Avoids ElfFault.Wild (validateNoOverlap segments) :=
  .forM fun _ _ => reject_avoids

/-! ### The plan -/

/-- The chunk of a segment: its bytes in the file. -/
def ImageBytes.chunk (image : ImageBytes) (parsed : ParsedSegment) : Chunk where
  segment := parsed.publicSegment
  data := image.part parsed.fileOffset parsed.publicSegment.fileSize

theorem ImageLoadPlan.additions_eq {image : ImageBytes} {segments : List ParsedSegment}
    (inside : ∀ parsed ∈ segments,
      parsed.fileOffset + parsed.publicSegment.fileSize ≤ image.size) :
    additions image segments = .ok (segments.map image.chunk) := by
  have loop : ∀ start, segments.foldlM
      (fun additions segment => do
        let data ← image.subspan segment.fileOffset segment.publicSegment.fileSize
        return additions ++ [{ segment := segment.publicSegment, data }])
      start = (.ok (start ++ segments.map image.chunk) : Except ElfFault (List Chunk)) := by
    induction segments with
    | nil => simp [pure, Except.pure]
    | cons parsed rest ih =>
        intro start
        rw [List.foldlM_cons, ImageBytes.subspan_eq (inside parsed List.mem_cons_self), ok_bind]
        change (rest.foldlM _ (start ++ [image.chunk parsed]) : Except ElfFault (List Chunk)) = _
        rw [ih fun other member => inside other (List.mem_cons_of_mem _ member)]
        simp
  exact loop []

/-- A loadable segment comes from an entry of the table. -/
theorem ImageBytes.mem_loadSegments {image : ImageBytes} {parsed : ParsedSegment} :
    parsed ∈ image.loadSegments ↔ ∃ index < image.programHeaderCount,
      (image.programHeader index).Loads ∧ (image.programHeader index).parsed index = parsed := by
  simp [loadSegments, ProgramHeader.parsed?]

section Acceptance

variable {W : Type} {space : AddressSpace} {bank : LoadBank W} {world : W} {image : ImageBytes}

/-- Accepted entries place their segments and have their bytes in the file. -/
theorem placed_of_loadable (loadable : ∀ index < image.programHeaderCount,
      (image.programHeader index).type = ptLoad →
        (image.programHeader index).Loadable space bank world image.size)
    {parsed : ParsedSegment} (member : parsed ∈ image.loadSegments) :
    parsed.publicSegment.Placed ∧
      parsed.fileOffset + parsed.publicSegment.fileSize ≤ image.size := by
  obtain ⟨index, inTable, loads, rfl⟩ := ImageBytes.mem_loadSegments.mp member
  have entry := loadable index inTable loads.1
  exact ⟨⟨loads.2, entry.range⟩, entry.data⟩

/-- What an accepted image returns. -/
def ImageBytes.loadResult (image : ImageBytes) : ElfLoadResult where
  entry := image.entryPoint
  is64Bit := image.is64Bit
  segments := image.loadSegments.map ParsedSegment.publicSegment

theorem ImageLoadPlan.addElf_eq_ok_iff {plan after : ImageLoadPlan W} {result : ElfLoadResult} :
    plan.addElf space bank image = .ok (after, result) ↔
      ElfFormat space bank plan.world image ∧
        after = { plan with chunks := plan.chunks ++ image.loadSegments.map image.chunk } ∧
        result = image.loadResult := by
  rw [addElf, attempt_bind_eq_ok_iff]
  constructor
  · rintro ⟨header, headerParsed, rest⟩
    obtain ⟨⟨identified, fits⟩, rfl⟩ := parseHeader_eq_ok_iff.mp headerParsed
    obtain ⟨segments, segmentsParsed, rest⟩ := attempt_bind_eq_ok_iff.mp rest
    obtain ⟨loadable, rfl⟩ := (parseLoadSegments_eq_ok_iff fits).mp segmentsParsed
    obtain ⟨⟨⟩, apart, rest⟩ := attempt_bind_eq_ok_iff.mp rest
    have disjoint := (validateNoOverlap_eq_ok_iff fun parsed member =>
      (placed_of_loadable loadable member).1).mp apart
    obtain ⟨chunks, added, rest⟩ := attempt_bind_eq_ok_iff.mp rest
    rw [additions_eq fun parsed member => (placed_of_loadable loadable member).2] at added
    cases added
    cases rest
    exact ⟨⟨identified, fits, loadable, disjoint⟩, rfl, rfl⟩
  · rintro ⟨format, rfl, rfl⟩
    have placed := fun parsed (member : parsed ∈ image.loadSegments) =>
      placed_of_loadable format.loadable member
    refine ⟨_, parseHeader_eq_ok_iff.mpr ⟨⟨format.identified, format.header⟩, rfl⟩,
      attempt_bind_eq_ok_iff.mpr ⟨_, (parseLoadSegments_eq_ok_iff format.header).mpr
        ⟨format.loadable, rfl⟩, attempt_bind_eq_ok_iff.mpr ⟨⟨⟩, ?_, ?_⟩⟩⟩
    · exact (validateNoOverlap_eq_ok_iff fun parsed member => (placed parsed member).1).mpr
        format.disjoint
    · rw [additions_eq fun parsed member => (placed parsed member).2]
      rfl

/-- A throw that C++ does not define, or that changes the plan. -/
def ImageLoadPlan.Harm (plan : ImageLoadPlan W) (thrown : ElfFault × ImageLoadPlan W) : Prop :=
  thrown.1.Wild ∨ thrown.2 ≠ plan

theorem ImageLoadPlan.attempt_avoids {plan : ImageLoadPlan W} {α : Type} {value : Except ElfFault α}
    (valueAvoids : Avoids ElfFault.Wild value) : Avoids plan.Harm (attempt plan value) :=
  .attempt fun fault failed harm => harm.elim (valueAvoids fault failed) (· rfl)

/-- A call that throws accesses nothing undefined and leaves the plan as it was. -/
theorem ImageLoadPlan.addElf_avoids (plan : ImageLoadPlan W) (image : ImageBytes) :
    Avoids plan.Harm (plan.addElf space bank image) := by
  refine (attempt_avoids ?_).bind fun header headerParsed =>
    (attempt_avoids (parseLoadSegments_avoids space bank plan.world image header)).bind
      fun segments segmentsParsed => (attempt_avoids (validateNoOverlap_avoids segments)).bind
        fun _ _ => (attempt_avoids ?_).bind fun _ _ => .ok _
  · exact (parseIdentification_avoids image).bind fun _ _ => parseHeaderFields_avoids image _
  · obtain ⟨⟨-, fits⟩, rfl⟩ := parseHeader_eq_ok_iff.mp (eq_ok_of_attempt headerParsed)
    obtain ⟨loadable, rfl⟩ :=
      (parseLoadSegments_eq_ok_iff fits).mp (eq_ok_of_attempt segmentsParsed)
    rw [additions_eq fun parsed member => (placed_of_loadable loadable member).2]
    exact .ok _

/-- The parser accepts exactly its format, and accesses nothing outside the image. -/
theorem elf_acceptance_exact (space : AddressSpace) (bank : LoadBank W) (plan : ImageLoadPlan W)
    (image : ImageBytes) :
    Avoids (fun thrown => thrown.1.Wild) (plan.addElf space bank image) ∧
      ((∃ after result, plan.addElf space bank image = .ok (after, result)) ↔
        ElfFormat space bank plan.world image) ∧
      ∀ after result, plan.addElf space bank image = .ok (after, result) →
        result = image.loadResult ∧
          after = { plan with chunks := plan.chunks ++ image.loadSegments.map image.chunk } := by
  refine ⟨fun thrown failed wild => plan.addElf_avoids image thrown failed (.inl wild), ?_, ?_⟩
  · constructor
    · rintro ⟨after, result, accepted⟩
      exact (ImageLoadPlan.addElf_eq_ok_iff.mp accepted).1
    · intro format
      exact ⟨_, _, ImageLoadPlan.addElf_eq_ok_iff.mpr ⟨format, rfl, rfl⟩⟩
  · intro after result accepted
    obtain ⟨-, planned, returned⟩ := ImageLoadPlan.addElf_eq_ok_iff.mp accepted
    exact ⟨returned, planned⟩

end Acceptance

end AxiTestbench
