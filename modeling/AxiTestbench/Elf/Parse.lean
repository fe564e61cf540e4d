import AxiTestbench.Elf.Reader
import AxiTestbench.Elf.Storage

/-!
# Parsing ELF images

`parse_header`, `parse_program_header`, `parse_load_segments` and
`validate_no_overlap` of `elf_loader.cpp`, with the check of load targets.
-/

namespace AxiTestbench

open Lib Outcome

/-- `PT_LOAD`. -/
def ptLoad : Nat := 1

def elfClass32 : UInt8 := 1

def elfClass64 : UInt8 := 2

def elfDataLittleEndian : UInt8 := 1

def elfVersionCurrent : UInt8 := 1

structure ElfSegment where
  virtualAddress : Nat := 0
  physicalAddress : Nat := 0
  loadAddress : Nat := 0
  fileSize : Nat := 0
  memorySize : Nat := 0
  flags : Nat := 0
  deriving DecidableEq, Repr

structure ParsedSegment where
  publicSegment : ElfSegment := {}
  fileOffset : Nat := 0
  alignment : Nat := 0
  programHeaderIndex : Nat := 0
  deriving DecidableEq, Repr

structure ParsedHeader where
  entry : Nat := 0
  programHeaderOffset : Nat := 0
  programHeaderSize : Nat := 0
  programHeaderCount : Nat := 0
  is64Bit : Bool := false
  deriving DecidableEq, Repr

structure ElfLoadResult where
  entry : Nat := 0
  is64Bit : Bool := false
  segments : List ElfSegment := []
  deriving DecidableEq, Repr

/-! ## The file header -/

/-- The identification bytes of `parse_header`; the result is `is_64_bit`. -/
def parseIdentification (image : ImageBytes) : Except ElfFault Bool := do
  requireRange 0 16 image.size "identification"
  let magic0 ← image.get 0
  let magic1 ← image.get 1
  let magic2 ← image.get 2
  let magic3 ← image.get 3
  reject (magic0 ≠ 0x7f ∨ magic1 ≠ 0x45 ∨ magic2 ≠ 0x4c ∨ magic3 ≠ 0x46)
    (.error "input is not an ELF image")
  let elfClass ← image.get 4
  reject (elfClass ≠ elfClass32 ∧ elfClass ≠ elfClass64)
    (.error "unsupported ELF class (expected ELF32 or ELF64)")
  let data ← image.get 5
  reject (data ≠ elfDataLittleEndian) (.error "only little-endian ELF images are supported")
  let version ← image.get 6
  reject (version ≠ elfVersionCurrent) (.error "unsupported ELF identification version")
  return elfClass == elfClass64

/-- The rest of `parse_header`. -/
def parseHeaderFields (image : ImageBytes) (is64Bit : Bool) : Except ElfFault ParsedHeader := do
  let headerSize := if is64Bit then 64 else 52
  let requiredProgramHeaderSize := if is64Bit then 56 else 32
  requireRange 0 headerSize image.size "header"
  let version ← readLittleEndian 4 image 20 "version"
  reject (version ≠ elfVersionCurrent.toNat) (.error "unsupported ELF header version")
  let entry ←
    if is64Bit then readLittleEndian 8 image 24 "entry point"
    else readLittleEndian 4 image 24 "entry point"
  let programHeaderOffset ←
    if is64Bit then readLittleEndian 8 image 32 "program-header offset"
    else readLittleEndian 4 image 28 "program-header offset"
  let declaredHeaderSize ← readLittleEndian 2 image (if is64Bit then 52 else 40) "header size"
  let declaredProgramHeaderSize ←
    readLittleEndian 2 image (if is64Bit then 54 else 42) "program-header entry size"
  let programHeaderCount ←
    readLittleEndian 2 image (if is64Bit then 56 else 44) "program-header count"
  reject (declaredHeaderSize < headerSize)
    (.error "ELF header size is smaller than its class requires")
  reject (programHeaderCount = 0xffff)
    (.error "extended ELF program-header counts are not supported")
  reject (programHeaderCount ≠ 0 ∧ declaredProgramHeaderSize < requiredProgramHeaderSize)
    (.error "ELF program-header entry is smaller than its class requires")
  let tableSize ←
    checkedMultiply programHeaderCount declaredProgramHeaderSize "program-header table size"
  requireRange programHeaderOffset tableSize image.size "program-header table"
  return {
    entry
    programHeaderOffset
    programHeaderSize := declaredProgramHeaderSize
    programHeaderCount
    is64Bit }

/-- `parse_header`. -/
def parseHeader (image : ImageBytes) : Except ElfFault ParsedHeader := do
  let is64Bit ← parseIdentification image
  parseHeaderFields image is64Bit

/-! ## The program headers -/

section Target

variable {W : Type} (space : AddressSpace) (bank : LoadBank W) (world : W)

/-- `validate_load_target`. -/
def validateLoadTarget (segment : ElfSegment) (programHeaderIndex : Nat) :
    Except ElfFault Unit :=
  match space.resolve segment.loadAddress segment.memorySize with
  | none =>
      .error (.error ("PT_LOAD[" ++ toString programHeaderIndex ++ "] range " ++
        hexadecimal segment.loadAddress ++ ".." ++
        hexadecimal (add64 segment.loadAddress segment.memorySize) ++
        " does not fit one mapped device"))
  | some mapping => do
      reject (bank.loadable mapping.device world = false)
        (.error ("PT_LOAD[" ++ toString programHeaderIndex ++ "] targets non-loadable device '" ++
          mapping.name ++ "'"))
      reject (bank.canLoad mapping.device world (sub64 segment.loadAddress mapping.base)
          segment.memorySize = false)
        (.error ("PT_LOAD[" ++ toString programHeaderIndex ++ "] exceeds device '" ++
          mapping.name ++ "'"))

/-- The fields of a loadable entry, read in the order of its class. -/
def readSegment (image : ImageBytes) (is64Bit : Bool) (offset index : Nat) :
    Except ElfFault ParsedSegment :=
  if is64Bit then do
    let flags ← readLittleEndian 4 image (add64 offset 4) "segment flags"
    let fileOffset ← readLittleEndian 8 image (add64 offset 8) "segment file offset"
    let virtualAddress ← readLittleEndian 8 image (add64 offset 16) "segment virtual address"
    let physicalAddress ← readLittleEndian 8 image (add64 offset 24) "segment physical address"
    let fileSize ← readLittleEndian 8 image (add64 offset 32) "segment file size"
    let memorySize ← readLittleEndian 8 image (add64 offset 40) "segment memory size"
    let alignment ← readLittleEndian 8 image (add64 offset 48) "segment alignment"
    return {
      publicSegment := { virtualAddress, physicalAddress, fileSize, memorySize, flags }
      fileOffset
      alignment
      programHeaderIndex := index }
  else do
    let fileOffset ← readLittleEndian 4 image (add64 offset 4) "segment file offset"
    let virtualAddress ← readLittleEndian 4 image (add64 offset 8) "segment virtual address"
    let physicalAddress ← readLittleEndian 4 image (add64 offset 12) "segment physical address"
    let fileSize ← readLittleEndian 4 image (add64 offset 16) "segment file size"
    let memorySize ← readLittleEndian 4 image (add64 offset 20) "segment memory size"
    let flags ← readLittleEndian 4 image (add64 offset 24) "segment flags"
    let alignment ← readLittleEndian 4 image (add64 offset 28) "segment alignment"
    return {
      publicSegment := { virtualAddress, physicalAddress, fileSize, memorySize, flags }
      fileOffset
      alignment
      programHeaderIndex := index }

/-- The checks of a loadable entry, up to the one of its target. -/
def checkSegment (image : ImageBytes) (parsed : ParsedSegment) (index : Nat) :
    Except ElfFault ParsedSegment := do
  let segment := parsed.publicSegment
  reject (segment.fileSize > segment.memorySize)
    (.error ("PT_LOAD[" ++ toString index ++ "] has p_filesz greater than p_memsz"))
  requireRange parsed.fileOffset segment.fileSize image.size "loadable segment data"
  reject (parsed.alignment > 1 ∧ parsed.alignment &&& (parsed.alignment - 1) ≠ 0)
    (.error ("PT_LOAD[" ++ toString index ++ "] alignment is not a power of two"))
  reject (parsed.alignment > 1 ∧
      segment.virtualAddress % parsed.alignment ≠ parsed.fileOffset % parsed.alignment)
    (.error ("PT_LOAD[" ++ toString index ++
      "] virtual address and file offset are incongruent"))
  let loadAddress :=
    if segment.physicalAddress ≠ 0 then segment.physicalAddress else segment.virtualAddress
  let _ ← checkedAdd loadAddress segment.memorySize "loadable segment address range"
  return { parsed with publicSegment := { segment with loadAddress } }

/-- `parse_program_header`. -/
def parseProgramHeader (image : ImageBytes) (header : ParsedHeader) (index : Nat) :
    Except ElfFault (Option ParsedSegment) := do
  let relative ← checkedMultiply index header.programHeaderSize "program-header offset"
  let offset ← checkedAdd header.programHeaderOffset relative "program-header offset"
  let type ← readLittleEndian 4 image offset "segment type"
  if type ≠ ptLoad then
    return none
  else
    let parsed ← readSegment image header.is64Bit offset index
    let parsed ← checkSegment image parsed index
    if parsed.publicSegment.memorySize = 0 then
      return none
    else
      validateLoadTarget space bank world parsed.publicSegment index
      return some parsed

/-- `parse_load_segments`. -/
def parseLoadSegments (image : ImageBytes) (header : ParsedHeader) :
    Except ElfFault (List ParsedSegment) :=
  (List.range header.programHeaderCount).foldlM
    (fun segments index => do
      let segment ← parseProgramHeader space bank world image header index
      return segments ++ segment.toList)
    []

end Target

/-- `address_order`, as the segments themselves instead of their indices. -/
def addressOrder (segments : List ParsedSegment) : List ParsedSegment :=
  segments.mergeSort fun left right =>
    decide (left.publicSegment.loadAddress ≤ right.publicSegment.loadAddress)

/-- `validate_no_overlap`: each segment is compared with the previous one in address
order. -/
def validateNoOverlap (segments : List ParsedSegment) : Except ElfFault Unit :=
  forM ((addressOrder segments).zip (addressOrder segments).tail) fun pair =>
    reject (add64 pair.1.publicSegment.loadAddress pair.1.publicSegment.memorySize >
        pair.2.publicSegment.loadAddress)
      (.error ("PT_LOAD[" ++ toString pair.2.programHeaderIndex ++
        "] overlaps another loadable segment"))

end AxiTestbench
