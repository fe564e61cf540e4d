import AxiTestbench.Lib.Arithmetic
import AxiTestbench.Lib.Outcome
import AxiTestbench.Lib.Check
import AxiTestbench.Lib.LittleEndian

/-!
# Reading an image

The helpers of `elf_loader.cpp` that check ranges and read little-endian numbers.
A read at an index that the image does not have, and the use of a mapping that was
not found, are exceptions of their own, which the C++ code does not have; that they are
never thrown is what "no undefined access" means.
-/

namespace AxiTestbench

open Lib Outcome

/-- What the loader throws. -/
inductive ElfFault where
  | error (what : String)
  | outOfBounds
  | nullMapping
  deriving DecidableEq, Repr

/-- The accesses that are undefined in C++. -/
def ElfFault.Wild (fault : ElfFault) : Prop := fault = .outOfBounds ∨ fault = .nullMapping

theorem ElfFault.not_wild (what : String) : ¬(ElfFault.error what).Wild := nofun

/-- A span of bytes; its size is a `std::size_t`. -/
structure ImageBytes where
  bytes : List UInt8
  sized : bytes.length < 2 ^ 64

namespace ImageBytes

def size (image : ImageBytes) : Nat := image.bytes.length

/-- `image[index]`. -/
def get (image : ImageBytes) (index : Nat) : Except ElfFault UInt8 :=
  match image.bytes[index]? with
  | some byte => .ok byte
  | none => .error .outOfBounds

/-- The `width` bytes at `offset`. -/
def slice (image : ImageBytes) (offset width : Nat) : List UInt8 :=
  (image.bytes.drop offset).take width

/-- The bytes of a part are themselves a span. -/
def part (image : ImageBytes) (offset count : Nat) : ImageBytes where
  bytes := image.slice offset count
  sized := by
    have sized := image.sized
    simp only [slice, List.length_take, List.length_drop]
    omega

/-- `image.subspan(offset, count)`. -/
def subspan (image : ImageBytes) (offset count : Nat) : Except ElfFault ImageBytes :=
  if offset + count ≤ image.size then .ok (image.part offset count) else .error .outOfBounds

/-- The little-endian number at `offset`. -/
def number (image : ImageBytes) (offset width : Nat) : Nat := leValue (image.slice offset width)

/-- The byte at an index, zero beyond the end. -/
def byte (image : ImageBytes) (index : Nat) : UInt8 := image.bytes[index]?.getD 0

theorem get_eq {image : ImageBytes} {index : Nat} (inside : index < image.size) :
    image.get index = .ok (image.byte index) := by
  simp only [size] at inside
  simp [get, byte, List.getElem?_eq_getElem inside]

theorem subspan_eq {image : ImageBytes} {offset count : Nat}
    (inside : offset + count ≤ image.size) :
    image.subspan offset count = .ok (image.part offset count) :=
  if_pos inside

theorem subspan_whole (image : ImageBytes) : image.subspan 0 image.size = .ok image := by
  have whole : image.part 0 image.size = image := by
    simp [part, slice, size]
  rw [subspan_eq (by omega), whole]

theorem length_slice {image : ImageBytes} {offset width : Nat}
    (inside : offset + width ≤ image.size) : (image.slice offset width).length = width := by
  simp only [size] at inside
  simp only [slice, List.length_take, List.length_drop]
  omega

theorem slice_succ {image : ImageBytes} {offset width : Nat}
    (inside : offset + width < image.size) :
    image.slice offset (width + 1) = image.slice offset width ++ [image.byte (offset + width)] := by
  simp only [size] at inside
  rw [slice, slice, List.take_add_one, List.getElem?_drop, byte,
    List.getElem?_eq_getElem inside]
  rfl

theorem number_lt (image : ImageBytes) (offset width : Nat) :
    image.number offset width < 256 ^ width := by
  have short : (image.slice offset width).length ≤ width := List.length_take_le _ _
  calc
    image.number offset width < 256 ^ (image.slice offset width).length := leValue_lt _
    _ ≤ 256 ^ width := Nat.pow_le_pow_right (by decide) short

end ImageBytes

/-- `hexadecimal`. -/
def hexadecimal (value : Nat) : String := "0x" ++ String.ofList (Nat.toDigits 16 value)

def requireRange (offset length capacity : Nat) (description : String) : Except ElfFault Unit :=
  reject (offset > capacity ∨ length > capacity - offset)
    (.error ("ELF " ++ description ++ " is out of bounds"))

/-- `read_little_endian<Integer>` for an integer of `width` bytes. -/
def readLittleEndian (width : Nat) (image : ImageBytes) (offset : Nat) (description : String) :
    Except ElfFault Nat := do
  requireRange offset width image.size description
  let value ← (List.range width).foldlM
    (fun value byte => do
      let next ← image.get (offset + byte)
      return value ||| next.toNat <<< (byte * 8))
    0
  return value % 256 ^ width

def checkedMultiply (lhs rhs : Nat) (description : String) : Except ElfFault Nat := do
  reject (lhs ≠ 0 ∧ rhs > (2 ^ 64 - 1) / lhs) (.error ("ELF " ++ description ++ " overflows"))
  return lhs * rhs % 2 ^ 64

def checkedAdd (lhs rhs : Nat) (description : String) : Except ElfFault Nat := do
  reject (rhs > 2 ^ 64 - 1 - lhs) (.error ("ELF " ++ description ++ " overflows"))
  return add64 lhs rhs

/-! ## What the helpers do -/

theorem requireRange_bind_eq_ok_iff {offset length capacity : Nat} {description : String}
    {β : Type} {next : Unit → Except ElfFault β} {result : β} :
    (requireRange offset length capacity description >>= next) = .ok result ↔
      offset + length ≤ capacity ∧ next ⟨⟩ = .ok result := by
  rw [requireRange, reject_bind_eq_ok_iff]
  refine and_congr_left fun _ => ?_
  omega

/-- Inside the image the loop computes the number there. -/
theorem readLittleEndian_eq {width offset : Nat} {image : ImageBytes} (description : String)
    (inside : offset + width ≤ image.size) :
    readLittleEndian width image offset description = .ok (image.number offset width) := by
  have loop : ∀ count ≤ width, (List.range count).foldlM
      (fun value byte => do
        let next ← image.get (offset + byte)
        return value ||| next.toNat <<< (byte * 8)) 0 =
      (.ok (image.number offset count) : Except ElfFault Nat) := by
    intro count
    induction count with
    | zero =>
        intro _
        simp [ImageBytes.number, ImageBytes.slice, pure, Except.pure]
    | succ count ih =>
        intro countLe
        have appended := or_shiftLeft_eq_leValue (image.slice offset count)
          (image.byte (offset + count))
        rw [ImageBytes.length_slice (by omega), ← ImageBytes.slice_succ (by omega)] at appended
        rw [List.range_succ, List.foldlM_append, ih (by omega), ok_bind, List.foldlM_cons,
          ImageBytes.get_eq (by omega), ok_bind]
        exact congrArg Except.ok appended
  rw [readLittleEndian, requireRange, reject, if_neg (by omega), ok_bind, loop width le_rfl,
    ok_bind, Nat.mod_eq_of_lt (ImageBytes.number_lt _ _ _)]
  rfl

/-- A read that returns was inside the image. -/
theorem readLittleEndian_bind_eq_ok_iff {width offset : Nat} {image : ImageBytes}
    {description : String} {β : Type} {next : Nat → Except ElfFault β} {result : β} :
    (readLittleEndian width image offset description >>= next) = .ok result ↔
      offset + width ≤ image.size ∧ next (image.number offset width) = .ok result := by
  by_cases inside : offset + width ≤ image.size
  · rw [readLittleEndian_eq description inside, ok_bind]
    exact (and_iff_right inside).symm
  · rw [readLittleEndian, bind_assoc, requireRange_bind_eq_ok_iff]
    simp [inside]

theorem checkedMultiply_bind_eq_ok_iff {lhs rhs : Nat} {description : String} {β : Type}
    {next : Nat → Except ElfFault β} {result : β} :
    (checkedMultiply lhs rhs description >>= next) = .ok result ↔
      lhs * rhs < 2 ^ 64 ∧ next (lhs * rhs) = .ok result := by
  have fits : ¬(lhs ≠ 0 ∧ rhs > (2 ^ 64 - 1) / lhs) ↔ lhs * rhs < 2 ^ 64 := by
    by_cases zero : lhs = 0
    · simp [zero]
    · simp only [zero, ne_eq, not_false_eq_true, true_and, gt_iff_lt, not_lt]
      rw [Nat.le_div_iff_mul_le (Nat.pos_of_ne_zero zero), Nat.mul_comm]
      omega
  rw [checkedMultiply, bind_assoc, reject_bind_eq_ok_iff, fits]
  refine and_congr_right fun small => ?_
  rw [Nat.mod_eq_of_lt small]
  rfl

theorem checkedAdd_bind_eq_ok_iff {lhs rhs : Nat} (word : lhs < 2 ^ 64 ∨ 0 < rhs)
    {description : String} {β : Type} {next : Nat → Except ElfFault β} {result : β} :
    (checkedAdd lhs rhs description >>= next) = .ok result ↔
      lhs + rhs < 2 ^ 64 ∧ next (lhs + rhs) = .ok result := by
  have fits : ¬rhs > 2 ^ 64 - 1 - lhs ↔ lhs + rhs < 2 ^ 64 := by omega
  rw [checkedAdd, bind_assoc, reject_bind_eq_ok_iff, fits]
  refine and_congr_right fun small => ?_
  rw [add64_eq small]
  rfl

/-! ## No read out of bounds -/

theorem requireRange_avoids (offset length capacity : Nat) (description : String) :
    Avoids ElfFault.Wild (requireRange offset length capacity description) :=
  .reject (ElfFault.not_wild _)

theorem readLittleEndian_avoids (width : Nat) (image : ImageBytes) (offset : Nat)
    (description : String) :
    Avoids ElfFault.Wild (readLittleEndian width image offset description) := by
  by_cases inside : offset + width ≤ image.size
  · rw [readLittleEndian_eq description inside]
    exact .ok _
  · have outside : requireRange offset width image.size description =
        .error (.error ("ELF " ++ description ++ " is out of bounds")) := by
      rw [requireRange, reject, if_pos (by omega)]
    rw [readLittleEndian, outside]
    exact .error (ElfFault.not_wild _)

theorem checkedMultiply_avoids (lhs rhs : Nat) (description : String) :
    Avoids ElfFault.Wild (checkedMultiply lhs rhs description) :=
  (Avoids.reject (ElfFault.not_wild _)).bind fun _ _ => .ok _

theorem checkedAdd_avoids (lhs rhs : Nat) (description : String) :
    Avoids ElfFault.Wild (checkedAdd lhs rhs description) :=
  (Avoids.reject (ElfFault.not_wild _)).bind fun _ _ => .ok _

end AxiTestbench
