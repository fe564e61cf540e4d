import Mathlib.Logic.Function.Basic
import AxiTestbench.Lib.Arithmetic
import AxiTestbench.Axi

/-!
# Devices and the address space

The bus-facing contract of `Device` and the address map of `AddressSpace`
(`device.hpp`, `devices.cpp`), together with the RAM device.

Devices are C++ objects reached through pointers, and custom ones may share
state.  A `DeviceBank` therefore gives the virtual functions of all devices over
one state `W` of the device world; a device is named by its identity.
-/

namespace AxiTestbench

open Lib

/-- Identity of a device object, the model of `Device *`. -/
abbrev DeviceId := Nat

/-- The virtual functions of a family of devices with common state `W`.  Data
and lane spans are lists; a read returns the final contents of its data span. -/
structure DeviceBank (W : Type) where
  readImpl : DeviceId → W → (offset : Nat) → (enable : List UInt8) → W × Response × List UInt8
  writeImpl : DeviceId → W → (offset : Nat) → (data strobe : List UInt8) → W × Response
  supportsExclusive : DeviceId → W → Bool
  supportsBurst : DeviceId → W → Bool
  isExit : DeviceId → W → Bool
  exitCode : DeviceId → W → UInt32
  reset : DeviceId → W → W

namespace DeviceBank

variable {W : Type}

/-- `Device::read` on a data span of `length` bytes. -/
def read (bank : DeviceBank W) (device : DeviceId) (world : W) (offset length : Nat)
    (enable : List UInt8) : Except Fault (W × Response × List UInt8) :=
  if length ≠ enable.length then
    .error (.invalidArgument "device read data/enable size mismatch")
  else if length = 0 then
    .ok (world, .okay, [])
  else
    .ok (bank.readImpl device world offset enable)

/-- `Device::write`. -/
def write (bank : DeviceBank W) (device : DeviceId) (world : W) (offset : Nat)
    (data strobe : List UInt8) : Except Fault (W × Response) :=
  if data.length ≠ strobe.length then
    .error (.invalidArgument "device write data/strobe size mismatch")
  else if data.length = 0 then
    .ok (world, .okay)
  else
    .ok (bank.writeImpl device world offset data strobe)

theorem read_eq (bank : DeviceBank W) (device : DeviceId) (world : W) (offset : Nat)
    {enable : List UInt8} (nonempty : 0 < enable.length) :
    bank.read device world offset enable.length enable =
      .ok (bank.readImpl device world offset enable) := by
  simp [read, Nat.pos_iff_ne_zero.mp nonempty]

theorem write_eq (bank : DeviceBank W) (device : DeviceId) (world : W) (offset : Nat)
    {data strobe : List UInt8} (sameLength : data.length = strobe.length)
    (nonempty : 0 < data.length) :
    bank.write device world offset data strobe =
      .ok (bank.writeImpl device world offset data strobe) := by
  simp [write, sameLength, sameLength ▸ Nat.pos_iff_ne_zero.mp nonempty]

end DeviceBank

/-! ## Address map -/

/-- One window of the address space. -/
structure Mapping where
  base : Nat
  size : Nat
  device : DeviceId
  name : String := ""
  deriving DecidableEq

/-- The first address after a window, `Mapping::end`. -/
def Mapping.limit (mapping : Mapping) : Nat := mapping.base + mapping.size

/-- Windows are nonempty, end at or below `2 ^ 64 - 1`, and are listed by
increasing base without overlap. -/
structure Layout (mappings : List Mapping) : Prop where
  nonempty : ∀ mapping ∈ mappings, 0 < mapping.size
  bounded : ∀ mapping ∈ mappings, mapping.limit ≤ 2 ^ 64 - 1
  ordered : mappings.Pairwise fun left right => left.limit ≤ right.base

/-- The address map; it cannot hold an ill-formed layout. -/
structure AddressSpace where
  mappings : List Mapping
  frozen : Bool
  layout : Layout mappings

namespace AddressSpace

def fresh : AddressSpace where
  mappings := []
  frozen := false
  layout := ⟨by simp, by simp, .nil⟩

/-- Why `map` rejects a window. -/
inductive MapError where
  | frozen
  | empty
  | overflow
  | overlap
  deriving DecidableEq, Repr

def MapError.what : MapError → String
  | .frozen => "address space is frozen"
  | .empty => "address-space mapping must not be empty"
  | .overflow => "address-space mapping overflows uint64_t"
  | .overlap => "address-space mappings overlap"

private theorem insert_layout {before after : List Mapping} {new : Mapping}
    (layout : Layout (before ++ after)) (nonempty : 0 < new.size)
    (bounded : new.limit ≤ 2 ^ 64 - 1)
    (left : ∀ mapping ∈ before, mapping.limit ≤ new.base)
    (right : ∀ mapping ∈ after, new.limit ≤ mapping.base) :
    Layout (before ++ new :: after) where
  nonempty := by
    intro mapping member
    simp only [List.mem_append, List.mem_cons] at member
    rcases member with inBefore | rfl | inAfter
    · exact layout.nonempty mapping (by simp [inBefore])
    · exact nonempty
    · exact layout.nonempty mapping (by simp [inAfter])
  bounded := by
    intro mapping member
    simp only [List.mem_append, List.mem_cons] at member
    rcases member with inBefore | rfl | inAfter
    · exact layout.bounded mapping (by simp [inBefore])
    · exact bounded
    · exact layout.bounded mapping (by simp [inAfter])
  ordered := by
    obtain ⟨orderedBefore, orderedAfter, across⟩ := List.pairwise_append.mp layout.ordered
    refine List.pairwise_append.mpr ⟨orderedBefore, List.pairwise_cons.mpr ⟨right, orderedAfter⟩, ?_⟩
    intro mapping inBefore other inRest
    rcases List.mem_cons.mp inRest with rfl | inAfter
    · exact left mapping inBefore
    · exact across mapping inBefore other inAfter

/-- In an ordered list only the neighbours of an insertion point matter. -/
theorem neighbours {before after : List Mapping} {base finish : Nat}
    (ordered : (before ++ after).Pairwise fun left right => left.limit ≤ right.base)
    (previous : ∀ mapping, before.getLast? = some mapping → mapping.limit ≤ base)
    (next : ∀ mapping, after.head? = some mapping → finish ≤ mapping.base)
    (nonempty : ∀ mapping ∈ before ++ after, 0 < mapping.size) :
    (∀ mapping ∈ before, mapping.limit ≤ base) ∧ ∀ mapping ∈ after, finish ≤ mapping.base := by
  obtain ⟨orderedBefore, orderedAfter, _⟩ := List.pairwise_append.mp ordered
  constructor
  · intro mapping member
    rcases List.eq_nil_or_concat' before with rfl | ⟨front, last, rfl⟩
    · simp at member
    · have lastLe := previous last (by simp)
      rw [List.mem_append, List.mem_singleton] at member
      rcases member with inFront | rfl
      · have step := (List.pairwise_append.mp orderedBefore).2.2 mapping inFront last (by simp)
        have := nonempty last (by simp)
        simp only [Mapping.limit] at step lastLe ⊢
        omega
      · exact lastLe
  · intro mapping member
    cases after with
    | nil => simp at member
    | cons first rest =>
        have firstLe := next first rfl
        rcases List.mem_cons.mp member with rfl | inRest
        · exact firstLe
        · have step := (List.pairwise_cons.mp orderedAfter).1 mapping inRest
          simp only [Mapping.limit] at step
          omega

/-- Add a window.  `before` and `after` are the two sides of `lower_bound`. -/
def map (space : AddressSpace) (base size : UInt64) (device : DeviceId) (name : String := "") :
    Except MapError AddressSpace :=
  if space.frozen then
    .error .frozen
  else if empty : size.toNat = 0 then
    .error .empty
  else if overflow : size.toNat > 2 ^ 64 - 1 - base.toNat then
    .error .overflow
  else
    let before := space.mappings.takeWhile fun mapping => decide (mapping.base < base.toNat)
    let after := space.mappings.dropWhile fun mapping => decide (mapping.base < base.toNat)
    let new : Mapping := { base := base.toNat, size := size.toNat, device, name }
    if previous : ∀ mapping, before.getLast? = some mapping → mapping.limit ≤ base.toNat then
      if next : ∀ mapping, after.head? = some mapping → new.limit ≤ mapping.base then
        have whole : before ++ after = space.mappings := List.takeWhile_append_dropWhile
        have sides := neighbours (whole ▸ space.layout.ordered) previous next
          (whole ▸ space.layout.nonempty)
        .ok
          { space with
            mappings := before ++ new :: after
            layout := by
              have baseLt := base.toNat_lt
              refine insert_layout (whole ▸ space.layout) (Nat.pos_of_ne_zero empty) ?_
                sides.1 sides.2
              simp only [Mapping.limit, new]
              omega }
      else
        .error .overlap
    else
      .error .overlap

def freeze (space : AddressSpace) : AddressSpace := { space with frozen := true }

/-- The window that wholly contains `[address, address + length)`.  The
candidate is the last window based at or below `address`. -/
def resolve (space : AddressSpace) (address length : Nat) : Option Mapping :=
  if length = 0 ∨ space.mappings = [] then
    none
  else
    match (space.mappings.takeWhile fun mapping => decide (mapping.base ≤ address)).getLast? with
    | none => none
    | some mapping =>
        if address < mapping.base ∨ address ≥ mapping.limit then
          none
        else if length > mapping.limit - address then
          none
        else
          some mapping

/-- Reset every mapped device once, at its first window. -/
def reset {W : Type} (space : AddressSpace) (bank : DeviceBank W) (world : W) : W :=
  (space.mappings.foldl
    (fun (seen, world) mapping =>
      if mapping.device ∈ seen then (seen, world)
      else (mapping.device :: seen, bank.reset mapping.device world))
    (([] : List DeviceId), world)).2

/-! ### Lookup -/

private theorem getLast?_takeWhile {mappings : List Mapping} {mapping : Mapping} {address : Nat}
    (ordered : mappings.Pairwise fun left right => left.limit ≤ right.base)
    (member : mapping ∈ mappings) (atOrAbove : mapping.base ≤ address)
    (below : address < mapping.limit) :
    (mappings.takeWhile fun candidate => decide (candidate.base ≤ address)).getLast? =
      some mapping := by
  induction mappings with
  | nil => simp at member
  | cons first rest ih =>
      obtain ⟨firstLe, orderedRest⟩ := List.pairwise_cons.mp ordered
      rcases List.mem_cons.mp member with rfl | inRest
      · have stop : rest.takeWhile (fun candidate => decide (candidate.base ≤ address)) = [] := by
          cases rest with
          | nil => rfl
          | cons second rest =>
              have := firstLe second (by simp)
              simp only [List.takeWhile_cons, decide_eq_true_eq]
              rw [if_neg (by omega)]
        simp [atOrAbove, stop]
      · have := firstLe mapping inRest
        simp only [Mapping.limit] at this
        have keep : first.base ≤ address := by omega
        simp [keep, List.getLast?_cons, ih orderedRest inRest]

/-- Lookup finds exactly the window that contains the whole range. -/
theorem resolve_eq_some_iff (space : AddressSpace) {address length : Nat} {mapping : Mapping} :
    space.resolve address length = some mapping ↔
      mapping ∈ space.mappings ∧ 0 < length ∧ mapping.base ≤ address ∧
        address + length ≤ mapping.limit := by
  constructor
  · intro found
    simp only [resolve] at found
    split at found
    · simp at found
    next usable =>
      split at found
      · simp at found
      next candidate last =>
        split at found
        · simp at found
        next inside =>
          split at found
          · simp at found
          next fits =>
            cases found
            have member := List.mem_of_getLast? last
            exact ⟨(List.takeWhile_prefix _).subset member, by omega, by omega, by omega⟩
  · rintro ⟨member, positive, atOrAbove, fits⟩
    have nonempty : space.mappings ≠ [] := List.ne_nil_of_mem member
    have candidate := getLast?_takeWhile space.layout.ordered member atOrAbove
      (by omega)
    simp only [resolve, candidate, nonempty, or_false]
    rw [if_neg (by omega), if_neg (by omega), if_neg (by omega)]

/-- A byte belongs to at most one window. -/
theorem resolve_byte (space : AddressSpace) {address : Nat} {mapping : Mapping}
    (member : mapping ∈ space.mappings) (atOrAbove : mapping.base ≤ address)
    (below : address < mapping.limit) : space.resolve address 1 = some mapping :=
  (space.resolve_eq_some_iff).mpr ⟨member, by decide, atOrAbove, below⟩

end AddressSpace

end AxiTestbench
