import AxiTestbench.Device

/-!
# The RAM device

`RamDevice` of `devices.cpp`.  Reads and writes take a fast `memcpy` path when
every lane is enabled and a lane-by-lane path otherwise; both are summarized by
one equation for the byte at each offset.
-/

namespace AxiTestbench

open Lib

/-- The byte at an index, zero outside the list. -/
def byteAt (bytes : List UInt8) (index : Nat) : UInt8 := bytes[index]?.getD 0

/-- `in_bounds` and `range_in_bounds`. -/
def inBounds (offset length capacity : Nat) : Bool :=
  decide (offset ≤ capacity) && decide (length ≤ capacity - offset)

theorem inBounds_iff {offset length capacity : Nat} :
    inBounds offset length capacity = true ↔ offset + length ≤ capacity := by
  simp only [inBounds, Bool.and_eq_true, decide_eq_true_eq]
  omega

def allLanesEnabled (lanes : List UInt8) : Bool := lanes.all fun lane => lane != 0

structure RamDevice where
  bytes : List UInt8

namespace RamDevice

def size (ram : RamDevice) : Nat := ram.bytes.length

/-- `memcpy` of `data` to offset `start`. -/
def copyIn (bytes : List UInt8) (start : Nat) (data : List UInt8) : List UInt8 :=
  bytes.take start ++ data ++ bytes.drop (start + data.length)

/-- One iteration of the lane loop of `write_impl`. -/
def storeLane (start : Nat) (data strobe bytes : List UInt8) (lane : Nat) : List UInt8 :=
  if byteAt strobe lane ≠ 0 then bytes.set (start + lane) (byteAt data lane) else bytes

def storeLanes (bytes : List UInt8) (start : Nat) (data strobe : List UInt8) : List UInt8 :=
  (List.range data.length).foldl (storeLane start data strobe) bytes

def writeImpl (ram : RamDevice) (offset : Nat) (data strobe : List UInt8) :
    RamDevice × Response :=
  if inBounds offset data.length ram.size then
    if allLanesEnabled strobe then
      ({ bytes := copyIn ram.bytes offset data }, .okay)
    else
      ({ bytes := storeLanes ram.bytes offset data strobe }, .okay)
  else
    (ram, .slaveError)

/-- The data span is zero before the call. -/
def readImpl (ram : RamDevice) (offset : Nat) (enable : List UInt8) :
    Response × List UInt8 :=
  if inBounds offset enable.length ram.size then
    if allLanesEnabled enable then
      (.okay, (ram.bytes.drop offset).take enable.length)
    else
      (.okay, (List.range enable.length).map fun lane =>
        if byteAt enable lane ≠ 0 then byteAt ram.bytes (offset + lane) else 0)
  else
    (.slaveError, List.replicate enable.length 0)

/-! ## Byte-level effect -/

private theorem length_foldl_storeLane (start : Nat) (data strobe : List UInt8)
    (lanes : List Nat) (bytes : List UInt8) :
    (lanes.foldl (storeLane start data strobe) bytes).length = bytes.length := by
  induction lanes generalizing bytes with
  | nil => rfl
  | cons lane lanes ih =>
      rw [List.foldl_cons, ih, storeLane]
      split <;> simp

private theorem byteAt_set (bytes : List UInt8) (target index : Nat) (value : UInt8)
    (inRange : target < bytes.length) :
    byteAt (bytes.set target value) index =
      if index = target then value else byteAt bytes index := by
  by_cases equal : index = target
  · subst equal
    simp [byteAt, inRange]
  · simp [byteAt, equal, List.getElem?_set_ne (Ne.symm equal)]

private theorem byteAt_foldl_storeLane (bytes : List UInt8) (start : Nat)
    (data strobe : List UInt8) (count : Nat) (fits : start + count ≤ bytes.length) (index : Nat) :
    byteAt ((List.range count).foldl (storeLane start data strobe) bytes) index =
      if start ≤ index ∧ index < start + count ∧ byteAt strobe (index - start) ≠ 0 then
        byteAt data (index - start)
      else
        byteAt bytes index := by
  induction count with
  | zero => rw [if_neg (by omega)]; rfl
  | succ count ih =>
      rw [List.range_succ, List.foldl_append, List.foldl_cons, List.foldl_nil, storeLane]
      by_cases enabled : byteAt strobe count ≠ 0
      · rw [if_pos enabled, byteAt_set _ _ _ _ (by rw [length_foldl_storeLane]; omega),
          ih (by omega)]
        by_cases here : index = start + count
        · subst here
          rw [if_pos rfl, Nat.add_sub_cancel_left, if_pos ⟨by omega, by omega, enabled⟩]
        · rw [if_neg here]
          exact if_congr (by constructor <;> rintro ⟨lower, upper, nonzero⟩ <;>
            exact ⟨lower, by omega, nonzero⟩) rfl rfl
      · rw [if_neg enabled, ih (by omega)]
        refine if_congr ⟨?_, ?_⟩ rfl rfl
        · rintro ⟨lower, upper, nonzero⟩
          exact ⟨lower, by omega, nonzero⟩
        · rintro ⟨lower, upper, nonzero⟩
          refine ⟨lower, ?_, nonzero⟩
          by_contra beyond
          have lane : index - start = count := by omega
          exact enabled (lane ▸ nonzero)

theorem byteAt_copyIn (bytes : List UInt8) (start : Nat) (data : List UInt8)
    (fits : start + data.length ≤ bytes.length) (index : Nat) :
    byteAt (copyIn bytes start data) index =
      if start ≤ index ∧ index < start + data.length then byteAt data (index - start)
      else byteAt bytes index := by
  have takeLength : (bytes.take start).length = start := by
    rw [List.length_take]
    omega
  simp only [byteAt, copyIn]
  by_cases below : index < start
  · rw [List.append_assoc, List.getElem?_append_left (by omega), if_neg (by omega),
      List.getElem?_take_of_lt below]
  · by_cases inside : index < start + data.length
    · rw [List.append_assoc, List.getElem?_append_right (by omega), takeLength,
        List.getElem?_append_left (by omega), if_pos ⟨by omega, inside⟩]
    · rw [List.getElem?_append_right (by rw [List.length_append]; omega), List.getElem?_drop,
        List.length_append, takeLength, if_neg (by omega)]
      congr 2
      omega

private theorem byteAt_ne_zero_of_all {lanes : List UInt8} (all : allLanesEnabled lanes = true)
    {index : Nat} (inRange : index < lanes.length) : byteAt lanes index ≠ 0 := by
  simp only [allLanesEnabled, List.all_eq_true, bne_iff_ne] at all
  rw [byteAt, List.getElem?_eq_getElem inRange]
  exact all _ (List.getElem_mem inRange)

/-- A write inside the RAM succeeds, changes exactly the strobed bytes and keeps
the size. -/
theorem writeImpl_inside (ram : RamDevice) {offset : Nat} {data strobe : List UInt8}
    (sameLength : data.length = strobe.length) (fits : offset + data.length ≤ ram.size) :
    (ram.writeImpl offset data strobe).2 = .okay ∧
      (ram.writeImpl offset data strobe).1.size = ram.size ∧
      ∀ index, byteAt (ram.writeImpl offset data strobe).1.bytes index =
        if offset ≤ index ∧ index < offset + data.length ∧ byteAt strobe (index - offset) ≠ 0 then
          byteAt data (index - offset)
        else
          byteAt ram.bytes index := by
  simp only [writeImpl, inBounds_iff.mpr fits, if_true]
  simp only [size] at fits
  by_cases all : allLanesEnabled strobe = true
  · rw [if_pos all]
    refine ⟨rfl, ?_, ?_⟩
    · simp only [size, copyIn, List.length_append, List.length_take, List.length_drop]
      omega
    · intro index
      rw [byteAt_copyIn _ _ _ fits]
      refine if_congr ⟨?_, ?_⟩ rfl rfl
      · rintro ⟨lower, upper⟩
        exact ⟨lower, upper, byteAt_ne_zero_of_all all (by omega)⟩
      · rintro ⟨lower, upper, _⟩
        exact ⟨lower, upper⟩
  · rw [if_neg all]
    exact ⟨rfl, length_foldl_storeLane _ _ _ _ _, byteAt_foldl_storeLane _ _ _ _ _ fits⟩

/-- A write that would leave the RAM is refused without effect. -/
theorem writeImpl_outside (ram : RamDevice) {offset : Nat} {data : List UInt8}
    (strobe : List UInt8) (outside : ram.size < offset + data.length) :
    ram.writeImpl offset data strobe = (ram, .slaveError) := by
  have refused : inBounds offset data.length ram.size = false := by
    rw [← Bool.not_eq_true, inBounds_iff]
    omega
  simp [writeImpl, refused]

/-- A read inside the RAM returns the stored byte on every enabled lane. -/
theorem readImpl_inside (ram : RamDevice) {offset : Nat} {enable : List UInt8}
    (fits : offset + enable.length ≤ ram.size) :
    (ram.readImpl offset enable).1 = .okay ∧
      ∀ lane < enable.length, byteAt (ram.readImpl offset enable).2 lane =
        if byteAt enable lane ≠ 0 then byteAt ram.bytes (offset + lane) else 0 := by
  simp only [readImpl, inBounds_iff.mpr fits, if_true]
  by_cases all : allLanesEnabled enable = true
  · rw [if_pos all]
    refine ⟨rfl, fun lane inRange => ?_⟩
    rw [if_pos (byteAt_ne_zero_of_all all inRange), byteAt, List.getElem?_take_of_lt inRange,
      List.getElem?_drop, byteAt]
  · rw [if_neg all]
    refine ⟨rfl, fun lane inRange => ?_⟩
    rw [byteAt, List.getElem?_map, List.getElem?_range inRange]
    rfl

end RamDevice

/-! ## A world of RAM devices -/

/-- The RAM object behind each device identity. -/
abbrev RamWorld := DeviceId → RamDevice

/-- The virtual functions of `RamDevice`; reset keeps the contents. -/
def ramBank : DeviceBank RamWorld where
  readImpl device world offset enable :=
    let (response, data) := (world device).readImpl offset enable
    (world, response, data)
  writeImpl device world offset data strobe :=
    let (ram, response) := (world device).writeImpl offset data strobe
    (Function.update world device ram, response)
  supportsExclusive _ _ := true
  supportsBurst _ _ := true
  isExit _ _ := false
  exitCode _ _ := 0
  reset _ world := world

end AxiTestbench
