import AxiTestbench.Lib.LittleEndian
import AxiTestbench.Ram
import Mathlib.Data.List.TakeWhile

/-!
# Lanes of the interrupt controllers

`access`, `get` and `put` of `interrupt_devices.cpp`.  The bus passes whole beats: the
registers of the controllers are reached through one run of active lanes, which `access_cases`
finds and `access_alone` presents by itself.
-/

namespace AxiTestbench

open Lib

/-- The active lanes of a beat: the address of the first one, its lane and their number. -/
structure Access where
  address : Nat
  lane : Nat
  size : Nat
  deriving DecidableEq

/-- One past the last active lane. -/
def activeEnd (lanes : List UInt8) : Nat :=
  lanes.length - (lanes.reverse.takeWhile fun lane => lane == 0).length

def access (offset : Nat) (lanes : List UInt8) : Option Access :=
  match lanes.findIdx? (fun lane => lane != 0) with
  | none => some ⟨offset, 0, 0⟩
  | some start =>
      let stop := activeEnd lanes
      let size := stop - start
      if (size ≠ 4 ∧ size ≠ 8) ∨ offset > 2 ^ 64 - 1 - start ∨ (offset + start) % size ≠ 0 then
        none
      else if ((lanes.drop start).take size).all (fun lane => lane != 0) = false then
        none
      else
        some ⟨offset + start, start, size⟩

namespace Access

def get (access : Access) (data : List UInt8) : Nat :=
  (List.range access.size).foldl
    (fun value index => value ||| (byteAt data (access.lane + index)).toNat <<< (index * 8)) 0

/-- The data span is zero before the call and as long as its lanes. -/
def put (access : Access) (length value : Nat) : List UInt8 :=
  (List.range length).map fun lane =>
    if access.lane ≤ lane ∧ lane < access.lane + access.size then
      UInt8.ofNat (value >>> ((lane - access.lane) * 8) &&& 0xff)
    else 0

/-- The bytes of the active lanes. -/
theorem get_eq (access : Access) (data : List UInt8) :
    access.get data =
      leValue ((List.range access.size).map fun index => byteAt data (access.lane + index)) := by
  rw [get]
  induction access.size with
  | zero => rfl
  | succ size ih =>
      have length : ((List.range size).map fun index =>
          byteAt data (access.lane + index)).length = size := by simp
      rw [List.range_succ, List.foldl_append, List.foldl_cons, List.foldl_nil, ih,
        List.map_append, List.map_singleton, ← or_shiftLeft_eq_leValue, length]

/-- A value that is put on the active lanes is found there. -/
theorem get_put (access : Access) {length : Nat} (value : Nat)
    (inside : access.lane + access.size ≤ length) :
    access.get (access.put length value) = value % 256 ^ access.size := by
  rw [get_eq, ← leValue_leBytes, leBytes]
  congr 1
  refine List.map_congr_left fun index member => ?_
  have below := List.mem_range.mp member
  have lane : access.lane + index < length := by omega
  rw [byteAt, put, List.getElem?_map, List.getElem?_range lane, Option.map_some, Option.getD_some,
    if_pos (by omega), Nat.add_sub_cancel_left, Nat.shiftRight_eq_div_pow]
  have power : 2 ^ (index * 8) = 256 ^ index := by
    rw [Nat.mul_comm, Nat.pow_mul]
  rw [power, ← UInt8.toNat_inj, UInt8.toNat_ofNat', UInt8.toNat_ofNat',
    show (0xff : Nat) = 2 ^ 8 - 1 from rfl, Nat.and_two_pow_sub_one_eq_mod, Nat.mod_mod]

end Access

/-- The `size` lanes from `start` on are the active ones. -/
structure ActiveRun (lanes : List UInt8) (start size : Nat) : Prop where
  inside : start + size ≤ lanes.length
  active : ∀ lane, byteAt lanes lane ≠ 0 ↔ start ≤ lane ∧ lane < start + size

/-- A run of lanes that is presented by itself. -/
structure Alone (enable : List UInt8) (size : Nat) : Prop where
  length : enable.length = size
  nonzero : ∀ lane ∈ enable, lane ≠ 0

/-! ## The scan for the active lanes -/

/-- There are no active lanes from `activeEnd` on. -/
theorem byteAt_of_activeEnd_le {lanes : List UInt8} {lane : Nat} (after : activeEnd lanes ≤ lane) :
    byteAt lanes lane = 0 := by
  have split : (lanes.reverse.dropWhile fun lane => lane == 0).reverse ++
      (lanes.reverse.takeWhile fun lane => lane == 0).reverse = lanes := by
    rw [← List.reverse_append, List.takeWhile_append_dropWhile, List.reverse_reverse]
  have length : (lanes.reverse.dropWhile fun lane => lane == 0).reverse.length =
      activeEnd lanes := by
    have total := congrArg List.length split
    rw [List.length_append, List.length_reverse, List.length_reverse] at total
    rw [List.length_reverse, activeEnd]
    omega
  rw [byteAt, ← split, List.getElem?_append_right (by omega)]
  cases found : (lanes.reverse.takeWhile fun lane => lane == 0).reverse[lane -
      (lanes.reverse.dropWhile fun lane => lane == 0).reverse.length]? with
  | none => rfl
  | some value =>
      have member := List.mem_reverse.mp (List.mem_of_getElem? found)
      have zero := List.mem_takeWhile_imp member
      simpa using zero

theorem activeEnd_le (lanes : List UInt8) : activeEnd lanes ≤ lanes.length := Nat.sub_le _ _

theorem byteAt_of_findIdx {lanes : List UInt8} {start : Nat}
    (search : lanes.findIdx? (fun lane => lane != 0) = some start) {lane : Nat}
    (before : lane < start) : byteAt lanes lane = 0 := by
  obtain ⟨inside, -, earlier⟩ := List.findIdx?_eq_some_iff_getElem.mp search
  have zero := earlier lane before
  rw [byteAt, List.getElem?_eq_getElem (by omega), Option.getD_some]
  simpa using zero

theorem byteAt_of_all {lanes : List UInt8} {start size lane : Nat}
    (all : ((lanes.drop start).take size).all (fun lane => lane != 0) = true)
    (inside : start + size ≤ lanes.length) (low : start ≤ lane) (high : lane < start + size) :
    byteAt lanes lane ≠ 0 := by
  have inLanes : lane < lanes.length := by omega
  have member : lanes[lane] ∈ (lanes.drop start).take size := by
    rw [List.mem_iff_getElem?]
    refine ⟨lane - start, ?_⟩
    rw [List.getElem?_take_of_lt (by omega), List.getElem?_drop, Nat.add_sub_cancel' low,
      List.getElem?_eq_getElem]
  have nonzero := List.all_eq_true.mp all _ member
  rw [byteAt, List.getElem?_eq_getElem (by omega), Option.getD_some]
  simpa using nonzero

/-- The cases of an accepted access. -/
theorem access_cases {offset : Nat} {lanes : List UInt8} {found : Access}
    (accepted : access offset lanes = some found) :
    (found.size = 0 ∧ ∀ lane, byteAt lanes lane = 0) ∨
      ∃ start size, found = ⟨offset + start, start, size⟩ ∧ ActiveRun lanes start size ∧
        (size = 4 ∨ size = 8) ∧ (offset + start) % size = 0 := by
  rw [access] at accepted
  split at accepted
  next none =>
    cases accepted
    refine .inl ⟨rfl, fun lane => ?_⟩
    rw [byteAt]
    cases found : lanes[lane]? with
    | none => rfl
    | some value =>
        have zero := List.findIdx?_eq_none_iff.mp none value (List.mem_of_getElem? found)
        simpa using zero
  next start search =>
    simp only at accepted
    split at accepted
    next => cases accepted
    next shape =>
      split at accepted
      next => cases accepted
      next all =>
        cases accepted
        have stop := activeEnd_le lanes
        refine .inr ⟨start, activeEnd lanes - start, rfl,
          ⟨by omega, fun lane => ⟨fun nonzero => ?_, fun within => ?_⟩⟩, by omega, by omega⟩
        · constructor
          · exact Nat.le_of_not_lt fun before => nonzero (byteAt_of_findIdx search before)
          · refine Nat.lt_of_not_le fun after => nonzero (byteAt_of_activeEnd_le ?_)
            omega
        · exact byteAt_of_all (Bool.eq_true_of_not_eq_false all) (by omega) within.1 within.2

theorem access_alone {address size : Nat} {enable : List UInt8} (alone : Alone enable size)
    (word : size = 4 ∨ size = 8) (aligned : address % size = 0) (mapped : address < 2 ^ 64) :
    access address enable = some ⟨address, 0, size⟩ := by
  obtain ⟨rfl, nonzero⟩ := alone
  have first : enable.findIdx? (fun lane => lane != 0) = some 0 := by
    rw [List.findIdx?_eq_some_iff_getElem]
    refine ⟨by omega, ?_, fun lane before => absurd before (Nat.not_lt_zero _)⟩
    simpa using nonzero _ (List.getElem_mem _)
  have last : activeEnd enable = enable.length := by
    refine Nat.le_antisymm (activeEnd_le enable) (Nat.le_of_not_lt fun short => ?_)
    have inside : enable.length - 1 < enable.length := by omega
    have zero := byteAt_of_activeEnd_le (show activeEnd enable ≤ enable.length - 1 by omega)
    rw [byteAt, List.getElem?_eq_getElem inside, Option.getD_some] at zero
    exact nonzero _ (List.getElem_mem inside) zero
  have all : ((enable.drop 0).take enable.length).all (fun lane => lane != 0) = true := by
    rw [List.drop_zero, List.take_length, List.all_eq_true]
    intro lane member
    simpa using nonzero lane member
  simp only [access, first, last, Nat.sub_zero, Nat.add_zero, all]
  rw [if_neg (by omega), if_neg (by decide)]

end AxiTestbench
