import AxiTestbench.Interrupt.Clint
import AxiTestbench.Interrupt.Plic

/-!
# Beats and their active lanes

An access of the interrupt controllers is decided by its active lanes alone.  It does what the
same run of lanes does when it is presented by itself, and a refused access does nothing.
-/

namespace AxiTestbench

/-- The bytes of a run of lanes. -/
def slice (start size : Nat) (bytes : List UInt8) : List UInt8 := (bytes.drop start).take size

theorem byteAt_slice (start size index : Nat) (bytes : List UInt8) (below : index < size) :
    byteAt (slice start size bytes) index = byteAt bytes (start + index) := by
  rw [byteAt, byteAt, slice, List.getElem?_take_of_lt below, List.getElem?_drop]

/-- The value that a run of lanes carries does not depend on where it lies. -/
theorem get_slice (address start size : Nat) (data : List UInt8) :
    (⟨address, 0, size⟩ : Access).get (slice start size data) =
      (⟨address, start, size⟩ : Access).get data := by
  rw [Access.get_eq, Access.get_eq]
  refine congrArg Lib.leValue (List.map_congr_left fun index member => ?_)
  simp only [Nat.zero_add]
  exact byteAt_slice start size index data (List.mem_range.mp member)

theorem slice_put (address value : Nat) {start size length : Nat} (inside : start + size ≤ length) :
    slice start size ((⟨address, start, size⟩ : Access).put length value) =
      (⟨address, 0, size⟩ : Access).put size value := by
  refine List.ext_getElem ?_ fun index below _ => ?_
  · simp only [slice, Access.put, List.length_take, List.length_drop, List.length_map,
      List.length_range]
    omega
  · simp only [slice, Access.put, List.length_take, List.length_drop, List.length_map,
      List.length_range] at below
    simp only [slice, Access.put, List.getElem_take, List.getElem_drop, List.getElem_map,
      List.getElem_range, Nat.zero_le, Nat.zero_add, true_and, Nat.sub_zero,
      Nat.add_sub_cancel_left, Nat.le_add_right, Nat.add_lt_add_iff_left]

/-! ## The devices -/

namespace Clint

/-- The registers of the CLINT and the sizes of their accesses. -/
def Mapped (address size : Nat) : Prop := address = 0 ∧ size = 4 ∨ timerRegister address size

instance (address size : Nat) : Decidable (Mapped address size) :=
  inferInstanceAs (Decidable (_ ∨ _))

/-- The value of a register, as a read puts it on the lanes. -/
def registerValue (device : Clint) (address size : Nat) : Nat :=
  if address = 0 ∧ size = 4 then device.software.toNat
  else ((if address < 0x8000 then device.compare else device.time) >>> shift address).toNat

/-- The device after a write of a register. -/
def store (device : Clint) (address size : Nat) (value : UInt64) : Clint :=
  if address = 0 ∧ size = 4 then { device with software := value &&& 1 }.settle
  else if address < 0x8000 then
    { device with compare := merge device.compare value address size }.settle
  else { device with time := merge device.time value address size }.settle

theorem readImpl_of_active (device : Clint) {offset : Nat} {lanes : List UInt8} {found : Access}
    (accepted : access offset lanes = some found) (active : found.size ≠ 0) :
    device.readImpl offset lanes =
      if Mapped found.address found.size then
        (.okay, found.put lanes.length (device.registerValue found.address found.size))
      else (.slaveError, List.replicate lanes.length 0) := by
  simp only [readImpl, accepted, active, if_false, Mapped, registerValue]
  by_cases software : found.address = 0 ∧ found.size = 4
  · simp only [software, and_self, if_true, true_or]
  · simp only [software, if_false, false_or]

theorem writeImpl_of_active (device : Clint) {offset : Nat} {lanes : List UInt8} {found : Access}
    (accepted : access offset lanes = some found) (active : found.size ≠ 0) (data : List UInt8) :
    device.writeImpl offset data lanes =
      if Mapped found.address found.size then
        (device.store found.address found.size (UInt64.ofNat (found.get data)), .okay)
      else (device, .slaveError) := by
  simp only [writeImpl, accepted, active, if_false, Mapped, store]
  by_cases software : found.address = 0 ∧ found.size = 4
  · simp only [software, and_self, if_true, true_or]
  · simp only [software, if_false, false_or]
    split
    · split <;> rfl
    · rfl

theorem Mapped.bounds {address size : Nat} (mapped : Mapped address size)
    (word : size = 4 ∨ size = 8) :
    address < 2 ^ 64 ∧ (size = 4 ∨ size = 8 ∧ (address = 0x4000 ∨ address = 0xbff8)) := by
  simp only [Mapped, timerRegister] at mapped
  omega

theorem readImpl_accepted (device : Clint) {offset : Nat} {lanes : List UInt8}
    (okay : (device.readImpl offset lanes).1 = .okay) :
    (∀ lane, byteAt lanes lane = 0) ∨ ∃ start size, ActiveRun lanes start size ∧
      (size = 4 ∨ size = 8 ∧ (offset + start = 0x4000 ∨ offset + start = 0xbff8)) ∧
      (offset + start) % size = 0 ∧ ∀ enable, Alone enable size →
        device.readImpl (offset + start) enable =
          (.okay, slice start size (device.readImpl offset lanes).2) := by
  cases accepted : access offset lanes with
  | none => simp [readImpl, accepted] at okay
  | some found =>
      obtain ⟨-, silent⟩ | ⟨start, size, rfl, run, word, aligned⟩ := access_cases accepted
      · exact .inl silent
      · have active : size ≠ 0 := by omega
        have read := device.readImpl_of_active accepted active
        by_cases mapped : Mapped (offset + start) size
        · obtain ⟨bounded, sizes⟩ := mapped.bounds word
          refine .inr ⟨start, size, run, sizes, aligned, fun enable alone => ?_⟩
          rw [device.readImpl_of_active (access_alone alone word aligned bounded) active, read,
            if_pos mapped, if_pos mapped, slice_put _ _ run.inside, alone.length]
        · rw [read, if_neg mapped] at okay
          contradiction

theorem writeImpl_accepted (device : Clint) {offset : Nat} {data lanes : List UInt8}
    (okay : (device.writeImpl offset data lanes).2 = .okay) :
    (∀ lane, byteAt lanes lane = 0) ∧ (device.writeImpl offset data lanes).1 = device ∨
      ∃ start size, ActiveRun lanes start size ∧
      (size = 4 ∨ size = 8 ∧ (offset + start = 0x4000 ∨ offset + start = 0xbff8)) ∧
      (offset + start) % size = 0 ∧ ∀ enable, Alone enable size →
        device.writeImpl (offset + start) (slice start size data) enable =
          device.writeImpl offset data lanes := by
  cases accepted : access offset lanes with
  | none => simp [writeImpl, accepted] at okay
  | some found =>
      obtain ⟨none, silent⟩ | ⟨start, size, rfl, run, word, aligned⟩ := access_cases accepted
      · refine .inl ⟨silent, ?_⟩
        simp only [writeImpl, accepted, none, if_true]
      · have active : size ≠ 0 := by omega
        have written := device.writeImpl_of_active accepted active data
        by_cases mapped : Mapped (offset + start) size
        · obtain ⟨bounded, sizes⟩ := mapped.bounds word
          refine .inr ⟨start, size, run, sizes, aligned, fun enable alone => ?_⟩
          rw [device.writeImpl_of_active (access_alone alone word aligned bounded) active, written,
            if_pos mapped, if_pos mapped, get_slice]
        · rw [written, if_neg mapped] at okay
          contradiction

theorem writeImpl_refused (device : Clint) (offset : Nat) (data lanes : List UInt8) :
    (device.writeImpl offset data lanes).2 = .okay ∨
      device.writeImpl offset data lanes = (device, .slaveError) := by
  rw [writeImpl]
  split
  · exact .inr rfl
  · simp only
    split
    · exact .inl rfl
    · split
      · exact .inl rfl
      · split
        · split <;> exact .inl rfl
        · exact .inr rfl

end Clint

namespace Plic

variable (shape : PlicShape)

theorem readImpl_accepted (device : Plic) {offset : Nat} {lanes : List UInt8}
    (okay : (device.readImpl shape offset lanes).2.1 = .okay) :
    (∀ lane, byteAt lanes lane = 0) ∧ (device.readImpl shape offset lanes).1 = device ∨
      ∃ start, ActiveRun lanes start 4 ∧ (offset + start) % 4 = 0 ∧
        ∀ enable, Alone enable 4 →
          device.readImpl shape (offset + start) enable =
            ((device.readImpl shape offset lanes).1, .okay,
              slice start 4 (device.readImpl shape offset lanes).2.2) := by
  cases reached : beat offset lanes with
  | none => simp [readImpl, reached] at okay
  | some found =>
      obtain ⟨none, silent⟩ | ⟨start, rfl, run, aligned, mapped⟩ := beat_cases reached
      · refine .inl ⟨silent, ?_⟩
        simp only [readImpl, reached, none, ne_eq, not_true_eq_false, if_false]
      · have active : ¬(4 = 0) := by decide
        refine .inr ⟨start, run, aligned, fun enable alone => ?_⟩
        simp only [readImpl, reached, beat_alone alone aligned mapped, ne_eq, active,
          not_false_eq_true, if_true]
        rw [slice_put _ _ run.inside, alone.length]

theorem readImpl_refused (device : Plic) (offset : Nat) (lanes : List UInt8) :
    (device.readImpl shape offset lanes).2.1 = .okay ∨
      (device.readImpl shape offset lanes).2.1 = .slaveError ∧
        (device.readImpl shape offset lanes).1 = device := by
  rw [readImpl]
  split
  · exact .inr ⟨rfl, rfl⟩
  · split <;> exact .inl rfl

theorem writeImpl_accepted (device : Plic) (inputs : Nat → UInt64) {offset : Nat}
    {data lanes : List UInt8} (okay : (device.writeImpl shape inputs offset data lanes).2 = .okay) :
    (∀ lane, byteAt lanes lane = 0) ∧
        (device.writeImpl shape inputs offset data lanes).1 = device ∨
      ∃ start, ActiveRun lanes start 4 ∧ (offset + start) % 4 = 0 ∧
        ∀ enable, Alone enable 4 →
          device.writeImpl shape inputs (offset + start) (slice start 4 data) enable =
            device.writeImpl shape inputs offset data lanes := by
  cases reached : beat offset lanes with
  | none => simp [writeImpl, reached] at okay
  | some found =>
      obtain ⟨none, silent⟩ | ⟨start, rfl, run, aligned, mapped⟩ := beat_cases reached
      · refine .inl ⟨silent, ?_⟩
        simp only [writeImpl, reached, none, ne_eq, not_true_eq_false, if_false]
      · refine .inr ⟨start, run, aligned, fun enable alone => ?_⟩
        simp only [writeImpl, reached, beat_alone alone aligned mapped, get_slice]

theorem writeImpl_refused (device : Plic) (inputs : Nat → UInt64) (offset : Nat)
    (data lanes : List UInt8) :
    (device.writeImpl shape inputs offset data lanes).2 = .okay ∨
      device.writeImpl shape inputs offset data lanes = (device, .slaveError) := by
  rw [writeImpl]
  split
  · exact .inr rfl
  · split <;> exact .inl rfl

end Plic

/-- An access of the CLINT or the PLIC is accepted only with no active lane, which does nothing,
or with one aligned run of four active lanes, or of eight at a CLINT timer register.  Then it
does and returns what the run does by itself, with every lane enabled, at its own address.  A
refused access leaves the state as it was; a read of the CLINT never changes it. -/
theorem controllers_see_active_lanes (clint : Clint) (shape : PlicShape) (plic : Plic)
    (inputs : Nat → UInt64) (offset : Nat) (data lanes : List UInt8) :
    ((clint.readImpl offset lanes).1 = .okay →
      (∀ lane, byteAt lanes lane = 0) ∨ ∃ start size, ActiveRun lanes start size ∧
        (size = 4 ∨ size = 8 ∧ (offset + start = 0x4000 ∨ offset + start = 0xbff8)) ∧
        (offset + start) % size = 0 ∧ ∀ enable, Alone enable size →
          clint.readImpl (offset + start) enable =
            (.okay, slice start size (clint.readImpl offset lanes).2)) ∧
    ((clint.writeImpl offset data lanes).2 = .okay →
      (∀ lane, byteAt lanes lane = 0) ∧ (clint.writeImpl offset data lanes).1 = clint ∨
        ∃ start size, ActiveRun lanes start size ∧
        (size = 4 ∨ size = 8 ∧ (offset + start = 0x4000 ∨ offset + start = 0xbff8)) ∧
        (offset + start) % size = 0 ∧ ∀ enable, Alone enable size →
          clint.writeImpl (offset + start) (slice start size data) enable =
            clint.writeImpl offset data lanes) ∧
    ((plic.readImpl shape offset lanes).2.1 = .okay →
      (∀ lane, byteAt lanes lane = 0) ∧ (plic.readImpl shape offset lanes).1 = plic ∨
        ∃ start, ActiveRun lanes start 4 ∧ (offset + start) % 4 = 0 ∧
          ∀ enable, Alone enable 4 →
            plic.readImpl shape (offset + start) enable =
              ((plic.readImpl shape offset lanes).1, .okay,
                slice start 4 (plic.readImpl shape offset lanes).2.2)) ∧
    ((plic.writeImpl shape inputs offset data lanes).2 = .okay →
      (∀ lane, byteAt lanes lane = 0) ∧
          (plic.writeImpl shape inputs offset data lanes).1 = plic ∨
        ∃ start, ActiveRun lanes start 4 ∧ (offset + start) % 4 = 0 ∧
          ∀ enable, Alone enable 4 →
            plic.writeImpl shape inputs (offset + start) (slice start 4 data) enable =
              plic.writeImpl shape inputs offset data lanes) ∧
    ((clint.writeImpl offset data lanes).2 = .okay ∨
      clint.writeImpl offset data lanes = (clint, .slaveError)) ∧
    ((plic.readImpl shape offset lanes).2.1 = .okay ∨
      (plic.readImpl shape offset lanes).2.1 = .slaveError ∧
        (plic.readImpl shape offset lanes).1 = plic) ∧
    ((plic.writeImpl shape inputs offset data lanes).2 = .okay ∨
      plic.writeImpl shape inputs offset data lanes = (plic, .slaveError)) :=
  ⟨clint.readImpl_accepted, clint.writeImpl_accepted, plic.readImpl_accepted shape,
    plic.writeImpl_accepted shape inputs, clint.writeImpl_refused offset data lanes,
    plic.readImpl_refused shape offset lanes, plic.writeImpl_refused shape inputs offset data lanes⟩

end AxiTestbench
