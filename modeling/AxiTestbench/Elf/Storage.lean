import AxiTestbench.Ram

/-!
# Loading into devices

The host-side functions of `Device` that initialize memory, and
`AddressSpace::load` over them (`devices.cpp`).  `Storage` is the contract of a
loadable device: it holds bytes, and a range that `can_load` accepts can be loaded,
as a whole or in parts.  ROM and RAM keep it.
-/

namespace AxiTestbench

open Lib

/-- The virtual functions of devices that host code uses to initialize them. -/
structure LoadBank (W : Type) where
  loadable : DeviceId → W → Bool
  canLoad : DeviceId → W → (offset size : Nat) → Bool
  load : DeviceId → W → (offset : Nat) → (data : List UInt8) → W × Response

namespace AddressSpace

variable {W : Type}

/-- The response to a range that no window holds. -/
def resolutionError (space : AddressSpace) (address : Nat) : Response :=
  match (space.mappings.takeWhile fun mapping => decide (mapping.base ≤ address)).getLast? with
  | some candidate =>
      if address ≥ candidate.base ∧ address < candidate.limit then .slaveError else .decodeError
  | none => .decodeError

/-- `AddressSpace::load`. -/
def load (space : AddressSpace) (bank : LoadBank W) (world : W) (address : Nat)
    (data : List UInt8) : W × Response :=
  if data.length = 0 then
    (world, .okay)
  else
    match space.resolve address data.length with
    | none => (world, space.resolutionError address)
    | some mapping =>
        if bank.loadable mapping.device world = false then
          (world, .slaveError)
        else
          let offset := sub64 address mapping.base
          if bank.canLoad mapping.device world offset data.length = false then
            (world, .slaveError)
          else
            bank.load mapping.device world offset data

/-- A part of a range that one window holds lies in the same window. -/
theorem resolve_part {space : AddressSpace} {address length : Nat} {mapping : Mapping}
    (found : space.resolve address length = some mapping) {first count : Nat}
    (nonempty : 0 < count) (atOrAbove : address ≤ first)
    (within : first + count ≤ address + length) :
    space.resolve first count = some mapping := by
  obtain ⟨member, -, base, limit⟩ := (space.resolve_eq_some_iff).mp found
  exact (space.resolve_eq_some_iff).mpr ⟨member, nonempty, by omega, by omega⟩

/-- An accepted range lies in 64-bit addresses. -/
theorem resolve_lt {space : AddressSpace} {address length : Nat} {mapping : Mapping}
    (found : space.resolve address length = some mapping) :
    mapping.base ≤ address ∧ address + length ≤ mapping.limit ∧ mapping.limit < 2 ^ 64 := by
  obtain ⟨member, -, base, limit⟩ := (space.resolve_eq_some_iff).mp found
  have bounded := space.layout.bounded mapping member
  exact ⟨base, limit, by omega⟩

end AddressSpace

/-! ## Storage -/

/-- The contract of loadable devices: an in-range load succeeds once `can_load` returned
true, for the range or a part of it, and stores the data.  `content` are the bytes of a
device. -/
structure Storage {W : Type} (bank : LoadBank W) where
  content : DeviceId → W → List UInt8
  inside : ∀ device world offset size, bank.canLoad device world offset size = true →
    offset + size ≤ (content device world).length
  part : ∀ device world offset size first count, bank.canLoad device world offset size = true →
    offset ≤ first → first + count ≤ offset + size →
    bank.canLoad device world first count = true
  accepts : ∀ device world offset data, bank.loadable device world = true →
    bank.canLoad device world offset data.length = true →
    responseIsSuccess (bank.load device world offset data).2 = true
  stores : ∀ device world offset data, bank.loadable device world = true →
    bank.canLoad device world offset data.length = true →
    content device (bank.load device world offset data).1 =
      RamDevice.copyIn (content device world) offset data
  others : ∀ device world offset data other, bank.loadable device world = true →
    bank.canLoad device world offset data.length = true → other ≠ device →
    content other (bank.load device world offset data).1 = content other world
  stable : ∀ device world offset data other, bank.loadable device world = true →
    bank.canLoad device world offset data.length = true →
    bank.loadable other (bank.load device world offset data).1 = bank.loadable other world ∧
      ∀ first count, bank.canLoad other (bank.load device world offset data).1 first count =
        bank.canLoad other world first count

/-- Data was stored in one device, and nothing else has changed. -/
structure Stored {W : Type} {bank : LoadBank W} (storage : Storage bank) (device : DeviceId)
    (offset : Nat) (data : List UInt8) (before after : W) : Prop where
  content : storage.content device after =
    RamDevice.copyIn (storage.content device before) offset data
  others : ∀ other ≠ device, storage.content other after = storage.content other before
  loadable : ∀ other, bank.loadable other after = bank.loadable other before
  canLoad : ∀ other first count,
    bank.canLoad other after first count = bank.canLoad other before first count

theorem RamDevice.copyIn_nil (bytes : List UInt8) (start : Nat) : copyIn bytes start [] = bytes := by
  simp [copyIn]

theorem RamDevice.length_copyIn {bytes data : List UInt8} {offset : Nat}
    (fits : offset + data.length ≤ bytes.length) :
    (copyIn bytes offset data).length = bytes.length := by
  simp only [copyIn, List.length_append, List.length_take, List.length_drop]
  omega

theorem RamDevice.getElem?_copyIn {bytes data : List UInt8} {offset : Nat}
    (fits : offset + data.length ≤ bytes.length) (index : Nat) :
    (copyIn bytes offset data)[index]? =
      if offset ≤ index ∧ index < offset + data.length then data[index - offset]?
      else bytes[index]? := by
  have frontLength : (bytes.take offset).length = offset := List.length_take_of_le (by omega)
  rw [copyIn]
  by_cases below : index < offset
  · rw [List.append_assoc, List.getElem?_append_left (by omega), if_neg (by omega),
      List.getElem?_take_of_lt below]
  · by_cases inside : index < offset + data.length
    · rw [List.append_assoc, List.getElem?_append_right (by omega), frontLength,
        List.getElem?_append_left (by omega), if_pos ⟨by omega, inside⟩]
    · rw [List.getElem?_append_right (by rw [List.length_append]; omega), List.getElem?_drop,
        List.length_append, frontLength, if_neg (by omega)]
      congr 1
      omega

/-- Two adjacent copies are one. -/
theorem RamDevice.copyIn_append {bytes : List UInt8} {start : Nat} (data more : List UInt8)
    (fits : start + data.length + more.length ≤ bytes.length) :
    copyIn (copyIn bytes start data) (start + data.length) more =
      copyIn bytes start (data ++ more) := by
  have front : (bytes.take start ++ data).length = start + data.length := by
    simp only [List.length_append, List.length_take]
    omega
  have kept : (copyIn bytes start data).take (start + data.length) = bytes.take start ++ data :=
    List.take_left' front
  have rest : (copyIn bytes start data).drop (start + data.length + more.length) =
      bytes.drop (start + (data ++ more).length) := by
    rw [copyIn, ← List.drop_drop, List.drop_left' front, List.drop_drop, List.length_append]
    congr 1
    omega
  rw [copyIn, kept, rest, copyIn, List.append_assoc (bytes.take start)]

namespace Stored

variable {W : Type} {bank : LoadBank W} {storage : Storage bank} {device : DeviceId}
  {offset : Nat} {data more : List UInt8} {first second third : W}

theorem refl (storage : Storage bank) (device : DeviceId) (offset : Nat) (world : W) :
    Stored storage device offset [] world world :=
  ⟨(RamDevice.copyIn_nil _ _).symm, fun _ _ => rfl, fun _ => rfl, fun _ _ _ => rfl⟩

theorem append (left : Stored storage device offset data first second)
    (right : Stored storage device (offset + data.length) more second third)
    (fits : offset + data.length + more.length ≤ (storage.content device first).length) :
    Stored storage device offset (data ++ more) first third where
  content := by rw [right.content, left.content, RamDevice.copyIn_append data more fits]
  others other different := (right.others other different).trans (left.others other different)
  loadable other := (right.loadable other).trans (left.loadable other)
  canLoad other first count :=
    (right.canLoad other first count).trans (left.canLoad other first count)

/-- The bytes of every device after a store. -/
theorem getElem? (stored : Stored storage device offset data first second)
    (fits : offset + data.length ≤ (storage.content device first).length) (other : DeviceId)
    (index : Nat) :
    (storage.content other second)[index]? =
      if other = device ∧ offset ≤ index ∧ index < offset + data.length then data[index - offset]?
      else (storage.content other first)[index]? := by
  by_cases here : other = device
  · subst here
    rw [stored.content, RamDevice.getElem?_copyIn fits]
    simp
  · rw [stored.others other here, if_neg (fun inside => here inside.1)]

end Stored

/-- A load into an accepted range stores its data. -/
theorem AddressSpace.load_stores {W : Type} {bank : LoadBank W} (storage : Storage bank)
    {space : AddressSpace} {world : W} {address : Nat} {data : List UInt8} {mapping : Mapping}
    (found : space.resolve address data.length = some mapping)
    (loadable : bank.loadable mapping.device world = true)
    (accepted : bank.canLoad mapping.device world (address - mapping.base) data.length = true) :
    ∃ after response, space.load bank world address data = (after, response) ∧
      responseIsSuccess response = true ∧
      Stored storage mapping.device (address - mapping.base) data world after := by
  obtain ⟨base, limit, small⟩ := AddressSpace.resolve_lt found
  obtain ⟨-, positive, -, -⟩ := (space.resolve_eq_some_iff).mp found
  refine ⟨_, _, ?_, storage.accepts mapping.device world _ data loadable accepted,
    storage.stores mapping.device world _ data loadable accepted, fun other different =>
      storage.others mapping.device world _ data other loadable accepted different,
    fun other => (storage.stable mapping.device world _ data other loadable accepted).1,
    fun other => (storage.stable mapping.device world _ data other loadable accepted).2⟩
  rw [AddressSpace.load, if_neg (by omega), found]
  simp only [loadable, sub64_eq base (by omega : address < 2 ^ 64), accepted]
  rfl

/-! ## ROM and RAM -/

structure RomDevice where
  bytes : List UInt8

/-- The body of `load` of both devices. -/
def loadBytes (bytes : List UInt8) (offset : Nat) (data : List UInt8) : List UInt8 × Response :=
  if inBounds offset data.length bytes.length then (RamDevice.copyIn bytes offset data, .okay)
  else (bytes, .slaveError)

def RomDevice.load (rom : RomDevice) (offset : Nat) (data : List UInt8) : RomDevice × Response :=
  let (bytes, response) := loadBytes rom.bytes offset data
  ({ bytes }, response)

def RomDevice.canLoad (rom : RomDevice) (offset size : Nat) : Bool :=
  inBounds offset size rom.bytes.length

def RamDevice.load (ram : RamDevice) (offset : Nat) (data : List UInt8) : RamDevice × Response :=
  let (bytes, response) := loadBytes ram.bytes offset data
  ({ bytes }, response)

def RamDevice.canLoad (ram : RamDevice) (offset size : Nat) : Bool :=
  inBounds offset size ram.size

/-- A device as the loader sees it; the functions of `Device` itself refuse. -/
inductive HostDevice where
  | rom (device : RomDevice)
  | ram (device : RamDevice)
  | other

def HostDevice.content : HostDevice → List UInt8
  | .rom device => device.bytes
  | .ram device => device.bytes
  | .other => []

abbrev HostWorld := DeviceId → HostDevice

def hostBank : LoadBank HostWorld where
  loadable device world :=
    match world device with
    | .rom _ | .ram _ => true
    | .other => false
  canLoad device world offset size :=
    match world device with
    | .rom rom => rom.canLoad offset size
    | .ram ram => ram.canLoad offset size
    | .other => false
  load device world offset data :=
    match world device with
    | .rom rom =>
        let (rom, response) := rom.load offset data
        (Function.update world device (.rom rom), response)
    | .ram ram =>
        let (ram, response) := ram.load offset data
        (Function.update world device (.ram ram), response)
    | .other => (world, .slaveError)

theorem loadBytes_eq {bytes data : List UInt8} {offset : Nat}
    (fits : inBounds offset data.length bytes.length = true) :
    loadBytes bytes offset data = (RamDevice.copyIn bytes offset data, .okay) :=
  if_pos fits

/-- A device of the same kind and size takes the same loads in its place. -/
theorem hostBank_update {device : DeviceId} {world : HostWorld} {after : HostDevice}
    (loadable : hostBank.loadable device (fun _ => after) = hostBank.loadable device world)
    (canLoad : ∀ first count, hostBank.canLoad device (fun _ => after) first count =
      hostBank.canLoad device world first count) :
    (∀ other, hostBank.loadable other (Function.update world device after) =
        hostBank.loadable other world) ∧
      ∀ other first count, hostBank.canLoad other (Function.update world device after) first count =
        hostBank.canLoad other world first count := by
  refine ⟨fun other => ?_, fun other first count => ?_⟩
  · by_cases here : other = device
    · subst here
      simpa [hostBank] using loadable
    · simp [hostBank, here]
  · by_cases here : other = device
    · subst here
      simpa [hostBank] using canLoad first count
    · simp [hostBank, here]

/-- An accepted load of ROM or RAM puts the copied bytes into the device of its kind. -/
theorem hostBank_load {device : DeviceId} {world : HostWorld} {offset : Nat} {data : List UInt8}
    (accepted : hostBank.canLoad device world offset data.length = true) :
    ∃ after, hostBank.load device world offset data = (Function.update world device after, .okay) ∧
      after.content = RamDevice.copyIn (world device).content offset data ∧
      (∀ other, hostBank.loadable other (Function.update world device after) =
        hostBank.loadable other world) ∧
      ∀ other first count, hostBank.canLoad other (Function.update world device after) first count =
        hostBank.canLoad other world first count := by
  cases kind : world device with
  | rom rom =>
      simp only [hostBank, kind, RomDevice.canLoad] at accepted
      refine ⟨.rom ⟨RamDevice.copyIn rom.bytes offset data⟩, ?_, rfl, hostBank_update ?_ ?_⟩
      · simp only [hostBank, kind, RomDevice.load, loadBytes_eq accepted]
      · simp [hostBank, kind]
      · simp [hostBank, kind, RomDevice.canLoad,
          RamDevice.length_copyIn (inBounds_iff.mp accepted)]
  | ram ram =>
      simp only [hostBank, kind, RamDevice.canLoad, RamDevice.size] at accepted
      refine ⟨.ram ⟨RamDevice.copyIn ram.bytes offset data⟩, ?_, rfl, hostBank_update ?_ ?_⟩
      · simp only [hostBank, kind, RamDevice.load, loadBytes_eq accepted]
      · simp [hostBank, kind]
      · simp [hostBank, kind, RamDevice.canLoad, RamDevice.size,
          RamDevice.length_copyIn (inBounds_iff.mp accepted)]
  | other => simp [hostBank, kind] at accepted

/-- ROM and RAM keep the contract. -/
def hostStorage : Storage hostBank where
  content device world := (world device).content
  inside device world offset size accepted := by
    cases kind : world device with
    | rom rom =>
        simpa [hostBank, kind, RomDevice.canLoad, inBounds_iff, HostDevice.content] using accepted
    | ram ram =>
        simpa [hostBank, kind, RamDevice.canLoad, RamDevice.size, inBounds_iff,
          HostDevice.content] using accepted
    | other => simp [hostBank, kind] at accepted
  part device world offset size first count accepted atOrAbove within := by
    cases kind : world device with
    | rom rom =>
        simp only [hostBank, kind, RomDevice.canLoad, inBounds_iff] at accepted ⊢
        omega
    | ram ram =>
        simp only [hostBank, kind, RamDevice.canLoad, inBounds_iff] at accepted ⊢
        omega
    | other => simp [hostBank, kind] at accepted
  accepts device world offset data _ accepted := by
    obtain ⟨after, loads, -⟩ := hostBank_load accepted
    rw [loads]
    rfl
  stores device world offset data _ accepted := by
    obtain ⟨after, loads, content, -⟩ := hostBank_load accepted
    simpa [loads] using content
  others device world offset data other _ accepted different := by
    obtain ⟨after, loads, -⟩ := hostBank_load accepted
    simp [loads, different]
  stable device world offset data other _ accepted := by
    obtain ⟨after, loads, -, loadable, canLoad⟩ := hostBank_load accepted
    rw [loads]
    exact ⟨loadable other, canLoad other⟩

end AxiTestbench
