import AxiTestbench.Lib.Check
import AxiTestbench.AddressMap

/-!
# Platform specifications

The specification types of `platform.hpp`, the default platform and the mapping loop
of the `Platform` constructor.  A device instance is named by its id; the constructor
rejects specifications in which two instances share one.
-/

namespace AxiTestbench

open Lib Outcome

structure DeviceSpec where
  id : String
  type : String
  properties : List (String × String) := []

structure MappingSpec where
  device : String
  base : UInt64
  size : UInt64

/-- Source and destination are written `instance.port`. -/
structure ConnectionSpec where
  source : String
  destination : String

structure PlatformSpec where
  devices : List DeviceSpec := []
  mappings : List MappingSpec := []
  connections : List ConnectionSpec := []

/-- Exceptions of the platform's startup code. -/
inductive PlatformError where
  | endpoint (text : String)
  | unknownDevice (id : String)
  | tooWide (device : String)
  | mapping (error : AddressSpace.MapError)
  | unknownInput (destination : String)
  | multipleDrivers (destination : String)
  | unknownOutput (name : String)
  | widthMismatch (name : String)
  | cycle
  deriving DecidableEq

def PlatformError.what : PlatformError → String
  | .endpoint text => "expected instance.port: " ++ text
  | .unknownDevice id => "unknown device instance: " ++ id
  | .tooWide device => "mapping does not fit 32-bit address space: " ++ device
  | .mapping error => error.what
  | .unknownInput destination => "unknown input: " ++ destination
  | .multipleDrivers destination => "input has multiple drivers: " ++ destination
  | .unknownOutput name => "unknown output: " ++ name
  | .widthMismatch name => "signal width mismatch: " ++ name
  | .cycle => "sideband connection cycle"

/-- `endpoint`: the parts before and after the first dot. -/
def endpoint (text : String) : Except PlatformError (String × String) :=
  let id := text.toList.takeWhile (· ≠ '.')
  let port := (text.toList.dropWhile (· ≠ '.')).drop 1
  if id = [] ∨ text.toList.dropWhile (· ≠ '.') = [] ∨ port = [] then
    .error (.endpoint text)
  else
    .ok (String.ofList id, String.ofList port)

namespace PlatformSpec

/-- Ids of the instances in the order of the specification. -/
def ids (spec : PlatformSpec) : List String := spec.devices.map DeviceSpec.id

/-- `Platform::device`: the position of the instance stands for the object. -/
def device (spec : PlatformSpec) (id : String) : Except PlatformError DeviceId :=
  match spec.ids.findIdx? (· == id) with
  | some index => .ok index
  | none => .error (.unknownDevice id)

end PlatformSpec

/-! ## The default platform -/

structure DefaultMap where
  romBase : UInt64 := 0
  romSize : UInt64 := 0x10000
  ramBase : UInt64 := 0x80000000
  ramSize : UInt64 := 0x08000000
  uartBase : UInt64 := 0x10000000
  uartSize : UInt64 := 0x100
  exitBase : UInt64 := 0x10001000
  exitSize : UInt64 := 4

def defaultPlatform (map : DefaultMap := {}) : PlatformSpec where
  devices :=
    [{ id := "rom", type := "rom", properties := [("size", toString map.romSize.toNat)] },
      { id := "ram", type := "ram", properties := [("size", toString map.ramSize.toNat)] },
      { id := "uart", type := "uart" },
      { id := "exit", type := "exit" }]
  mappings :=
    [{ device := "rom", base := map.romBase, size := map.romSize },
      { device := "ram", base := map.ramBase, size := map.ramSize },
      { device := "uart", base := map.uartBase, size := map.uartSize },
      { device := "exit", base := map.exitBase, size := map.exitSize }]

/-! ## The mapping loop -/

/-- The 32-bit check of the loop body; the subtraction is one of 64-bit words. -/
def MappingSpec.TooWide (mapping : MappingSpec) : Prop :=
  mapping.base ≥ 0x100000000 ∨ mapping.size > 0x100000000 - mapping.base

instance (mapping : MappingSpec) : Decidable mapping.TooWide :=
  inferInstanceAs (Decidable (_ ∨ _))

/-- The body of the mapping loop. -/
def PlatformSpec.mapWindow (spec : PlatformSpec) (addressBits : Nat) (space : AddressSpace)
    (mapping : MappingSpec) : Except PlatformError AddressSpace := do
  reject (addressBits = 32 ∧ mapping.TooWide) (.tooWide mapping.device)
  let device ← spec.device mapping.device
  (space.map mapping.base mapping.size device mapping.device).mapError .mapping

def PlatformSpec.mapWindows (spec : PlatformSpec) (addressBits : Nat) :
    Except PlatformError AddressSpace :=
  spec.mappings.foldlM (spec.mapWindow addressBits) .fresh

theorem MappingSpec.tooWide_iff (mapping : MappingSpec) :
    mapping.TooWide ↔ 2 ^ 32 < mapping.base.toNat + mapping.size.toNat ∨
      mapping.base.toNat = 2 ^ 32 := by
  have baseLt := mapping.base.toNat_lt
  have sizeLt := mapping.size.toNat_lt
  simp only [MappingSpec.TooWide, ge_iff_le, gt_iff_lt, UInt64.le_iff_toNat_le,
    UInt64.lt_iff_toNat_lt, UInt64.toNat_sub, UInt64.toNat_ofNat]
  omega

/-- The windows that the loop enters, with their devices looked up. -/
def PlatformSpec.windows (spec : PlatformSpec) (mappings : List MappingSpec) :
    List AddressSpace.Window :=
  mappings.filterMap fun mapping =>
    (spec.device mapping.device).toOption.map fun device =>
      { base := mapping.base, size := mapping.size, device, name := mapping.device }

/-- The loop accepts the mappings exactly if each passes the width check, names an
instance, and all of them fit into the address space. -/
theorem PlatformSpec.mapWindows_isOk_iff (spec : PlatformSpec) (addressBits : Nat)
    (mappings : List MappingSpec) (space : AddressSpace)
    (known : ∀ mapping ∈ mappings, ∃ device, spec.device mapping.device = .ok device) :
    (∃ next, mappings.foldlM (spec.mapWindow addressBits) space = .ok next) ↔
      (addressBits = 32 → ∀ mapping ∈ mappings, ¬mapping.TooWide) ∧
        space.FitAll (spec.windows mappings) := by
  rw [show space.FitAll (spec.windows mappings) ↔
      ∃ next, space.insertAll (spec.windows mappings) = .ok next from
    ⟨(AddressSpace.insertAll_spec _ space).2, fun ⟨next, done⟩ =>
      ((AddressSpace.insertAll_spec _ space).1 next done).1⟩]
  induction mappings generalizing space with
  | nil => simp [windows, AddressSpace.insertAll, pure, Except.pure]
  | cons mapping rest ih =>
      obtain ⟨device, found⟩ := known mapping (by simp)
      have restKnown : ∀ other ∈ rest, ∃ device, spec.device other.device = .ok device :=
        fun other member => known other (by simp [member])
      have windowsEq : spec.windows (mapping :: rest) =
          { base := mapping.base, size := mapping.size, device, name := mapping.device } ::
            spec.windows rest := by
        simp [windows, found, Except.toOption]
      rw [windowsEq, AddressSpace.insertAll, List.foldlM_cons, List.foldlM_cons]
      simp only [mapWindow, found, AddressSpace.insert]
      by_cases wide : addressBits = 32 ∧ mapping.TooWide
      · simp [reject, wide, bind, Except.bind]
      · simp only [reject, wide, if_false, ok_bind]
        cases space.map mapping.base mapping.size device mapping.device with
        | error fault => simp [Except.mapError, bind, Except.bind]
        | ok middle =>
            simp only [Except.mapError, ok_bind]
            rw [ih middle restKnown]
            refine and_congr ?_ Iff.rfl
            simp only [List.forall_mem_cons]
            tauto

/-! ## The configure-time checks -/

/-- A window as the generated source sees it. -/
structure AssertedWindow where
  name : String
  base : UInt64
  size : UInt64

namespace AssertedWindow

/-- The `_END` constant; the addition wraps. -/
def stop (window : AssertedWindow) : UInt64 := window.base + window.size

def positive (window : AssertedWindow) : Bool × String :=
  (window.size != 0, window.name ++ "_SIZE must be positive")

def inWord (window : AssertedWindow) : Bool × String :=
  (window.size ≤ 0xffffffffffffffff - window.base, window.name ++ " range overflows uint64")

def inWidth (addressBits : Nat) (window : AssertedWindow) : Bool × String :=
  (addressBits == 64 || window.stop ≤ 0x100000000,
    window.name ++ " range does not fit ADDR_WIDTH=32")

def overlap (left right : AssertedWindow) : Bool :=
  left.base < right.stop && right.base < left.stop

def apart (left right : AssertedWindow) : Bool × String :=
  (!overlap left right, left.name ++ " and " ++ right.name ++ " ranges overlap")

end AssertedWindow

/-- The static assertions that `_axi_tb_validate_address_map` generates, in order. -/
def staticAsserts (addressBits : Nat) (map : DefaultMap) : List (Bool × String) :=
  let rom : AssertedWindow := ⟨"ROM", map.romBase, map.romSize⟩
  let ram : AssertedWindow := ⟨"RAM", map.ramBase, map.ramSize⟩
  let uart : AssertedWindow := ⟨"UART", map.uartBase, map.uartSize⟩
  let exit : AssertedWindow := ⟨"EXIT", map.exitBase, map.exitSize⟩
  [rom, ram, uart, exit].map AssertedWindow.positive ++
    [rom, ram, uart, exit].map AssertedWindow.inWord ++
    [rom, ram, uart, exit].map (AssertedWindow.inWidth addressBits) ++
    [rom.apart ram, rom.apart uart, rom.apart exit, ram.apart uart, ram.apart exit, uart.apart exit]

namespace AssertedWindow

/-- The window that the mapping loop enters. -/
def window (window : AssertedWindow) (device : DeviceId) (name : String) : AddressSpace.Window :=
  { base := window.base, size := window.size, device, name }

variable (window : AssertedWindow)

theorem sized_iff (device : DeviceId) (name : String) :
    window.positive.1 = true ∧ window.inWord.1 = true ↔
      (window.window device name).mapping.Sized := by
  have baseLt := window.base.toNat_lt
  have sizeLt := window.size.toNat_lt
  simp only [positive, inWord, bne_iff_ne, decide_eq_true_eq, ne_eq, ← UInt64.toNat_inj,
    UInt64.le_iff_toNat_le, UInt64.toNat_sub, UInt64.toNat_ofNat, Mapping.Sized, Mapping.limit,
    AddressSpace.Window.mapping, AssertedWindow.window]
  omega

theorem toNat_stop (inWord : window.inWord.1 = true) :
    window.stop.toNat = window.base.toNat + window.size.toNat := by
  have baseLt := window.base.toNat_lt
  have sizeLt := window.size.toNat_lt
  simp only [AssertedWindow.inWord, decide_eq_true_eq, UInt64.le_iff_toNat_le, UInt64.toNat_sub,
    UInt64.toNat_ofNat] at inWord
  rw [stop, UInt64.toNat_add]
  omega

theorem inWidth_iff {addressBits : Nat} (bits : addressBits = 32 ∨ addressBits = 64)
    (positive : window.positive.1 = true) (inWord : window.inWord.1 = true) (device : String) :
    (window.inWidth addressBits).1 = true ↔
      (addressBits = 32 → ¬(⟨device, window.base, window.size⟩ : MappingSpec).TooWide) := by
  have stopEq := window.toNat_stop inWord
  simp only [AssertedWindow.positive, bne_iff_ne, ne_eq, ← UInt64.toNat_inj,
    UInt64.toNat_ofNat] at positive
  rw [MappingSpec.tooWide_iff]
  rcases bits with rfl | rfl
  · simp only [inWidth, Nat.reduceBEq, Bool.false_or, decide_eq_true_eq, UInt64.le_iff_toNat_le,
      stopEq, UInt64.toNat_ofNat, true_implies]
    omega
  · simp [inWidth]

theorem apart_iff {left right : AssertedWindow} (leftWord : left.inWord.1 = true)
    (rightWord : right.inWord.1 = true) (leftDevice rightDevice : DeviceId)
    (leftName rightName : String) :
    (left.apart right).1 = true ↔
      (left.window leftDevice leftName).mapping.Disjoint
        (right.window rightDevice rightName).mapping := by
  have leftStop := left.toNat_stop leftWord
  have rightStop := right.toNat_stop rightWord
  simp only [apart, overlap, Bool.not_eq_true', Bool.and_eq_false_iff, decide_eq_false_iff_not,
    UInt64.lt_iff_toNat_lt, leftStop, rightStop, Mapping.Disjoint, Mapping.limit,
    AddressSpace.Window.mapping, window]
  omega

/-- The assertions about a list of windows say that all of them can be entered. -/
theorem asserted_iff {addressBits : Nat} (bits : addressBits = 32 ∨ addressBits = 64)
    (windows : List (AssertedWindow × DeviceId × String)) :
    ((∀ entry ∈ windows, entry.1.positive.1 = true) ∧ (∀ entry ∈ windows, entry.1.inWord.1 = true) ∧
        (∀ entry ∈ windows, (entry.1.inWidth addressBits).1 = true) ∧
        windows.Pairwise fun left right => (left.1.apart right.1).1 = true) ↔
      (addressBits = 32 → ∀ entry ∈ windows,
        ¬(⟨entry.2.2, entry.1.base, entry.1.size⟩ : MappingSpec).TooWide) ∧
        AddressSpace.fresh.FitAll (windows.map fun entry => entry.1.window entry.2.1 entry.2.2) := by
  constructor
  · rintro ⟨positive, inWord, inWidth, apart⟩
    refine ⟨fun narrow entry member => ?_, fun _ => rfl, ?_, by simp [AddressSpace.fresh], ?_⟩
    · exact (entry.1.inWidth_iff bits (positive entry member) (inWord entry member) _).mp
        (inWidth entry member) narrow
    · simp only [List.forall_mem_map]
      exact fun entry member =>
        (entry.1.sized_iff _ _).mp ⟨positive entry member, inWord entry member⟩
    · rw [List.pairwise_map]
      exact apart.imp_of_mem fun leftIn rightIn disjoint =>
        (apart_iff (inWord _ leftIn) (inWord _ rightIn) _ _ _ _).mp disjoint
  · rintro ⟨narrow, fit⟩
    have sized : ∀ entry ∈ windows, entry.1.positive.1 = true ∧ entry.1.inWord.1 = true :=
      fun entry member =>
        (entry.1.sized_iff entry.2.1 entry.2.2).mpr (fit.sized _ (List.mem_map_of_mem member))
    refine ⟨fun entry member => (sized entry member).1, fun entry member => (sized entry member).2,
      fun entry member => ?_, ?_⟩
    · exact (entry.1.inWidth_iff bits (sized entry member).1 (sized entry member).2 _).mpr
        fun equal => narrow equal entry member
    · exact (List.pairwise_map.mp fit.apart).imp_of_mem fun leftIn rightIn disjoint =>
        (apart_iff (sized _ leftIn).2 (sized _ rightIn).2 _ _ _ _).mpr disjoint

end AssertedWindow

/-- An address map passes the static assertions of the build exactly if the mapping loop
of the `Platform` constructor accepts the default platform with that map. -/
theorem configured_map_accepted_iff (map : DefaultMap) (addressBits : Nat)
    (bits : addressBits = 32 ∨ addressBits = 64) :
    (∀ check ∈ staticAsserts addressBits map, check.1 = true) ↔
      ∃ space, (defaultPlatform map).mapWindows addressBits = .ok space := by
  let windows : List (AssertedWindow × DeviceId × String) :=
    [(⟨"ROM", map.romBase, map.romSize⟩, 0, "rom"), (⟨"RAM", map.ramBase, map.ramSize⟩, 1, "ram"),
      (⟨"UART", map.uartBase, map.uartSize⟩, 2, "uart"),
      (⟨"EXIT", map.exitBase, map.exitSize⟩, 3, "exit")]
  have known : ∀ mapping ∈ (defaultPlatform map).mappings,
      ∃ device, (defaultPlatform map).device mapping.device = .ok device := by
    simp only [defaultPlatform, List.forall_mem_cons, List.not_mem_nil, false_implies, implies_true,
      and_true]
    exact ⟨⟨0, rfl⟩, ⟨1, rfl⟩, ⟨2, rfl⟩, ⟨3, rfl⟩⟩
  have entered : (defaultPlatform map).windows (defaultPlatform map).mappings =
      windows.map fun entry => entry.1.window entry.2.1 entry.2.2 := rfl
  have asserted := AssertedWindow.asserted_iff bits windows
  rw [← entered] at asserted
  have wide : (∀ mapping ∈ (defaultPlatform map).mappings, ¬mapping.TooWide) ↔
      ∀ entry ∈ windows, ¬(⟨entry.2.2, entry.1.base, entry.1.size⟩ : MappingSpec).TooWide := by
    simp [defaultPlatform, windows]
  rw [PlatformSpec.mapWindows, PlatformSpec.mapWindows_isOk_iff _ _ _ _ known, wide, ← asserted]
  simp only [staticAsserts, windows, List.map_cons, List.map_nil, List.cons_append,
    List.nil_append, List.forall_mem_cons, List.not_mem_nil, false_implies, implies_true,
    List.pairwise_cons, List.Pairwise.nil, and_true, and_assoc]

/-- Adjacent windows up to the end of the 32-bit address space. -/
theorem configured_map_accepted_iff_adjacent :
    ∃ space, (defaultPlatform { ramBase := 0xf8000000 }).mapWindows 32 = .ok space :=
  (configured_map_accepted_iff { ramBase := 0xf8000000 } 32 (.inl rfl)).mp (by decide)

end AxiTestbench
