import AxiTestbench.Interrupt.Access
import AxiTestbench.Lib.Gateway
import Mathlib.Data.List.Nodup

/-!
# The platform-level interrupt controller

`Plic` of `interrupt_devices.cpp`: level-sensitive gateways, one pending bit for each source
that all contexts share, and priorities, thresholds and enables for the arbitration.
-/

namespace AxiTestbench

open Lib

/-- The arguments that the constructor accepts. -/
structure PlicShape where
  sources : Nat := 31
  contexts : Nat := 2
  sources_pos : 0 < sources := by decide
  sources_le : sources ≤ 1023 := by decide
  contexts_pos : 0 < contexts := by decide
  contexts_le : contexts ≤ 64 := by decide

/-- The registers; source `0` and the contexts past the last one stay unused. -/
structure Plic where
  priority : Nat → UInt32
  threshold : Nat → UInt32
  enables : Nat → Nat → UInt32
  pending : Nat → Bool
  busy : Nat → Bool
  irqs : Nat → UInt64

namespace Plic

def reset (_device : Plic) : Plic where
  priority _ := 0
  threshold _ := 0
  enables _ _ := 0
  pending _ := false
  busy _ := false
  irqs _ := 0

def enabled (device : Plic) (context source : Nat) : Bool :=
  device.enables context (source / 32) &&& (1 <<< UInt32.ofNat (source % 32)) != 0

variable (shape : PlicShape)

/-- One iteration of the scan of `best`. -/
def better (device : Plic) (context selected source : Nat) : Nat :=
  if device.pending source ∧ device.enabled context source ∧
      device.priority source > device.priority selected then source
  else selected

def best (device : Plic) (context : Nat) : Nat :=
  (List.range' 1 shape.sources).foldl (device.better context) 0

def notify (device : Plic) : Plic :=
  { device with
    irqs := fun context =>
      if context < shape.contexts then
        if device.priority (device.best shape context) > device.threshold context then 1 else 0
      else device.irqs context }

/-- One iteration of the loop of `settle`. -/
def trigger (inputs : Nat → UInt64) (device : Plic) (source : Nat) : Plic :=
  if inputs source ≠ 0 ∧ device.busy source = false then
    { device with
      pending := Function.update device.pending source true
      busy := Function.update device.busy source true }
  else device

def settle (device : Plic) (inputs : Nat → UInt64) : Plic :=
  ((List.range' 1 shape.sources).foldl (trigger inputs) device).notify shape

/-- The pending bits of the 32 sources from `base`. -/
def pendingWord (device : Plic) (base : Nat) : UInt32 :=
  ((List.range 32).takeWhile fun bit => base + bit ≤ shape.sources).foldl
    (fun value bit =>
      if device.pending (base + bit) then value ||| 1 <<< UInt32.ofNat bit else value) 0

/-- A claim read of a context. -/
def claim (device : Plic) (context : Nat) : Plic × UInt32 :=
  let id := device.best shape context
  let taken := if id ≠ 0 then
      { device with pending := Function.update device.pending id false }
    else device
  (taken.notify shape, UInt32.ofNat id)

def readRegister (device : Plic) (offset : Nat) : Plic × UInt32 :=
  if offset < 0x1000 then
    (device, if offset / 4 ≤ shape.sources then device.priority (offset / 4) else 0)
  else if offset < 0x1080 then
    (device, device.pendingWord shape ((offset - 0x1000) / 4 * 32))
  else if offset ≥ 0x2000 ∧ offset < 0x2000 + shape.contexts * 0x80 then
    (device, device.enables ((offset - 0x2000) / 0x80) (offset % 0x80 / 4))
  else if offset ≥ 0x200000 ∧ offset < 0x200000 + shape.contexts * 0x1000 then
    let context := (offset - 0x200000) / 0x1000
    if offset % 0x1000 = 0 then
      (device, device.threshold context)
    else if offset % 0x1000 = 4 then
      device.claim shape context
    else
      (device, 0)
  else
    (device, 0)

/-- The writable bits of an enable word. -/
def enableMask (word : Nat) : UInt32 :=
  (List.range 32).foldl
    (fun mask bit =>
      if word * 32 + bit ≠ 0 ∧ word * 32 + bit ≤ shape.sources then
        mask ||| 1 <<< UInt32.ofNat bit
      else mask) 0

/-- `write_register` before the call of `settle()` at its end. -/
def update (device : Plic) (offset : Nat) (value : UInt32) : Plic :=
  if offset > 0 ∧ offset < 0x1000 ∧ offset / 4 ≤ shape.sources then
    { device with priority := Function.update device.priority (offset / 4) (value &&& 7) }
  else if offset ≥ 0x2000 ∧ offset < 0x2000 + shape.contexts * 0x80 then
    let context := (offset - 0x2000) / 0x80
    let word := offset % 0x80 / 4
    { device with
      enables := Function.update device.enables context
        (Function.update (device.enables context) word (value &&& enableMask shape word)) }
  else if offset ≥ 0x200000 ∧ offset < 0x200000 + shape.contexts * 0x1000 then
    let context := (offset - 0x200000) / 0x1000
    if offset % 0x1000 = 0 then
      { device with threshold := Function.update device.threshold context (value &&& 7) }
    else if offset % 0x1000 = 4 ∧ value ≠ 0 ∧ value.toNat ≤ shape.sources ∧
        device.enabled context value.toNat then
      { device with busy := Function.update device.busy value.toNat false }
    else device
  else device

def writeRegister (device : Plic) (inputs : Nat → UInt64) (offset : Nat) (value : UInt32) : Plic :=
  (device.update shape offset value).settle shape inputs

/-- The register access that a beat makes, `none` for a refused beat. -/
def beat (offset : Nat) (lanes : List UInt8) : Option Access :=
  match access offset lanes with
  | none => none
  | some found => if found.size = 8 ∨ found.address ≥ 0x4000000 then none else some found

def readImpl (device : Plic) (offset : Nat) (lanes : List UInt8) :
    Plic × Response × List UInt8 :=
  match beat offset lanes with
  | none => (device, .slaveError, List.replicate lanes.length 0)
  | some found =>
      if found.size ≠ 0 then
        let (next, value) := device.readRegister shape found.address
        (next, .okay, found.put lanes.length value.toNat)
      else
        (device, .okay, List.replicate lanes.length 0)

def writeImpl (device : Plic) (inputs : Nat → UInt64) (offset : Nat) (data lanes : List UInt8) :
    Plic × Response :=
  match beat offset lanes with
  | none => (device, .slaveError)
  | some found =>
      if found.size ≠ 0 then
        (device.writeRegister shape inputs found.address (UInt32.ofNat (found.get data)), .okay)
      else
        (device, .okay)

/-- A beat that the PLIC accepts has no active lane, or those of one register. -/
theorem beat_cases {offset : Nat} {lanes : List UInt8} {found : Access}
    (reached : beat offset lanes = some found) :
    (found.size = 0 ∧ ∀ lane, byteAt lanes lane = 0) ∨
      ∃ start, found = ⟨offset + start, start, 4⟩ ∧ ActiveRun lanes start 4 ∧
        (offset + start) % 4 = 0 ∧ offset + start < 0x4000000 := by
  rw [beat] at reached
  split at reached
  next => cases reached
  next accepted search =>
    split at reached
    next => cases reached
    next inside =>
      cases reached
      obtain silent | ⟨start, size, rfl, run, word, aligned⟩ := access_cases search
      · exact .inl silent
      · simp only at inside
        obtain rfl : size = 4 := by omega
        exact .inr ⟨start, rfl, run, aligned, by omega⟩

theorem beat_alone {address : Nat} {enable : List UInt8} (alone : Alone enable 4)
    (aligned : address % 4 = 0) (mapped : address < 0x4000000) :
    beat address enable = some ⟨address, 0, 4⟩ := by
  rw [beat, access_alone alone (.inl rfl) aligned (by omega)]
  exact if_neg (by simp only; omega)

end Plic

end AxiTestbench
