import AxiTestbench.Lib.LittleEndian
import AxiTestbench.Ram

/-!
# The exit device

`ExitDevice` of `devices.cpp`: a 32-bit register whose write ends the simulation
once its response has been taken.  `ExitDevices` says which devices of a bank are
such objects; `exitBank` puts them beside the devices of another bank.
-/

namespace AxiTestbench

open Lib

structure ExitDevice where
  requested : Bool := false
  code : UInt32 := 0
  generation : UInt64 := 0

namespace ExitDevice

/-- `REGISTER_SPAN`. -/
def registerSpan : Nat := 4

def clear (device : ExitDevice) : ExitDevice := { device with requested := false, code := 0 }

/-- The data span is zero before the call. -/
def readImpl (device : ExitDevice) (offset : Nat) (enable : List UInt8) : Response × List UInt8 :=
  if inBounds offset enable.length registerSpan then
    (.okay, (List.range enable.length).map fun lane =>
      if byteAt enable lane ≠ 0 then (device.code >>> UInt32.ofNat ((offset + lane) * 8)).toUInt8
      else 0)
  else
    (.slaveError, List.replicate enable.length 0)

def writeImpl (device : ExitDevice) (offset : Nat) (data strobe : List UInt8) :
    ExitDevice × Response :=
  if offset ≠ 0 ∨ data.length ≠ registerSpan ∨ strobe.all (fun value => value != 0) = false then
    (device, .slaveError)
  else
    ({ code := (byteAt data 0).toUInt32 ||| (byteAt data 1).toUInt32 <<< 8 |||
          (byteAt data 2).toUInt32 <<< 16 ||| (byteAt data 3).toUInt32 <<< 24
       requested := true
       generation := device.generation + 1 }, .okay)

theorem writeImpl_response (device : ExitDevice) (offset : Nat) (data strobe : List UInt8) :
    (device.writeImpl offset data strobe).2 = .slaveError ∨
      (device.writeImpl offset data strobe).2 = .okay := by
  rw [writeImpl]
  split
  · exact .inl rfl
  · exact .inr rfl

private theorem toNat_shiftLeft_byte (byte : UInt8) (shift : UInt32) (fits : shift.toNat ≤ 24) :
    (byte.toUInt32 <<< shift).toNat = byte.toNat <<< shift.toNat := by
  have small := byte.toNat_lt
  have power : 2 ^ shift.toNat ≤ 2 ^ 24 := Nat.pow_le_pow_right (by decide) fits
  have inWord : byte.toNat * 2 ^ shift.toNat < 2 ^ 32 := by
    calc
      byte.toNat * 2 ^ shift.toNat ≤ byte.toNat * 2 ^ 24 := Nat.mul_le_mul_left _ power
      _ < 2 ^ 32 := by omega
  rw [UInt32.toNat_shiftLeft, UInt8.toNat_toUInt32, Nat.mod_eq_of_lt (by omega : shift.toNat < 32),
    Nat.mod_eq_of_lt (by rwa [Nat.shiftLeft_eq])]

/-- The register takes the little-endian value of the data. -/
theorem writeImpl_code {device : ExitDevice} {offset : Nat} {data strobe : List UInt8}
    (success : (device.writeImpl offset data strobe).2 = .okay) :
    data.length = registerSpan ∧
      (device.writeImpl offset data strobe).1.code.toNat = leValue data := by
  rw [writeImpl] at success ⊢
  split at success
  next => cases success
  next accepted =>
    rw [if_neg accepted]
    simp only [not_or, not_not] at accepted
    refine ⟨accepted.2.1, ?_⟩
    obtain ⟨first, second, third, fourth, rfl⟩ := List.length_eq_four.mp accepted.2.1
    have one := or_shiftLeft_eq_leValue [] first
    have two := or_shiftLeft_eq_leValue [first] second
    have three := or_shiftLeft_eq_leValue [first, second] third
    have four := or_shiftLeft_eq_leValue [first, second, third] fourth
    simp only [List.nil_append, List.cons_append, leValue_nil, List.length_nil, Nat.zero_mul,
      Nat.shiftLeft_zero, Nat.zero_or] at one two three four
    rw [← four, ← three, ← two, ← one]
    simp only [byteAt, UInt32.toNat_or]
    rw [toNat_shiftLeft_byte _ 8 (by decide), toNat_shiftLeft_byte _ 16 (by decide),
      toNat_shiftLeft_byte _ 24 (by decide)]
    simp

end ExitDevice

/-- The devices of a bank that are exit devices. -/
structure ExitDevices {W : Type} (bank : DeviceBank W) where
  exits : DeviceId → Bool
  object : DeviceId → W → ExitDevice
  isExit : ∀ device world, bank.isExit device world = exits device
  exitCode : ∀ device world, exits device = true →
    bank.exitCode device world = (object device world).code
  noBurst : ∀ device world, exits device = true → bank.supportsBurst device world = false
  noExclusive : ∀ device world, exits device = true → bank.supportsExclusive device world = false
  write : ∀ device world offset data strobe, exits device = true →
    (object device (bank.writeImpl device world offset data strobe).1,
      (bank.writeImpl device world offset data strobe).2) =
      (object device world).writeImpl offset data strobe

/-- Exit devices beside the devices of another bank. -/
def exitBank {W : Type} (exits : DeviceId → Bool) (others : DeviceBank W) :
    DeviceBank ((DeviceId → ExitDevice) × W) where
  readImpl device world offset enable :=
    if exits device then
      (world, (world.1 device).readImpl offset enable)
    else
      let (other, answer) := others.readImpl device world.2 offset enable
      ((world.1, other), answer)
  writeImpl device world offset data strobe :=
    if exits device then
      let (object, response) := (world.1 device).writeImpl offset data strobe
      ((Function.update world.1 device object, world.2), response)
    else
      let (other, response) := others.writeImpl device world.2 offset data strobe
      ((world.1, other), response)
  supportsExclusive device world := !exits device && others.supportsExclusive device world.2
  supportsBurst device world := !exits device && others.supportsBurst device world.2
  isExit device _ := exits device
  exitCode device world :=
    if exits device then (world.1 device).code else others.exitCode device world.2
  reset device world :=
    if exits device then (Function.update world.1 device (world.1 device).clear, world.2)
    else (world.1, others.reset device world.2)

def exitBankDevices {W : Type} (exits : DeviceId → Bool) (others : DeviceBank W) :
    ExitDevices (exitBank exits others) where
  exits
  object device world := world.1 device
  isExit _ _ := rfl
  exitCode device world member := by simp [exitBank, member]
  noBurst device world member := by simp [exitBank, member]
  noExclusive device world member := by simp [exitBank, member]
  write device world offset data strobe member := by simp [exitBank, member]

end AxiTestbench
