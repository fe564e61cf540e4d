import Mathlib.Data.Nat.Digits.Lemmas

/-!
# Little-endian numbers

The number that a byte string stands for, least significant byte first, and the
loop that computes it with shifts and bitwise or.
-/

namespace AxiTestbench.Lib

/-- The number a byte string stands for. -/
def leValue (bytes : List UInt8) : Nat := Nat.ofDigits 256 (bytes.map UInt8.toNat)

/-- The `width` low bytes of a number. -/
def leBytes (width value : Nat) : List UInt8 :=
  (List.range width).map fun index => UInt8.ofNat (value / 256 ^ index)

@[simp] theorem leValue_nil : leValue [] = 0 := rfl

theorem leValue_snoc (bytes : List UInt8) (byte : UInt8) :
    leValue (bytes ++ [byte]) = leValue bytes + 256 ^ bytes.length * byte.toNat := by
  simp [leValue, Nat.ofDigits_append]

theorem leValue_lt (bytes : List UInt8) : leValue bytes < 256 ^ bytes.length := by
  induction bytes using List.reverseRecOn with
  | nil => decide
  | append_singleton bytes byte ih =>
      have small : byte.toNat + 1 ≤ 256 := byte.toNat_lt
      rw [leValue_snoc, List.length_append, List.length_singleton, pow_succ]
      calc
        leValue bytes + 256 ^ bytes.length * byte.toNat
            < 256 ^ bytes.length + 256 ^ bytes.length * byte.toNat := by omega
        _ = 256 ^ bytes.length * (byte.toNat + 1) := by ring
        _ ≤ 256 ^ bytes.length * 256 := Nat.mul_le_mul_left _ small

@[simp] theorem length_leBytes (width value : Nat) : (leBytes width value).length = width := by
  simp [leBytes]

theorem leBytes_succ (width value : Nat) :
    leBytes (width + 1) value = leBytes width value ++ [UInt8.ofNat (value / 256 ^ width)] := by
  simp [leBytes, List.range_succ]

/-- Encoding keeps the number modulo its width. -/
theorem leValue_leBytes (width value : Nat) :
    leValue (leBytes width value) = value % 256 ^ width := by
  induction width with
  | zero => simp [leBytes, Nat.mod_one]
  | succ width ih =>
      rw [leBytes_succ, leValue_snoc, ih, length_leBytes, Nat.mod_pow_succ, UInt8.toNat_ofNat']

theorem leValue_leBytes_of_lt {width value : Nat} (fits : value < 256 ^ width) :
    leValue (leBytes width value) = value := by
  rw [leValue_leBytes, Nat.mod_eq_of_lt fits]

/-- Or with a shifted byte appends the byte. -/
theorem or_shiftLeft_eq_leValue (bytes : List UInt8) (byte : UInt8) :
    leValue bytes ||| byte.toNat <<< (bytes.length * 8) = leValue (bytes ++ [byte]) := by
  have power : 256 ^ bytes.length = 2 ^ (bytes.length * 8) := by
    rw [show 256 = 2 ^ 8 from rfl, ← Nat.pow_mul, Nat.mul_comm]
  have small : leValue bytes < 2 ^ (bytes.length * 8) := power ▸ leValue_lt bytes
  rw [Nat.or_comm, ← Nat.shiftLeft_add_eq_or_of_lt small, leValue_snoc, Nat.shiftLeft_eq, power]
  ring

end AxiTestbench.Lib
