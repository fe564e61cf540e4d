import AxiTestbench.Axi
import AxiTestbench.Lib.Outcome
import AxiTestbench.Lib.Overlay

/-!
# Packed signals

`packed.hpp`: bit fields of the signals of a Verilated model.  A signal is an unsigned scalar
of 8 to 64 bits or an array of 32-bit words, as its C++ type says.  `bitAt` reads a signal as
a row of bits; every function is characterized by what it does to that row.
-/

namespace AxiTestbench

open Lib Outcome

/-- The unsigned integer types of a packed signal. -/
inductive ScalarWidth where
  | bits8
  | bits16
  | bits32
  | bits64
  deriving DecidableEq

namespace ScalarWidth

def bits : ScalarWidth → Nat
  | .bits8 => 8
  | .bits16 => 16
  | .bits32 => 32
  | .bits64 => 64

/-- The width of `Unsigned`, in which the bitwise arithmetic is done. -/
def promoted (width : ScalarWidth) : Nat := if width.bits < 32 then 32 else width.bits

end ScalarWidth

/-- The C++ type of a signal. -/
inductive SignalType where
  | scalar (width : ScalarWidth)
  | words (count : Nat)
  deriving DecidableEq

/-- The number of bits of a signal. -/
def SignalType.bits : SignalType → Nat
  | .scalar width => width.bits
  | .words count => count * 32

inductive Signal : SignalType → Type where
  | scalar {width : ScalarWidth} (value : BitVec width.bits) : Signal (.scalar width)
  | words {count : Nat} (values : Fin count → BitVec 32) : Signal (.words count)

namespace Signal

variable {layout : SignalType}

/-- A bit of the signal; there are none past its end. -/
def bitAt (index : Nat) : Signal layout → Bool
  | .scalar value => value.getLsbD index
  | @words count values =>
      if inside : index / 32 < count then (values ⟨index / 32, inside⟩).getLsbD (index % 32)
      else false

def word (signal : Signal layout) (index : Nat) : Except Fault (BitVec 32) :=
  match signal with
  | @scalar width value =>
      if index * 32 ≥ width.bits then .ok 0
      else .ok ((value.setWidth width.promoted >>> (index * 32)).setWidth 32)
  | @words count values =>
      if inside : index < count then .ok (values ⟨index, inside⟩)
      else .error (.outOfBounds "signal")

def setWord (signal : Signal layout) (index : Nat) (value : BitVec 32) :
    Except Fault (Signal layout) :=
  match signal with
  | @scalar width old =>
      if index * 32 ≥ width.bits then
        .error (.outOfRange "packed signal word index")
      else
        let current := old.setWidth width.promoted
        let shift := index * 32
        let mask := BitVec.setWidth width.promoted (0xffffffff#32) <<< shift
        let merged := (current &&& ~~~mask) ||| (value.setWidth width.promoted <<< shift)
        .ok (.scalar (merged.setWidth width.bits))
  | @words count values =>
      if inside : index < count then
        .ok (.words (Function.update values ⟨index, inside⟩ value))
      else .error (.outOfBounds "signal")

def bit (signal : Signal layout) (index : Nat) : Except Fault Bool := do
  let word ← signal.word (index / 32)
  return (word >>> (index % 32)) &&& 1#32 != 0#32

def setBit (signal : Signal layout) (index : Nat) (value : Bool) :
    Except Fault (Signal layout) := do
  let current ← signal.word (index / 32)
  let mask := 1#32 <<< (index % 32)
  signal.setWord (index / 32) (if value then current ||| mask else current &&& ~~~mask)

/-- The `count` of one iteration of the loops, the number of bits it copies. -/
def chunk (lsb width copied : Nat) : Nat := min (width - copied) (32 - (lsb + copied) % 32)

/-- The `mask` of `read_u64`. -/
def countMask (count : Nat) : BitVec 64 :=
  if count = 32 then 0xffffffff#64 else (1#64 <<< count) - 1#64

/-- The `low_mask` of `write_u64`. -/
def lowMask (count : Nat) : BitVec 32 :=
  if count = 32 then 0xffffffff#32 else ((1#64 <<< count) - 1#64).setWidth 32

/-- The loop of `read_u64`.  Every iteration copies at least one bit. -/
def readLoop (signal : Signal layout) (lsb width : Nat) :
    Nat → Nat → BitVec 64 → Except Fault (BitVec 64)
  | 0, _, result => .ok result
  | fuel + 1, copied, result =>
      if copied < width then do
        let sourceBit := lsb + copied
        let offset := sourceBit % 32
        let count := chunk lsb width copied
        let word ← signal.word (sourceBit / 32)
        let part := (word >>> offset).setWidth 64 &&& countMask count
        readLoop signal lsb width fuel (copied + count) (result ||| part <<< copied)
      else .ok result

def readU64 (signal : Signal layout) (lsb width : Nat) : Except Fault (BitVec 64) :=
  if width > 64 then .error (.invalidArgument "read_u64 width exceeds 64 bits")
  else readLoop signal lsb width width 0 0

/-- The loop of `write_u64`. -/
def writeLoop (lsb width : Nat) (value : BitVec 64) :
    Nat → Nat → Signal layout → Except Fault (Signal layout)
  | 0, _, signal => .ok signal
  | fuel + 1, copied, signal =>
      if copied < width then do
        let destinationBit := lsb + copied
        let offset := destinationBit % 32
        let count := chunk lsb width copied
        let mask := lowMask count <<< offset
        let current ← signal.word (destinationBit / 32)
        let merged := (current &&& ~~~mask) |||
          (((value >>> copied).setWidth 32 <<< offset) &&& mask)
        let next ← signal.setWord (destinationBit / 32) merged
        writeLoop lsb width value fuel (copied + count) next
      else .ok signal

def writeU64 (signal : Signal layout) (lsb width : Nat) (value : BitVec 64) :
    Except Fault (Signal layout) :=
  if width > 64 then .error (.invalidArgument "write_u64 width exceeds 64 bits")
  else writeLoop lsb width value width 0 signal

def readBytes (signal : Signal layout) (size lsb : Nat) : Except Fault (List UInt8) :=
  (List.range size).mapM fun index => do
    return UInt8.ofBitVec ((← signal.readU64 (lsb + index * 8) 8).setWidth 8)

def writeBytes (signal : Signal layout) (lsb : Nat) (value : List UInt8) :
    Except Fault (Signal layout) :=
  (List.range value.length).foldlM
    (fun signal index =>
      signal.writeU64 (lsb + index * 8) 8 ((value.getD index 0).toBitVec.setWidth 64)) signal

/-! ## Words -/

theorem getLsbD_ones (index : Nat) : (0xffffffff#32).getLsbD index = decide (index < 32) := by
  rw [show 0xffffffff#32 = BitVec.allOnes 32 from rfl, BitVec.getLsbD_allOnes]

/-- A signal is given by its bits. -/
theorem ext_bitAt {left right : Signal layout}
    (same : ∀ index < layout.bits, left.bitAt index = right.bitAt index) : left = right := by
  cases left with
  | scalar value =>
      cases right with
      | scalar other => exact congrArg scalar (BitVec.eq_of_getLsbD_eq same)
  | @words count values =>
      cases right with
      | words others =>
          congr 1
          funext place
          refine BitVec.eq_of_getLsbD_eq fun index inWord => ?_
          have here := same (place * 32 + index) (by
            have := place.isLt
            simp only [SignalType.bits]
            omega)
          have quotient : (place * 32 + index) / 32 = place := by omega
          have remainder : (place * 32 + index) % 32 = index := by omega
          simpa only [bitAt, quotient, remainder, place.isLt, dif_pos] using here

theorem bitAt_of_ge (signal : Signal layout) {index : Nat} (outside : layout.bits ≤ index) :
    signal.bitAt index = false := by
  cases signal with
  | scalar value => exact BitVec.getLsbD_of_ge _ _ outside
  | @words count values =>
      simp only [SignalType.bits] at outside
      rw [bitAt, dif_neg (by omega)]

/-- A word of a signal holds its 32 bits from `index * 32` on. -/
theorem word_eq (signal : Signal layout) {index : Nat} (inside : index * 32 < layout.bits) :
    ∃ word, signal.word index = .ok word ∧
      ∀ place < 32, word.getLsbD place = signal.bitAt (index * 32 + place) := by
  cases signal with
  | @scalar width value =>
      refine ⟨_, if_neg (Nat.not_le_of_lt inside), fun place inWord => ?_⟩
      simp only [bitAt, BitVec.getLsbD_setWidth, BitVec.getLsbD_ushiftRight, inWord, decide_true,
        Bool.true_and]
      by_cases below : index * 32 + place < width.bits
      · have promoted : index * 32 + place < width.promoted := by
          simp only [ScalarWidth.promoted]
          split <;> omega
        simp [promoted]
      · simp [BitVec.getLsbD_of_ge _ _ (Nat.le_of_not_lt below)]
  | @words count values =>
      have here : index < count := by
        simp only [SignalType.bits] at inside
        omega
      refine ⟨_, dif_pos here, fun place inWord => ?_⟩
      have quotient : (index * 32 + place) / 32 = index := by omega
      have remainder : (index * 32 + place) % 32 = place := by omega
      simp only [bitAt, quotient, remainder, here, dif_pos]

/-- Setting a word changes the bits of that word and no others. -/
theorem setWord_eq (signal : Signal layout) {index : Nat} (value : BitVec 32)
    (inside : index * 32 < layout.bits) :
    ∃ next, signal.setWord index value = .ok next ∧
      ∀ place < layout.bits, next.bitAt place =
        if place / 32 = index then value.getLsbD (place % 32) else signal.bitAt place := by
  cases signal with
  | @scalar width old =>
      refine ⟨_, if_neg (Nat.not_le_of_lt inside), fun place inSignal => ?_⟩
      have inScalar : place < width.bits := inSignal
      have promoted : place < width.promoted := by
        simp only [ScalarWidth.promoted]
        split <;> omega
      simp only [bitAt, BitVec.getLsbD_setWidth, BitVec.getLsbD_or, BitVec.getLsbD_and,
        BitVec.getLsbD_not, BitVec.getLsbD_shiftLeft, getLsbD_ones, inScalar, promoted,
        decide_true, Bool.true_and]
      by_cases here : place / 32 = index
      · have low : ¬place < index * 32 := by omega
        have offset : place - index * 32 = place % 32 := by omega
        have narrow : place % 32 < width.promoted := by omega
        simp [here, low, offset, narrow, Nat.mod_lt]
      · rw [if_neg here]
        by_cases low : place < index * 32
        · simp [low]
        · have high : ¬place - index * 32 < 32 := by omega
          simp [high, BitVec.getLsbD_of_ge value _ (Nat.le_of_not_lt high)]
  | @words count values =>
      have here : index < count := by
        simp only [SignalType.bits] at inside
        omega
      refine ⟨_, dif_pos here, fun place inSignal => ?_⟩
      simp only [SignalType.bits] at inSignal
      have place32 : place / 32 < count := by omega
      simp only [bitAt, place32, dif_pos]
      by_cases same : place / 32 = index
      · subst same
        simp
      · have different : (⟨place / 32, place32⟩ : Fin count) ≠ ⟨index, here⟩ :=
          fun equal => same (congrArg Fin.val equal)
        rw [Function.update_of_ne different, if_neg same]

/-! ## Fields -/

/-- The masks of the loops select the lowest `count` bits. -/
theorem getLsbD_countMask {count : Nat} (small : count ≤ 32) (index : Nat) :
    (countMask count).getLsbD index = decide (index < count) := by
  have power : countMask count = BitVec.ofNat 64 (2 ^ count - 1) := by
    rw [countMask]
    split
    next full =>
      subst full
      rfl
    next =>
      have positive : 0 < 2 ^ count := Nat.two_pow_pos count
      have bound : 2 ^ count ≤ 2 ^ 32 := Nat.pow_le_pow_right (by decide) small
      refine BitVec.eq_of_toNat_eq ?_
      have one : (1#64).toNat = 1 := rfl
      rw [BitVec.toNat_sub, BitVec.toNat_shiftLeft, Nat.shiftLeft_eq, one, BitVec.toNat_ofNat]
      omega
  rw [power, BitVec.getLsbD_ofNat, Nat.testBit_two_pow_sub_one]
  by_cases below : index < count
  · simp [below, show index < 64 by omega]
  · simp [below]

theorem getLsbD_lowMask {count : Nat} (small : count ≤ 32) {index : Nat} (inWord : index < 32) :
    (lowMask count).getLsbD index = decide (index < count) := by
  rw [← getLsbD_countMask small index, lowMask, countMask]
  split
  next =>
    rw [getLsbD_ones, show 0xffffffff#64 = (BitVec.allOnes 32).setWidth 64 from rfl,
      BitVec.getLsbD_setWidth, BitVec.getLsbD_allOnes]
    simp [inWord, show index < 64 by omega]
  next =>
    rw [BitVec.getLsbD_setWidth]
    simp [inWord]

/-- The word that an iteration of `write_u64` stores. -/
theorem getLsbD_merged (word : BitVec 32) (value : BitVec 64) {offset count copied place : Nat}
    (fits : count + offset ≤ 32) (inWord : place < 32) :
    ((word &&& ~~~(lowMask count <<< offset)) |||
      (((value >>> copied).setWidth 32 <<< offset) &&& (lowMask count <<< offset))).getLsbD place =
        if offset ≤ place ∧ place < offset + count then value.getLsbD (copied + (place - offset))
        else word.getLsbD place := by
  have masked : (lowMask count).getLsbD (place - offset) = decide (place - offset < count) :=
    getLsbD_lowMask (by omega) (by omega)
  simp only [BitVec.getLsbD_or, BitVec.getLsbD_and, BitVec.getLsbD_not,
    BitVec.getLsbD_shiftLeft, BitVec.getLsbD_setWidth, BitVec.getLsbD_ushiftRight, masked, inWord]
  by_cases low : place < offset
  · rw [if_neg (by omega)]
    simp [low]
  · by_cases high : place < offset + count
    · rw [if_pos (by omega)]
      simp [low, show place - offset < count by omega, show place - offset < 32 by omega]
    · rw [if_neg (by omega)]
      simp [show ¬place - offset < count by omega]

theorem chunk_pos (lsb : Nat) {width copied : Nat} (more : copied < width) :
    0 < chunk lsb width copied := by
  simp only [chunk]
  omega

theorem chunk_le (lsb width copied : Nat) :
    chunk lsb width copied ≤ width - copied ∧
      chunk lsb width copied + (lsb + copied) % 32 ≤ 32 := by
  simp only [chunk]
  omega

theorem readLoop_eq (signal : Signal layout) {lsb width : Nat} (small : width ≤ 64)
    (inside : lsb + width ≤ layout.bits) :
    ∀ (fuel copied : Nat) (result : BitVec 64), width ≤ copied + fuel → copied ≤ width →
      (∀ index, result.getLsbD index = (decide (index < copied) && signal.bitAt (lsb + index))) →
      ∃ value, readLoop signal lsb width fuel copied result = .ok value ∧
        ∀ index, value.getLsbD index =
          (decide (index < width) && signal.bitAt (lsb + index)) := by
  intro fuel
  induction fuel with
  | zero =>
      intro copied result enough bound holds
      obtain rfl : copied = width := by omega
      exact ⟨result, rfl, holds⟩
  | succ fuel ih =>
      intro copied result enough bound holds
      by_cases more : copied < width
      · obtain ⟨word, fetched, bits⟩ :=
          signal.word_eq (show (lsb + copied) / 32 * 32 < layout.bits by omega)
        have progress := chunk_pos lsb more
        obtain ⟨rest, fits⟩ := chunk_le lsb width copied
        simp only [readLoop, if_pos more, fetched]
        refine ih _ _ (by omega) (by omega) fun index => ?_
        have masked := getLsbD_countMask (show chunk lsb width copied ≤ 32 by omega)
        simp only [BitVec.getLsbD_or, BitVec.getLsbD_shiftLeft, BitVec.getLsbD_and,
          BitVec.getLsbD_setWidth, BitVec.getLsbD_ushiftRight, holds, masked]
        by_cases old : index < copied
        · simp [old, show index < copied + chunk lsb width copied by omega]
        · by_cases new : index < copied + chunk lsb width copied
          · have fetchedBit := bits ((lsb + copied) % 32 + (index - copied)) (by omega)
            rw [show (lsb + copied) / 32 * 32 + ((lsb + copied) % 32 + (index - copied)) =
              lsb + index by omega] at fetchedBit
            simp [old, new, fetchedBit, show index < 64 by omega, show index - copied < 64 by omega,
              show index - copied < chunk lsb width copied by omega]
          · simp [old, new, show ¬index - copied < chunk lsb width copied by omega]
      · obtain rfl : copied = width := by omega
        simp only [readLoop, if_neg more]
        exact ⟨result, rfl, holds⟩

/-- A field inside the signal is read bit by bit. -/
theorem readU64_eq (signal : Signal layout) {lsb width : Nat} (small : width ≤ 64)
    (inside : lsb + width ≤ layout.bits) :
    ∃ value, signal.readU64 lsb width = .ok value ∧
      ∀ index, value.getLsbD index = (decide (index < width) && signal.bitAt (lsb + index)) := by
  rw [readU64, if_neg (by omega)]
  exact readLoop_eq signal small inside width 0 0 (by omega) (by omega) (by simp)

/-- One iteration of `write_u64` stores the next `count` bits of the value. -/
theorem writeIteration_eq (signal : Signal layout) {lsb width copied : Nat} (value : BitVec 64)
    (more : copied < width) (inside : lsb + width ≤ layout.bits) :
    ∃ word stored, signal.word ((lsb + copied) / 32) = .ok word ∧
      signal.setWord ((lsb + copied) / 32)
        ((word &&& ~~~(lowMask (chunk lsb width copied) <<< ((lsb + copied) % 32))) |||
          (((value >>> copied).setWidth 32 <<< ((lsb + copied) % 32)) &&&
            (lowMask (chunk lsb width copied) <<< ((lsb + copied) % 32)))) = .ok stored ∧
      ∀ index < layout.bits, stored.bitAt index =
        if lsb + copied ≤ index ∧ index < lsb + copied + chunk lsb width copied then
          value.getLsbD (index - lsb)
        else signal.bitAt index := by
  have wordInside : (lsb + copied) / 32 * 32 < layout.bits := by omega
  obtain ⟨word, fetched, bits⟩ := signal.word_eq wordInside
  obtain ⟨-, fits⟩ := chunk_le lsb width copied
  obtain ⟨stored, storedEq, storedBits⟩ := signal.setWord_eq _ wordInside
  refine ⟨word, stored, fetched, storedEq, fun index inSignal => ?_⟩
  have inWord : index % 32 < 32 := Nat.mod_lt _ (by decide)
  rw [storedBits index inSignal, getLsbD_merged word value fits inWord]
  by_cases here : index / 32 = (lsb + copied) / 32
  · have place : (lsb + copied) / 32 * 32 + index % 32 = index := by omega
    rw [if_pos here, bits _ inWord, place]
    by_cases written : lsb + copied ≤ index ∧ index < lsb + copied + chunk lsb width copied
    · rw [if_pos written, if_pos (by omega),
        show copied + (index % 32 - (lsb + copied) % 32) = index - lsb by omega]
    · rw [if_neg written, if_neg (by omega)]
  · rw [if_neg here, if_neg (by omega)]

theorem writeLoop_eq {lsb width : Nat} (value : BitVec 64) (inside : lsb + width ≤ layout.bits) :
    ∀ (fuel copied : Nat) (signal : Signal layout), width ≤ copied + fuel → copied ≤ width →
      ∃ next, writeLoop lsb width value fuel copied signal = .ok next ∧
        ∀ index < layout.bits, next.bitAt index =
          if lsb + copied ≤ index ∧ index < lsb + width then value.getLsbD (index - lsb)
          else signal.bitAt index := by
  intro fuel
  induction fuel with
  | zero =>
      intro copied signal enough bound
      refine ⟨signal, rfl, fun index _ => ?_⟩
      rw [if_neg (by omega)]
  | succ fuel ih =>
      intro copied signal enough bound
      by_cases more : copied < width
      · obtain ⟨word, stored, fetched, storedEq, storedBits⟩ :=
          signal.writeIteration_eq value more inside
        have progress := chunk_pos lsb more
        obtain ⟨rest, -⟩ := chunk_le lsb width copied
        obtain ⟨next, done, nextBits⟩ :=
          ih (copied + chunk lsb width copied) stored (by omega) (by omega)
        simp only [writeLoop, if_pos more, fetched, storedEq, bind, Except.bind]
        refine ⟨next, done, fun index inSignal => ?_⟩
        rw [nextBits index inSignal, storedBits index inSignal]
        by_cases later : lsb + (copied + chunk lsb width copied) ≤ index ∧ index < lsb + width
        · rw [if_pos later, if_pos (by omega)]
        · rw [if_neg later]
          by_cases now : lsb + copied ≤ index ∧ index < lsb + copied + chunk lsb width copied
          · rw [if_pos now, if_pos (by omega)]
          · rw [if_neg now, if_neg (by omega)]
      · refine ⟨signal, if_neg more, fun index _ => ?_⟩
        rw [if_neg (by omega)]

/-- A field inside the signal is written bit by bit, and nothing else is. -/
theorem writeU64_eq (signal : Signal layout) {lsb width : Nat} (value : BitVec 64)
    (small : width ≤ 64) (inside : lsb + width ≤ layout.bits) :
    ∃ next, signal.writeU64 lsb width value = .ok next ∧
      ∀ index < layout.bits, next.bitAt index =
        if lsb ≤ index ∧ index < lsb + width then value.getLsbD (index - lsb)
        else signal.bitAt index := by
  rw [writeU64, if_neg (by omega)]
  exact writeLoop_eq value inside width 0 signal (by omega) (by omega)

theorem bit_eq (signal : Signal layout) {index : Nat} (inside : index < layout.bits) :
    signal.bit index = .ok (signal.bitAt index) := by
  obtain ⟨word, fetched, bits⟩ :=
    signal.word_eq (show index / 32 * 32 < layout.bits by omega)
  have inWord : index % 32 < 32 := Nat.mod_lt _ (by decide)
  have place : index / 32 * 32 + index % 32 = index := by omega
  have stored := bits _ inWord
  rw [place] at stored
  rw [bit, fetched, ← stored]
  simp only [bind, Except.bind, pure, Except.pure, Except.ok.injEq]
  rw [BitVec.and_one_eq_setWidth_ofBool_getLsbD, BitVec.getLsbD_ushiftRight, Nat.add_zero]
  cases word.getLsbD (index % 32) <;> rfl

theorem setBit_eq (signal : Signal layout) {index : Nat} (value : Bool)
    (inside : index < layout.bits) :
    ∃ next, signal.setBit index value = .ok next ∧
      ∀ place < layout.bits, next.bitAt place =
        if place = index then value else signal.bitAt place := by
  have wordInside : index / 32 * 32 < layout.bits := by omega
  obtain ⟨word, fetched, bits⟩ := signal.word_eq wordInside
  obtain ⟨next, storedEq, storedBits⟩ := signal.setWord_eq
    (if value then word ||| 1#32 <<< (index % 32)
      else word &&& ~~~(1#32 <<< (index % 32))) wordInside
  simp only [setBit, fetched, bind, Except.bind]
  refine ⟨next, storedEq, fun place inSignal => ?_⟩
  rw [storedBits place inSignal]
  have inWord : place % 32 < 32 := Nat.mod_lt _ (by decide)
  have power : (1#32 <<< (index % 32)).getLsbD (place % 32) =
      decide (index % 32 = place % 32) := by
    rw [← BitVec.twoPow_eq, BitVec.getLsbD_twoPow]
    simp [Nat.mod_lt]
  by_cases here : place / 32 = index / 32
  · have whole : index / 32 * 32 + place % 32 = place := by omega
    have old := bits _ inWord
    rw [whole] at old
    by_cases same : place = index
    · subst same
      cases value with
      | true => simp only [if_true, BitVec.getLsbD_or, power, decide_true, Bool.or_true]
      | false =>
          simp only [Bool.false_eq_true, if_false, if_true, BitVec.getLsbD_and,
            BitVec.getLsbD_not, power, decide_true, Bool.not_true, Bool.and_false]
    · have apart : ¬index % 32 = place % 32 := by omega
      rw [if_pos here, if_neg same, ← old]
      cases value with
      | true => simp only [if_true, BitVec.getLsbD_or, power, apart, decide_false, Bool.or_false]
      | false =>
          simp only [Bool.false_eq_true, if_false, BitVec.getLsbD_and, BitVec.getLsbD_not, power,
            apart, inWord, decide_true, decide_false, Bool.not_false, Bool.and_true]
  · rw [if_neg here, if_neg (by omega)]

/-- The bits of a byte array in memory order. -/
def byteBit (value : List UInt8) (offset : Nat) : Bool :=
  (value.getD (offset / 8) 0).toBitVec.getLsbD (offset % 8)

theorem writeBytes_prefix (signal : Signal layout) {lsb : Nat} (value : List UInt8) (size : Nat)
    (inside : lsb + size * 8 ≤ layout.bits) :
    ∃ next, (List.range size).foldlM
        (fun signal index =>
          signal.writeU64 (lsb + index * 8) 8 ((value.getD index 0).toBitVec.setWidth 64)) signal =
        .ok next ∧
      ∀ index < layout.bits, next.bitAt index =
        if lsb ≤ index ∧ index < lsb + size * 8 then byteBit value (index - lsb)
        else signal.bitAt index := by
  induction size with
  | zero =>
      refine ⟨signal, rfl, fun index _ => ?_⟩
      rw [if_neg (by omega)]
  | succ size ih =>
      obtain ⟨middle, stored, middleBits⟩ := ih (by omega)
      obtain ⟨next, last, nextBits⟩ := middle.writeU64_eq
        ((value.getD size 0).toBitVec.setWidth 64) (show 8 ≤ 64 by decide)
        (show lsb + size * 8 + 8 ≤ layout.bits by omega)
      refine ⟨next, ?_, fun index inSignal => ?_⟩
      · rw [List.range_succ, List.foldlM_append, stored]
        simp only [bind, Except.bind, List.foldlM_cons, List.foldlM_nil, last]
        rfl
      · rw [nextBits index inSignal, middleBits index inSignal]
        by_cases new : lsb + size * 8 ≤ index ∧ index < lsb + size * 8 + 8
        · have byte : (index - lsb) / 8 = size := by omega
          have place : (index - lsb) % 8 = index - (lsb + size * 8) := by omega
          rw [if_pos new, if_pos (by omega), byteBit, byte, place, BitVec.getLsbD_setWidth]
          simp [show index - (lsb + size * 8) < 64 by omega]
        · rw [if_neg new]
          by_cases old : lsb ≤ index ∧ index < lsb + size * 8
          · rw [if_pos old, if_pos (by omega)]
          · rw [if_neg old, if_neg (by omega)]

theorem writeBytes_eq (signal : Signal layout) {lsb : Nat} (value : List UInt8)
    (inside : lsb + value.length * 8 ≤ layout.bits) :
    ∃ next, signal.writeBytes lsb value = .ok next ∧
      ∀ index < layout.bits, next.bitAt index =
        if lsb ≤ index ∧ index < lsb + value.length * 8 then byteBit value (index - lsb)
        else signal.bitAt index :=
  signal.writeBytes_prefix value value.length inside

/-- A field that holds the bits of a value reads as that value modulo `2 ^ width`. -/
theorem readU64_of_bits {signal : Signal layout} {lsb width : Nat} {value : BitVec 64}
    (small : width ≤ 64) (inside : lsb + width ≤ layout.bits)
    (holds : ∀ offset < width, signal.bitAt (lsb + offset) = value.getLsbD offset) :
    signal.readU64 lsb width = .ok (BitVec.ofNat 64 (value.toNat % 2 ^ width)) := by
  obtain ⟨found, read, bits⟩ := signal.readU64_eq small inside
  rw [read]
  refine congrArg Except.ok (BitVec.eq_of_getLsbD_eq fun index below => ?_)
  rw [bits, BitVec.getLsbD_ofNat, Nat.testBit_mod_two_pow]
  by_cases field : index < width
  · simp only [field, below, decide_true, Bool.true_and, holds index field]
    rfl
  · simp [field]

theorem readByte_of_bits {signal : Signal layout} {lsb size : Nat} {value : List UInt8}
    (inside : lsb + size * 8 ≤ layout.bits)
    (holds : ∀ offset < size * 8, signal.bitAt (lsb + offset) = byteBit value offset)
    {index : Nat} (below : index < size) :
    signal.readU64 (lsb + index * 8) 8 = .ok ((value.getD index 0).toBitVec.setWidth 64) := by
  have byte : ∀ offset < 8, signal.bitAt (lsb + index * 8 + offset) =
      ((value.getD index 0).toBitVec.setWidth 64).getLsbD offset := by
    intro offset inByte
    have quotient : (index * 8 + offset) / 8 = index := by omega
    have remainder : (index * 8 + offset) % 8 = offset := by omega
    rw [Nat.add_assoc, holds _ (by omega), byteBit, quotient, remainder,
      BitVec.getLsbD_setWidth]
    simp [show offset < 64 by omega]
  have bound : (value.getD index 0).toBitVec.toNat < 2 ^ 8 := BitVec.isLt _
  rw [readU64_of_bits (by decide) (by omega) byte, BitVec.toNat_setWidth,
    Nat.mod_eq_of_lt (show _ < 2 ^ 64 by omega), Nat.mod_eq_of_lt bound, BitVec.ofNat_toNat]

theorem readBytes_of_bits {signal : Signal layout} {lsb : Nat} {value : List UInt8}
    (inside : lsb + value.length * 8 ≤ layout.bits)
    (holds : ∀ offset < value.length * 8, signal.bitAt (lsb + offset) = byteBit value offset) :
    signal.readBytes value.length lsb = .ok value := by
  have bytes : (List.range value.length).map (fun index => value.getD index 0) = value :=
    List.ext_getElem (by simp) fun index low high => by simp [high]
  conv_rhs => rw [← bytes]
  refine mapM_ok fun index member => ?_
  rw [readByte_of_bits inside holds (List.mem_range.mp member)]
  simp only [bind, Except.bind, pure, Except.pure]
  rw [BitVec.setWidth_setWidth_of_le _ (by decide), BitVec.setWidth_eq, UInt8.ofBitVec_toBitVec]

end Signal

/-! ## Sequences of writes -/

/-- A call of one of the write functions. -/
inductive FieldWrite where
  | u64 (lsb width : Nat) (value : BitVec 64)
  | bit (index : Nat) (value : Bool)
  | bytes (lsb : Nat) (value : List UInt8)
  deriving DecidableEq

namespace FieldWrite

def lsb : FieldWrite → Nat
  | .u64 lsb _ _ => lsb
  | .bit index _ => index
  | .bytes lsb _ => lsb

def width : FieldWrite → Nat
  | .u64 _ width _ => width
  | .bit _ _ => 1
  | .bytes _ value => value.length * 8

/-- The bits of the value that is written. -/
def valueBit (offset : Nat) : FieldWrite → Bool
  | .u64 _ _ value => value.getLsbD offset
  | .bit _ value => value
  | .bytes _ value => Signal.byteBit value offset

/-- The field lies inside a signal, and is not too wide for its function. -/
def Fits (layout : SignalType) (write : FieldWrite) : Prop :=
  write.lsb + write.width ≤ layout.bits ∧
    ∀ lsb width value, write = .u64 lsb width value → width ≤ 64

def Covers (write : FieldWrite) (index : Nat) : Prop :=
  write.lsb ≤ index ∧ index < write.lsb + write.width

instance (write : FieldWrite) (index : Nat) : Decidable (write.Covers index) :=
  inferInstanceAs (Decidable (_ ∧ _))

def Disjoint (first second : FieldWrite) : Prop :=
  ∀ index, ¬(first.Covers index ∧ second.Covers index)

instance : Std.Symm Disjoint := ⟨fun _ _ apart index both => apart index both.symm⟩

def perform {layout : SignalType} (signal : Signal layout) :
    FieldWrite → Except Fault (Signal layout)
  | .u64 lsb width value => signal.writeU64 lsb width value
  | .bit index value => signal.setBit index value
  | .bytes lsb value => signal.writeBytes lsb value

/-- The read functions return the value of the field. -/
def ReadBack {layout : SignalType} (signal : Signal layout) : FieldWrite → Prop
  | .u64 lsb width value =>
      signal.readU64 lsb width = .ok (BitVec.ofNat 64 (value.toNat % 2 ^ width)) ∧
        (width = 1 → signal.bit lsb = .ok (value.getLsbD 0))
  | .bit index value =>
      signal.bit index = .ok value ∧
        signal.readU64 index 1 = .ok (BitVec.ofNat 64 value.toNat)
  | .bytes lsb value =>
      signal.readBytes value.length lsb = .ok value ∧
        ∀ index < value.length, signal.readU64 (lsb + index * 8) 8 =
          .ok ((value.getD index 0).toBitVec.setWidth 64)

/-- The bits that a call gives a value. -/
def store (write : FieldWrite) (index : Nat) : Option Bool :=
  if write.Covers index then some (write.valueBit (index - write.lsb)) else none

theorem store_of_covers {write : FieldWrite} {index : Nat} (covers : write.Covers index) :
    write.store index = some (write.valueBit (index - write.lsb)) := if_pos covers

theorem store_eq_none {write : FieldWrite} {index : Nat} :
    write.store index = none ↔ ¬write.Covers index := by
  rw [store]
  split <;> simp [*]

variable {layout : SignalType}

/-- A bit that a call covers takes the value of the field, and every other bit stays. -/
theorem overlay_store (signal : Signal layout) (write : FieldWrite) (index : Nat) :
    overlay store (fun index => signal.bitAt index) write index =
      if write.Covers index then write.valueBit (index - write.lsb) else signal.bitAt index := by
  rw [overlay, store]
  split <;> rfl

theorem perform_bits (signal : Signal layout) {write : FieldWrite} (fits : write.Fits layout) :
    ∃ next, write.perform signal = .ok next ∧
      ∀ index < layout.bits, next.bitAt index =
        if write.Covers index then write.valueBit (index - write.lsb)
        else signal.bitAt index := by
  cases write with
  | u64 lsb width value => exact signal.writeU64_eq value (fits.2 lsb width value rfl) fits.1
  | bit index value =>
      have inside : index < layout.bits := Nat.lt_of_succ_le fits.1
      obtain ⟨next, done, bits⟩ := signal.setBit_eq value inside
      have covers : ∀ place, (FieldWrite.bit index value).Covers place ↔ place = index := by
        intro place
        simp only [Covers, FieldWrite.lsb, width]
        omega
      refine ⟨next, done, fun place inSignal => ?_⟩
      simp only [covers]
      exact bits place inSignal
  | bytes lsb value => exact signal.writeBytes_eq value fits.1

/-- A call that fits succeeds, and lays its value over the bits of the signal. -/
theorem perform_eq (signal : Signal layout) {write : FieldWrite} (fits : write.Fits layout) :
    ∃ next, write.perform signal = .ok next ∧
      (fun index => next.bitAt index) =
        overlay store (fun index => signal.bitAt index) write := by
  obtain ⟨next, done, bits⟩ := perform_bits signal fits
  refine ⟨next, done, funext fun index => ?_⟩
  rw [overlay_store]
  by_cases inside : index < layout.bits
  · exact bits index inside
  · have outside : layout.bits ≤ index := Nat.le_of_not_lt inside
    have uncovered : ¬write.Covers index := fun covers => by
      have := fits.1
      have := covers.2
      omega
    rw [if_neg uncovered, next.bitAt_of_ge outside, signal.bitAt_of_ge outside]

/-- A signal that holds the bits of a field reads back its value. -/
theorem readBack_of_bits {signal : Signal layout} {write : FieldWrite}
    (fits : write.Fits layout)
    (holds : ∀ offset < write.width, signal.bitAt (write.lsb + offset) = write.valueBit offset) :
    write.ReadBack signal := by
  cases write with
  | u64 lsb width value =>
      refine ⟨Signal.readU64_of_bits (fits.2 lsb width value rfl) fits.1 holds, ?_⟩
      rintro rfl
      have inside : lsb < layout.bits := Nat.lt_of_succ_le fits.1
      rw [signal.bit_eq inside]
      exact congrArg Except.ok (holds 0 Nat.one_pos)
  | bit index value =>
      have inside : index < layout.bits := Nat.lt_of_succ_le fits.1
      have only : signal.bitAt index = value := holds 0 Nat.one_pos
      refine ⟨by rw [signal.bit_eq inside, only], ?_⟩
      have bits : ∀ offset < 1,
          signal.bitAt (index + offset) = (BitVec.ofNat 64 value.toNat).getLsbD offset := by
        intro offset below
        obtain rfl : offset = 0 := by omega
        rw [Nat.add_zero, only]
        cases value <;> rfl
      rw [Signal.readU64_of_bits (by decide) inside bits]
      cases value <;> rfl
  | bytes lsb value =>
      exact ⟨Signal.readBytes_of_bits fits.1 holds,
        fun index below => Signal.readByte_of_bits fits.1 holds below⟩

/-- A sequence of calls. -/
def performAll (signal : Signal layout) (writes : List FieldWrite) :
    Except Fault (Signal layout) :=
  writes.foldlM (fun signal write => write.perform signal) signal

theorem performAll_eq (signal : Signal layout) {writes : List FieldWrite}
    (fits : ∀ write ∈ writes, write.Fits layout) :
    ∃ final, performAll signal writes = .ok final ∧
      (fun index => final.bitAt index) =
        replay store (fun index => signal.bitAt index) writes := by
  induction writes generalizing signal with
  | nil => exact ⟨signal, rfl, rfl⟩
  | cons write writes ih =>
      obtain ⟨next, done, nextBits⟩ := perform_eq signal (fits write (by simp))
      obtain ⟨final, finished, finalBits⟩ :=
        ih next fun other member => fits other (by simp [member])
      refine ⟨final, ?_, ?_⟩
      · rw [performAll, List.foldlM_cons, done, ok_bind]
        exact finished
      · rw [finalBits, nextBits]
        rfl

/-- Of disjoint fields, at most one covers a bit. -/
theorem replay_of_covers {writes : List FieldWrite} (disjoint : writes.Pairwise Disjoint)
    (memory : Nat → Bool) {write : FieldWrite} (member : write ∈ writes) {index : Nat}
    (covers : write.Covers index) :
    replay store memory writes index = write.valueBit (index - write.lsb) := by
  refine replay_of_agreed member (store_of_covers covers) fun other otherMember found stored => ?_
  have otherCovers : other.Covers index := by
    by_contra uncovered
    rw [store_eq_none.mpr uncovered] at stored
    contradiction
  by_cases same : other = write
  · subst same
    rw [store_of_covers otherCovers] at stored
    exact (Option.some.inj stored).symm
  · exact absurd ⟨otherCovers, covers⟩ (disjoint.forall otherMember member same index)

theorem replay_of_uncovered {writes : List FieldWrite} (memory : Nat → Bool) {index : Nat}
    (uncovered : ∀ write ∈ writes, ¬write.Covers index) :
    replay store memory writes index = memory index :=
  replay_of_untouched fun write member => store_eq_none.mpr (uncovered write member)

/-- The calls may be made in any order. -/
theorem performAll_perm (signal : Signal layout) {writes order : List FieldWrite}
    (fits : ∀ write ∈ writes, write.Fits layout) (disjoint : writes.Pairwise Disjoint)
    (permuted : order.Perm writes) : performAll signal order = performAll signal writes := by
  have orderDisjoint : order.Pairwise Disjoint :=
    (permuted.pairwise_iff fun apart => Std.Symm.symm _ _ apart).mpr disjoint
  obtain ⟨first, firstEq, firstBits⟩ :=
    performAll_eq signal fun write member => fits write (permuted.mem_iff.mp member)
  obtain ⟨second, secondEq, secondBits⟩ := performAll_eq signal fits
  rw [firstEq, secondEq]
  refine congrArg Except.ok (Signal.ext_bitAt fun index _ => ?_)
  rw [congrFun firstBits index, congrFun secondBits index]
  by_cases covered : ∃ write ∈ writes, write.Covers index
  · obtain ⟨write, member, covers⟩ := covered
    rw [replay_of_covers orderDisjoint _ (permuted.mem_iff.mpr member) covers,
      replay_of_covers disjoint _ member covers]
  · have uncovered : ∀ write ∈ writes, ¬write.Covers index :=
      fun write member covers => covered ⟨write, member, covers⟩
    rw [replay_of_uncovered _ uncovered,
      replay_of_uncovered _ fun write member => uncovered write (permuted.mem_iff.mp member)]

end FieldWrite

end AxiTestbench
