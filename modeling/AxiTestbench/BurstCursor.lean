import AxiTestbench.Lib.Arithmetic
import AxiTestbench.Axi

/-!
# Burst addressing

`BurstCursor` of `axi.hpp`: the shape rules of a burst, the address of each of
its beats, the byte lanes a beat may use and the 4 KiB rule.  A cursor carries
the shape rules its constructor has checked.

The second half of the module states the addressing in unbounded integers, as
AXI prescribes it, and shows what the 64-bit code computes from it: the two
agree except for a beat that ends at `2 ^ 64`, whose lane mask is empty.
-/

namespace AxiTestbench

open Lib

namespace AddressPayload

/-- Number of bytes of a full-width beat, `2 ^ AxSIZE`. -/
def beatBytes (payload : AddressPayload) : Nat := 2 ^ payload.size.toNat

/-- Number of bytes of the burst, counting every beat as aligned. -/
def total (payload : AddressPayload) : Nat := payload.beats * payload.beatBytes

end AddressPayload

private def shapeError (detail : String) : Fault := .protocol none detail

/-- A burst whose shape has been validated against the bus width. -/
structure BurstCursor (dataBytes : Nat) where
  payload : AddressPayload
  size_lt : payload.size.toNat < 64
  fits : payload.beatBytes ≤ dataBytes
  not_reserved : payload.burst ≠ .reserved
  fixed_beats : payload.burst = .fixed → payload.beats ≤ 16
  wrap_beats : payload.burst = .wrap →
    payload.beats = 2 ∨ payload.beats = 4 ∨ payload.beats = 8 ∨ payload.beats = 16
  wrap_aligned : payload.burst = .wrap →
    payload.address.toNat &&& (payload.beatBytes - 1) = 0

namespace BurstCursor

variable {dataBytes : Nat}

/-- The constructor: `checked_beat_bytes` followed by `validate_shape`. -/
def new (payload : AddressPayload) : Except Fault (BurstCursor dataBytes) :=
  if representable : payload.size.toNat ≥ 64 then
    .error (shapeError "AXI AxSIZE is not representable")
  else if fits : payload.beatBytes > dataBytes then
    .error (shapeError "AXI AxSIZE exceeds the data bus width")
  else if reserved : payload.burst = .reserved then
    .error (shapeError "reserved AXI burst type")
  else if fixedBeats : payload.burst = .fixed ∧ payload.beats > 16 then
    .error (shapeError "AXI FIXED burst contains more than 16 beats")
  else if wrapBeats : payload.burst = .wrap ∧ payload.beats ≠ 2 ∧ payload.beats ≠ 4 ∧
      payload.beats ≠ 8 ∧ payload.beats ≠ 16 then
    .error (shapeError "AXI WRAP burst length is not 2, 4, 8, or 16")
  else if wrapAligned : payload.burst = .wrap ∧
      payload.address.toNat &&& (payload.beatBytes - 1) ≠ 0 then
    .error (shapeError "AXI WRAP burst start is not beat-aligned")
  else
    .ok
      { payload
        size_lt := by omega
        fits := by omega
        not_reserved := reserved
        fixed_beats := fun burst => by
          by_contra many
          exact fixedBeats ⟨burst, by omega⟩
        wrap_beats := fun burst => by
          by_contra other
          exact wrapBeats ⟨burst, by omega⟩
        wrap_aligned := fun burst => by
          by_contra unaligned
          exact wrapAligned ⟨burst, unaligned⟩ }

def beats (cursor : BurstCursor dataBytes) : Nat := cursor.payload.beats

def beatBytes (cursor : BurstCursor dataBytes) : Nat := cursor.payload.beatBytes

/-- Address of one beat.  The intermediate arithmetic is 128 bits wide. -/
def beatAddress (cursor : BurstCursor dataBytes) (index : Nat) : Except Fault Nat :=
  if index ≥ cursor.beats then
    .error (.outOfRange "AXI beat index out of range")
  else
    let start := cursor.payload.address.toNat
    let aligned := andNot 128 start (cursor.beatBytes - 1)
    let result : Except Fault Nat :=
      match cursor.payload.burst with
      | .fixed => .ok start
      | .increment => .ok (if index = 0 then start else aligned + index * cursor.beatBytes)
      | .wrap =>
          let boundary := cursor.beats * cursor.beatBytes
          let base := andNot 128 start (boundary - 1)
          .ok (base + (start - base + index * cursor.beatBytes) % boundary)
      | .reserved => .error (shapeError "reserved AXI burst type")
    match result with
    | .error fault => .error fault
    | .ok result =>
        if result > 2 ^ 64 - 1 then
          .error (shapeError "AXI address arithmetic overflow")
        else
          .ok result

/-- The lanes of the bus word at `address` that a beat may use.  `last` is
computed modulo `2 ^ 64`. -/
def lanesAt (dataBytes beatBytes address : Nat) : Lanes dataBytes := fun lane =>
  let alignedToSize := andNot 64 address (beatBytes - 1)
  let last := add64 alignedToSize beatBytes
  let byteAddress := add64 (andNot 64 address (dataBytes - 1)) lane
  if byteAddress ≥ address ∧ byteAddress < last then 1 else 0

def laneMask (cursor : BurstCursor dataBytes) (index : Nat) : Except Fault (Lanes dataBytes) := do
  let address ← cursor.beatAddress index
  return lanesAt dataBytes cursor.beatBytes address

def busWordAddress (cursor : BurstCursor dataBytes) (index : Nat) : Except Fault Nat := do
  let address ← cursor.beatAddress index
  return andNot 64 address (dataBytes - 1)

def validate4kBoundary (cursor : BurstCursor dataBytes) : Except Fault Unit :=
  let page := cursor.payload.address.toNat >>> 12
  forM (List.range cursor.beats) fun beat => do
    let base ← cursor.busWordAddress beat
    let mask ← cursor.laneMask beat
    forM (List.finRange dataBytes) fun lane =>
      if mask lane ≠ 0 ∧ add64 base lane >>> 12 ≠ page then
        .error (shapeError "AXI burst crosses a 4 KiB boundary")
      else
        .ok ()

end BurstCursor

/-- The checks of `make_cursor`: legal shape, no 4 KiB crossing. -/
def AddressPayload.Accepted (dataBytes : Nat) (payload : AddressPayload) : Prop :=
  ∃ cursor : BurstCursor dataBytes,
    BurstCursor.new payload = .ok cursor ∧ cursor.validate4kBoundary = .ok ()

/-! ## Addressing in unbounded integers -/

namespace AddressPayload

/-- First byte of a beat. -/
def beatStart (payload : AddressPayload) (index : Nat) : Nat :=
  let start := payload.address.toNat
  match payload.burst with
  | .fixed | .reserved => start
  | .increment =>
      if index = 0 then start
      else start / payload.beatBytes * payload.beatBytes + index * payload.beatBytes
  | .wrap =>
      start / payload.total * payload.total +
        (start % payload.total + index * payload.beatBytes) % payload.total

/-- The byte after a beat: the next multiple of the beat size. -/
def beatEnd (payload : AddressPayload) (index : Nat) : Nat :=
  payload.beatStart index / payload.beatBytes * payload.beatBytes + payload.beatBytes

/-- Whether some beat of the burst covers a byte address. -/
def Touches (payload : AddressPayload) (byte : Nat) : Prop :=
  ∃ index < payload.beats, payload.beatStart index ≤ byte ∧ byte < payload.beatEnd index

/-- Whether the burst covers the last byte of the 64-bit address space, which
no mapping can contain. -/
def TouchesTop (payload : AddressPayload) : Prop := payload.Touches (2 ^ 64 - 1)

instance (payload : AddressPayload) (byte : Nat) : Decidable (payload.Touches byte) :=
  inferInstanceAs (Decidable (∃ index < payload.beats, _))

instance (payload : AddressPayload) : Decidable payload.TouchesTop :=
  inferInstanceAs (Decidable (payload.Touches _))

/-- Address of the bus word that holds a beat. -/
def busWord (dataBytes : Nat) (payload : AddressPayload) (index : Nat) : Nat :=
  payload.beatStart index / dataBytes * dataBytes

/-- The lane mask the code computes: the lanes of the beat, unless the beat ends
at `2 ^ 64`. -/
def mask (dataBytes : Nat) (payload : AddressPayload) (index : Nat) : Lanes dataBytes :=
  fun lane =>
    if payload.beatStart index ≤ payload.busWord dataBytes index + lane ∧
        payload.busWord dataBytes index + lane < payload.beatEnd index ∧
        payload.beatEnd index < 2 ^ 64 then
      1
    else
      0

theorem mask_ne_zero_iff {dataBytes : Nat} (payload : AddressPayload) (index : Nat)
    (lane : Fin dataBytes) :
    payload.mask dataBytes index lane ≠ 0 ↔
      payload.beatStart index ≤ payload.busWord dataBytes index + lane ∧
        payload.busWord dataBytes index + lane < payload.beatEnd index ∧
        payload.beatEnd index < 2 ^ 64 := by
  simp only [mask]
  split <;> simp_all

end AddressPayload

namespace BurstCursor

variable {dataBytes : Nat}

@[simp] theorem payload_of_new {payload : AddressPayload} {cursor : BurstCursor dataBytes}
    (built : BurstCursor.new payload = .ok cursor) : cursor.payload = payload := by
  simp only [new] at built
  repeat' split at built
  all_goals first | contradiction | (cases built; rfl)

/-- The constructor accepts every payload that already has a cursor. -/
theorem new_payload (cursor : BurstCursor dataBytes) :
    BurstCursor.new cursor.payload = .ok cursor := by
  obtain ⟨payload, sizeLt, fits, notReserved, fixedBeats, wrapBeats, wrapAligned⟩ := cursor
  have fixedOk : ¬(payload.burst = .fixed ∧ payload.beats > 16) := by
    intro both
    exact absurd (fixedBeats both.1) (by omega)
  have wrapOk : ¬(payload.burst = .wrap ∧ payload.beats ≠ 2 ∧ payload.beats ≠ 4 ∧
      payload.beats ≠ 8 ∧ payload.beats ≠ 16) := by
    intro both
    have := wrapBeats both.1
    omega
  have alignOk : ¬(payload.burst = .wrap ∧
      payload.address.toNat &&& (payload.beatBytes - 1) ≠ 0) :=
    fun both => both.2 (wrapAligned both.1)
  simp only [new]
  rw [dif_neg (by omega), dif_neg (by omega), dif_neg notReserved, dif_neg fixedOk,
    dif_neg wrapOk, dif_neg alignOk]

theorem total_two_pow (cursor : BurstCursor dataBytes) (burst : cursor.payload.burst = .wrap) :
    ∃ exponent ≤ 128, cursor.payload.total = 2 ^ exponent := by
  have sizeLt := cursor.size_lt
  have scale : ∀ extra ≤ 4, cursor.payload.beats = 2 ^ extra →
      ∃ exponent ≤ 128, cursor.payload.total = 2 ^ exponent := by
    intro extra extraLe beatsEq
    refine ⟨extra + cursor.payload.size.toNat, by omega, ?_⟩
    rw [AddressPayload.total, AddressPayload.beatBytes, beatsEq, Nat.pow_add]
  rcases cursor.wrap_beats burst with two | four | eight | sixteen
  · exact scale 1 (by decide) two
  · exact scale 2 (by decide) four
  · exact scale 3 (by decide) eight
  · exact scale 4 (by decide) sixteen

/-- The address computed by the code is the prescribed one, or the code reports
an overflow. -/
theorem beatAddress_eq (cursor : BurstCursor dataBytes) {index : Nat}
    (inRange : index < cursor.payload.beats) :
    cursor.beatAddress index =
      if cursor.payload.beatStart index < 2 ^ 64 then .ok (cursor.payload.beatStart index)
      else .error (shapeError "AXI address arithmetic overflow") := by
  have startLt : cursor.payload.address.toNat < 2 ^ 128 :=
    Nat.lt_of_lt_of_le cursor.payload.address.toNat_lt (by decide)
  have narrow : ∀ (value : Nat) (fault : Fault),
      (if value > 2 ^ 64 - 1 then (.error fault : Except Fault Nat) else .ok value) =
        if value < 2 ^ 64 then .ok value else .error fault := by
    intro value fault
    split <;> split <;> first | rfl | omega
  have alignedEq : andNot 128 cursor.payload.address.toNat (cursor.payload.beatBytes - 1) =
      cursor.payload.address.toNat / cursor.payload.beatBytes * cursor.payload.beatBytes :=
    andNot_two_pow (Nat.le_trans (Nat.le_of_lt cursor.size_lt) (by decide)) startLt
  cases burst : cursor.payload.burst with
  | fixed =>
      simp only [beatAddress, beats, ge_iff_le, Nat.not_le.mpr inRange, if_false,
        AddressPayload.beatStart, burst]
      exact narrow _ _
  | increment =>
      simp only [beatAddress, beats, beatBytes, ge_iff_le, Nat.not_le.mpr inRange, if_false,
        AddressPayload.beatStart, burst, alignedEq]
      exact narrow _ _
  | reserved => exact absurd burst cursor.not_reserved
  | wrap =>
      obtain ⟨exponent, exponentLe, totalEq⟩ := cursor.total_two_pow burst
      have baseEq : andNot 128 cursor.payload.address.toNat (cursor.payload.total - 1) =
          cursor.payload.address.toNat / cursor.payload.total * cursor.payload.total := by
        rw [totalEq]
        exact andNot_two_pow exponentLe startLt
      have offsetEq : cursor.payload.address.toNat -
          cursor.payload.address.toNat / cursor.payload.total * cursor.payload.total =
            cursor.payload.address.toNat % cursor.payload.total := by
        have := Nat.div_add_mod' cursor.payload.address.toNat cursor.payload.total
        omega
      have boundaryEq : cursor.payload.beats * cursor.payload.beatBytes =
          cursor.payload.total := rfl
      simp only [beatAddress, beats, beatBytes, ge_iff_le, Nat.not_le.mpr inRange, if_false,
        AddressPayload.beatStart, burst, boundaryEq, baseEq, offsetEq]
      exact narrow _ _

/-! ### Beats inside bus words -/

section Widths

variable (width : dataBytes = 4 ∨ dataBytes = 8 ∨ dataBytes = 16)

include width

theorem beatBytes_cases (cursor : BurstCursor dataBytes) :
    cursor.payload.beatBytes = 1 ∨ cursor.payload.beatBytes = 2 ∨
      cursor.payload.beatBytes = 4 ∨ cursor.payload.beatBytes = 8 ∨
      cursor.payload.beatBytes = 16 := by
  have fits : 2 ^ cursor.payload.size.toNat ≤ 2 ^ 4 := by
    have := cursor.fits
    simp only [AddressPayload.beatBytes] at this
    omega
  have sizeLe : cursor.payload.size.toNat ≤ 4 :=
    (Nat.pow_le_pow_iff_right (by decide)).mp fits
  simp only [AddressPayload.beatBytes]
  interval_cases cursor.payload.size.toNat <;> simp

/-- A beat is a nonempty interval that stays inside its bus word. -/
theorem beat_in_word (cursor : BurstCursor dataBytes) (index : Nat) :
    cursor.payload.busWord dataBytes index ≤ cursor.payload.beatStart index ∧
      cursor.payload.beatStart index < cursor.payload.beatEnd index ∧
      cursor.payload.beatEnd index ≤ cursor.payload.beatStart index + cursor.payload.beatBytes ∧
      cursor.payload.beatEnd index ≤ cursor.payload.busWord dataBytes index + dataBytes := by
  have fits := cursor.fits
  simp only [AddressPayload.busWord, AddressPayload.beatEnd]
  generalize cursor.payload.beatStart index = start
  rcases cursor.beatBytes_cases width with bytes | bytes | bytes | bytes | bytes <;>
    rw [bytes] at fits ⊢ <;> rcases width with rfl | rfl | rfl <;> omega

/-- A beat that starts below `2 ^ 64` ends there at the latest. -/
theorem beatEnd_le (cursor : BurstCursor dataBytes) {index : Nat}
    (startLt : cursor.payload.beatStart index < 2 ^ 64) :
    cursor.payload.beatEnd index ≤ 2 ^ 64 := by
  simp only [AddressPayload.beatEnd]
  rcases cursor.beatBytes_cases width with bytes | bytes | bytes | bytes | bytes <;>
    rw [bytes] <;> omega

theorem busWordAddress_eq (cursor : BurstCursor dataBytes) {index : Nat}
    (inRange : index < cursor.payload.beats)
    (startLt : cursor.payload.beatStart index < 2 ^ 64) :
    cursor.busWordAddress index = .ok (cursor.payload.busWord dataBytes index) := by
  have aligned : andNot 64 (cursor.payload.beatStart index) (dataBytes - 1) =
      cursor.payload.beatStart index / dataBytes * dataBytes := by
    rcases width with rfl | rfl | rfl
    · exact andNot_two_pow (by decide : 2 ≤ 64) startLt
    · exact andNot_two_pow (by decide : 3 ≤ 64) startLt
    · exact andNot_two_pow (by decide : 4 ≤ 64) startLt
  simp only [busWordAddress, beatAddress_eq cursor inRange, startLt, if_true, AddressPayload.busWord,
    ← aligned]
  rfl

theorem laneMask_eq (cursor : BurstCursor dataBytes) {index : Nat}
    (inRange : index < cursor.payload.beats)
    (startLt : cursor.payload.beatStart index < 2 ^ 64) :
    cursor.laneMask index = .ok (cursor.payload.mask dataBytes index) := by
  have wordEq : andNot 64 (cursor.payload.beatStart index) (dataBytes - 1) =
      cursor.payload.busWord dataBytes index := by
    have word := cursor.busWordAddress_eq width inRange startLt
    simp only [busWordAddress, beatAddress_eq cursor inRange, startLt, if_true] at word
    exact Except.ok.inj word
  have alignedEq : andNot 64 (cursor.payload.beatStart index) (cursor.payload.beatBytes - 1) =
      cursor.payload.beatStart index / cursor.payload.beatBytes * cursor.payload.beatBytes :=
    andNot_two_pow (Nat.le_of_lt cursor.size_lt) startLt
  have endLe := cursor.beatEnd_le width startLt
  obtain ⟨wordLe, _, _, endInWord⟩ := cursor.beat_in_word width index
  simp only [laneMask, beatAddress_eq cursor inRange, startLt, if_true]
  refine congrArg Except.ok (funext fun lane => ?_)
  have laneLt := lane.isLt
  have byteEq : add64 (cursor.payload.busWord dataBytes index) lane =
      cursor.payload.busWord dataBytes index + lane := by
    apply add64_eq
    simp only [AddressPayload.busWord]
    generalize cursor.payload.beatStart index = start at startLt
    rcases width with rfl | rfl | rfl <;> omega
  simp only [lanesAt, beatBytes, wordEq, alignedEq, byteEq, AddressPayload.mask]
  -- The end of the beat wraps to zero exactly when the beat ends at the top.
  rcases Nat.lt_or_eq_of_le endLe with below | top
  · have lastEq : add64 (cursor.payload.beatStart index / cursor.payload.beatBytes *
        cursor.payload.beatBytes) cursor.payload.beatBytes = cursor.payload.beatEnd index :=
      add64_eq below
    rw [lastEq]
    simp only [below, and_true, ge_iff_le]
  · have lastEq : add64 (cursor.payload.beatStart index / cursor.payload.beatBytes *
        cursor.payload.beatBytes) cursor.payload.beatBytes = 0 := by
      simp only [AddressPayload.beatEnd] at top
      rw [add64, top, Nat.mod_self]
    rw [lastEq, top]
    simp

/-- A burst accepted by `make_cursor` has a cursor and stays below `2 ^ 64`. -/
theorem accepted_iff (payload : AddressPayload) :
    payload.Accepted dataBytes ↔
      ∃ cursor : BurstCursor dataBytes, BurstCursor.new payload = .ok cursor ∧
        ∀ index < payload.beats, payload.beatStart index < 2 ^ 64 ∧
          ∀ lane : Fin dataBytes, payload.mask dataBytes index lane ≠ 0 →
            (payload.busWord dataBytes index + lane) / 4096 = payload.address.toNat / 4096 := by
  refine exists_congr fun cursor => and_congr_right fun built => ?_
  have payloadEq := payload_of_new built
  simp only [validate4kBoundary, forM_eq_ok_iff, List.mem_range, beats, payloadEq]
  refine forall₂_congr fun index inRange => ?_
  rw [← payloadEq] at inRange
  by_cases startLt : payload.beatStart index < 2 ^ 64
  · rw [← payloadEq] at startLt ⊢
    rw [cursor.busWordAddress_eq width inRange startLt, cursor.laneMask_eq width inRange startLt]
    simp only [bind, Except.bind, forM_eq_ok_iff, List.mem_finRange, true_implies, startLt,
      true_and]
    refine forall_congr' fun lane => ?_
    have byteEq : add64 (cursor.payload.busWord dataBytes index) lane =
        cursor.payload.busWord dataBytes index + lane := by
      apply add64_eq
      have laneLt := lane.isLt
      simp only [AddressPayload.busWord]
      generalize cursor.payload.beatStart index = start at startLt
      rcases width with rfl | rfl | rfl <;> omega
    rw [byteEq, Nat.shiftRight_eq_div_pow, Nat.shiftRight_eq_div_pow]
    split
    next crossing =>
      simp only [reduceCtorEq, false_iff]
      exact fun inside => crossing.2 (inside crossing.1)
    next inside =>
      simp only [true_iff]
      intro enabled
      by_contra outside
      exact inside ⟨enabled, outside⟩
  · rw [← payloadEq] at startLt
    simp only [← payloadEq, busWordAddress, beatAddress_eq cursor inRange, startLt, if_false,
      bind, Except.bind, reduceCtorEq, false_and]

end Widths

end BurstCursor

end AxiTestbench
