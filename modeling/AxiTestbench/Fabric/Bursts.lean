import AxiTestbench.Lib.Tiling
import AxiTestbench.Fabric.Routing

/-!
# The bytes of a burst

What `BurstCursor` computes, against the rules of AXI: the bytes that the lane masks
of a burst enable, beat by beat, and the bursts that the shape and 4 KiB checks accept.
-/

namespace AxiTestbench

open Lib

/-! ## Bytes of the beats in unbounded integers -/

namespace AddressPayload

/-- The bytes of one beat. -/
def beatSet (payload : AddressPayload) (index : Nat) : Set Nat :=
  Set.Ico (payload.beatStart index) (payload.beatEnd index)

theorem beatBytes_pos (payload : AddressPayload) : 0 < payload.beatBytes :=
  Nat.two_pow_pos _

/-- A beat that starts at a multiple of its size is full. -/
theorem beatEnd_of_dvd {payload : AddressPayload} {index : Nat}
    (aligned : payload.beatBytes ∣ payload.beatStart index) :
    payload.beatEnd index = payload.beatStart index + payload.beatBytes := by
  rw [beatEnd, Nat.div_mul_cancel aligned]

theorem beatSet_fixed {payload : AddressPayload} (burst : payload.burst = .fixed) (index : Nat) :
    payload.beatSet index = Set.Ico payload.address.toNat
      (payload.address.toNat / payload.beatBytes * payload.beatBytes + payload.beatBytes) := by
  simp only [beatSet, beatEnd, beatStart, burst]

theorem beatSet_increment {payload : AddressPayload} (burst : payload.burst = .increment)
    (index : Nat) :
    payload.beatSet index = Set.Ico
      (max payload.address.toNat (payload.address.toNat / payload.beatBytes * payload.beatBytes +
        index * payload.beatBytes))
      (payload.address.toNat / payload.beatBytes * payload.beatBytes +
        (index + 1) * payload.beatBytes) := by
  have division := Nat.div_add_mod' payload.address.toNat payload.beatBytes
  have remainder := Nat.mod_lt payload.address.toNat payload.beatBytes_pos
  cases index with
  | zero =>
      simp only [beatSet, beatEnd, beatStart, burst, if_true, Nat.zero_mul, Nat.add_zero,
        Nat.zero_add, Nat.one_mul]
      rw [Nat.max_eq_left (by omega)]
  | succ index =>
      have start : payload.beatStart (index + 1) =
          payload.address.toNat / payload.beatBytes * payload.beatBytes +
            (index + 1) * payload.beatBytes := by
        simp [beatStart, burst]
      have aligned : payload.beatBytes ∣ payload.beatStart (index + 1) := by
        rw [start]
        exact Nat.dvd_add (Nat.dvd_mul_left _ _) (Nat.dvd_mul_left _ _)
      have far : payload.beatBytes ≤ (index + 1) * payload.beatBytes :=
        Nat.le_mul_of_pos_left _ (Nat.succ_pos index)
      rw [beatSet, beatEnd_of_dvd aligned, start, Nat.max_eq_right (by omega),
        Nat.add_mul (index + 1) 1, Nat.one_mul, Nat.add_assoc]

theorem tiles_increment {payload : AddressPayload} (burst : payload.burst = .increment) :
    Tiles payload.beatSet payload.beats (Set.Ico payload.address.toNat
      (payload.address.toNat / payload.beatBytes * payload.beatBytes + payload.total)) := by
  have division := Nat.div_add_mod' payload.address.toNat payload.beatBytes
  have remainder := Nat.mod_lt payload.address.toNat payload.beatBytes_pos
  exact (tiles_blocks (by omega) (by omega) payload.beats).congr fun index _ =>
    beatSet_increment burst index

/-- First byte of the container of a wrapping burst. -/
def container (payload : AddressPayload) : Nat :=
  payload.address.toNat / payload.total * payload.total

/-- Number of beats between the start of its container and that of a wrapping burst. -/
def skipped (payload : AddressPayload) : Nat :=
  payload.address.toNat % payload.total / payload.beatBytes

theorem total_pos (payload : AddressPayload) : 0 < payload.total :=
  Nat.mul_pos payload.beats_pos payload.beatBytes_pos

section Wrap

variable {payload : AddressPayload} (burst : payload.burst = .wrap)
  (aligned : payload.beatBytes ∣ payload.address.toNat)

include aligned in
theorem address_eq_container_add :
    payload.address.toNat = payload.container + payload.skipped * payload.beatBytes := by
  have dvd : payload.beatBytes ∣ payload.address.toNat % payload.total :=
    (Nat.dvd_mod_iff (Nat.dvd_mul_left _ _)).mpr aligned
  rw [skipped, Nat.div_mul_cancel dvd, container, Nat.div_add_mod']

theorem skipped_lt (payload : AddressPayload) : payload.skipped < payload.beats := by
  rw [skipped, Nat.div_lt_iff_lt_mul payload.beatBytes_pos]
  exact Nat.mod_lt _ payload.total_pos

include burst aligned in
theorem beatStart_wrap (index : Nat) :
    payload.beatStart index =
      payload.container + (payload.skipped + index) % payload.beats * payload.beatBytes := by
  have dvd : payload.beatBytes ∣ payload.address.toNat % payload.total :=
    (Nat.dvd_mod_iff (Nat.dvd_mul_left _ _)).mpr aligned
  have offset : payload.address.toNat % payload.total = payload.skipped * payload.beatBytes := by
    rw [skipped, Nat.div_mul_cancel dvd]
  simp only [beatStart, burst]
  rw [offset, ← Nat.add_mul, total, Nat.mul_mod_mul_right, container, total]

include burst aligned in
theorem beatSet_wrap (index : Nat) :
    payload.beatSet index = Set.Ico
      (payload.container + (payload.skipped + index) % payload.beats * payload.beatBytes)
      (payload.container + ((payload.skipped + index) % payload.beats + 1) * payload.beatBytes) := by
  have containerDvd : payload.beatBytes ∣ payload.container :=
    Nat.dvd_mul_left_of_dvd (Nat.dvd_mul_left _ _) _
  have startDvd : payload.beatBytes ∣ payload.beatStart index := by
    rw [beatStart_wrap burst aligned]
    exact Nat.dvd_add containerDvd (Nat.dvd_mul_left _ _)
  rw [beatSet, beatEnd_of_dvd startDvd, beatStart_wrap burst aligned, Nat.add_assoc, Nat.add_mul,
    Nat.one_mul]

include burst aligned in
/-- Up to the end of the container the beats ascend from the start address. -/
theorem tiles_wrap_up :
    Tiles payload.beatSet (payload.beats - payload.skipped)
      (Set.Ico payload.address.toNat (payload.container + payload.total)) := by
  have below := payload.skipped_lt
  have start := address_eq_container_add aligned
  have whole : payload.container + payload.total =
      payload.address.toNat + (payload.beats - payload.skipped) * payload.beatBytes := by
    rw [start, Nat.add_assoc, ← Nat.add_mul, total]
    congr 2
    omega
  rw [whole]
  have positive := payload.beatBytes_pos
  refine (tiles_blocks (Nat.le_refl payload.address.toNat) (by omega) _).congr fun index inRange => ?_
  rw [beatSet_wrap burst aligned, Nat.mod_eq_of_lt (by omega), Nat.max_eq_right (by omega), start]
  simp only [Nat.add_mul]
  congr 1 <;> omega

include burst aligned in
/-- After the end of the container they ascend from its beginning. -/
theorem tiles_wrap_down :
    Tiles (fun index => payload.beatSet (payload.beats - payload.skipped + index)) payload.skipped
      (Set.Ico payload.container payload.address.toNat) := by
  have below := payload.skipped_lt
  have positive := payload.beatBytes_pos
  rw [address_eq_container_add aligned]
  refine (tiles_blocks (Nat.le_refl payload.container) (by omega) _).congr fun index inRange => ?_
  have turned : (payload.skipped + (payload.beats - payload.skipped + index)) % payload.beats =
      index := by
    rw [← Nat.add_assoc, Nat.add_sub_cancel' below.le, Nat.add_mod_left, Nat.mod_eq_of_lt (by omega)]
  rw [beatSet_wrap burst aligned, turned, Nat.max_eq_right (by omega)]

include burst aligned in
/-- Each byte of the container belongs to one beat. -/
theorem existsUnique_wrap {byte : Nat}
    (inside : byte ∈ Set.Ico payload.container (payload.container + payload.total)) :
    ∃! index, index < payload.beats ∧ byte ∈ payload.beatSet index := by
  have below := payload.skipped_lt
  have up := tiles_wrap_up burst aligned
  have down := tiles_wrap_down burst aligned
  have start := address_eq_container_add aligned
  by_cases high : payload.address.toNat ≤ byte
  · obtain ⟨index, ⟨inRange, member⟩, unique⟩ := up.existsUnique ⟨high, inside.2⟩
    refine ⟨index, ⟨by omega, member⟩, ?_⟩
    rintro other ⟨otherRange, otherMember⟩
    by_cases early : other < payload.beats - payload.skipped
    · exact unique other ⟨early, otherMember⟩
    · have late := (down.covers byte).mpr ⟨other - (payload.beats - payload.skipped), by omega, by
        simpa [Nat.add_sub_cancel' (Nat.not_lt.mp early)] using otherMember⟩
      exact absurd late.2 (by omega)
  · obtain ⟨index, ⟨inRange, member⟩, unique⟩ := down.existsUnique
      (show byte ∈ Set.Ico payload.container payload.address.toNat from ⟨inside.1, by omega⟩)
    refine ⟨payload.beats - payload.skipped + index, ⟨by omega, member⟩, ?_⟩
    rintro other ⟨otherRange, otherMember⟩
    by_cases early : other < payload.beats - payload.skipped
    · have top := (up.covers byte).mpr ⟨other, early, otherMember⟩
      exact absurd top.1 (by omega)
    · have equal := unique (other - (payload.beats - payload.skipped)) ⟨by omega, by
        simpa [Nat.add_sub_cancel' (Nat.not_lt.mp early)] using otherMember⟩
      omega

end Wrap

end AddressPayload

/-! ## Bytes that the lane masks enable -/

namespace BurstCursor

variable {dataBytes : Nat}

/-- The bytes `bus_word_address(index) + lane` of the lanes in `lane_mask(index)`. -/
def byteSet (cursor : BurstCursor dataBytes) (index : Nat) : Set Nat :=
  {byte | ∃ word mask, cursor.busWordAddress index = .ok word ∧
    cursor.laneMask index = .ok mask ∧ ∃ lane, mask lane = 1 ∧ byte = add64 word lane}

theorem dvd_of_wrap (cursor : BurstCursor dataBytes) (burst : cursor.payload.burst = .wrap) :
    cursor.payload.beatBytes ∣ cursor.payload.address.toNat := by
  have aligned := cursor.wrap_aligned burst
  rw [AddressPayload.beatBytes, Nat.and_two_pow_sub_one_eq_mod] at aligned
  exact Nat.dvd_of_mod_eq_zero aligned

/-- A mask entry is zero or one. -/
theorem mask_eq_one_iff (payload : AddressPayload) (index : Nat) (lane : Fin dataBytes) :
    payload.mask dataBytes index lane = 1 ↔ payload.mask dataBytes index lane ≠ 0 := by
  simp only [AddressPayload.mask]
  split <;> simp

variable (width : dataBytes = 4 ∨ dataBytes = 8 ∨ dataBytes = 16)

include width

/-- Away from the top of the address space the masks enable the bytes of the beat. -/
theorem byteSet_eq (cursor : BurstCursor dataBytes) {index : Nat}
    (inRange : index < cursor.payload.beats) (below : cursor.payload.beatEnd index < 2 ^ 64) :
    cursor.byteSet index = cursor.payload.beatSet index := by
  obtain ⟨wordLe, nonempty, -, endInWord⟩ := cursor.beat_in_word width index
  have startLt : cursor.payload.beatStart index < 2 ^ 64 := by omega
  ext byte
  simp only [byteSet, Set.mem_ofPred_eq, cursor.busWordAddress_eq width inRange startLt,
    cursor.laneMask_eq width inRange startLt, Except.ok.injEq, AddressPayload.beatSet, Set.mem_Ico]
  constructor
  · rintro ⟨word, mask, rfl, rfl, lane, enabled, rfl⟩
    have inBeat := (cursor.payload.mask_ne_zero_iff index lane).mp
      ((mask_eq_one_iff _ _ _).mp enabled)
    rw [add64_eq (by omega)]
    omega
  · rintro ⟨lower, upper⟩
    have inWord : byte - cursor.payload.busWord dataBytes index < dataBytes := by omega
    refine ⟨_, _, rfl, rfl, ⟨_, inWord⟩, ?_, ?_⟩
    · rw [mask_eq_one_iff, AddressPayload.mask_ne_zero_iff]
      simp only []
      omega
    · rw [add64_eq (by simp only []; omega)]
      simp only []
      omega

end BurstCursor

theorem beatEnd_lt_of_offTop {payload : AddressPayload} {index : Nat}
    (inRange : index < payload.beats) (nonempty : payload.beatStart index < payload.beatEnd index)
    (endLe : payload.beatEnd index ≤ 2 ^ 64) (offTop : ¬payload.TouchesTop) :
    payload.beatEnd index < 2 ^ 64 := by
  by_contra atTop
  exact offTop ⟨index, inRange, by omega, by omega⟩

/-- Bursts address exactly the bytes that AXI prescribes, unless they touch the last
byte of the address space. -/
theorem burst_bytes_exact {dataBytes : Nat}
    (width : dataBytes = 4 ∨ dataBytes = 8 ∨ dataBytes = 16) (payload : AddressPayload)
    (cursor : BurstCursor dataBytes) (built : BurstCursor.new payload = .ok cursor)
    (paged : cursor.validate4kBoundary = .ok ()) (offTop : ¬payload.TouchesTop) :
    (∀ index < payload.beats, ∃ start word, cursor.beatAddress index = .ok start ∧
      cursor.busWordAddress index = .ok word ∧
      cursor.byteSet index =
        Set.Ico start (start / payload.beatBytes * payload.beatBytes + payload.beatBytes) ∧
      (cursor.byteSet index).Nonempty ∧ dataBytes ∣ word ∧
      cursor.byteSet index ⊆ Set.Ico word (word + dataBytes)) ∧
    (payload.burst = .increment →
      Tiles cursor.byteSet payload.beats (Set.Ico payload.address.toNat
        (payload.address.toNat / payload.beatBytes * payload.beatBytes + payload.total))) ∧
    (payload.burst = .wrap →
      let base := payload.address.toNat / payload.total * payload.total
      payload.address.toNat ∈ Set.Ico base (base + payload.total) ∧
      (∀ index < payload.beats, cursor.byteSet index ⊆ Set.Ico base (base + payload.total)) ∧
      (∀ byte ∈ Set.Ico base (base + payload.total),
        ∃! index, index < payload.beats ∧ byte ∈ cursor.byteSet index) ∧
      ∃ turn ≤ payload.beats, 0 < turn ∧
        Tiles cursor.byteSet turn (Set.Ico payload.address.toNat (base + payload.total)) ∧
        Tiles (fun index => cursor.byteSet (turn + index)) (payload.beats - turn)
          (Set.Ico base payload.address.toNat)) ∧
    (payload.burst = .fixed → ∀ index < payload.beats, cursor.byteSet index =
      Set.Ico payload.address.toNat
        (payload.address.toNat / payload.beatBytes * payload.beatBytes + payload.beatBytes)) := by
  obtain ⟨-, -, starts⟩ := (BurstCursor.accepted_iff width payload).mp ⟨cursor, built, paged⟩
  obtain rfl := BurstCursor.payload_of_new built
  have below : ∀ index < cursor.payload.beats, cursor.payload.beatEnd index < 2 ^ 64 := by
    intro index inRange
    have startLt := (starts index inRange).1
    exact beatEnd_lt_of_offTop inRange (cursor.beat_in_word width index).2.1
      (cursor.beatEnd_le width startLt) offTop
  have same : ∀ index < cursor.payload.beats,
      cursor.byteSet index = cursor.payload.beatSet index :=
    fun index inRange => cursor.byteSet_eq width inRange (below index inRange)
  refine ⟨fun index inRange => ?_, fun burst => ?_, fun burst => ?_, fun burst index inRange => ?_⟩
  · have startLt := (starts index inRange).1
    obtain ⟨wordLe, nonempty, -, endInWord⟩ := cursor.beat_in_word width index
    refine ⟨cursor.payload.beatStart index, cursor.payload.busWord dataBytes index, ?_,
      cursor.busWordAddress_eq width inRange startLt, same index inRange, ?_,
      Nat.dvd_mul_left _ _, ?_⟩
    · rw [cursor.beatAddress_eq inRange, if_pos startLt]
    · rw [same index inRange]
      exact ⟨cursor.payload.beatStart index, Nat.le_refl _, nonempty⟩
    · rw [same index inRange]
      exact Set.Ico_subset_Ico wordLe endInWord
  · exact (AddressPayload.tiles_increment burst).congr same
  · intro base
    have aligned := cursor.dvd_of_wrap burst
    have start := AddressPayload.address_eq_container_add aligned
    have skippedLt := cursor.payload.skipped_lt
    have room : (cursor.payload.skipped + 1) * cursor.payload.beatBytes ≤ cursor.payload.total :=
      Nat.mul_le_mul_right _ skippedLt
    have positive := cursor.payload.beatBytes_pos
    rw [Nat.add_mul, Nat.one_mul] at room
    refine ⟨?_, fun index inRange => ?_, fun byte inside => ?_,
      cursor.payload.beats - cursor.payload.skipped, Nat.sub_le _ _, by omega, ?_, ?_⟩
    · exact ⟨show cursor.payload.container ≤ _ by omega,
        show _ < cursor.payload.container + _ by omega⟩
    · have last : ((cursor.payload.skipped + index) % cursor.payload.beats + 1) *
          cursor.payload.beatBytes ≤ cursor.payload.total :=
        Nat.mul_le_mul_right _ (Nat.mod_lt _ cursor.payload.beats_pos)
      rw [same index inRange, AddressPayload.beatSet_wrap burst aligned]
      exact Set.Ico_subset_Ico (Nat.le_add_right _ _) (Nat.add_le_add_left last _)
    · obtain ⟨index, ⟨inRange, member⟩, unique⟩ :=
        AddressPayload.existsUnique_wrap burst aligned inside
      refine ⟨index, ⟨inRange, same index inRange ▸ member⟩, ?_⟩
      rintro other ⟨otherRange, otherMember⟩
      exact unique other ⟨otherRange, same other otherRange ▸ otherMember⟩
    · exact (AddressPayload.tiles_wrap_up burst aligned).congr fun index inRange =>
        same index (by omega)
    · rw [Nat.sub_sub_self skippedLt.le]
      exact (AddressPayload.tiles_wrap_down burst aligned).congr fun index inRange =>
        same _ (by omega)
  · rw [same index inRange, AddressPayload.beatSet_fixed burst]

/-- A burst of four words that starts in the middle of its container. -/
def wrapCursor : BurstCursor 8 where
  payload := { address := 0x1008, length := 3, size := 2, burst := .wrap }
  size_lt := by decide
  fits := by decide
  not_reserved := by decide
  fixed_beats := by decide
  wrap_beats := by decide
  wrap_aligned := by decide

theorem burst_bytes_exact_wrap :
    wrapCursor.validate4kBoundary = .ok () ∧ ¬wrapCursor.payload.TouchesTop ∧
      ∃ turn ≤ 4, 0 < turn ∧ Tiles wrapCursor.byteSet turn (Set.Ico 0x1008 0x1010) ∧
        Tiles (fun index => wrapCursor.byteSet (turn + index)) (4 - turn)
          (Set.Ico 0x1000 0x1008) := by
  have paged : wrapCursor.validate4kBoundary = .ok () := by rfl
  have offTop : ¬wrapCursor.payload.TouchesTop := by decide
  obtain ⟨-, -, wraps, -⟩ := burst_bytes_exact (.inr (.inl rfl)) wrapCursor.payload wrapCursor
    wrapCursor.new_payload paged offTop
  exact ⟨paged, offTop, (wraps rfl).2.2.2⟩

/-! ## Accepted bursts -/

namespace AddressPayload

/-- What `make_cursor` does with a payload: construct the cursor, check the page. -/
def check (dataBytes : Nat) (payload : AddressPayload) : Except Fault Unit := do
  let cursor : BurstCursor dataBytes ← BurstCursor.new payload
  cursor.validate4kBoundary

/-- The rules of AXI for the shape and the extent of a burst. -/
structure LegalBurst (dataBytes : Nat) (payload : AddressPayload) : Prop where
  fits : 2 ^ payload.size.toNat ≤ dataBytes
  not_reserved : payload.burst ≠ .reserved
  fixed : payload.burst = .fixed → payload.beats ≤ 16
  wrap : payload.burst = .wrap →
    (payload.beats = 2 ∨ payload.beats = 4 ∨ payload.beats = 8 ∨ payload.beats = 16) ∧
      2 ^ payload.size.toNat ∣ payload.address.toNat
  increment : payload.burst = .increment →
    payload.address.toNat / 4096 =
      (payload.address.toNat / 2 ^ payload.size.toNat * 2 ^ payload.size.toNat +
        payload.beats * 2 ^ payload.size.toNat - 1) / 4096

theorem check_eq_ok_iff {dataBytes : Nat} {payload : AddressPayload} :
    payload.check dataBytes = .ok () ↔ payload.Accepted dataBytes := by
  simp only [check, Accepted, bind, Except.bind]
  cases built : (BurstCursor.new payload : Except Fault (BurstCursor dataBytes)) with
  | error fault => simp
  | ok cursor => simp

/-- A legal shape has a cursor. -/
theorem LegalBurst.built {dataBytes : Nat} (width : dataBytes = 4 ∨ dataBytes = 8 ∨ dataBytes = 16)
    {payload : AddressPayload} (legal : payload.LegalBurst dataBytes) :
    ∃ cursor : BurstCursor dataBytes, BurstCursor.new payload = .ok cursor := by
  have sizeLe : payload.size.toNat ≤ 4 := by
    have fits : 2 ^ payload.size.toNat ≤ 2 ^ 4 := legal.fits.trans (by omega)
    exact (Nat.pow_le_pow_iff_right (by decide)).mp fits
  have aligned : payload.burst = .wrap →
      payload.address.toNat &&& (payload.beatBytes - 1) = 0 := by
    intro burst
    rw [beatBytes, Nat.and_two_pow_sub_one_eq_mod]
    exact Nat.mod_eq_zero_of_dvd (legal.wrap burst).2
  let cursor : BurstCursor dataBytes :=
    ⟨payload, by omega, legal.fits, legal.not_reserved, legal.fixed,
      fun burst => (legal.wrap burst).1, aligned⟩
  exact ⟨cursor, cursor.new_payload⟩

/-- Bytes in one aligned block of a size that divides 4096 are on one page. -/
theorem page_eq_of_block {size left right : Nat} (divides : size ∣ 4096)
    (same : left / size = right / size) : left / 4096 = right / 4096 := by
  obtain ⟨factor, factorEq⟩ := divides
  rw [factorEq, ← Nat.div_div_eq_div_mul, ← Nat.div_div_eq_div_mul, same]

end AddressPayload

namespace BurstCursor

variable {dataBytes : Nat} (width : dataBytes = 4 ∨ dataBytes = 8 ∨ dataBytes = 16)

include width

theorem beatBytes_dvd_page (cursor : BurstCursor dataBytes) : cursor.payload.beatBytes ∣ 4096 := by
  rcases cursor.beatBytes_cases width with bytes | bytes | bytes | bytes | bytes <;>
    rw [bytes] <;> decide

theorem total_dvd_page (cursor : BurstCursor dataBytes) (burst : cursor.payload.burst = .wrap) :
    cursor.payload.total ∣ 4096 := by
  rw [AddressPayload.total]
  rcases cursor.wrap_beats burst with beats | beats | beats | beats <;>
    rcases cursor.beatBytes_cases width with bytes | bytes | bytes | bytes | bytes <;>
      rw [beats, bytes] <;> decide

/-- No byte of a FIXED or WRAP burst leaves the page of the start address. -/
theorem page_of_beatSet (cursor : BurstCursor dataBytes) (burst : cursor.payload.burst ≠ .increment)
    {index byte : Nat} (inBeat : byte ∈ cursor.payload.beatSet index) :
    byte / 4096 = cursor.payload.address.toNat / 4096 := by
  cases burstEq : cursor.payload.burst with
  | increment => exact absurd burstEq burst
  | reserved => exact absurd burstEq cursor.not_reserved
  | fixed =>
      rw [AddressPayload.beatSet_fixed burstEq] at inBeat
      obtain ⟨lower, upper⟩ := inBeat
      refine AddressPayload.page_eq_of_block (cursor.beatBytes_dvd_page width) ?_
      apply Nat.le_antisymm
      · rw [← Nat.add_one_mul] at upper
        exact Nat.le_of_lt_succ (Nat.div_lt_of_lt_mul (by rwa [Nat.mul_comm]))
      · exact Nat.div_le_div_right lower
  | wrap =>
      have aligned := cursor.dvd_of_wrap burstEq
      rw [AddressPayload.beatSet_wrap burstEq aligned] at inBeat
      obtain ⟨lower, upper⟩ := inBeat
      have last : ((cursor.payload.skipped + index) % cursor.payload.beats + 1) *
          cursor.payload.beatBytes ≤ cursor.payload.total :=
        Nat.mul_le_mul_right _ (Nat.mod_lt _ cursor.payload.beats_pos)
      refine AddressPayload.page_eq_of_block (cursor.total_dvd_page width burstEq) ?_
      rw [Nat.div_eq_iff cursor.payload.total_pos]
      simp only [AddressPayload.container] at lower upper
      have := cursor.payload.total_pos
      omega

/-- A burst whose last byte is on the first page stays below `2 ^ 64` on that page. -/
theorem accepted_of_page (cursor : BurstCursor dataBytes)
    (page : ∀ index < cursor.payload.beats, ∀ byte ∈ cursor.payload.beatSet index,
      byte / 4096 = cursor.payload.address.toNat / 4096) :
    cursor.payload.Accepted dataBytes := by
  refine (accepted_iff width cursor.payload).mpr ⟨cursor, cursor.new_payload, ?_⟩
  intro index inRange
  have nonempty := (cursor.beat_in_word width index).2.1
  have startPage := page index inRange (cursor.payload.beatStart index) ⟨Nat.le_refl _, nonempty⟩
  have addressLt := cursor.payload.address.toNat_lt
  refine ⟨by omega, fun lane enabled => ?_⟩
  obtain ⟨lower, upper, -⟩ := (cursor.payload.mask_ne_zero_iff index lane).mp enabled
  exact page index inRange _ ⟨lower, upper⟩

/-- In an accepted INCR burst the last byte is on the page of the first. -/
theorem last_page_of_accepted (cursor : BurstCursor dataBytes)
    (burst : cursor.payload.burst = .increment)
    (accepted : cursor.payload.Accepted dataBytes) :
    cursor.payload.address.toNat / 4096 =
      (cursor.payload.address.toNat / cursor.payload.beatBytes * cursor.payload.beatBytes +
        cursor.payload.total - 1) / 4096 := by
  obtain ⟨-, -, pages⟩ := (accepted_iff width cursor.payload).mp accepted
  have beatsPos := cursor.payload.beats_pos
  have division := Nat.div_add_mod' cursor.payload.address.toNat cursor.payload.beatBytes
  have remainder := Nat.mod_lt cursor.payload.address.toNat cursor.payload.beatBytes_pos
  have ends : ∀ index, cursor.payload.beatEnd index =
      cursor.payload.address.toNat / cursor.payload.beatBytes * cursor.payload.beatBytes +
        (index + 1) * cursor.payload.beatBytes := by
    intro index
    have sets := AddressPayload.beatSet_increment burst index
    have nonempty := (cursor.beat_in_word width index).2.1
    exact ((Set.Ico_eq_Ico_iff (.inl nonempty)).mp sets).2
  -- The last byte of every beat that does not end at the top has been checked.
  have checked : ∀ index < cursor.payload.beats, cursor.payload.beatEnd index < 2 ^ 64 →
      (cursor.payload.beatEnd index - 1) / 4096 = cursor.payload.address.toNat / 4096 := by
    intro index inRange below
    obtain ⟨wordLe, nonempty, -, endInWord⟩ := cursor.beat_in_word width index
    have inWord : cursor.payload.beatEnd index - 1 - cursor.payload.busWord dataBytes index <
        dataBytes := by omega
    have enabled := (pages index inRange).2 ⟨_, inWord⟩
      ((cursor.payload.mask_ne_zero_iff index _).mpr (by simp only []; omega))
    rwa [show cursor.payload.busWord dataBytes index +
      (cursor.payload.beatEnd index - 1 - cursor.payload.busWord dataBytes index) =
        cursor.payload.beatEnd index - 1 by omega] at enabled
  have lastEnd := ends (cursor.payload.beats - 1)
  rw [Nat.sub_add_cancel beatsPos] at lastEnd
  rw [AddressPayload.total, ← lastEnd]
  have lastLe := cursor.beatEnd_le width (pages (cursor.payload.beats - 1) (by omega)).1
  have bytesLe : cursor.payload.beatBytes ≤ 16 := by
    have := cursor.fits
    omega
  rcases lastLe.lt_or_eq with below | top
  · exact (checked _ (by omega) below).symm
  · by_cases single : cursor.payload.beats = 1
    · rw [top]
      rw [top, single, Nat.one_mul] at lastEnd
      omega
    · have previousEnd := ends (cursor.payload.beats - 2)
      rw [show cursor.payload.beats - 2 + 1 = cursor.payload.beats - 1 by omega, Nat.sub_mul,
        Nat.one_mul] at previousEnd
      have enough : cursor.payload.beatBytes ≤ cursor.payload.beats * cursor.payload.beatBytes :=
        Nat.le_mul_of_pos_left _ beatsPos
      have positive := cursor.payload.beatBytes_pos
      have previous := checked (cursor.payload.beats - 2) (by omega) (by omega)
      omega

end BurstCursor

namespace AddressPayload.LegalBurst

variable {dataBytes : Nat} (width : dataBytes = 4 ∨ dataBytes = 8 ∨ dataBytes = 16)
  {payload : AddressPayload}

include width

/-- Every byte of a legal burst is on the page of its address. -/
theorem page (legal : payload.LegalBurst dataBytes) {index byte : Nat}
    (inRange : index < payload.beats) (inBeat : byte ∈ payload.beatSet index) :
    byte / 4096 = payload.address.toNat / 4096 := by
  obtain ⟨cursor, built⟩ := legal.built width
  obtain rfl := BurstCursor.payload_of_new built
  by_cases burst : cursor.payload.burst = .increment
  · have inside := ((AddressPayload.tiles_increment burst).covers byte).mpr
      ⟨index, inRange, inBeat⟩
    have page := legal.increment burst
    change _ = (_ / cursor.payload.beatBytes * cursor.payload.beatBytes +
      cursor.payload.total - 1) / 4096 at page
    obtain ⟨lower, upper⟩ := inside
    omega
  · exact cursor.page_of_beatSet width burst inBeat

theorem accepted (legal : payload.LegalBurst dataBytes) : payload.Accepted dataBytes := by
  obtain ⟨cursor, built⟩ := legal.built width
  obtain rfl := BurstCursor.payload_of_new built
  exact cursor.accepted_of_page width fun index inRange byte inBeat =>
    legal.page width inRange inBeat

end AddressPayload.LegalBurst

/-- The burst checker accepts exactly the legal bursts and answers every other one
with a protocol error. -/
theorem burst_checker_exact {dataBytes : Nat}
    (width : dataBytes = 4 ∨ dataBytes = 8 ∨ dataBytes = 16) (payload : AddressPayload) :
    (payload.check dataBytes = .ok () ↔ payload.LegalBurst dataBytes) ∧
      ∀ fault, payload.check dataBytes = .error fault → ∃ detail, fault = .protocol none detail := by
  refine ⟨?_, fun fault refused => ?_⟩
  · rw [AddressPayload.check_eq_ok_iff]
    constructor
    · rintro ⟨cursor, built, paged⟩
      obtain rfl := BurstCursor.payload_of_new built
      exact ⟨cursor.fits, cursor.not_reserved, cursor.fixed_beats,
        fun burst => ⟨cursor.wrap_beats burst, cursor.dvd_of_wrap burst⟩,
        fun burst => cursor.last_page_of_accepted width burst ⟨cursor, built, paged⟩⟩
    · exact fun legal => legal.accepted width
  · cases built : (BurstCursor.new payload : Except Fault (BurstCursor dataBytes)) with
    | error inner =>
        obtain ⟨detail, -, rfl⟩ := BurstCursor.new_error built
        simp only [AddressPayload.check, built, bind, Except.bind, Except.error.injEq] at refused
        exact ⟨detail, refused.symm⟩
    | ok cursor =>
        simp only [AddressPayload.check, built, bind, Except.bind] at refused
        obtain ⟨detail, -, rfl⟩ := BurstCursor.validate4kBoundary_error width refused
        exact ⟨detail, rfl⟩

/-- An unaligned burst up to the end of a page, and the same burst one beat longer. -/
theorem burst_checker_exact_page :
    ({ address := 0x1ff3, length := 3, size := 2 } : AddressPayload).LegalBurst 4 ∧
      ¬({ address := 0x1ff3, length := 4, size := 2 } : AddressPayload).LegalBurst 4 := by
  refine ⟨(burst_checker_exact (.inl rfl) _).1.mp (by decide), fun legal => ?_⟩
  have accepted := (burst_checker_exact (.inl rfl) _).1.mpr legal
  revert accepted
  decide

end AxiTestbench
