import AxiTestbench.Ram
import AxiTestbench.Fabric.Routing

/-!
# Device accesses

Specifications of the device accesses that the two engines make.
-/

namespace AxiTestbench

open Lib Outcome

variable {c : Config} {W : Type}

/-! ## Spans of enabled lanes -/

/-- The loop of `enabled_extent` over the first lanes of a mask whose enabled
lanes are `[low, high)`. -/
private theorem extent_take {size : Nat} (mask : Lanes size) {low high : Nat}
    (enabled : ∀ lane : Fin size, mask lane ≠ 0 ↔ low ≤ lane.val ∧ lane.val < high) (count : Nat)
    (inSize : count ≤ size) :
    ((List.finRange size).take count).foldl
        (fun (first, last) index =>
          if mask index ≠ 0 then (min first index.val, index.val + 1) else (first, last))
        (size, 0) =
      if low < min high count then (low, min high count) else (size, 0) := by
  induction count with
  | zero => simp
  | succ count ih =>
      have inFin : count < (List.finRange size).length := by
        rw [List.length_finRange]
        exact inSize
      rw [List.take_succ_eq_append_getElem inFin, List.foldl_append, ih (by omega),
        List.foldl_cons, List.foldl_nil, List.getElem_finRange]
      by_cases here : low ≤ count ∧ count < high
      · have nonzero : mask ⟨count, inSize⟩ ≠ 0 := (enabled _).mpr here
        have later : low < min high (count + 1) := by omega
        have lastEq : min high (count + 1) = count + 1 := by omega
        rw [if_pos later, lastEq]
        by_cases seen : low < count
        · rw [if_pos (by omega)]
          simp only [Fin.cast_mk, nonzero, ne_eq, not_false_eq_true, if_true, Prod.mk.injEq,
            and_true]
          omega
        · rw [if_neg (by omega)]
          simp only [Fin.cast_mk, nonzero, ne_eq, not_false_eq_true, if_true, Prod.mk.injEq,
            and_true]
          omega
      · have zero : mask ⟨count, inSize⟩ = 0 := by
          by_contra nonzero
          exact here ((enabled _).mp nonzero)
        simp only [Fin.cast_mk, zero, ne_eq, not_true_eq_false, if_false]
        by_cases seen : low < min high count
        · rw [if_pos seen, if_pos (by omega)]
          simp only [Prod.mk.injEq, true_and]
          omega
        · rw [if_neg seen, if_neg (by omega)]

theorem enabledExtent_interval {size : Nat} (mask : Lanes size) {low high : Nat}
    (nonempty : low < high) (fits : high ≤ size)
    (enabled : ∀ lane : Fin size, mask lane ≠ 0 ↔ low ≤ lane.val ∧ lane.val < high) :
    enabledExtent mask = (low, high - low) := by
  have whole := extent_take mask enabled size (Nat.le_refl size)
  rw [List.take_of_length_le (by simp), if_pos (by omega), Nat.min_eq_left fits] at whole
  simp only [enabledExtent, whole]
  rw [if_neg (by omega)]

theorem enabledExtent_none {size : Nat} (mask : Lanes size) (none : ∀ lane, mask lane = 0) :
    enabledExtent mask = (0, 0) := by
  have noLane : ∀ lane : Fin size, mask lane ≠ 0 ↔ 0 ≤ lane.val ∧ lane.val < 0 :=
    fun lane => by simp [none lane]
  have whole := extent_take mask noLane size (Nat.le_refl size)
  rw [List.take_of_length_le (by simp), if_neg (by omega)] at whole
  simp only [enabledExtent, whole, if_true]

@[simp] theorem length_span {size : Nat} (lanes : Lanes size) {first count : Nat}
    (fits : first + count ≤ size) : (span lanes first count).length = count := by
  simp only [span, List.length_take, List.length_drop, List.length_ofFn]
  omega

theorem byteAt_span {size : Nat} (lanes : Lanes size) {first count offset : Nat}
    (inSpan : offset < count) (fits : first + count ≤ size) :
    byteAt (span lanes first count) offset = lanes ⟨first + offset, by omega⟩ := by
  have inSize : first + offset < size := by omega
  simp [byteAt, span, List.getElem?_take_of_lt inSpan, inSize]

theorem byteAt_eq_zero {bytes : List UInt8} {index : Nat} (beyond : bytes.length ≤ index) :
    byteAt bytes index = 0 := by
  simp [byteAt, beyond]

/-! ## Invalidation -/

/-- Reservations that cover a touched byte are dropped, the others stay. -/
def Invalidated (touched : Nat → Prop) (before after : Monitors c) : Prop :=
  ∀ slot,
    ((∃ byte, touched byte ∧ (before slot).first ≤ byte ∧ byte < (before slot).last) →
      after slot = { before slot with valid := false }) ∧
    ((¬∃ byte, touched byte ∧ (before slot).first ≤ byte ∧ byte < (before slot).last) →
      after slot = before slot)

theorem invalidateMonitors_eq (monitors : Monitors c) (byte : Nat) (slot : Fin c.routeDepth) :
    invalidateMonitors monitors byte slot =
      if (monitors slot).first ≤ byte ∧ byte < (monitors slot).last then
        { monitors slot with valid := false }
      else
        monitors slot := by
  by_cases covered : (monitors slot).first ≤ byte ∧ byte < (monitors slot).last
  · cases valid : (monitors slot).valid with
    | true => simp [invalidateMonitors, covered, valid]
    | false =>
        rw [if_pos covered]
        have same : { monitors slot with valid := false } = monitors slot := by rw [← valid]
        simp [invalidateMonitors, valid, same]
  · rw [if_neg covered]
    simp only [invalidateMonitors, ge_iff_le]
    rw [if_neg (fun all => covered all.2)]

theorem Invalidated.of_false (monitors : Monitors c) :
    Invalidated (fun _ => False) monitors monitors :=
  fun _ => ⟨fun ⟨_, impossible, _⟩ => impossible.elim, fun _ => rfl⟩

theorem Invalidated.congr {touched touched' : Nat → Prop} {before after : Monitors c}
    (invalidated : Invalidated touched before after)
    (same : ∀ byte, touched byte ↔ touched' byte) : Invalidated touched' before after := by
  rwa [← funext fun byte => propext (same byte)]

theorem Invalidated.of_byte (monitors : Monitors c) (byte : Nat) :
    Invalidated (fun touched => touched = byte) monitors (invalidateMonitors monitors byte) := by
  intro slot
  rw [invalidateMonitors_eq]
  constructor
  · rintro ⟨touched, rfl, covered⟩
    exact if_pos covered
  · intro uncovered
    exact if_neg fun covered => uncovered ⟨byte, rfl, covered⟩

theorem Invalidated.trans {first second : Nat → Prop} {before middle after : Monitors c}
    (left : Invalidated first before middle) (right : Invalidated second middle after) :
    Invalidated (fun byte => first byte ∨ second byte) before after := by
  intro slot
  by_cases early : ∃ byte, first byte ∧ (before slot).first ≤ byte ∧ byte < (before slot).last
  · have dropped := (left slot).1 early
    have stays : after slot = { before slot with valid := false } := by
      by_cases late : ∃ byte, second byte ∧ (middle slot).first ≤ byte ∧ byte < (middle slot).last
      · rw [(right slot).1 late, dropped]
      · rw [(right slot).2 late, dropped]
    refine ⟨fun _ => stays, fun untouched => absurd ?_ untouched⟩
    obtain ⟨byte, touched, covered⟩ := early
    exact ⟨byte, .inl touched, covered⟩
  · have kept := (left slot).2 early
    have later := right slot
    rw [kept] at later
    constructor
    · rintro ⟨byte, inFirst | inSecond, covered⟩
      · exact absurd ⟨byte, inFirst, covered⟩ early
      · exact later.1 ⟨byte, inSecond, covered⟩
    · intro untouched
      exact later.2 fun ⟨byte, inSecond, covered⟩ => untouched ⟨byte, .inr inSecond, covered⟩

/-- A loop that invalidates the bytes of some of its items. -/
theorem invalidated_foldl {ι : Type} (chosen : ι → Prop) [DecidablePred chosen]
    (address : ι → Nat) (items : List ι) (monitors : Monitors c) :
    Invalidated (fun byte => ∃ item ∈ items, chosen item ∧ byte = address item) monitors
      (items.foldl
        (fun monitors item =>
          if chosen item then invalidateMonitors monitors (address item) else monitors)
        monitors) := by
  induction items generalizing monitors with
  | nil => simpa using Invalidated.of_false monitors
  | cons item items ih =>
      rw [List.foldl_cons]
      by_cases here : chosen item
      · rw [if_pos here]
        refine ((Invalidated.of_byte monitors (address item)).trans (ih _)).congr fun byte => ?_
        simp [here]
      · rw [if_neg here]
        refine (ih monitors).congr fun byte => ?_
        simp [here]

/-! ## Regular beats -/

namespace AddressPayload

/-- Lane of the first byte of a beat. -/
def firstLane (dataBytes : Nat) (payload : AddressPayload) (index : Nat) : Nat :=
  payload.beatStart index - payload.busWord dataBytes index

/-- Number of bytes of a beat. -/
def beatLength (payload : AddressPayload) (index : Nat) : Nat :=
  payload.beatEnd index - payload.beatStart index

/-- The strobes a device sees: those on lanes of the beat, as zero or one. -/
def effective (dataBytes : Nat) (payload : AddressPayload) (index : Nat)
    (strobe : Lanes dataBytes) : Lanes dataBytes := fun lane =>
  if payload.mask dataBytes index lane ≠ 0 ∧ strobe lane ≠ 0 then 1 else 0

end AddressPayload

/-- The device call for one beat of a regular write. -/
def beatCall (dataBytes : Nat) (payload : AddressPayload) (mapping : Mapping) (index : Nat)
    (data strobe : Lanes dataBytes) (response : Response) : DeviceWrite where
  device := mapping.device
  address := payload.beatStart index
  offset := sub64 (payload.beatStart index) mapping.base
  data := span data (payload.firstLane dataBytes index) (payload.beatLength index)
  strobe := span (payload.effective dataBytes index strobe) (payload.firstLane dataBytes index)
    (payload.beatLength index)
  response

/-- Bus addresses of the bytes a call strobes. -/
def DeviceWrite.Strobes (call : DeviceWrite) (byte : Nat) : Prop :=
  call.address ≤ byte ∧ byteAt call.strobe (byte - call.address) ≠ 0

section Beat

variable {payload : AddressPayload} {cursor : BurstCursor c.dataBytes} {index : Nat}
  (built : BurstCursor.new payload = .ok cursor)

include built

/-- The span of a beat inside its bus word. -/
theorem beat_span (index : Nat) : payload.busWord c.dataBytes index ≤ payload.beatStart index ∧
    payload.busWord c.dataBytes index + payload.firstLane c.dataBytes index =
      payload.beatStart index ∧
    payload.beatStart index + payload.beatLength index = payload.beatEnd index ∧
    0 < payload.beatLength index ∧
    payload.firstLane c.dataBytes index + payload.beatLength index ≤ c.dataBytes := by
  have word := cursor.beat_in_word c.dataBytes_eq index
  rw [BurstCursor.payload_of_new built] at word
  simp only [AddressPayload.firstLane, AddressPayload.beatLength]
  omega

theorem beat_extent (below : payload.beatEnd index < 2 ^ 64) :
    enabledExtent (payload.mask c.dataBytes index) =
      (payload.firstLane c.dataBytes index, payload.beatLength index) := by
  obtain ⟨wordLe, firstEq, endEq, positive, fits⟩ := beat_span built index
  have nonempty : payload.firstLane c.dataBytes index <
      payload.firstLane c.dataBytes index + payload.beatLength index := by omega
  rw [enabledExtent_interval (payload.mask c.dataBytes index) nonempty fits]
  · simp
  · intro lane
    rw [AddressPayload.mask_ne_zero_iff]
    omega

omit built in
theorem beat_extent_top (top : payload.beatEnd index = 2 ^ 64) :
    enabledExtent (payload.mask c.dataBytes index) = (0, 0) := by
  apply enabledExtent_none
  intro lane
  by_contra enabled
  have := (payload.mask_ne_zero_iff index lane).mp enabled
  omega

/-- The bytes that a beat strobes. -/
theorem beatCall_strobes_iff (index : Nat) (mapping : Mapping)
    (data strobe : Lanes c.dataBytes) (response : Response) (byte : Nat) :
    (beatCall c.dataBytes payload mapping index data strobe response).Strobes byte ↔
      ∃ lane : Fin c.dataBytes, payload.effective c.dataBytes index strobe lane ≠ 0 ∧
        byte = payload.busWord c.dataBytes index + lane := by
  obtain ⟨wordLe, firstEq, endEq, positive, fits⟩ := beat_span built index
  simp only [DeviceWrite.Strobes, beatCall]
  constructor
  · rintro ⟨lower, strobed⟩
    by_cases inside : byte - payload.beatStart index < payload.beatLength index
    · rw [byteAt_span _ inside fits] at strobed
      exact ⟨_, strobed, by simp only []; omega⟩
    · rw [byteAt_eq_zero (by rw [length_span _ fits]; omega)] at strobed
      exact absurd rfl strobed
  · rintro ⟨lane, strobed, rfl⟩
    have enabled : payload.mask c.dataBytes index lane ≠ 0 := by
      intro disabled
      simp [AddressPayload.effective, disabled] at strobed
    obtain ⟨lower, upper, -⟩ := (payload.mask_ne_zero_iff index lane).mp enabled
    refine ⟨lower, ?_⟩
    rw [byteAt_span _ (by omega) fits]
    convert strobed using 2
    apply Fin.ext
    simp only []
    omega

/-- What a regular beat does: one device call, and after a success the
reservations it hits are dropped and an exit device is noted. -/
structure BeatWritten (env : FabricEnv W) (world : W) (monitors : Monitors c)
    (route : WriteRoute c) (mapping : Mapping) (index : Nat) (data strobe : Lanes c.dataBytes)
    (access : WriteAccess c W) : Prop where
  call : access.call =
    some (beatCall c.dataBytes route.payload mapping index data strobe access.response)
  device : env.bank.writeImpl mapping.device world
      (sub64 (route.payload.beatStart index) mapping.base)
      (span data (route.payload.firstLane c.dataBytes index) (route.payload.beatLength index))
      (span (route.payload.effective c.dataBytes index strobe)
        (route.payload.firstLane c.dataBytes index) (route.payload.beatLength index)) =
    (access.world, access.response)
  dropped : responseIsSuccess access.response = true → Invalidated
    (beatCall c.dataBytes route.payload mapping index data strobe access.response).Strobes
    monitors access.monitors
  kept : responseIsSuccess access.response = false → access.monitors = monitors

end Beat

section WriteBeat

variable {env : FabricEnv W} {world : W} {monitors : Monitors c} {route : WriteRoute c}
  {mapping : Mapping} {cursor : BurstCursor c.dataBytes} {index : Nat}
  {data strobe : Lanes c.dataBytes}

theorem writeDeviceBeat_spec (built : BurstCursor.new route.payload = .ok cursor)
    (inRange : index < route.payload.beats) (below : route.payload.beatEnd index < 2 ^ 64) :
    ∃ access, writeDeviceBeat env world monitors route mapping cursor index data strobe =
      .ok access ∧ BeatWritten env world monitors route mapping index data strobe access := by
  obtain ⟨wordLe, firstEq, endEq, positive, fits⟩ := beat_span built index
  have payloadEq := BurstCursor.payload_of_new built
  have startLt : route.payload.beatStart index < 2 ^ 64 := by omega
  have word := cursor.busWordAddress_eq c.dataBytes_eq (payloadEq ▸ inRange) (payloadEq ▸ startLt)
  have mask := cursor.laneMask_eq c.dataBytes_eq (payloadEq ▸ inRange) (payloadEq ▸ startLt)
  rw [payloadEq] at word mask
  have strobes := beatCall_strobes_iff built index mapping data strobe
  simp only [writeDeviceBeat, word, mask, ok_bind, beat_extent built below]
  rw [if_neg (by omega), add64_eq (by omega), firstEq]
  rw [DeviceBank.write_eq _ _ _ _ (by rw [length_span _ fits, length_span _ fits])
    (by rw [length_span _ fits]; exact positive), ok_bind]
  generalize resultEq : env.bank.writeImpl mapping.device world _ _ _ = result
  obtain ⟨after, response⟩ := result
  by_cases success : responseIsSuccess response = true
  · simp only [success, if_true, pure, Except.pure]
    refine ⟨_, rfl, rfl, resultEq, fun _ => ?_, fun failed => ?_⟩
    · refine (invalidated_foldl _ _ _ _).congr fun byte => ?_
      rw [strobes response byte]
      simp only [List.mem_finRange, true_and]
      refine exists_congr fun lane => ?_
      -- A strobed lane lies inside the beat, so its address does not wrap.
      have inside : route.payload.effective c.dataBytes index strobe lane ≠ 0 →
          route.payload.firstLane c.dataBytes index ≤ lane.val ∧
            lane.val < route.payload.firstLane c.dataBytes index +
              route.payload.beatLength index := by
        intro strobed
        have enabled : route.payload.mask c.dataBytes index lane ≠ 0 := by
          intro disabled
          simp [AddressPayload.effective, disabled] at strobed
        have := (route.payload.mask_ne_zero_iff index lane).mp enabled
        omega
      constructor
      · rintro ⟨⟨lower, upper, strobed⟩, rfl⟩
        exact ⟨strobed, add64_eq (by omega)⟩
      · rintro ⟨strobed, rfl⟩
        obtain ⟨lower, upper⟩ := inside strobed
        exact ⟨⟨lower, upper, strobed⟩, (add64_eq (by omega)).symm⟩
    · simp [success] at failed
  · simp only [success, pure, Except.pure]
    exact ⟨_, rfl, rfl, resultEq, fun succeeded => absurd succeeded success, fun _ => rfl⟩

/-- A beat that ends at `2 ^ 64` has no lanes and reaches no device. -/
theorem writeDeviceBeat_written {access : WriteAccess c W}
    (built : BurstCursor.new route.payload = .ok cursor) (inRange : index < route.payload.beats)
    (below : route.payload.beatEnd index < 2 ^ 64)
    (written : writeDeviceBeat env world monitors route mapping cursor index data strobe =
      .ok access) :
    BeatWritten env world monitors route mapping index data strobe access := by
  obtain ⟨made, madeOk, spec⟩ := writeDeviceBeat_spec built inRange below
  rwa [Except.ok.inj (written.symm.trans madeOk)]

theorem writeDeviceBeat_top (built : BurstCursor.new route.payload = .ok cursor)
    (inRange : index < route.payload.beats) (startLt : route.payload.beatStart index < 2 ^ 64)
    (top : route.payload.beatEnd index = 2 ^ 64) :
    writeDeviceBeat env world monitors route mapping cursor index data strobe =
      .ok { route, world, monitors, response := .okay, call := none } := by
  have payloadEq := BurstCursor.payload_of_new built
  have word := cursor.busWordAddress_eq c.dataBytes_eq (payloadEq ▸ inRange) (payloadEq ▸ startLt)
  have mask := cursor.laneMask_eq c.dataBytes_eq (payloadEq ▸ inRange) (payloadEq ▸ startLt)
  rw [payloadEq] at word mask
  simp only [writeDeviceBeat, word, mask, ok_bind, beat_extent_top top, if_true]
  rfl

end WriteBeat

/-! ## Routes through a device write -/

/-- A regular beat changes only the exit fields of its route. -/
theorem writeDeviceBeat_route {env : FabricEnv W} {world : W} {monitors : Monitors c}
    {route : WriteRoute c} {mapping : Mapping} {cursor : BurstCursor c.dataBytes}
    {beatIndex : Nat} {data strobe : Lanes c.dataBytes} {access : WriteAccess c W}
    (written : writeDeviceBeat env world monitors route mapping cursor beatIndex data strobe =
      .ok access) :
    ∃ exitResponse exitCode, access.route = { route with exitResponse, exitCode } := by
  simp only [writeDeviceBeat, bind, Except.bind, pure, Except.pure] at written
  repeat' split at written
  all_goals first | contradiction | cases written
  all_goals exact ⟨_, _, rfl⟩

/-- An exclusive write changes only the response of its route. -/
theorem finishExclusiveWrite_route {env : FabricEnv W} {world : W} {monitors : Monitors c}
    {route : WriteRoute c} {cursor : BurstCursor c.dataBytes} {access : WriteAccess c W}
    (finished : finishExclusiveWrite env world monitors route cursor = .ok access) :
    ∃ response, access.route = { route with response } := by
  simp only [finishExclusiveWrite, bind, Except.bind, pure, Except.pure] at finished
  repeat' split at finished
  all_goals first | contradiction | cases finished
  all_goals exact ⟨_, rfl⟩

/-- ID and RLAST of a produced beat. -/
theorem readDeviceBeat_shape {env : FabricEnv W} {world : W} {route : ReadRoute c}
    {cursor : BurstCursor c.dataBytes} {access : ReadAccess c W}
    (accessed : readDeviceBeat env world route cursor = .ok access) :
    access.beat.id = route.payload.id ∧
      access.beat.last = (route.beat + 1 == cursor.beats) := by
  simp only [readDeviceBeat, bind, Except.bind, pure, Except.pure] at accessed
  repeat' split at accessed
  all_goals first | contradiction | cases accessed
  all_goals exact ⟨rfl, rfl⟩


/-! ## Read beats -/

/-- The answer to a read beat: a successful exclusive read is marked as such. -/
def ReadRoute.answer (route : ReadRoute c) (response : Response) : Response :=
  if route.exclusive ∧ response = .okay then .exclusiveOkay else response

/-- The device call for one beat of a read. -/
def readCall (dataBytes : Nat) (payload : AddressPayload) (mapping : Mapping) (index : Nat)
    (response : Response) (data : List UInt8) : DeviceRead where
  device := mapping.device
  address := payload.beatStart index
  offset := sub64 (payload.beatStart index) mapping.base
  length := payload.beatLength index
  enable := span (payload.mask dataBytes index) (payload.firstLane dataBytes index)
    (payload.beatLength index)
  response
  data

/-- What a read beat does: one device call, whose data fills the lanes of the
beat. -/
structure BeatRead (env : FabricEnv W) (world : W) (route : ReadRoute c) (mapping : Mapping)
    (response : Response) (data : List UInt8) (access : ReadAccess c W) : Prop where
  call : access.call =
    some (readCall c.dataBytes route.payload mapping route.beat response data)
  device : env.bank.readImpl mapping.device world
      (sub64 (route.payload.beatStart route.beat) mapping.base)
      (span (route.payload.mask c.dataBytes route.beat)
        (route.payload.firstLane c.dataBytes route.beat) (route.payload.beatLength route.beat)) =
    (access.world, response, data)
  response : access.beat.response = route.answer response
  data : ∀ lane : Fin c.dataBytes, access.beat.data lane =
    if route.payload.firstLane c.dataBytes route.beat ≤ lane.val ∧
        lane.val < route.payload.firstLane c.dataBytes route.beat +
          route.payload.beatLength route.beat then
      byteAt data (lane.val - route.payload.firstLane c.dataBytes route.beat)
    else
      0

section ReadBeat

variable {env : FabricEnv W} {world : W} {route : ReadRoute c} {mapping : Mapping}
  {cursor : BurstCursor c.dataBytes}

theorem readDeviceBeat_spec (built : BurstCursor.new route.payload = .ok cursor)
    (targeted : route.target = some mapping) (inRange : route.beat < route.payload.beats)
    (below : route.payload.beatEnd route.beat < 2 ^ 64) :
    ∃ access response data, readDeviceBeat env world route cursor = .ok access ∧
      BeatRead env world route mapping response data access := by
  obtain ⟨wordLe, firstEq, endEq, positive, fits⟩ := beat_span built route.beat
  have payloadEq := BurstCursor.payload_of_new built
  have startLt : route.payload.beatStart route.beat < 2 ^ 64 := by omega
  have word := cursor.busWordAddress_eq c.dataBytes_eq (payloadEq ▸ inRange) (payloadEq ▸ startLt)
  have mask := cursor.laneMask_eq c.dataBytes_eq (payloadEq ▸ inRange) (payloadEq ▸ startLt)
  rw [payloadEq] at word mask
  have length := length_span (route.payload.mask c.dataBytes route.beat) fits
  have called := env.bank.read_eq mapping.device world
    (sub64 (route.payload.beatStart route.beat) mapping.base) (length ▸ positive)
  rw [length] at called
  simp only [readDeviceBeat, targeted, word, mask, ok_bind, beat_extent built below]
  rw [if_neg (by omega), add64_eq (by omega), firstEq, called, ok_bind]
  generalize resultEq : env.bank.readImpl mapping.device world _ _ = result
  obtain ⟨after, response, data⟩ := result
  exact ⟨_, response, data, rfl, rfl, resultEq, rfl, fun lane => rfl⟩

theorem readDeviceBeat_read {access : ReadAccess c W}
    (built : BurstCursor.new route.payload = .ok cursor)
    (targeted : route.target = some mapping) (inRange : route.beat < route.payload.beats)
    (below : route.payload.beatEnd route.beat < 2 ^ 64)
    (accessed : readDeviceBeat env world route cursor = .ok access) :
    ∃ response data, BeatRead env world route mapping response data access := by
  obtain ⟨made, response, data, madeOk, spec⟩ :=
    readDeviceBeat_spec built targeted inRange below
  rw [Except.ok.inj (accessed.symm.trans madeOk)]
  exact ⟨response, data, spec⟩

theorem readDeviceBeat_top (built : BurstCursor.new route.payload = .ok cursor)
    (targeted : route.target = some mapping) (inRange : route.beat < route.payload.beats)
    (startLt : route.payload.beatStart route.beat < 2 ^ 64)
    (top : route.payload.beatEnd route.beat = 2 ^ 64) :
    ∃ access, readDeviceBeat env world route cursor = .ok access ∧ access.world = world ∧
      access.call = none ∧ access.beat.response = route.answer .okay ∧
      ∀ lane, access.beat.data lane = 0 := by
  have payloadEq := BurstCursor.payload_of_new built
  have word := cursor.busWordAddress_eq c.dataBytes_eq (payloadEq ▸ inRange) (payloadEq ▸ startLt)
  have mask := cursor.laneMask_eq c.dataBytes_eq (payloadEq ▸ inRange) (payloadEq ▸ startLt)
  rw [payloadEq] at word mask
  simp only [readDeviceBeat, targeted, word, mask, ok_bind, beat_extent_top top, if_true]
  exact ⟨_, rfl, rfl, rfl, by simp [ReadRoute.answer], fun lane => rfl⟩

/-- A route without a target answers with its forced response and zeros. -/
theorem readDeviceBeat_forced (untargeted : route.target = none) :
    ∃ access, readDeviceBeat env world route cursor = .ok access ∧ access.world = world ∧
      access.call = none ∧ access.beat.response = route.forcedResponse ∧
      ∀ lane, access.beat.data lane = 0 := by
  simp only [readDeviceBeat, untargeted]
  exact ⟨_, rfl, rfl, rfl, rfl, fun lane => rfl⟩

end ReadBeat

/-! ## Exclusive writes -/

/-- A W beat that a write route holds, with the WLAST it arrived with. -/
def WriteRoute.stagedBeat (route : WriteRoute c) (index : Nat) : c.WriteBeat where
  data := route.stagedData (Fin.ofNat 256 index)
  strobe := route.stagedStrobe (Fin.ofNat 256 index)
  last := index + 1 == route.payload.beats

def WriteRoute.stagedBeats (route : WriteRoute c) : List c.WriteBeat :=
  (List.range route.beat).map route.stagedBeat

theorem WriteRoute.staged_eq (route : WriteRoute c) {index : Nat} (inside : index < 256) :
    route.staged index =
      .ok ((route.stagedBeat index).data, (route.stagedBeat index).strobe) := by
  have indexEq : Fin.ofNat 256 index = ⟨index, inside⟩ := Fin.ext (Nat.mod_eq_of_lt inside)
  simp only [WriteRoute.staged, inside, dif_pos, WriteRoute.stagedBeat, indexEq]

namespace ExclusiveShape

variable {payload : AddressPayload} (shape : ExclusiveShape payload)

include shape

theorem beatStart_eq (index : Nat) :
    payload.beatStart index = payload.address.toNat + index * payload.beatBytes := by
  have divides : payload.beatBytes ∣ payload.address.toNat :=
    Nat.dvd_trans (Dvd.intro_left _ rfl) shape.aligned
  simp only [AddressPayload.beatStart, shape.burst]
  split
  next zero => simp [zero]
  next => rw [Nat.div_mul_cancel divides]

theorem beatEnd_eq (index : Nat) :
    payload.beatEnd index = payload.address.toNat + (index + 1) * payload.beatBytes := by
  have divides : payload.beatBytes ∣ payload.address.toNat :=
    Nat.dvd_trans (Dvd.intro_left _ rfl) shape.aligned
  rw [AddressPayload.beatEnd, shape.beatStart_eq,
    Nat.div_mul_cancel (Nat.dvd_add divides (Nat.dvd_mul_left _ _)), Nat.succ_mul, Nat.add_assoc]

/-- Beats of an exclusive burst follow one another. -/
theorem beatEnd_le_beatStart {earlier later : Nat} (ordered : earlier < later) :
    payload.beatEnd earlier ≤ payload.beatStart later := by
  rw [shape.beatEnd_eq, shape.beatStart_eq]
  exact Nat.add_le_add_left (Nat.mul_le_mul_right _ ordered) _

theorem beatEnd_le_total {index : Nat} (inRange : index < payload.beats) :
    payload.beatEnd index ≤ payload.address.toNat + payload.total := by
  rw [shape.beatEnd_eq, AddressPayload.total]
  exact Nat.add_le_add_left (Nat.mul_le_mul_right _ inRange) _

end ExclusiveShape

/-- An image of the staged beats: every lane of a beat is found at its distance
from the start of the burst, everything else is zero. -/
structure Image (route : WriteRoute c) (beats : Nat) (image : Lanes 128 × Lanes 128) : Prop where
  covered : ∀ index < beats, ∀ lane : Fin c.dataBytes,
    route.payload.mask c.dataBytes index lane ≠ 0 → ∀ position : Fin 128,
      route.payload.busWord c.dataBytes index + lane =
        route.payload.address.toNat + position →
      image.1 position = (route.stagedBeat index).data lane ∧
        image.2 position = if (route.stagedBeat index).strobe lane ≠ 0 then 1 else 0
  blank : ∀ position : Fin 128,
    (¬∃ index < beats, ∃ lane : Fin c.dataBytes,
      route.payload.mask c.dataBytes index lane ≠ 0 ∧
        route.payload.busWord c.dataBytes index + lane =
          route.payload.address.toNat + position) →
    image.1 position = 0 ∧ image.2 position = 0

/-- The lane loop of `finish_exclusive_write` over any list of lanes. -/
private theorem imageLanes_spec {base address : Nat} {mask : Lanes c.dataBytes}
    (data strobe : Lanes c.dataBytes)
    (inside : ∀ lane : Fin c.dataBytes, mask lane ≠ 0 →
      address ≤ base + lane ∧ base + lane < address + 128 ∧ base + lane < 2 ^ 64)
    (lanes : List (Fin c.dataBytes)) (image : Lanes 128 × Lanes 128) :
    ∃ after, lanes.foldlM
        (fun image lane =>
          if mask lane = 0 then
            (.ok image : Except Fault (Lanes 128 × Lanes 128))
          else
            let index := sub64 (add64 base lane) address
            if inside : index < 128 then
              .ok (Function.update image.1 ⟨index, inside⟩ (data lane),
                Function.update image.2 ⟨index, inside⟩ (if strobe lane ≠ 0 then 1 else 0))
            else
              .error (.outOfBounds "atomic_data"))
        image = .ok after ∧
      (∀ lane ∈ lanes, mask lane ≠ 0 → ∀ position : Fin 128, base + lane = address + position →
        after.1 position = data lane ∧ after.2 position = if strobe lane ≠ 0 then 1 else 0) ∧
      ∀ position : Fin 128,
        (¬∃ lane ∈ lanes, mask lane ≠ 0 ∧ base + lane.val = address + position) →
        after.1 position = image.1 position ∧ after.2 position = image.2 position := by
  induction lanes generalizing image with
  | nil => exact ⟨image, rfl, by simp, fun _ _ => ⟨rfl, rfl⟩⟩
  | cons lane lanes ih =>
      rw [List.foldlM_cons]
      by_cases skipped : mask lane = 0
      · obtain ⟨after, done, written, kept⟩ := ih image
        refine ⟨after, by simpa [skipped, ok_bind] using done, ?_, ?_⟩
        · intro other member enabled
          rcases List.mem_cons.mp member with rfl | inRest
          · exact absurd skipped enabled
          · exact written other inRest enabled
        · intro position untouched
          exact kept position fun ⟨other, inRest, both⟩ =>
            untouched ⟨other, by simp [inRest], both⟩
      · obtain ⟨lower, upper, below⟩ := inside lane skipped
        have indexEq : sub64 (add64 base lane) address = base + lane - address := by
          rw [add64_eq below, sub64_eq lower below]
        have inImage : sub64 (add64 base lane) address < 128 := by omega
        rw [if_neg skipped]
        simp only [inImage, dif_pos, ok_bind]
        obtain ⟨after, done, written, kept⟩ := ih
          (Function.update image.1 ⟨_, inImage⟩ (data lane),
            Function.update image.2 ⟨_, inImage⟩ (if strobe lane ≠ 0 then 1 else 0))
        refine ⟨after, done, ?_, ?_⟩
        · intro other member enabled position placed
          by_cases again : ∃ later ∈ lanes, mask later ≠ 0 ∧ base + later.val = address + position
          · obtain ⟨later, inRest, laterEnabled, laterPlaced⟩ := again
            have same : later = other := Fin.ext (by omega)
            exact same ▸ written later inRest laterEnabled position laterPlaced
          · have here : other = lane := by
              rcases List.mem_cons.mp member with rfl | inRest
              · rfl
              · exact absurd ⟨other, inRest, enabled, placed⟩ again
            subst here
            have positionEq : position = ⟨_, inImage⟩ := Fin.ext (by simp only [indexEq]; omega)
            rw [(kept position again).1, (kept position again).2, positionEq]
            simp
        · intro position untouched
          have elsewhere : position ≠ ⟨_, inImage⟩ := by
            rintro rfl
            exact untouched ⟨lane, by simp, skipped, by simp only [indexEq]; omega⟩
          have later := kept position fun ⟨other, inRest, both⟩ =>
            untouched ⟨other, by simp [inRest], both⟩
          simpa [elsewhere] using later

theorem atomicImage_spec {route : WriteRoute c} {cursor : BurstCursor c.dataBytes}
    (built : BurstCursor.new route.payload = .ok cursor) (shape : ExclusiveShape route.payload)
    (starts : ∀ index < route.payload.beats, route.payload.beatStart index < 2 ^ 64) :
    ∃ image, atomicImage route cursor = .ok image ∧ Image route route.payload.beats image := by
  have payloadEq := BurstCursor.payload_of_new built
  have beatsEq : cursor.beats = route.payload.beats := congrArg AddressPayload.beats payloadEq
  rw [atomicImage, beatsEq]
  suffices holds : ∀ count ≤ route.payload.beats, ∃ image,
      (List.range count).foldlM (copyBeat route cursor)
        ((fun _ => 0, fun _ => 0) : Lanes 128 × Lanes 128) = .ok image ∧ Image route count image by
    exact holds _ (Nat.le_refl _)
  intro count countLe
  induction count with
  | zero => exact ⟨_, rfl, by simp, fun _ _ => ⟨rfl, rfl⟩⟩
  | succ count ih =>
      obtain ⟨image, done, covered, blank⟩ := ih (by omega)
      have inRange : count < route.payload.beats := by omega
      have startLt := starts count inRange
      have word := cursor.busWordAddress_eq c.dataBytes_eq (payloadEq ▸ inRange)
        (payloadEq ▸ startLt)
      have mask := cursor.laneMask_eq c.dataBytes_eq (payloadEq ▸ inRange) (payloadEq ▸ startLt)
      rw [payloadEq] at word mask
      have inside : ∀ lane : Fin c.dataBytes, route.payload.mask c.dataBytes count lane ≠ 0 →
          route.payload.address.toNat ≤ route.payload.busWord c.dataBytes count + lane ∧
            route.payload.busWord c.dataBytes count + lane <
              route.payload.address.toNat + 128 ∧
            route.payload.busWord c.dataBytes count + lane < 2 ^ 64 := by
        intro lane enabled
        obtain ⟨lower, upper, below⟩ := (route.payload.mask_ne_zero_iff count lane).mp enabled
        have startEq := shape.beatStart_eq count
        have endLe := shape.beatEnd_le_total inRange
        have totalLe := shape.total
        omega
      obtain ⟨after, lanesDone, written, kept⟩ := imageLanes_spec
        (route.stagedBeat count).data (route.stagedBeat count).strobe
        inside (List.finRange c.dataBytes) image
      refine ⟨after, ?_, ?_, ?_⟩
      · have beatsBound := route.payload.beats_le
        rw [List.range_succ, List.foldlM_append, done, ok_bind, List.foldlM_cons, copyBeat, word,
          mask, route.staged_eq (by omega)]
        simp only [ok_bind, lanesDone]
        rfl
      · intro index indexLt lane enabled position placed
        rcases Nat.lt_succ_iff_lt_or_eq.mp indexLt with earlier | rfl
        · -- Earlier beats end where this one starts, so it does not overwrite them.
          have untouched : ¬∃ other ∈ List.finRange c.dataBytes,
              route.payload.mask c.dataBytes count other ≠ 0 ∧
                route.payload.busWord c.dataBytes count + other.val =
                  route.payload.address.toNat + position := by
            rintro ⟨other, -, otherEnabled, otherPlaced⟩
            have := (route.payload.mask_ne_zero_iff index lane).mp enabled
            have := (route.payload.mask_ne_zero_iff count other).mp otherEnabled
            have := shape.beatEnd_le_beatStart earlier
            omega
          rw [(kept position untouched).1, (kept position untouched).2]
          exact covered index earlier lane enabled position placed
        · exact written lane (List.mem_finRange lane) enabled position placed
      · intro position uncovered
        have untouched : ¬∃ lane ∈ List.finRange c.dataBytes,
            route.payload.mask c.dataBytes count lane ≠ 0 ∧
              route.payload.busWord c.dataBytes count + lane.val =
                route.payload.address.toNat + position := by
          rintro ⟨lane, -, both⟩
          exact uncovered ⟨count, by omega, lane, both⟩
        rw [(kept position untouched).1, (kept position untouched).2]
        refine blank position ?_
        rintro ⟨index, indexLt, found⟩
        exact uncovered ⟨index, by omega, found⟩

/-- The device call of an exclusive write. -/
def exclusiveCall (payload : AddressPayload) (mapping : Mapping) (image : Lanes 128 × Lanes 128)
    (response : Response) : DeviceWrite where
  device := mapping.device
  address := payload.address.toNat
  offset := sub64 payload.address.toNat mapping.base
  data := span image.1 0 payload.total
  strobe := span image.2 0 payload.total
  response

theorem exclusiveCall_strobes_iff {payload : AddressPayload} (shape : ExclusiveShape payload)
    (mapping : Mapping) (image : Lanes 128 × Lanes 128) (response : Response) (byte : Nat) :
    (exclusiveCall payload mapping image response).Strobes byte ↔
      ∃ position : Fin 128, position.val < payload.total ∧ image.2 position ≠ 0 ∧
        byte = payload.address.toNat + position := by
  have fits : 0 + payload.total ≤ 128 := by
    have := shape.total
    omega
  simp only [DeviceWrite.Strobes, exclusiveCall]
  constructor
  · rintro ⟨lower, strobed⟩
    by_cases inside : byte - payload.address.toNat < payload.total
    · rw [byteAt_span _ inside fits] at strobed
      exact ⟨_, by simpa using inside, strobed, by simp only []; omega⟩
    · rw [byteAt_eq_zero (by rw [length_span _ fits]; omega)] at strobed
      exact absurd rfl strobed
  · rintro ⟨position, inside, strobed, rfl⟩
    refine ⟨Nat.le_add_right _ _, ?_⟩
    rw [Nat.add_sub_cancel_left, byteAt_span _ inside fits]
    simpa using strobed

/-- The lanes behind the strobed bytes of an exclusive write. -/
theorem Image.strobed_iff {route : WriteRoute c} {image : Lanes 128 × Lanes 128}
    (staged : Image route route.payload.beats image) (position : Fin 128) :
    image.2 position ≠ 0 ↔ ∃ index < route.payload.beats, ∃ lane : Fin c.dataBytes,
      route.payload.mask c.dataBytes index lane ≠ 0 ∧
        (route.stagedBeat index).strobe lane ≠ 0 ∧
        route.payload.busWord c.dataBytes index + lane =
          route.payload.address.toNat + position := by
  constructor
  · intro strobed
    by_cases found : ∃ index < route.payload.beats, ∃ lane : Fin c.dataBytes,
        route.payload.mask c.dataBytes index lane ≠ 0 ∧
          route.payload.busWord c.dataBytes index + lane =
            route.payload.address.toNat + position
    · obtain ⟨index, inRange, lane, enabled, placed⟩ := found
      rw [(staged.covered index inRange lane enabled position placed).2] at strobed
      refine ⟨index, inRange, lane, enabled, fun zero => ?_, placed⟩
      simp [zero] at strobed
    · exact absurd (staged.blank position found).2 strobed
  · rintro ⟨index, inRange, lane, enabled, strobe, placed⟩
    rw [(staged.covered index inRange lane enabled position placed).2, if_pos strobe]
    decide

/-- The monitor table holds a reservation of the payload for `{port, id}`. -/
def Reserved (monitors : Monitors c) (port : c.Port) (payload : AddressPayload) : Prop :=
  ∃ slot, findMonitor monitors port payload.id = some slot ∧ (monitors slot).payload = payload

/-- What an exclusive write with a reservation does. -/
structure ExclusiveWritten (env : FabricEnv W) (world : W) (monitors : Monitors c)
    (route : WriteRoute c) (mapping : Mapping) (image : Lanes 128 × Lanes 128)
    (access : WriteAccess c W) : Prop where
  staged : Image route route.payload.beats image
  call : access.call = some (exclusiveCall route.payload mapping image access.response)
  device : env.bank.writeImpl mapping.device world
      (sub64 route.payload.address.toNat mapping.base) (span image.1 0 route.payload.total)
      (span image.2 0 route.payload.total) = (access.world, access.response)
  answered : access.route =
    { route with
      response := if responseIsSuccess access.response then .exclusiveOkay else access.response }
  dropped : responseIsSuccess access.response = true → ∃ middle,
    Invalidated (exclusiveCall route.payload mapping image access.response).Strobes
      monitors middle ∧
    access.monitors = clearMonitor middle route.port route.payload.id
  kept : responseIsSuccess access.response = false →
    access.monitors = clearMonitor monitors route.port route.payload.id

section Exclusive

variable {env : FabricEnv W} {world : W} {monitors : Monitors c} {route : WriteRoute c}
  {mapping : Mapping} {cursor : BurstCursor c.dataBytes}

theorem finishExclusiveWrite_forced (untargeted : route.target = none) :
    finishExclusiveWrite env world monitors route cursor =
      .ok
        { route := { route with response := route.forcedResponse }, world,
          monitors := clearMonitor monitors route.port route.payload.id,
          response := route.forcedResponse, call := none } := by
  simp only [finishExclusiveWrite, untargeted]

theorem finishExclusiveWrite_unreserved (targeted : route.target = some mapping)
    (unreserved : ¬Reserved monitors route.port route.payload) :
    finishExclusiveWrite env world monitors route cursor =
      .ok
        { route := { route with response := .okay }, world,
          monitors := clearMonitor monitors route.port route.payload.id,
          response := .okay, call := none } := by
  have noSlot : (findMonitor monitors route.port route.payload.id).filter
      (fun slot => decide ((monitors slot).payload = route.payload)) = none := by
    rw [Option.filter_eq_none_iff]
    intro slot found
    simp only [decide_eq_true_eq]
    exact fun same => unreserved ⟨slot, found, same⟩
  simp only [finishExclusiveWrite, targeted, noSlot]

theorem finishExclusiveWrite_reserved (built : BurstCursor.new route.payload = .ok cursor)
    (shape : ExclusiveShape route.payload)
    (starts : ∀ index < route.payload.beats, route.payload.beatStart index < 2 ^ 64)
    (targeted : route.target = some mapping)
    (reserved : Reserved monitors route.port route.payload) :
    ∃ access image, finishExclusiveWrite env world monitors route cursor = .ok access ∧
      ExclusiveWritten env world monitors route mapping image access := by
  obtain ⟨slot, found, same⟩ := reserved
  obtain ⟨image, imageDone, imageSpec⟩ := atomicImage_spec built shape starts
  have payloadEq := BurstCursor.payload_of_new built
  have totalEq : cursor.beats * cursor.beatBytes = route.payload.total := by
    rw [BurstCursor.beats, BurstCursor.beatBytes, payloadEq]
    rfl
  have fits : 0 + route.payload.total ≤ 128 := by
    have := shape.total
    omega
  have positive : 0 < route.payload.total :=
    Nat.mul_pos route.payload.beats_pos (Nat.two_pow_pos _)
  have slotFound : (findMonitor monitors route.port route.payload.id).filter
      (fun slot => decide ((monitors slot).payload = route.payload)) = some slot := by
    rw [found]
    simp [same]
  simp only [finishExclusiveWrite, targeted, slotFound, imageDone, ok_bind, totalEq]
  rw [DeviceBank.write_eq _ _ _ _ (by rw [length_span _ fits, length_span _ fits])
    (by rw [length_span _ fits]; exact positive), ok_bind]
  generalize resultEq : env.bank.writeImpl mapping.device world _ _ _ = result
  obtain ⟨after, response⟩ := result
  by_cases success : responseIsSuccess response = true
  · simp only [success, if_true, pure, Except.pure]
    refine ⟨_, image, rfl, imageSpec, rfl, resultEq, by simp [success], fun _ => ⟨_, ?_, rfl⟩,
      fun failed => ?_⟩
    · refine (invalidated_foldl _ _ _ _).congr fun byte => ?_
      rw [exclusiveCall_strobes_iff shape]
      simp only [List.mem_finRange, true_and, and_assoc]
      refine exists_congr fun position => and_congr_right fun _ => and_congr_right fun strobed => ?_
      obtain ⟨index, inRange, lane, enabled, -, placed⟩ := (imageSpec.strobed_iff position).mp strobed
      have := (route.payload.mask_ne_zero_iff index lane).mp enabled
      rw [add64_eq (by omega)]
    · simp [success] at failed
  · simp only [success, pure, Except.pure]
    exact ⟨_, image, rfl, imageSpec, rfl, resultEq, by simp [success],
      fun succeeded => absurd succeeded success, fun _ => rfl⟩

end Exclusive

end AxiTestbench
