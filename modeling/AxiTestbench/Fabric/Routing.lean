import AxiTestbench.Fabric.Step

/-!
# Routing

What `initialize_route` computes.  The double loop over beats and lanes visits
the bytes of a burst in order, so it is a fold over a list of bytes; a burst is
routed to a window exactly when all the bytes it visits lie there.
-/

namespace AxiTestbench

open Lib Outcome

variable {c : Config} {W : Type}

/-! ## Acceptance -/

theorem makeCursor_eq_ok_iff {cycle : UInt64} {port : c.Port} {channel : Channel}
    {payload : AddressPayload} {cursor : BurstCursor c.dataBytes} :
    makeCursor cycle port channel payload = .ok cursor ↔
      BurstCursor.new payload = .ok cursor ∧ cursor.validate4kBoundary = .ok () := by
  simp only [makeCursor, bind, Except.bind, pure, Except.pure]
  cases built : (BurstCursor.new payload : Except Fault (BurstCursor c.dataBytes)) with
  | error fault =>
      simp only [reduceCtorEq, false_and, iff_false]
      split <;> simp_all
  | ok first =>
      cases checked : first.validate4kBoundary with
      | error fault =>
          simp only [Except.ok.injEq]
          constructor
          · intro impossible
            split at impossible <;> simp_all
          · rintro ⟨rfl, valid⟩
            simp [checked] at valid
      | ok done =>
          simp only [checked, Except.ok.injEq]
          constructor
          · rintro rfl
            exact ⟨rfl, checked⟩
          · exact fun both => both.1

/-! ## The bytes of a burst -/

/-- Addresses of the enabled lanes of a bus word. -/
def enabledBytes {dataBytes : Nat} (base : Nat) (mask : Lanes dataBytes)
    (lanes : List (Fin dataBytes)) : List Nat :=
  (lanes.filter fun lane => mask lane ≠ 0).map fun lane => base + lane.val

/-- The bytes the code sees of one beat: none, if the beat ends at `2 ^ 64`. -/
def AddressPayload.visibleBeat (dataBytes : Nat) (payload : AddressPayload) (index : Nat) :
    List Nat :=
  enabledBytes (payload.busWord dataBytes index) (payload.mask dataBytes index)
    (List.finRange dataBytes)

/-- The bytes the code sees of a burst, in the order of its loops. -/
def AddressPayload.visibleBytes (dataBytes : Nat) (payload : AddressPayload) : List Nat :=
  (List.range payload.beats).flatMap (payload.visibleBeat dataBytes)

theorem mem_visibleBeat_iff {payload : AddressPayload} (cursor : BurstCursor c.dataBytes)
    (built : BurstCursor.new payload = .ok cursor) (index byte : Nat) :
    byte ∈ payload.visibleBeat c.dataBytes index ↔
      payload.beatStart index ≤ byte ∧ byte < payload.beatEnd index ∧
        payload.beatEnd index < 2 ^ 64 := by
  have payloadEq := BurstCursor.payload_of_new built
  have word := cursor.beat_in_word c.dataBytes_eq index
  rw [payloadEq] at word
  simp only [AddressPayload.visibleBeat, enabledBytes, List.mem_map, List.mem_filter,
    List.mem_finRange, true_and, decide_eq_true_eq, AddressPayload.mask_ne_zero_iff]
  constructor
  · rintro ⟨lane, enabled, rfl⟩
    exact enabled
  · rintro ⟨lower, upper, below⟩
    refine ⟨⟨byte - payload.busWord c.dataBytes index, by omega⟩, ?_, ?_⟩
    · exact ⟨by simp only []; omega, by simp only []; omega, below⟩
    · simp only []
      omega

theorem mem_visibleBytes_iff {payload : AddressPayload} (cursor : BurstCursor c.dataBytes)
    (built : BurstCursor.new payload = .ok cursor) (byte : Nat) :
    byte ∈ payload.visibleBytes c.dataBytes ↔ ∃ index < payload.beats,
      payload.beatStart index ≤ byte ∧ byte < payload.beatEnd index ∧
        payload.beatEnd index < 2 ^ 64 := by
  simp only [AddressPayload.visibleBytes, List.mem_flatMap, List.mem_range,
    mem_visibleBeat_iff cursor built]

/-- A beat of an accepted burst reaches the top of the address space exactly when
it ends there. -/
theorem touchesTop_iff {payload : AddressPayload} (accepted : payload.Accepted c.dataBytes) :
    payload.TouchesTop ↔ ∃ index < payload.beats, payload.beatEnd index = 2 ^ 64 := by
  obtain ⟨cursor, built, below⟩ := (BurstCursor.accepted_iff c.dataBytes_eq payload).mp accepted
  have payloadEq := BurstCursor.payload_of_new built
  refine exists_congr fun index => and_congr_right fun inRange => ?_
  have endLe : payload.beatEnd index ≤ 2 ^ 64 := by
    rw [← payloadEq]
    exact cursor.beatEnd_le c.dataBytes_eq (by rw [payloadEq]; exact (below index inRange).1)
  have startLt := (below index inRange).1
  omega

/-- Away from the top of the address space the code sees every byte. -/
theorem mem_visibleBytes_iff_touches {payload : AddressPayload}
    (accepted : payload.Accepted c.dataBytes) (offTop : ¬payload.TouchesTop) (byte : Nat) :
    byte ∈ payload.visibleBytes c.dataBytes ↔ payload.Touches byte := by
  have beatEnds : ∀ index < payload.beats, payload.beatEnd index ≠ 2 ^ 64 :=
    fun index inRange endEq => offTop ((touchesTop_iff accepted).mpr ⟨index, inRange, endEq⟩)
  obtain ⟨cursor, built, below⟩ := (BurstCursor.accepted_iff c.dataBytes_eq payload).mp accepted
  have payloadEq := BurstCursor.payload_of_new built
  rw [mem_visibleBytes_iff cursor built]
  refine exists_congr fun index => and_congr_right fun inRange => ?_
  have endLe : payload.beatEnd index ≤ 2 ^ 64 := by
    rw [← payloadEq]
    exact cursor.beatEnd_le c.dataBytes_eq (by rw [payloadEq]; exact (below index inRange).1)
  have endNe := beatEnds index inRange
  constructor
  · rintro ⟨lower, upper, -⟩
    exact ⟨lower, upper⟩
  · rintro ⟨lower, upper⟩
    exact ⟨lower, upper, by omega⟩

/-! ## Decoding -/

theorem addressLimit_lt (c : Config) : addressLimit c < 2 ^ 64 := by
  have bits := c.addressBits_eq
  simp only [addressLimit]
  split <;> rcases bits with bits | bits <;> simp_all

/-- The lane loop over any list of lanes. -/
private theorem decodeLanes_eq (space : AddressSpace) (fault : Fault) (base : Nat)
    (mask : Lanes c.dataBytes) (lanes : List (Fin c.dataBytes)) (decoding : Decoding) :
    lanes.foldlM
        (fun decoding lane =>
          if mask lane = 0 then (.ok decoding : Except Fault Decoding)
          else if base > addressLimit c ∨ lane.val > addressLimit c - base then .error fault
          else .ok (decodeByte space decoding (add64 base lane)))
        decoding =
      if ∀ byte ∈ enabledBytes base mask lanes, byte ≤ addressLimit c then
        .ok ((enabledBytes base mask lanes).foldl (decodeByte space) decoding)
      else
        .error fault := by
  have limitLt := addressLimit_lt c
  induction lanes generalizing decoding with
  | nil => simp [enabledBytes, pure, Except.pure]
  | cons lane lanes ih =>
      rw [List.foldlM_cons]
      by_cases skipped : mask lane = 0
      · have rest : enabledBytes base mask (lane :: lanes) = enabledBytes base mask lanes := by
          simp [enabledBytes, skipped]
        rw [if_pos skipped, rest]
        exact ih decoding
      · have rest : enabledBytes base mask (lane :: lanes) =
            (base + lane.val) :: enabledBytes base mask lanes := by
          simp [enabledBytes, skipped]
        rw [if_neg skipped, rest]
        by_cases fits : base + lane.val ≤ addressLimit c
        · rw [if_neg (by omega), add64_eq (by omega)]
          simp only [List.forall_mem_cons, fits, true_and, List.foldl_cons]
          exact ih _
        · rw [if_pos (by omega), if_neg (fun all => fits (all _ (by simp)))]
          rfl

/-- The beat loop over any list of beats. -/
private theorem decodeBeats_eq {space : AddressSpace} {fault : Fault} {payload : AddressPayload}
    {cursor : BurstCursor c.dataBytes} (built : BurstCursor.new payload = .ok cursor)
    (below : ∀ index < payload.beats, payload.beatStart index < 2 ^ 64) (beats : List Nat)
    (indices : ∀ index ∈ beats, index < payload.beats) (decoding : Decoding) :
    beats.foldlM (decodeBeat space fault cursor) decoding =
      if ∀ byte ∈ beats.flatMap (payload.visibleBeat c.dataBytes), byte ≤ addressLimit c then
        .ok ((beats.flatMap (payload.visibleBeat c.dataBytes)).foldl (decodeByte space) decoding)
      else
        .error fault := by
  have payloadEq := BurstCursor.payload_of_new built
  induction beats generalizing decoding with
  | nil => simp [pure, Except.pure]
  | cons index beats ih =>
      have inRange := indices index (by simp)
      have startLt := below index inRange
      rw [← payloadEq] at startLt inRange
      rw [List.foldlM_cons, decodeBeat, cursor.busWordAddress_eq c.dataBytes_eq inRange startLt,
        cursor.laneMask_eq c.dataBytes_eq inRange startLt, payloadEq]
      simp only [ok_bind]
      rw [decodeLanes_eq, ← AddressPayload.visibleBeat]
      by_cases fits : ∀ byte ∈ payload.visibleBeat c.dataBytes index, byte ≤ addressLimit c
      · rw [if_pos fits, ok_bind, ih (fun other member => indices other (by simp [member]))]
        simp only [List.flatMap_cons, List.forall_mem_append, List.foldl_append,
          and_iff_right fits]
      · rw [if_neg fits, error_bind, if_neg]
        simp only [List.flatMap_cons, List.forall_mem_append]
        exact fun both => fits both.1

/-- The decoding loops as one pass over the visited bytes. -/
theorem decodeBurst_eq {space : AddressSpace} {cycle : UInt64} {port : c.Port} {channel : Channel}
    {payload : AddressPayload} {cursor : BurstCursor c.dataBytes}
    (built : BurstCursor.new payload = .ok cursor)
    (below : ∀ index < payload.beats, payload.beatStart index < 2 ^ 64) :
    decodeBurst space cycle port channel payload cursor =
      if ∀ byte ∈ payload.visibleBytes c.dataBytes, byte ≤ addressLimit c then
        .ok ((payload.visibleBytes c.dataBytes).foldl (decodeByte space) {})
      else
        .error (protocolError cycle port channel "address overflows configured width"
          (some payload)) := by
  have beatsEq : cursor.beats = payload.beats :=
    congrArg AddressPayload.beats (BurstCursor.payload_of_new built)
  rw [decodeBurst, beatsEq]
  exact decodeBeats_eq built below _ (fun index => List.mem_range.mp) _

/-- What has been learnt from the bytes visited so far. -/
structure Decoding.Learnt (space : AddressSpace) (bytes : List Nat) (decoding : Decoding) :
    Prop where
  unmapped : decoding.mapping = none → ∀ byte ∈ bytes, space.resolve byte 1 = none
  found : ∀ mapping, decoding.mapping = some mapping →
    ∃ byte ∈ bytes, space.resolve byte 1 = some mapping
  agreed : decoding.decodeError = false → ∀ byte ∈ bytes,
    space.resolve byte 1 = decoding.mapping ∧ space.resolve byte 1 ≠ none
  refused : decoding.decodeError = true →
    ∃ byte ∈ bytes, space.resolve byte 1 = none ∨ space.resolve byte 1 ≠ decoding.mapping

theorem Decoding.Learnt.decodeByte {space : AddressSpace} {bytes : List Nat} {decoding : Decoding}
    (learnt : decoding.Learnt space bytes) (byte : Nat) :
    (decodeByte space decoding byte).Learnt space (bytes ++ [byte]) := by
  have bothOf : ∀ {holds : Nat → Prop}, (∀ old ∈ bytes, holds old) → holds byte →
      ∀ any ∈ bytes ++ [byte], holds any := by
    intro holds old new any member
    rcases List.mem_append.mp member with earlier | last
    · exact old any earlier
    · exact List.mem_singleton.mp last ▸ new
  have widen : ∀ {holds : Nat → Prop}, (∃ old ∈ bytes, holds old) →
      ∃ any ∈ bytes ++ [byte], holds any := by
    rintro holds ⟨old, member, fact⟩
    exact ⟨old, List.mem_append_left _ member, fact⟩
  simp only [AxiTestbench.decodeByte]
  split
  next conflict =>
    refine ⟨fun none => bothOf (learnt.unmapped none) ?_,
      fun mapping some => widen (learnt.found mapping some), by simp, fun _ => ⟨byte, by simp, ?_⟩⟩
    · rcases conflict with unmapped | ⟨mapped, -⟩
      · exact unmapped
      · exact absurd none mapped
    · exact conflict.imp_right fun both => both.2
  next agrees =>
    have mapped : space.resolve byte 1 ≠ none := fun none => agrees (.inl none)
    split
    next first =>
      -- The first mapped byte decides the window, and every byte before it was unmapped.
      refine ⟨fun none => absurd none mapped, fun mapping some => ⟨byte, by simp, some⟩, ?_, ?_⟩
      · intro clean
        refine bothOf (fun old member => ?_) ⟨rfl, mapped⟩
        obtain ⟨same, oldMapped⟩ := learnt.agreed clean old member
        exact absurd (same.trans first) oldMapped
      · intro dirty
        obtain ⟨old, member, -⟩ := learnt.refused dirty
        exact ⟨old, List.mem_append_left _ member, .inl (learnt.unmapped first old member)⟩
    next later =>
      have same : space.resolve byte 1 = decoding.mapping := by
        by_contra different
        exact agrees (.inr ⟨later, different⟩)
      exact ⟨fun none => absurd none later, fun mapping some => widen (learnt.found mapping some),
        fun clean => bothOf (learnt.agreed clean) ⟨same, mapped⟩,
        fun dirty => widen (learnt.refused dirty)⟩

theorem learnt_foldl (space : AddressSpace) (bytes : List Nat) :
    (bytes.foldl (decodeByte space) {}).Learnt space bytes := by
  induction bytes using List.reverseRecOn with
  | nil => exact ⟨by simp, by simp, by simp, by simp⟩
  | append_singleton bytes byte ih =>
      rw [List.foldl_append, List.foldl_cons, List.foldl_nil]
      exact ih.decodeByte byte

/-- The window a burst is decoded to: the one that holds all its visible bytes. -/
def Decodes (space : AddressSpace) (dataBytes : Nat) (payload : AddressPayload)
    (mapping : Mapping) : Prop :=
  payload.visibleBytes dataBytes ≠ [] ∧
    ∀ byte ∈ payload.visibleBytes dataBytes, space.resolve byte 1 = some mapping

/-- The outcome of the decoding loops. -/
def decodedMapping (space : AddressSpace) (dataBytes : Nat) (payload : AddressPayload) :
    Option Mapping :=
  let decoding := (payload.visibleBytes dataBytes).foldl (decodeByte space) {}
  if decoding.decodeError then none else decoding.mapping

theorem decodedMapping_eq_some_iff (space : AddressSpace) (dataBytes : Nat)
    (payload : AddressPayload) (mapping : Mapping) :
    decodedMapping space dataBytes payload = some mapping ↔
      Decodes space dataBytes payload mapping := by
  simp only [decodedMapping]
  have learnt := learnt_foldl space (payload.visibleBytes dataBytes)
  generalize (payload.visibleBytes dataBytes).foldl (decodeByte space) {} = decoding at learnt
  constructor
  · intro found
    split at found
    next => simp at found
    next clean =>
      have clean := Bool.eq_false_iff.mpr clean
      obtain ⟨byte, member, -⟩ := learnt.found mapping found
      refine ⟨List.ne_nil_of_mem member, fun other inBytes => ?_⟩
      rw [(learnt.agreed clean other inBytes).1, found]
  · rintro ⟨nonempty, all⟩
    obtain ⟨byte, member⟩ := List.exists_mem_of_ne_nil _ nonempty
    have mappingEq : decoding.mapping = some mapping := by
      cases known : decoding.mapping with
      | none =>
          have unmapped := learnt.unmapped known byte member
          rw [all byte member] at unmapped
          contradiction
      | some other =>
          obtain ⟨witness, inBytes, resolved⟩ := learnt.found other known
          rw [← resolved, all witness inBytes]
    have clean : ¬decoding.decodeError = true := by
      intro dirty
      obtain ⟨witness, inBytes, conflict⟩ := learnt.refused dirty
      rw [mappingEq, all witness inBytes] at conflict
      simp at conflict
    rw [if_neg clean, mappingEq]

/-! ## Exclusive shapes -/

/-- What `validate_exclusive` demands. -/
structure ExclusiveShape (payload : AddressPayload) : Prop where
  burst : payload.burst = .increment
  beats : payload.beats ≤ 16
  total : payload.total ≤ 128
  power : ∃ exponent, payload.total = 2 ^ exponent
  aligned : payload.total ∣ payload.address.toNat

private theorem power_of_and_eq_zero : ∀ total ≤ 128, total ≠ 0 → total &&& (total - 1) = 0 →
    ∃ exponent ≤ 7, total = 2 ^ exponent := by
  decide

theorem validateExclusive_eq_ok_iff {cycle : UInt64} {port : c.Port} {channel : Channel}
    {payload : AddressPayload} {cursor : BurstCursor c.dataBytes}
    (built : BurstCursor.new payload = .ok cursor) :
    validateExclusive cycle port channel payload cursor = .ok () ↔ ExclusiveShape payload := by
  have payloadEq := BurstCursor.payload_of_new built
  have beatsEq : cursor.beats = payload.beats := congrArg AddressPayload.beats payloadEq
  have totalEq : payload.beats * cursor.beatBytes = payload.total := by
    rw [BurstCursor.beatBytes, payloadEq]
    rfl
  simp only [validateExclusive, beatsEq, totalEq]
  split
  next illegal =>
    simp only [reduceCtorEq, false_iff]
    intro shape
    obtain ⟨exponent, power⟩ := shape.power
    have positive : 0 < payload.total := power ▸ Nat.two_pow_pos exponent
    have masked : payload.total &&& (payload.total - 1) = 0 := by
      rw [power, Nat.and_two_pow_sub_one_eq_mod, Nat.mod_self]
    have alignedBits : payload.address.toNat &&& (payload.total - 1) = 0 := by
      have aligned := shape.aligned
      rw [power] at aligned ⊢
      rw [Nat.and_two_pow_sub_one_eq_mod]
      exact Nat.mod_eq_zero_of_dvd aligned
    rcases illegal with burst | beats | zero | total | power | aligned
    · exact burst shape.burst
    · have := shape.beats
      omega
    · omega
    · have := shape.total
      omega
    · exact power masked
    · exact aligned alignedBits
  next legal =>
    simp only [true_iff]
    simp only [not_or, not_not, Nat.not_lt] at legal
    obtain ⟨burst, beats, nonzero, total, masked, alignedBits⟩ := legal
    obtain ⟨exponent, -, power⟩ := power_of_and_eq_zero payload.total total nonzero masked
    refine ⟨burst, beats, total, ⟨exponent, power⟩, ?_⟩
    rw [power, Nat.and_two_pow_sub_one_eq_mod] at alignedBits
    rw [power]
    exact Nat.dvd_of_mod_eq_zero alignedBits

/-! ## Routes -/

/-- The response that a route is forced to; `okay` leaves the answer to the
device. -/
def forcedResponseOf (env : FabricEnv W) (world : W) (payload : AddressPayload)
    (mapping : Option Mapping) : Response :=
  match mapping with
  | none => if payload.lock then .slaveError else .decodeError
  | some mapping =>
      if payload.beats > 1 ∧ env.bank.supportsBurst mapping.device world = false then .slaveError
      else if payload.lock ∧ env.bank.supportsExclusive mapping.device world = false then
        .slaveError
      else .okay

/-- The route of a payload. -/
def routeOf (env : FabricEnv W) (world : W) (port : c.Port) (payload : AddressPayload) :
    RouteBase c where
  port
  payload
  mapping := decodedMapping env.space c.dataBytes payload
  forcedResponse :=
    forcedResponseOf env world payload (decodedMapping env.space c.dataBytes payload)
  exclusive := payload.lock

/-- Payloads that `initialize_route` accepts. -/
structure Routable (c : Config) (payload : AddressPayload) : Prop where
  accepted : payload.Accepted c.dataBytes
  inWidth : ∀ byte ∈ payload.visibleBytes c.dataBytes, byte ≤ addressLimit c
  shape : payload.lock = true → ExclusiveShape payload

/-- What a route keeps of the payload it was made from. -/
structure RouteBase.Routed (route : RouteBase c) (port : c.Port) (payload : AddressPayload) :
    Prop where
  port_eq : route.port = port
  payload_eq : route.payload = payload
  beat_eq : route.beat = 0
  exclusive_eq : route.exclusive = payload.lock
  accepted : payload.Accepted c.dataBytes

section Initialize

variable {env : FabricEnv W} {cycle : UInt64} {world : W} {port : c.Port}
  {payload : AddressPayload} {channel : Channel}

theorem initializeRoute_eq (routable : Routable c payload) :
    initializeRoute env cycle world port payload channel =
      .ok (routeOf env world port payload) := by
  obtain ⟨cursor, built, valid⟩ := routable.accepted
  obtain ⟨other, otherBuilt, below⟩ :=
    (BurstCursor.accepted_iff c.dataBytes_eq payload).mp routable.accepted
  have beatsEq : cursor.beats = payload.beats :=
    congrArg AddressPayload.beats (BurstCursor.payload_of_new built)
  rw [initializeRoute, makeCursor_eq_ok_iff.mpr ⟨built, valid⟩, ok_bind,
    decodeBurst_eq built fun index inRange => (below index inRange).1, if_pos routable.inWidth,
    ok_bind, ← decodedMapping, beatsEq, routeOf]
  cases lock : payload.lock with
  | false =>
      simp only [Bool.false_eq_true, if_false]
      cases mapped : decodedMapping env.space c.dataBytes payload with
      | none => simp [forcedResponseOf, lock, pure, Except.pure]
      | some mapping => simp [forcedResponseOf, lock, pure, Except.pure]
  | true =>
      have checked : validateExclusive cycle port channel payload cursor = .ok () :=
        (validateExclusive_eq_ok_iff built).mpr (routable.shape lock)
      simp only [if_true, checked, ok_bind]
      cases mapped : decodedMapping env.space c.dataBytes payload with
      | none => simp [forcedResponseOf, lock, pure, Except.pure]
      | some mapping =>
          simp only [forcedResponseOf, lock, true_and, pure, Except.pure]
          split <;> simp

theorem initializeRoute_routable {base : RouteBase c}
    (routed : initializeRoute env cycle world port payload channel = .ok base) :
    Routable c payload := by
  rw [initializeRoute] at routed
  cases made : makeCursor cycle port channel payload with
  | error fault => simp [made, error_bind] at routed
  | ok cursor =>
      obtain ⟨built, valid⟩ := makeCursor_eq_ok_iff.mp made
      have accepted : payload.Accepted c.dataBytes := ⟨cursor, built, valid⟩
      obtain ⟨other, otherBuilt, below⟩ :=
        (BurstCursor.accepted_iff c.dataBytes_eq payload).mp accepted
      rw [made, ok_bind, decodeBurst_eq built fun index inRange => (below index inRange).1]
        at routed
      by_cases inWidth : ∀ byte ∈ payload.visibleBytes c.dataBytes, byte ≤ addressLimit c
      · refine ⟨accepted, inWidth, fun lock => ?_⟩
        rw [if_pos inWidth, ok_bind] at routed
        simp only [lock, if_true] at routed
        cases checked : validateExclusive cycle port channel payload cursor with
        | ok done => exact (validateExclusive_eq_ok_iff built).mp checked
        | error fault => simp [checked, error_bind] at routed
      · rw [if_neg inWidth, error_bind] at routed
        contradiction

theorem initializeRoute_eq_ok_iff {base : RouteBase c} :
    initializeRoute env cycle world port payload channel = .ok base ↔
      Routable c payload ∧ base = routeOf env world port payload := by
  constructor
  · intro routed
    have routable := initializeRoute_routable routed
    rw [initializeRoute_eq routable] at routed
    exact ⟨routable, (Except.ok.inj routed).symm⟩
  · rintro ⟨routable, rfl⟩
    exact initializeRoute_eq routable

end Initialize

/-! ## Refused payloads -/

/-- The complaints of `make_cursor` and `initialize_route` about the shape of a
burst. -/
def shapeDetails : List String :=
  ["AXI AxSIZE is not representable", "AXI AxSIZE exceeds the data bus width",
    "reserved AXI burst type", "AXI FIXED burst contains more than 16 beats",
    "AXI WRAP burst length is not 2, 4, 8, or 16", "AXI WRAP burst start is not beat-aligned",
    "AXI address arithmetic overflow", "AXI burst crosses a 4 KiB boundary",
    "address overflows configured width", "illegal AXI exclusive transfer shape"]

theorem BurstCursor.new_error {dataBytes : Nat} {payload : AddressPayload} {fault : Fault}
    (refused : (BurstCursor.new payload : Except Fault (BurstCursor dataBytes)) = .error fault) :
    ∃ detail ∈ shapeDetails, fault = .protocol none detail := by
  simp only [BurstCursor.new] at refused
  repeat' split at refused
  all_goals first | contradiction | cases refused
  all_goals exact ⟨_, by simp [shapeDetails], rfl⟩

theorem BurstCursor.validate4kBoundary_error {dataBytes : Nat}
    (width : dataBytes = 4 ∨ dataBytes = 8 ∨ dataBytes = 16) {cursor : BurstCursor dataBytes}
    {fault : Fault} (refused : cursor.validate4kBoundary = .error fault) :
    ∃ detail ∈ shapeDetails, fault = .protocol none detail := by
  obtain ⟨index, member, failed⟩ := exists_of_forM_error refused
  have inRange : index < cursor.payload.beats := List.mem_range.mp member
  by_cases startLt : cursor.payload.beatStart index < 2 ^ 64
  · rw [cursor.busWordAddress_eq width inRange startLt,
      cursor.laneMask_eq width inRange startLt] at failed
    obtain ⟨lane, -, crossing⟩ := exists_of_forM_error failed
    split at crossing
    · cases crossing
      exact ⟨_, by simp [shapeDetails], rfl⟩
    · contradiction
  · simp only [busWordAddress, beatAddress_eq cursor inRange, startLt, if_false, bind,
      Except.bind] at failed
    cases failed
    exact ⟨_, by simp [shapeDetails], rfl⟩

theorem makeCursor_error {cycle : UInt64} {port : c.Port} {channel : Channel}
    {payload : AddressPayload} {fault : Fault}
    (refused : makeCursor cycle port channel payload = .error fault) :
    ∃ detail ∈ shapeDetails,
      fault = protocolError cycle port channel detail (some payload) := by
  simp only [makeCursor, bind, Except.bind, pure, Except.pure] at refused
  cases built : (BurstCursor.new payload : Except Fault (BurstCursor c.dataBytes)) with
  | error inner =>
      obtain ⟨detail, known, rfl⟩ := BurstCursor.new_error built
      rw [built] at refused
      cases refused
      exact ⟨detail, known, rfl⟩
  | ok cursor =>
      rw [built] at refused
      cases checked : cursor.validate4kBoundary with
      | error inner =>
          obtain ⟨detail, known, rfl⟩ := BurstCursor.validate4kBoundary_error c.dataBytes_eq checked
          simp only [checked] at refused
          cases refused
          exact ⟨detail, known, rfl⟩
      | ok done => simp [checked] at refused

/-- A payload that is not routed has an illegal shape, and the error names it. -/
theorem initializeRoute_error {env : FabricEnv W} {cycle : UInt64} {world : W} {port : c.Port}
    {payload : AddressPayload} {channel : Channel} {fault : Fault}
    (refused : initializeRoute env cycle world port payload channel = .error fault) :
    ¬Routable c payload ∧ ∃ detail ∈ shapeDetails,
      fault = protocolError cycle port channel detail (some payload) := by
  refine ⟨fun routable => ?_, ?_⟩
  · rw [initializeRoute_eq routable] at refused
    contradiction
  rw [initializeRoute] at refused
  cases made : makeCursor cycle port channel payload with
  | error inner =>
      rw [made, error_bind] at refused
      cases refused
      exact makeCursor_error made
  | ok cursor =>
      obtain ⟨built, valid⟩ := makeCursor_eq_ok_iff.mp made
      obtain ⟨-, -, below⟩ :=
        (BurstCursor.accepted_iff c.dataBytes_eq payload).mp ⟨cursor, built, valid⟩
      rw [made, ok_bind, decodeBurst_eq built fun index inRange => (below index inRange).1]
        at refused
      by_cases inWidth : ∀ byte ∈ payload.visibleBytes c.dataBytes, byte ≤ addressLimit c
      · rw [if_pos inWidth, ok_bind] at refused
        cases lock : payload.lock with
        | false => simp [lock, pure, Except.pure] at refused
        | true =>
            simp only [lock, if_true] at refused
            cases checked : validateExclusive cycle port channel payload cursor with
            | ok done =>
                rw [checked, ok_bind] at refused
                repeat' split at refused
                all_goals contradiction
            | error inner =>
                rw [checked, error_bind] at refused
                cases refused
                simp only [validateExclusive] at checked
                split at checked
                · cases checked
                  exact ⟨_, by simp [shapeDetails], rfl⟩
                · contradiction
      · rw [if_neg inWidth, error_bind] at refused
        cases refused
        exact ⟨_, by simp [shapeDetails], rfl⟩

theorem initializeRoute_routed {env : FabricEnv W} {cycle : UInt64} {world : W} {port : c.Port}
    {payload : AddressPayload} {channel : Channel} {base : RouteBase c}
    (routed : initializeRoute env cycle world port payload channel = .ok base) :
    base.Routed port payload := by
  obtain ⟨routable, rfl⟩ := initializeRoute_eq_ok_iff.mp routed
  exact ⟨rfl, rfl, rfl, rfl, routable.accepted⟩

end AxiTestbench
