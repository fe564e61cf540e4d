import AxiTestbench.Interrupt.Plic

/-!
# Claims and completions

What the guest and the wires see of a run of the controller: the levels that `settle()`
samples, the claim reads with the values they return and the completion writes that are
accepted.  For each source these events are a run of its gateway.
-/

namespace AxiTestbench

open Lib

/-- A call of `settle()` or an access of the bus.  Writes settle too: they carry the levels
at that time. -/
inductive PlicOperation where
  | settle (inputs : Nat → UInt64)
  | read (offset : Nat) (lanes : List UInt8)
  | write (inputs : Nat → UInt64) (offset : Nat) (data lanes : List UInt8)

inductive PlicEvent where
  | sampled (inputs : Nat → UInt64)
  | claimed (id : Nat)
  | completed (id : Nat)

namespace Plic

variable (shape : PlicShape)

def apply (device : Plic) : PlicOperation → Plic
  | .settle inputs => device.settle shape inputs
  | .read offset lanes => (device.readImpl shape offset lanes).1
  -- `Device::write` throws before the device sees a span of another length.
  | .write inputs offset data lanes =>
      if data.length = lanes.length then (device.writeImpl shape inputs offset data lanes).1
      else device

def run (device : Plic) (operations : List PlicOperation) : Plic :=
  operations.foldl (apply shape) device

/-- The claim and completion registers of the contexts. -/
def ClaimRegister (address : Nat) : Prop :=
  0x200000 ≤ address ∧ address < 0x200000 + shape.contexts * 0x1000 ∧ address % 0x1000 = 4

instance (address : Nat) : Decidable (ClaimRegister shape address) :=
  inferInstanceAs (Decidable (_ ∧ _ ∧ _))

/-- A completion that is not ignored: a valid ID, enabled for the writing context. -/
def Accepted (device : Plic) (address id : Nat) : Prop :=
  ClaimRegister shape address ∧ id ≠ 0 ∧ id ≤ shape.sources ∧
    device.enabled ((address - 0x200000) / 0x1000) id = true

instance (device : Plic) (address id : Nat) : Decidable (device.Accepted shape address id) :=
  inferInstanceAs (Decidable (_ ∧ _ ∧ _ ∧ _))

/-- The word that a beat writes. -/
def written (found : Access) (data : List UInt8) : UInt32 := UInt32.ofNat (found.get data)

/-- The events of an operation.  The value of a claim is taken from the data that the read
returns. -/
def events (device : Plic) : PlicOperation → List PlicEvent
  | .settle inputs => [.sampled inputs]
  | .read offset lanes =>
      match beat offset lanes with
      | none => []
      | some found =>
          if found.size ≠ 0 ∧ ClaimRegister shape found.address then
            [.claimed (found.get (device.readImpl shape offset lanes).2.2)]
          else []
  | .write inputs offset data lanes =>
      match beat offset lanes with
      | none => []
      | some found =>
          if data.length = lanes.length ∧ found.size ≠ 0 then
            if device.Accepted shape found.address (written found data).toNat then
              [.completed (written found data).toNat, .sampled inputs]
            else [.sampled inputs]
          else []

def log : Plic → List PlicOperation → List PlicEvent
  | _, [] => []
  | device, operation :: rest =>
      device.events shape operation ++ log (device.apply shape operation) rest

/-! ## The gateway of one source -/

def gateway (device : Plic) (source : Nat) : Gateway.State :=
  ⟨device.pending source, device.busy source⟩

/-- What an event is for a source. -/
def view (source : Nat) : PlicEvent → Option Gateway.Event
  | .sampled inputs => some (.sample (inputs source != 0))
  | .claimed id => if id = source then some .claim else none
  | .completed id => if id = source then some .complete else none

@[simp] theorem gateway_notify (device : Plic) (source : Nat) :
    (device.notify shape).gateway source = device.gateway source := rfl

theorem gateway_trigger (inputs : Nat → UInt64) (device : Plic) (other source : Nat) :
    (trigger inputs device other).gateway source =
      if other = source then (device.gateway source).sample (inputs source != 0)
      else device.gateway source := by
  by_cases same : other = source
  · subst same
    by_cases fires : inputs other ≠ 0 ∧ device.busy other = false
    · simp [trigger, gateway, Gateway.State.sample, fires]
    · simp [trigger, gateway, Gateway.State.sample, fires]
  · rw [if_neg same, trigger]
    split
    · simp only [gateway, Function.update_of_ne (Ne.symm same)]
    · rfl

/-- The loop of `settle` samples every source once. -/
theorem gateway_foldl_trigger (inputs : Nat → UInt64) (sources : List Nat) (nodup : sources.Nodup)
    (device : Plic) (source : Nat) :
    (sources.foldl (trigger inputs) device).gateway source =
      if source ∈ sources then (device.gateway source).sample (inputs source != 0)
      else device.gateway source := by
  induction sources generalizing device with
  | nil => rfl
  | cons other sources ih =>
      obtain ⟨fresh, later⟩ := List.nodup_cons.mp nodup
      rw [List.foldl_cons, ih later, gateway_trigger]
      by_cases same : other = source
      · subst same
        simp [fresh]
      · simp [same, Ne.symm same]

theorem gateway_settle {source : Nat} (positive : 0 < source) (inRange : source ≤ shape.sources)
    (device : Plic) (inputs : Nat → UInt64) :
    (device.settle shape inputs).gateway source =
      (device.gateway source).sample (inputs source != 0) := by
  have member : source ∈ List.range' 1 shape.sources := by
    rw [List.mem_range'_1]
    omega
  rw [settle, gateway_notify, gateway_foldl_trigger inputs _ List.nodup_range', if_pos member]

/-- The scan selects a pending source. -/
theorem best_pending (device : Plic) (context : Nat) :
    device.best shape context = 0 ∨ device.best shape context ≤ shape.sources ∧
      device.pending (device.best shape context) = true := by
  suffices scan : ∀ (sources : List Nat) (selected : Nat),
      (∀ source ∈ sources, source ≤ shape.sources) →
      (selected = 0 ∨ selected ≤ shape.sources ∧ device.pending selected = true) →
      (sources.foldl (device.better context) selected = 0 ∨
        sources.foldl (device.better context) selected ≤ shape.sources ∧
          device.pending (sources.foldl (device.better context) selected) = true) by
    refine scan _ 0 (fun source member => ?_) (.inl rfl)
    rw [List.mem_range'_1] at member
    omega
  intro sources
  induction sources with
  | nil => exact fun selected _ found => found
  | cons source sources ih =>
      intro selected inRange found
      refine ih _ (fun other member => inRange other (List.mem_cons_of_mem _ member)) ?_
      rw [better]
      split
      next chosen => exact .inr ⟨inRange source List.mem_cons_self, chosen.1⟩
      next => exact found

/-- A claim takes the request of the source whose ID it returns. -/
theorem gateway_claim (device : Plic) (context : Nat) {source : Nat} (positive : 0 < source) :
    Gateway.Run (device.gateway source)
      (([.claimed (device.claim shape context).2.toNat] : List PlicEvent).filterMap (view source))
      ((device.claim shape context).1.gateway source) := by
  have found := device.best_pending shape context
  have bounded := shape.sources_le
  have id : (device.claim shape context).2.toNat = device.best shape context := by
    rw [claim, UInt32.toNat_ofNat']
    omega
  rw [id]
  by_cases chosen : device.best shape context = source
  · have pending : (device.gateway source).pending = true := by
      rcases found with none | ⟨-, pending⟩
      · omega
      · exact chosen ▸ pending
    have taken : (device.claim shape context).1.gateway source =
        { device.gateway source with pending := false } := by
      have present : device.best shape context ≠ 0 := by omega
      simp only [claim, gateway_notify, if_pos present]
      simp [gateway, chosen]
    simp only [List.filterMap_cons, List.filterMap_nil, view, if_pos chosen]
    exact .claim pending (taken ▸ .nil)
  · have kept : (device.claim shape context).1.gateway source = device.gateway source := by
      simp only [claim, gateway_notify]
      split
      · simp only [gateway, Function.update_of_ne (Ne.symm chosen)]
      · rfl
    simp only [List.filterMap_cons, List.filterMap_nil, view, if_neg chosen]
    exact kept ▸ .nil

/-- Reading another register than a claim register changes nothing. -/
theorem readRegister_fst (device : Plic) {address : Nat} (other : ¬ClaimRegister shape address) :
    (device.readRegister shape address).1 = device := by
  rw [readRegister]
  split
  next => rfl
  next =>
    split
    next => rfl
    next =>
      split
      next => rfl
      next =>
        split
        next inside =>
          split
          next => rfl
          next =>
            split
            next isClaim => exact absurd ⟨inside.1, inside.2, isClaim⟩ other
            next => rfl
        next => rfl

theorem readRegister_claim (device : Plic) {address : Nat} (register : ClaimRegister shape address) :
    device.readRegister shape address =
      device.claim shape ((address - 0x200000) / 0x1000) := by
  obtain ⟨low, high, isClaim⟩ := register
  have small := shape.contexts_le
  rw [readRegister, if_neg (by omega), if_neg (by omega), if_neg (by omega), if_pos ⟨low, high⟩]
  simp only [isClaim, if_true]
  rfl

/-- A write releases the gateway of a source if and only if it is an accepted completion. -/
theorem gateway_update (device : Plic) (address : Nat) (value : UInt32) (source : Nat) :
    (device.update shape address value).gateway source =
      if device.Accepted shape address value.toNat ∧ value.toNat = source then
        { device.gateway source with busy := false }
      else device.gateway source := by
  have small := shape.contexts_le
  rw [update]
  split
  next low =>
    rw [if_neg fun ⟨accepted, _⟩ => by have := accepted.1.1; omega]
    rfl
  next =>
    split
    next enables =>
      rw [if_neg fun ⟨accepted, _⟩ => by have := accepted.1.1; omega]
      rfl
    next =>
      split
      next inside =>
        simp only
        split
        next threshold =>
          rw [if_neg fun ⟨accepted, _⟩ => by have := accepted.1.2.2; omega]
          rfl
        next =>
          split
          next completion =>
            obtain ⟨isClaim, nonzero, inRange, enabled⟩ := completion
            have accepted : device.Accepted shape address value.toNat :=
              ⟨⟨inside.1, inside.2, isClaim⟩, fun zero => nonzero (UInt32.toNat_inj.mp zero),
                inRange, enabled⟩
            by_cases same : value.toNat = source
            · rw [if_pos ⟨accepted, same⟩]
              simp [gateway, same]
            · rw [if_neg fun both => same both.2]
              simp only [gateway, Function.update_of_ne (Ne.symm same)]
          next refused =>
            rw [if_neg]
            rintro ⟨⟨register, nonzero, inRange, enabled⟩, -⟩
            exact refused ⟨register.2.2, fun zero => nonzero (zero ▸ rfl), inRange, enabled⟩
      next outside =>
        rw [if_neg fun ⟨accepted, _⟩ => outside ⟨accepted.1.1, accepted.1.2.1⟩]

theorem gateway_writeRegister {source : Nat} (positive : 0 < source)
    (inRange : source ≤ shape.sources) (device : Plic) (inputs : Nat → UInt64) (address : Nat)
    (value : UInt32) :
    Gateway.Run (device.gateway source)
      ((if device.Accepted shape address value.toNat then
          [.completed value.toNat, .sampled inputs]
        else [.sampled inputs]).filterMap (view source))
      ((device.writeRegister shape inputs address value).gateway source) := by
  rw [writeRegister, gateway_settle shape positive inRange, gateway_update]
  by_cases accepted : device.Accepted shape address value.toNat
  · by_cases same : value.toNat = source
    · rw [if_pos accepted, if_pos ⟨accepted, same⟩]
      simp only [List.filterMap_cons, List.filterMap_nil, view, if_pos same]
      exact .complete (.sample .nil)
    · rw [if_pos accepted, if_neg fun both => same both.2]
      simp only [List.filterMap_cons, List.filterMap_nil, view, if_neg same]
      exact .sample .nil
  · rw [if_neg accepted, if_neg fun both => accepted both.1]
    exact .sample .nil

/-- The events of an operation are a run of the gateway of every source. -/
theorem gateway_apply {source : Nat} (positive : 0 < source) (inRange : source ≤ shape.sources)
    (device : Plic) (operation : PlicOperation) :
    Gateway.Run (device.gateway source) ((device.events shape operation).filterMap (view source))
      ((device.apply shape operation).gateway source) := by
  cases operation with
  | settle inputs =>
      rw [apply, gateway_settle shape positive inRange]
      exact .sample .nil
  | read offset lanes =>
      rw [apply, events, readImpl]
      cases reached : beat offset lanes with
      | none => exact .nil
      | some found =>
          by_cases active : found.size ≠ 0
          · by_cases register : ClaimRegister shape found.address
            · obtain ⟨silent, -⟩ | ⟨start, rfl, run, -, -⟩ := beat_cases reached
              · exact absurd silent active
              simp only [active, register, not_false_eq_true, and_self, if_true, ne_eq,
                readRegister_claim shape device register]
              have word : (device.claim shape ((offset + start - 0x200000) / 0x1000)).2.toNat <
                  256 ^ 4 := UInt32.toNat_lt _
              rw [Access.get_put _ _ run.inside, Nat.mod_eq_of_lt word]
              exact device.gateway_claim shape _ positive
            · simp only [active, register, not_false_eq_true, and_false, if_true, if_false, ne_eq,
                List.filterMap_nil, readRegister_fst shape device register]
              exact .nil
          · simp only [active, false_and, if_false, List.filterMap_nil]
            exact .nil
  | write inputs offset data lanes =>
      rw [apply, events, writeImpl]
      cases reached : beat offset lanes with
      | none =>
          simp only [List.filterMap_nil, ite_self]
          exact .nil
      | some found =>
          by_cases sameLength : data.length = lanes.length
          · by_cases active : found.size ≠ 0
            · simp only [sameLength, active, not_false_eq_true, and_self, if_true, ne_eq]
              exact gateway_writeRegister shape positive inRange device inputs found.address _
            · simp only [sameLength, active, and_false, if_false, if_true, List.filterMap_nil]
              exact .nil
          · simp only [sameLength, false_and, if_false, List.filterMap_nil]
            exact .nil

/-- The log of a run is a run of the gateway of every source. -/
theorem gateway_run {source : Nat} (positive : 0 < source) (inRange : source ≤ shape.sources)
    (device : Plic) (operations : List PlicOperation) :
    Gateway.Run (device.gateway source) ((device.log shape operations).filterMap (view source))
      ((device.run shape operations).gateway source) := by
  induction operations generalizing device with
  | nil => exact .nil
  | cons operation operations ih =>
      rw [log, List.filterMap_append]
      exact (gateway_apply shape positive inRange device operation).append (ih _)

/-- The claim reads in a log that return a source. -/
def claims (source : Nat) (log : List PlicEvent) : Nat :=
  (log.filterMap (view source)).count .claim

/-- The accepted completions of a source in a log. -/
def completions (source : Nat) (log : List PlicEvent) : Nat :=
  (log.filterMap (view source)).count .complete

theorem view_eq_claim {source : Nat} {event : PlicEvent} :
    view source event = some .claim ↔ event = .claimed source := by
  cases event with
  | sampled inputs => simp [view]
  | claimed id => simp [view]
  | completed id => simp [view]

theorem view_eq_sample {source : Nat} {event : PlicEvent}
    (high : view source event = some (.sample true)) :
    ∃ inputs, event = .sampled inputs ∧ inputs source ≠ 0 := by
  cases event with
  | sampled inputs => exact ⟨inputs, rfl, by simpa [view] using high⟩
  | claimed id => simp [view] at high
  | completed id => simp [view] at high

end Plic

/-- Gateways neither repeat, invent nor lose an interrupt.  Since the last reset the claims of
a source exceed its completions by at most one; between two claims of it, and before the
first, its input was sampled high; and a pending source stays pending until it is claimed. -/
theorem plic_gateway_sound (shape : PlicShape) (earlier : Plic)
    (operations : List PlicOperation) (source : Nat) (positive : 1 ≤ source)
    (inRange : source ≤ shape.sources) :
    let start := earlier.reset
    Plic.claims source (start.log shape operations) ≤
      Plic.completions source (start.log shape operations) + 1 ∧
    (∀ before between after,
      start.log shape operations = before ++ between ++ .claimed source :: after →
      (before = [] ∨ ∃ front, before = front ++ [.claimed source]) →
      ∃ inputs, .sampled inputs ∈ between ∧ inputs source ≠ 0) ∧
    ∀ first second, operations = first ++ second →
      (start.run shape first).pending source = true →
      .claimed source ∉ (start.run shape first).log shape second →
      (start.run shape operations).pending source = true := by
  intro start
  have run := start.gateway_run shape positive inRange operations
  refine ⟨?_, ?_, ?_⟩
  · have counted := run.claims_le
    have idle : (start.gateway source).busy.toNat = 0 ∧ (start.gateway source).pending.toNat = 0 :=
      ⟨rfl, rfl⟩
    have atMostOne := Bool.toNat_le ((start.run shape operations).gateway source).busy
    rw [Plic.claims, Plic.completions]
    omega
  · intro before between after split last
    have claim : Plic.view source (.claimed source) = some .claim := Plic.view_eq_claim.mpr rfl
    rw [split, List.append_assoc, List.filterMap_append] at run
    obtain ⟨middle, front, back⟩ := run.split
    have idle : middle.pending = false := by
      rcases last with rfl | ⟨front', rfl⟩
      · cases front
        rfl
      · rw [List.filterMap_append, List.filterMap_cons, claim] at front
        obtain ⟨_, -, claimed⟩ := front.split
        cases claimed with
        | claim _ rest =>
            cases rest
            rfl
    rw [List.filterMap_append, List.filterMap_cons, claim] at back
    obtain ⟨event, member, high⟩ := List.mem_filterMap.mp (back.sampled idle)
    obtain ⟨inputs, rfl, level⟩ := Plic.view_eq_sample high
    exact ⟨inputs, member, level⟩
  · intro first second split pending unclaimed
    have later := (start.run shape first).gateway_run shape positive inRange second
    have whole : (start.run shape first).run shape second = start.run shape operations := by
      rw [split, Plic.run, Plic.run, Plic.run, List.foldl_append]
    rw [whole] at later
    refine later.pending pending fun taken => ?_
    obtain ⟨event, member, isClaim⟩ := List.mem_filterMap.mp taken
    exact unclaimed (Plic.view_eq_claim.mp isClaim ▸ member)

/-- Only source 1 is high. -/
def firstHigh : Nat → UInt64 := fun source => if source = 1 then 1 else 0

/-- Source 1 gets a priority and is enabled for context 0.  Twice it rises, is claimed and is
completed; then it rises again and falls. -/
def claimTwice : List PlicOperation :=
  [.write (fun _ => 0) 4 [1, 0, 0, 0] [1, 1, 1, 1],
    .write (fun _ => 0) 0x2000 [2, 0, 0, 0] [1, 1, 1, 1],
    .settle firstHigh,
    .read 0x200004 [1, 1, 1, 1],
    .write firstHigh 0x200004 [1, 0, 0, 0] [1, 1, 1, 1],
    .read 0x200004 [1, 1, 1, 1],
    .write firstHigh 0x200004 [1, 0, 0, 0] [1, 1, 1, 1],
    .settle fun _ => 0]

/-- A controller with every register set. -/
def Plic.busyEverywhere : Plic :=
  ⟨fun _ => 7, fun _ => 7, fun _ _ => 0xffffffff, fun _ => true, fun _ => true, fun _ => 1⟩

theorem plic_gateway_sound_claim :
    let log := Plic.busyEverywhere.reset.log {} claimTwice
    Plic.claims 1 log = 2 ∧ Plic.completions 1 log = 2 ∧
      Plic.claims 1 log ≤ Plic.completions 1 log + 1 ∧
      (∃ before between after, log = before ++ between ++ .claimed 1 :: after ∧
        (∃ front, before = front ++ [.claimed 1]) ∧
          ∃ inputs, .sampled inputs ∈ between ∧ inputs 1 ≠ 0) ∧
      (Plic.busyEverywhere.reset.run {} (claimTwice.take 7)).pending 1 = true ∧
      (Plic.busyEverywhere.reset.run {} claimTwice).pending 1 = true := by
  intro log
  obtain ⟨counted, sampled, kept⟩ :=
    plic_gateway_sound {} Plic.busyEverywhere claimTwice 1 (by decide) (by decide)
  have high : (Plic.busyEverywhere.reset.run {} (claimTwice.take 7)).pending 1 = true := by
    decide +kernel
  refine ⟨by decide +kernel, by decide +kernel, counted, ?_, high, ?_⟩
  · have seen : log.map (Plic.view 1) =
        [some (.sample false), some (.sample false), some (.sample true)] ++ [some .claim] ++
          [some .complete, some (.sample true)] ++
            some .claim :: [some .complete, some (.sample true), some (.sample false)] := by
      decide +kernel
    obtain ⟨_, _, split, older, newer⟩ := List.map_eq_append_iff.mp seen
    obtain ⟨second, after, rfl, isSecond, -⟩ := List.map_eq_cons_iff.mp newer
    obtain ⟨_, between, rfl, older, -⟩ := List.map_eq_append_iff.mp older
    obtain ⟨front, _, rfl, -, last⟩ := List.map_eq_append_iff.mp older
    obtain ⟨first, rfl, isFirst⟩ := List.map_eq_singleton_iff.mp last
    rw [Plic.view_eq_claim.mp isFirst, Plic.view_eq_claim.mp isSecond] at split
    exact ⟨_, between, after, split, ⟨front, rfl⟩, sampled _ _ _ split (.inr ⟨front, rfl⟩)⟩
  · refine kept (claimTwice.take 7) [.settle fun _ => 0] rfl high ?_
    simp [Plic.log, Plic.events]

end AxiTestbench
