import AxiTestbench.Interrupt.Gateways
import AxiTestbench.Lib.Scan
import AxiTestbench.Lib.WordBits

/-!
# Arbitration and notification

What a claim returns and when the output of a context is high, in terms of the pending bits,
enables and priorities, and the registers in which the guest sees these.
-/

namespace AxiTestbench

open Lib

namespace Plic

variable (shape : PlicShape)

/-! ## Register words -/

/-- A bus read of one aligned word. -/
def readWord (device : Plic) (address : Nat) : Plic × UInt32 :=
  let read := device.readImpl shape address [1, 1, 1, 1]
  (read.1, UInt32.ofNat (Access.get ⟨address, 0, 4⟩ read.2.2))

theorem beat_word {address : Nat} (aligned : address % 4 = 0) (mapped : address < 0x4000000) :
    beat address [1, 1, 1, 1] = some ⟨address, 0, 4⟩ :=
  beat_alone ⟨rfl, by simp⟩ aligned mapped

theorem readWord_eq (device : Plic) {address : Nat} (aligned : address % 4 = 0)
    (mapped : address < 0x4000000) :
    device.readWord shape address = device.readRegister shape address := by
  have active : (⟨address, 0, 4⟩ : Access).size ≠ 0 := Nat.succ_ne_zero 3
  simp only [readWord, readImpl, beat_word aligned mapped, active, ne_eq, not_false_eq_true,
    if_true]
  refine Prod.ext rfl ?_
  have word : (device.readRegister shape address).2.toNat < 256 ^ 4 := UInt32.toNat_lt _
  have fits : (⟨address, 0, 4⟩ : Access).lane + (⟨address, 0, 4⟩ : Access).size ≤
      [(1 : UInt8), 1, 1, 1].length := Nat.le_refl 4
  simp only [Access.get_put _ _ fits, Nat.mod_eq_of_lt word, UInt32.ofNat_toNat]

theorem enabled_eq (device : Plic) (context source : Nat) :
    device.enabled context source =
      (device.enables context (source / 32)).toNat.testBit (source % 32) :=
  and_one_shiftLeft_ne_zero _ (Nat.mod_lt _ (by decide))

theorem testBit_enableMask (word : Nat) {bit : Nat} (small : bit < 32) :
    (enableMask shape word).toNat.testBit bit =
      decide (word * 32 + bit ≠ 0 ∧ word * 32 + bit ≤ shape.sources) := by
  rw [enableMask, testBit_foldl_or _ _ fun bit member => List.mem_range.mp member]
  simp [small]

theorem testBit_pendingWord (device : Plic) (base : Nat) {bit : Nat} (small : bit < 32) :
    (device.pendingWord shape base).toNat.testBit bit =
      (decide (base + bit ≤ shape.sources) && device.pending (base + bit)) := by
  rw [pendingWord, takeWhile_range, testBit_foldl_or _ _ fun bit member => by
    have := List.mem_range.mp member
    omega]
  have below : bit < min 32 (shape.sources + 1 - base) ↔ base + bit ≤ shape.sources := by omega
  simp only [List.mem_range, below]
  simp

/-! ## The scan -/

/-- A source that a context can claim. -/
def Claimable (device : Plic) (context source : Nat) : Prop :=
  1 ≤ source ∧ source ≤ shape.sources ∧ device.pending source = true ∧
    device.enabled context source = true ∧ 0 < device.priority source

/-- The claimable source of the highest priority, the smallest if there are several, or `0`. -/
def Selected (device : Plic) (context id : Nat) : Prop :=
  id = 0 ∧ (∀ source, ¬device.Claimable shape context source) ∨
    device.Claimable shape context id ∧ ∀ source, device.Claimable shape context source →
      device.priority source ≤ device.priority id ∧
        (device.priority source = device.priority id → id ≤ source)

theorem better_eq (device : Plic) (context : Nat) :
    device.better context = keepHigher
      (fun source => device.pending source = true ∧ device.enabled context source = true)
      (fun source => (device.priority source).toNat) := by
  funext selected source
  rw [better, keepHigher]
  simp only [gt_iff_lt, UInt32.lt_iff_toNat_lt, and_assoc]

theorem selected_best (device : Plic) (context : Nat) (reserved : device.priority 0 = 0) :
    device.Selected shape context (device.best shape context) := by
  have zero : (device.priority 0).toNat = 0 := by
    rw [reserved]
    rfl
  have member : ∀ source, source ∈ List.range' 1 shape.sources ↔
      1 ≤ source ∧ source ≤ shape.sources := by
    intro source
    rw [List.mem_range'_1]
    omega
  have positive : ∀ source, 0 < device.priority source ↔ 0 < (device.priority source).toNat := by
    intro source
    rw [UInt32.lt_iff_toNat_lt]
    rfl
  rw [best, better_eq]
  have scanned := scanned_foldl
    (fun source => device.pending source = true ∧ device.enabled context source = true)
    (fun source => (device.priority source).toNat) (List.range' 1 shape.sources) 0
  generalize (List.range' 1 shape.sources).foldl _ 0 = selected at scanned ⊢
  rcases scanned with ⟨rfl, bound⟩ | ⟨before, after, split, fits, above, lower, bound⟩
  · refine .inl ⟨rfl, fun source claimable => ?_⟩
    obtain ⟨low, high, pending, enabled, priority⟩ := claimable
    have := bound source ((member source).mpr ⟨low, high⟩) ⟨pending, enabled⟩
    have := (positive source).mp priority
    omega
  · have inRange := (member selected).mp (split ▸ by simp)
    refine .inr ⟨⟨inRange.1, inRange.2, fits.1, fits.2, (positive selected).mpr (by omega)⟩, ?_⟩
    intro source claimable
    obtain ⟨low, high, pending, enabled, priority⟩ := claimable
    have scanned := (member source).mpr ⟨low, high⟩
    rw [split] at scanned
    rw [UInt32.le_iff_toNat_le, ← UInt32.toNat_inj]
    rcases List.mem_append.mp scanned with earlier | later
    · have := lower source earlier ⟨pending, enabled⟩
      omega
    · rcases List.mem_cons.mp later with rfl | later
      · exact ⟨Nat.le_refl _, fun _ => Nat.le_refl _⟩
      · refine ⟨bound source later ⟨pending, enabled⟩, fun _ => ?_⟩
        -- The scan goes up, so what follows the selected source has a higher number.
        have ascending : (List.range' 1 shape.sources).Pairwise (· < ·) := List.pairwise_lt_range'
        rw [split, List.pairwise_append] at ascending
        exact Nat.le_of_lt ((List.pairwise_cons.mp ascending.2.1).1 source later)

/-! ## Invariant -/

/-- Source `0` and those past the last one. -/
def Unused (source : Nat) : Prop := source = 0 ∨ shape.sources < source

/-- The unused sources are silent. -/
structure Quiet (device : Plic) : Prop where
  pending : ∀ source, Unused shape source → device.pending source = false
  priority : ∀ source, Unused shape source → device.priority source = 0
  enabled : ∀ source, Unused shape source → ∀ context, device.enabled context source = false

/-- The outputs are what `notify` computes. -/
structure Sound (device : Plic) : Prop extends Quiet shape device where
  notified : ∀ context < shape.contexts, device.irqs context =
    if device.priority (device.best shape context) > device.threshold context then 1 else 0

theorem sound_reset (device : Plic) : device.reset.Sound shape where
  pending _ _ := rfl
  priority _ _ := rfl
  enabled source _ context := by
    rw [enabled_eq]
    exact Nat.zero_testBit _
  notified _ _ := rfl

variable {shape} {device : Plic}

theorem Quiet.notify (quiet : device.Quiet shape) : (device.notify shape).Sound shape where
  pending := quiet.pending
  priority := quiet.priority
  enabled := quiet.enabled
  notified _ inRange := if_pos inRange

/-- Sampling the inputs changes no register. -/
theorem registers_foldl_trigger (inputs : Nat → UInt64) (sources : List Nat) (device : Plic) :
    (sources.foldl (trigger inputs) device).priority = device.priority ∧
      (sources.foldl (trigger inputs) device).enables = device.enables := by
  induction sources generalizing device with
  | nil => exact ⟨rfl, rfl⟩
  | cons source sources ih =>
      have first : (trigger inputs device source).priority = device.priority ∧
          (trigger inputs device source).enables = device.enables := by
        rw [trigger]
        split <;> exact ⟨rfl, rfl⟩
      obtain ⟨priority, enables⟩ := ih (trigger inputs device source)
      exact ⟨priority.trans first.1, enables.trans first.2⟩

theorem Quiet.settle (quiet : device.Quiet shape) (inputs : Nat → UInt64) :
    (device.settle shape inputs).Sound shape := by
  obtain ⟨samePriority, sameEnables⟩ :=
    registers_foldl_trigger inputs (List.range' 1 shape.sources) device
  refine Quiet.notify ⟨fun source unused => ?_, fun source unused => ?_,
    fun source unused context => ?_⟩
  · have outside : source ∉ List.range' 1 shape.sources := by
      rw [List.mem_range'_1]
      rw [Unused] at unused
      omega
    have gateway := gateway_foldl_trigger inputs (List.range' 1 shape.sources) List.nodup_range'
      device source
    rw [if_neg outside] at gateway
    exact (congrArg Gateway.State.pending gateway).trans (quiet.pending source unused)
  · rw [samePriority]
    exact quiet.priority source unused
  · rw [Plic.enabled, sameEnables]
    exact quiet.enabled source unused context

theorem Sound.claim (sound : device.Sound shape) (context : Nat) :
    (device.claim shape context).1.Sound shape := by
  rw [Plic.claim]
  simp only
  split
  · refine Quiet.notify ⟨fun source unused => ?_, sound.priority, sound.enabled⟩
    by_cases same : source = device.best shape context
    · simp [same]
    · simp [same, sound.pending source unused]
  · exact sound.toQuiet.notify

theorem Sound.readRegister (sound : device.Sound shape) (address : Nat) :
    (device.readRegister shape address).1.Sound shape := by
  by_cases register : ClaimRegister shape address
  · rw [readRegister_claim shape device register]
    exact sound.claim _
  · rw [readRegister_fst shape device register]
    exact sound

/-- A write of an enable word leaves the bits of the unused sources clear. -/
theorem Quiet.enable (quiet : device.Quiet shape) (context word : Nat) (value : UInt32) :
    Quiet shape { device with
      enables := Function.update device.enables context
        (Function.update (device.enables context) word (value &&& enableMask shape word)) } := by
  refine ⟨quiet.pending, quiet.priority, fun source unused other => ?_⟩
  have old := quiet.enabled source unused other
  rw [enabled_eq] at old ⊢
  by_cases sameContext : other = context
  · subst sameContext
    by_cases sameWord : source / 32 = word
    · have inWord : source % 32 < 32 := Nat.mod_lt _ (by decide)
      have whole : word * 32 + source % 32 = source := by omega
      have masked : ¬(source ≠ 0 ∧ source ≤ shape.sources) := by
        rw [Unused] at unused
        omega
      simp only [sameWord, Function.update_self, UInt32.toNat_and, Nat.testBit_and,
        testBit_enableMask shape word inWord, whole, masked, decide_false, Bool.and_false]
    · simp only [Function.update_self, Function.update_of_ne sameWord]
      exact old
  · simp only [Function.update_of_ne sameContext]
    exact old

theorem Quiet.update (quiet : device.Quiet shape) {address : Nat} (aligned : address % 4 = 0)
    (value : UInt32) : (device.update shape address value).Quiet shape := by
  rw [Plic.update]
  split
  next register =>
    refine ⟨quiet.pending, fun source unused => ?_, quiet.enabled⟩
    have other : source ≠ address / 4 := by
      rw [Unused] at unused
      omega
    simp only [Function.update_of_ne other]
    exact quiet.priority source unused
  next =>
    split
    next => exact quiet.enable _ _ value
    next =>
      split
      next =>
        simp only
        split
        · exact ⟨quiet.pending, quiet.priority, quiet.enabled⟩
        · split
          · exact ⟨quiet.pending, quiet.priority, quiet.enabled⟩
          · exact quiet
      next => exact quiet

theorem Sound.apply (sound : device.Sound shape) (operation : PlicOperation) :
    (device.apply shape operation).Sound shape := by
  cases operation with
  | settle inputs => exact sound.toQuiet.settle inputs
  | read offset lanes =>
      rw [Plic.apply, readImpl]
      split
      · exact sound
      · split
        · exact sound.readRegister _
        · exact sound
  | write inputs offset data lanes =>
      rw [Plic.apply, writeImpl]
      split
      · split
        · exact sound
        next found reached =>
          split
          next active =>
            obtain ⟨silent, -⟩ | ⟨start, rfl, -, aligned, -⟩ := beat_cases reached
            · exact absurd silent active
            · exact (sound.toQuiet.update aligned _).settle inputs
          · exact sound
      · exact sound

theorem sound_run (shape : PlicShape) (earlier : Plic) (operations : List PlicOperation) :
    (earlier.reset.run shape operations).Sound shape := by
  have start := sound_reset shape earlier
  rw [run]
  generalize earlier.reset = device at start
  induction operations generalizing device with
  | nil => exact start
  | cons operation operations ih => exact ih _ (start.apply operation)

/-! ## Notification and claims -/

theorem Sound.irq (sound : device.Sound shape) {context : Nat} (inRange : context < shape.contexts) :
    (device.irqs context = 1 ↔ ∃ source, 1 ≤ source ∧ source ≤ shape.sources ∧
      device.pending source = true ∧ device.enabled context source = true ∧
        device.priority source > device.threshold context) ∧
    (device.irqs context = 0 ∨ device.irqs context = 1) := by
  have reserved : device.priority 0 = 0 := sound.priority 0 (.inl rfl)
  have notified := sound.notified context inRange
  have level : device.priority (device.best shape context) > device.threshold context ↔
      ∃ source, 1 ≤ source ∧ source ≤ shape.sources ∧ device.pending source = true ∧
        device.enabled context source = true ∧
          device.priority source > device.threshold context := by
    simp only [gt_iff_lt, UInt32.lt_iff_toNat_lt]
    rcases device.selected_best shape context reserved with
      ⟨none, silent⟩ | ⟨claimable, highest⟩
    · rw [none, reserved]
      refine iff_of_false (Nat.not_lt_zero _) ?_
      rintro ⟨source, low, high, pending, enabled, above⟩
      exact silent source ⟨low, high, pending, enabled, UInt32.lt_iff_toNat_lt.mpr
        (Nat.lt_of_le_of_lt (Nat.zero_le _) above)⟩
    · constructor
      · intro above
        obtain ⟨low, high, pending, enabled, -⟩ := claimable
        exact ⟨_, low, high, pending, enabled, above⟩
      · rintro ⟨source, low, high, pending, enabled, above⟩
        have positive : 0 < device.priority source := UInt32.lt_iff_toNat_lt.mpr
          (Nat.lt_of_le_of_lt (Nat.zero_le _) above)
        have bound := (highest source ⟨low, high, pending, enabled, positive⟩).1
        exact Nat.lt_of_lt_of_le above (UInt32.le_iff_toNat_le.mp bound)
  rw [← level, notified]
  split
  next high => exact ⟨iff_of_true rfl high, .inr rfl⟩
  next low => exact ⟨iff_of_false (by decide) low, .inl rfl⟩

/-- The claim register of a context. -/
def claimAddress (context : Nat) : Nat := 0x200004 + context * 0x1000

def priorityAddress (source : Nat) : Nat := source * 4

/-- The word with the pending bit of a source. -/
def pendingAddress (source : Nat) : Nat := 0x1000 + source / 32 * 4

def enableAddress (context source : Nat) : Nat := 0x2000 + context * 0x80 + source / 32 * 4

theorem readWord_claimAddress (device : Plic) {context : Nat} (inRange : context < shape.contexts) :
    device.readWord shape (claimAddress context) = device.claim shape context := by
  have contexts := shape.contexts_le
  have register : ClaimRegister shape (claimAddress context) := by
    simp only [ClaimRegister, claimAddress]
    omega
  have index : (claimAddress context - 0x200000) / 0x1000 = context := by
    simp only [claimAddress]
    omega
  have aligned : claimAddress context % 4 = 0 := by
    simp only [claimAddress]
    omega
  have word := device.readWord_eq shape aligned (by simp only [claimAddress]; omega)
  rwa [readRegister_claim shape device register, index] at word

theorem toNat_claim (device : Plic) (context : Nat) :
    (device.claim shape context).2.toNat = device.best shape context := by
  have sources := shape.sources_le
  have bounded := device.best_pending shape context
  rw [claim, UInt32.toNat_ofNat']
  omega

theorem Sound.readWord_claim (sound : device.Sound shape) {context : Nat}
    (inRange : context < shape.contexts) :
    let read := device.readWord shape (claimAddress context)
    device.Selected shape context read.2.toNat ∧
      (∀ source, read.1.pending source = (device.pending source && source != read.2.toNat)) ∧
      read.1.priority = device.priority ∧ read.1.threshold = device.threshold ∧
      read.1.enables = device.enables ∧ read.1.busy = device.busy := by
  intro read
  have claimed : read = device.claim shape context := device.readWord_claimAddress inRange
  have id : read.2.toNat = device.best shape context := claimed ▸ device.toNat_claim context
  refine ⟨id ▸ device.selected_best shape context (sound.priority 0 (.inl rfl)), ?_, ?_⟩
  · intro source
    rw [id, claimed, Plic.claim]
    simp only
    split
    next present =>
      by_cases same : source = device.best shape context
      · simp [same, notify]
      · simp [same, notify]
    next absent =>
      have none : device.best shape context = 0 := by omega
      rw [none]
      by_cases zero : source = 0
      · simp [zero, notify, sound.pending 0 (.inl rfl)]
      · simp [zero, notify]
  · rw [claimed, Plic.claim]
    simp only
    split <;> exact ⟨rfl, rfl, rfl, rfl⟩

theorem Sound.readWord_priority (sound : device.Sound shape) {source : Nat} (small : source < 1024) :
    device.readWord shape (priorityAddress source) = (device, device.priority source) := by
  have index : priorityAddress source / 4 = source := by
    simp only [priorityAddress]
    omega
  have low : priorityAddress source < 0x1000 := by
    simp only [priorityAddress]
    omega
  rw [device.readWord_eq shape (by simp only [priorityAddress]; omega) (by omega), Plic.readRegister,
    if_pos low, index]
  split
  next => rfl
  next beyond => rw [sound.priority source (.inr (by omega))]

theorem Sound.readWord_pending (sound : device.Sound shape) {source : Nat} (small : source < 1024) :
    (device.readWord shape (pendingAddress source)).1 = device ∧
      (device.readWord shape (pendingAddress source)).2.toNat.testBit (source % 32) =
        device.pending source := by
  have low : ¬pendingAddress source < 0x1000 := by
    simp only [pendingAddress]
    omega
  have high : pendingAddress source < 0x1080 := by
    simp only [pendingAddress]
    omega
  have base : (pendingAddress source - 0x1000) / 4 * 32 = source / 32 * 32 := by
    simp only [pendingAddress]
    omega
  rw [device.readWord_eq shape (by simp only [pendingAddress]; omega) (by omega), Plic.readRegister,
    if_neg low, if_pos high, base]
  refine ⟨rfl, ?_⟩
  have whole : source / 32 * 32 + source % 32 = source := by omega
  simp only
  rw [testBit_pendingWord shape device _ (Nat.mod_lt _ (by decide)), whole]
  by_cases inRange : source ≤ shape.sources
  · simp [inRange]
  · simp [inRange, sound.pending source (.inr (by omega))]

theorem readWord_enable (shape : PlicShape) (device : Plic) {context source : Nat}
    (inRange : context < shape.contexts) (small : source < 1024) :
    (device.readWord shape (enableAddress context source)).1 = device ∧
      (device.readWord shape (enableAddress context source)).2.toNat.testBit (source % 32) =
        device.enabled context source := by
  have contexts := shape.contexts_le
  have inside : enableAddress context source ≥ 0x2000 ∧
      enableAddress context source < 0x2000 + shape.contexts * 0x80 := by
    simp only [enableAddress]
    omega
  have index : (enableAddress context source - 0x2000) / 0x80 = context := by
    simp only [enableAddress]
    omega
  have word : enableAddress context source % 0x80 / 4 = source / 32 := by
    simp only [enableAddress]
    omega
  rw [device.readWord_eq shape (by simp only [enableAddress]; omega) (by omega), readRegister,
    if_neg (by omega), if_neg (by omega), if_pos inside, index, word, enabled_eq]
  exact ⟨rfl, rfl⟩

end Plic

open Plic in
/-- After a reset and any operations: the output of a context is high if and only if a source
above its threshold is pending and enabled for it; a claim returns the selected source, takes
its pending bit and leaves the registers alone; the unused sources are silent; and the guest
reads the pending bits, enables and priorities of all sources in the register words. -/
theorem plic_arbitration (shape : PlicShape) (earlier : Plic) (operations : List PlicOperation) :
    let device := earlier.reset.run shape operations
    (∀ context < shape.contexts,
      ((device.irqs context = 1 ↔ ∃ source, 1 ≤ source ∧ source ≤ shape.sources ∧
        device.pending source = true ∧ device.enabled context source = true ∧
          device.priority source > device.threshold context) ∧
        (device.irqs context = 0 ∨ device.irqs context = 1)) ∧
      let read := device.readWord shape (claimAddress context)
      device.Selected shape context read.2.toNat ∧
        (∀ source, read.1.pending source = (device.pending source && source != read.2.toNat)) ∧
        read.1.priority = device.priority ∧ read.1.threshold = device.threshold ∧
        read.1.enables = device.enables ∧ read.1.busy = device.busy) ∧
    (∀ source, source = 0 ∨ shape.sources < source → device.pending source = false ∧
      device.priority source = 0 ∧ ∀ context, device.enabled context source = false) ∧
    ∀ source < 1024,
      device.readWord shape (priorityAddress source) = (device, device.priority source) ∧
      ((device.readWord shape (pendingAddress source)).1 = device ∧
        (device.readWord shape (pendingAddress source)).2.toNat.testBit (source % 32) =
          device.pending source) ∧
      ∀ context < shape.contexts,
        (device.readWord shape (enableAddress context source)).1 = device ∧
          (device.readWord shape (enableAddress context source)).2.toNat.testBit (source % 32) =
            device.enabled context source := by
  intro device
  have sound : device.Sound shape := sound_run shape earlier operations
  refine ⟨fun context inRange => ⟨sound.irq inRange, sound.readWord_claim inRange⟩,
    fun source unused => ⟨sound.pending source unused, sound.priority source unused,
      sound.enabled source unused⟩, fun source small => ⟨sound.readWord_priority small,
        sound.readWord_pending small, fun context inRange =>
          readWord_enable shape device inRange small⟩⟩

end AxiTestbench
