import AxiTestbench.Elf.Loading
import AxiTestbench.Platform.Kinds

/-!
# Loading images into a platform

`load_images` runs after the constructor has reset and settled the devices.  It reaches the
devices through `AddressSpace::load` only, so that it changes loadable devices and no output.
-/

namespace AxiTestbench

open Lib Outcome

/-! ## What loading keeps -/

section Keeps

variable {W : Type} (space : AddressSpace) {bank : LoadBank W} {keeps : W → Prop}
  (each : ∀ device world offset data, bank.loadable device world = true → keeps world →
    keeps (bank.load device world offset data).1)

include each

theorem AddressSpace.load_keeps {world : W} (holds : keeps world) (address : Nat)
    (data : List UInt8) : keeps (space.load bank world address data).1 := by
  rw [AddressSpace.load]
  split
  next => exact holds
  next =>
    split
    next => exact holds
    next mapping found =>
      split
      next => exact holds
      next loadable =>
        dsimp only
        split
        next => exact holds
        next => exact each _ _ _ _ (Bool.not_eq_false _ ▸ loadable) holds

theorem loadOrThrow_keeps {world : W} (holds : keeps world) (address : Nat) (data : List UInt8)
    (what : String) :
    Ends (loadOrThrow space bank world address data what) keeps fun _ => keeps := by
  have after := space.load_keeps each holds address data
  simp only [loadOrThrow]
  split
  next => exact after
  next => exact after

theorem applyZeros_keeps {world : W} (holds : keeps world) (zeroAddress remaining : Nat) :
    Ends (applyZeros space bank world zeroAddress remaining) keeps fun _ => keeps := by
  fun_induction applyZeros space bank world zeroAddress remaining with
  | case1 world zeroAddress remaining more count ih =>
      exact (loadOrThrow_keeps space each holds _ _ _).bind fun next nextHolds => ih next nextHolds
  | case2 world zeroAddress remaining done => exact holds

theorem applySegment_keeps {world : W} (holds : keeps world) (image : ImageBytes)
    (segment : ParsedSegment) :
    Ends (applySegment space bank image segment world) keeps fun _ => keeps := by
  rw [applySegment]
  refine Ends.bind ?_ fun next nextHolds => applyZeros_keeps space each nextHolds _ _
  rw [applyFileBytes]
  refine ends_ite (fun _ => ends_attempt_bind (fun _ _ => holds) fun bytes _ => ?_) fun _ => holds
  exact loadOrThrow_keeps space each holds _ _ _

theorem ImageLoadPlan.apply_keeps {plan after : ImageLoadPlan W} (holds : keeps plan.world)
    (applied : plan.apply space bank = .ok after) : keeps after.world := by
  have chunks : Ends (ImageLoadPlan.applyChunks space bank plan.chunks plan.world) keeps
      fun _ => keeps :=
    ends_foldlM (fun _ => keeps)
      (fun chunk _ world worldHolds => applySegment_keeps space each worldHolds chunk.data _) _ _
      holds
  rw [ImageLoadPlan.apply] at applied
  obtain ⟨-, -, applied⟩ := attempt_bind_eq_ok_iff.mp applied
  cases stored : ImageLoadPlan.applyChunks space bank plan.chunks plan.world with
  | error thrown =>
      rw [stored] at applied
      cases applied
  | ok world =>
      rw [stored] at applied chunks
      cases applied
      exact chunks

end Keeps

/-! ## Booting a platform -/

namespace Platform

variable {platform : Platform}

/-- The devices as the loader sees them. -/
def loadBank (platform : Platform) : LoadBank platform.World where
  loadable index _ := platform.ids[index]?.any fun id => (platform.devices id).loadable
  canLoad index world offset size :=
    platform.ids[index]?.any fun id => (platform.devices id).canLoad (world id) offset size
  load index world offset data :=
    match platform.ids[index]? with
    | none => (world, .slaveError)
    | some id =>
        let answer := (platform.devices id).load (world id) offset data
        (Function.update world id answer.1, answer.2)

/-- The devices after the constructor and `load_images`. -/
def boot (platform : Platform) (states : platform.World) (calls : List PlanCall) :
    Outcome ElfFault (ImageLoadPlan platform.World) (ImageLoadPlan platform.World) := do
  let plan ← ({ world := platform.reset states } : ImageLoadPlan platform.World).addAll
    platform.space platform.loadBank calls
  plan.apply platform.space platform.loadBank

/-- A load changes one device, which is loadable. -/
theorem load_cases {index : DeviceId} {world : platform.World}
    (loadable : platform.loadBank.loadable index world = true) (offset : Nat) (data : List UInt8) :
    ∃ id ∈ platform.ids, (platform.devices id).loadable = true ∧
      (platform.loadBank.load index world offset data).1 =
        Function.update world id ((platform.devices id).load (world id) offset data).1 := by
  simp only [loadBank, Option.any_eq_true] at loadable
  obtain ⟨id, position, loads⟩ := loadable
  exact ⟨id, List.mem_of_getElem? position, loads, by simp [loadBank, position]⟩

/-- Outputs are not loaded, so inputs do not change. -/
theorem inputs_update_load (world : platform.World) (id : String) (offset : Nat)
    (data : List UInt8) (reader : String) :
    platform.inputs (Function.update world id ((platform.devices id).load (world id) offset data).1)
      reader = platform.inputs world reader := by
  funext input
  simp only [inputs, Wiring.inputs]
  cases platform.wiring.source reader input with
  | none => rfl
  | some driver =>
      obtain ⟨source, signal⟩ := driver
      by_cases same : source = id
      · subst same
        simp only [Function.update_self]
        exact congrFun ((platform.devices source).load_output _ _ _) signal
      · simp only [Function.update_of_ne same]

theorem settled_load {index : DeviceId} {world : platform.World} {offset : Nat} {data : List UInt8}
    (loadable : platform.loadBank.loadable index world = true) (settled : platform.Settled world) :
    platform.Settled (platform.loadBank.load index world offset data).1 := by
  obtain ⟨id, -, -, changed⟩ := load_cases loadable offset data
  rw [changed]
  intro other member
  rw [inputs_update_load]
  by_cases same : other = id
  · subst same
    rw [Function.update_self]
    exact (platform.devices other).load_settle _ _ _ _ (settled other member)
  · rw [Function.update_of_ne same]
    exact settled other member

theorem boot_keeps {states : platform.World} {calls : List PlanCall}
    {plan : ImageLoadPlan platform.World} (booted : platform.boot states calls = .ok plan)
    (keeps : platform.World → Prop) (start : keeps (platform.reset states))
    (each : ∀ device world offset data, platform.loadBank.loadable device world = true →
      keeps world → keeps (platform.loadBank.load device world offset data).1) :
    keeps plan.world := by
  obtain ⟨added, adds, applied⟩ := bind_eq_ok_iff.mp booted
  obtain ⟨unchanged, -, -⟩ := ImageLoadPlan.addAll_planned adds (by simp)
  have unloaded : keeps added.world := by
    rw [unchanged]
    exact start
  exact ImageLoadPlan.apply_keeps platform.space each unloaded applied

theorem settled_boot {states : platform.World} {calls : List PlanCall}
    {plan : ImageLoadPlan platform.World} (booted : platform.boot states calls = .ok plan) :
    platform.Settled plan.world :=
  boot_keeps booted platform.Settled (settled_settle _) fun _ _ _ _ loadable settled =>
    settled_load loadable settled

/-- Devices that are not loadable are left as the constructor has reset them. -/
theorem boot_of_not_loadable {states : platform.World} {calls : List PlanCall}
    {plan : ImageLoadPlan platform.World} (booted : platform.boot states calls = .ok plan)
    {id : String} (fixed : (platform.devices id).loadable = false) :
    plan.world id = platform.reset states id := by
  refine boot_keeps booted (fun world => world id = platform.reset states id) rfl ?_
  intro device world offset data loadable same
  obtain ⟨other, -, loads, changed⟩ := load_cases loadable offset data
  have different : id ≠ other := by
    rintro rfl
    rw [fixed] at loads
    cases loads
  rw [changed, Function.update_of_ne different, same]

/-- Another pass changes nothing. -/
theorem Settled.settle {world : platform.World} (settled : platform.Settled world) :
    platform.settle world = world :=
  pass_of_fixed fun id member => settled id (platform.order_perm.mem_iff.mp member)

end Platform

/-- The sidebands that the design sees are settled.  Whenever `begin_cycle` has run, at the
start of any cycle after any images and any earlier cycles, every device is settled against
the outputs of the devices it is connected to, so that a further pass changes no signal. -/
theorem sidebands_settled {c : Config} (platform : Platform) (states : platform.World)
    (calls : List PlanCall) (plan : ImageLoadPlan platform.World)
    (booted : platform.boot states calls = .ok plan) (cycles : List (c.Inputs × Bool))
    (random : UInt64) (stall : Stall) (final : Machine c platform)
    (returned : Machine.run cycles (.fresh c platform random stall plan.world) = .ok final)
    (resetActive : Bool) :
    let world := (final.beginCycle resetActive).world
    platform.Settled world ∧ platform.settle world = world := by
  intro world
  have settled : platform.Settled world := Machine.settled_beginCycle
    (Machine.settled_run (Platform.settled_boot booted) cycles returned) resetActive
  exact ⟨settled, settled.settle⟩

/-! ## A small platform -/

/-- A UART whose interrupt is source 1 of a PLIC, a CLINT and a ROM. -/
def smallObjects (id : String) : DeviceObject :=
  if id = "uart" then .uart {} fun _ => none
  else if id = "plic" then .plic {}
  else if id = "clint" then .clint 2
  else .rom ⟨[0, 0, 0, 0]⟩

def smallSource (id : String) (input : Nat) : Option (String × Nat) :=
  if id = "plic" ∧ input = 1 then some ("uart", 0) else none

def smallPlatform : Platform where
  devices id := (smallObjects id).deviceClass
  ids := ["uart", "plic", "clint", "rom"]
  wiring := { source := smallSource }
  order := ["uart", "clint", "rom", "plic"]
  space :=
    { mappings := [{ base := 0x1000, size := 4, device := 3, name := "rom" }]
      frozen := true
      layout := ⟨by decide, by decide, by simp⟩ }
  ids_nodup := by decide
  order_perm := by decide
  scheduled :=
    { nodup := by decide
      before := by
        rintro front id rest split source ⟨input, signal, driver⟩
        simp only [smallSource, Option.ite_none_right_eq_some, Option.some.injEq,
          Prod.mk.injEq] at driver
        obtain ⟨⟨rfl, -⟩, rfl, -⟩ := driver
        rcases front with - | ⟨first, front⟩
        · simp at split
        · simp only [List.cons_append, List.cons.injEq] at split
          simp [← split.1] }
  mapped := by decide

theorem sidebands_settled_small :
    let start : smallPlatform.World := fun id => (smallObjects id).initial
    let cycles : List (Config.small.Inputs × Bool) :=
      [(takeAll, true), (takeAll, false), (takeAll, false)]
    ∃ plan final, smallPlatform.boot start [] = .ok plan ∧
      Machine.run cycles (.fresh Config.small smallPlatform 1 .never plan.world) = .ok final ∧
      smallPlatform.Settled (final.beginCycle false).world := by
  intro start cycles
  let plan : ImageLoadPlan smallPlatform.World := { world := smallPlatform.reset start }
  have booted : smallPlatform.boot start [] = .ok plan := rfl
  have returned := eq_ok_of_isOk (show Outcome.isOk (Machine.run cycles
    (.fresh Config.small smallPlatform 1 .never plan.world)) = true by decide +kernel)
  exact ⟨plan, _, booted, returned, (sidebands_settled smallPlatform start [] plan booted cycles 1
    .never _ returned false).1⟩

end AxiTestbench
