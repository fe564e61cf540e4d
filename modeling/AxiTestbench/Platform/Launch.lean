import AxiTestbench.Platform.Contents
import AxiTestbench.Platform.Edit

/-!
# From a specification to a running machine

The platform that the constructor leaves is one that the machine can run, and `load_images` of
`sim_main.cpp` puts the images into it that the properties and the command line name.
-/

namespace AxiTestbench

open Lib Outcome

/-! ## The constructed platform -/

/-- The class of an id that no instance has. -/
def absentClass : DeviceClass where
  toSettling := plainSettling Unit
  readImpl _ _ _ enable := ((), .slaveError, List.replicate enable.length 0)
  writeImpl _ _ _ _ _ := ((), .slaveError)
  load_settle _ _ _ _ _ := rfl

namespace Hardware

variable {Object : Type} (hardware : Hardware Object)

def classOf : Option Object → DeviceClass
  | none => absentClass
  | some object => hardware.deviceClass object

def stateOf : (object : Option Object) → (hardware.classOf object).State
  | none => ()
  | some object => hardware.initial object

end Hardware

namespace Constructed

variable {Object : Type}

/-- What the machine needs of a platform. -/
structure Sound (built : Constructed Object) : Prop where
  ids_nodup : built.ids.Nodup
  order_perm : built.order.Perm built.ids
  scheduled : Scheduled built.wiring.Reads built.order
  mapped : ∀ mapping ∈ built.space.mappings, mapping.device < built.ids.length

def platform (hardware : Hardware Object) (built : Constructed Object) (sound : built.Sound) :
    Platform where
  devices id := hardware.classOf (built.objects.lookup id)
  ids := built.ids
  wiring := built.wiring
  order := built.order
  space := built.space
  ids_nodup := sound.ids_nodup
  order_perm := sound.order_perm
  scheduled := sound.scheduled
  mapped := sound.mapped

/-- The devices as their constructors leave them. -/
def states (hardware : Hardware Object) (built : Constructed Object) (sound : built.Sound) :
    (built.platform hardware sound).World :=
  fun id => hardware.stateOf (built.objects.lookup id)

end Constructed

section Construct

variable {Host Object : Type} {registry : DeviceRegistry Host Object} {hardware : Hardware Object}
  {spec : PlatformSpec} {addressBits : Nat} {host after : Host} {built : Constructed Object}

/-- The stages of a constructor that has returned. -/
theorem DeviceRegistry.stages_of_construct
    (returned : registry.construct hardware spec addressBits host = .ok (after, built)) :
    ∃ configs space, spec.devices.foldlM registry.configureOne [] = .ok configs ∧
      spec.devices.foldlM (registry.createOne configs) (host, []) = .ok (after, built.objects) ∧
      spec.mapWindows addressBits = .ok space ∧
      registry.imageAll configs spec = .ok built.images ∧
      spec.connected (hardware.board built.objects) = .ok (built.wiring, built.order) ∧
      built.ids = spec.ids ∧ built.space = space.freeze := by
  rw [construct] at returned
  obtain ⟨-, -, returned⟩ := attempt_bind_eq_ok_iff.mp returned
  obtain ⟨configs, configured, returned⟩ := attempt_bind_eq_ok_iff.mp returned
  obtain ⟨⟨opened, objects⟩, created, returned⟩ := bind_eq_ok_iff.mp returned
  obtain ⟨space, mapped, returned⟩ := attempt_bind_eq_ok_iff.mp returned
  obtain ⟨images, imaged, returned⟩ := attempt_bind_eq_ok_iff.mp returned
  obtain ⟨⟨wiring, order⟩, connected, returned⟩ := attempt_bind_eq_ok_iff.mp returned
  cases returned
  exact ⟨configs, space, configured, created, mapError_eq_ok_iff.mp mapped, imaged,
    mapError_eq_ok_iff.mp connected, rfl, rfl⟩

/-- The windows of the platform are those of the specification. -/
theorem PlatformSpec.mem_windows {mapping : Mapping} {mappings : List MappingSpec} :
    mapping ∈ (spec.windows mappings).map AddressSpace.Window.mapping ↔
      ∃ window ∈ mappings, spec.device window.device = .ok mapping.device ∧
        mapping = ⟨window.base.toNat, window.size.toNat, mapping.device, window.device⟩ := by
  simp only [windows, List.mem_map, List.mem_filterMap, Option.map_eq_some_iff]
  constructor
  · rintro ⟨_, ⟨window, member, position, found, rfl⟩, rfl⟩
    cases device : spec.device window.device with
    | error fault => simp [device, Except.toOption] at found
    | ok other =>
        obtain rfl : other = position := by simpa [device, Except.toOption] using found
        exact ⟨window, member, device, rfl⟩
  · rintro ⟨window, member, device, same⟩
    refine ⟨_, ⟨window, member, mapping.device, by rw [device]; rfl, rfl⟩, same.symm⟩

theorem DeviceRegistry.windows_of_construct
    (returned : registry.construct hardware spec addressBits host = .ok (after, built)) :
    built.space.mappings.Perm ((spec.windows spec.mappings).map AddressSpace.Window.mapping) := by
  obtain ⟨-, space, -, -, mapped, -, -, -, sameSpace⟩ := stages_of_construct returned
  obtain ⟨-, -, inserted⟩ := PlatformSpec.mapWindows_eq_ok_iff.mp mapped
  obtain ⟨-, -, stored⟩ := (AddressSpace.insertAll_spec _ _).1 space inserted
  rw [show AddressSpace.fresh.mappings = [] from rfl, List.append_nil] at stored
  rw [sameSpace]
  exact stored

/-- The machine can run every platform that the constructor returns. -/
theorem DeviceRegistry.sound_of_construct
    (returned : registry.construct hardware spec addressBits host = .ok (after, built)) :
    built.Sound := by
  obtain ⟨configs, -, configured, -, -, -, connected, ids, -⟩ := stages_of_construct returned
  have windows := windows_of_construct returned
  obtain ⟨-, distinct, -⟩ := configureAll_eq_ok_iff.mp configured
  obtain ⟨links, connects⟩ := PlatformSpec.connects_of_connected distinct connected
  refine ⟨ids ▸ distinct, ids ▸ connects.perm, connects.scheduled, fun mapping member => ?_⟩
  obtain ⟨window, -, found, -⟩ := PlatformSpec.mem_windows.mp (windows.mem_iff.mp member)
  rw [ids]
  exact (List.getElem?_eq_some_iff.mp (PlatformSpec.getElem?_of_device found)).1

end Construct

/-! ## Images -/

/-- The exceptions that `main` tells apart. -/
inductive LaunchError where
  | config (error : ConfigError)
  | image (fault : ElfFault)

/-- `read_file`: the bytes that a path holds, or why they cannot be read. -/
abbrev ImageFiles := String → Except ElfFault ImageBytes

/-- The body of the loop of `load_images` over the windows. -/
def visitWindow (target : String) (address : Option Nat) (mapping : Mapping) :
    Except ConfigError (Option Nat) := do
  if mapping.name = target then
    reject (address.isSome = true) (.invalidArgument ("ambiguous load target: " ++ target))
    return some mapping.base
  else
    return address

/-- The address that a target of `--load` stands for. -/
def loadTarget (space : AddressSpace) (target : String) : Except ConfigError Nat := do
  match ← space.mappings.foldlM (visitWindow target) none with
  | some base => return base
  | none => return (← parseUnsigned target).toNat

/-- `TARGET=FILE`. -/
def loadRequest (request : String) : Except ConfigError (String × String) :=
  let target := request.toList.takeWhile (· ≠ '=')
  let rest := request.toList.dropWhile (· ≠ '=')
  if rest = [] then .error (.invalidArgument "--load expects ADDRESS|INSTANCE=FILE")
  else .ok (String.ofList target, String.ofList (rest.drop 1))

namespace Platform

variable (platform : Platform) (files : ImageFiles)

/-- The step of the plan for a call whose image is read first. -/
def addFile (plan : ImageLoadPlan platform.World) (path : String) (call : ImageBytes → PlanCall) :
    Outcome LaunchError (ImageLoadPlan platform.World) (ImageLoadPlan platform.World) := do
  let image ← attempt plan ((files path).mapError .image)
  (plan.add platform.space platform.loadBank (call image)).mapError fun thrown =>
    (.image thrown.1, thrown.2)

/-- The body of the loop over `--load`. -/
def addRequest (plan : ImageLoadPlan platform.World) (request : String) :
    Outcome LaunchError (ImageLoadPlan platform.World) (ImageLoadPlan platform.World) := do
  let (target, path) ← attempt plan ((loadRequest request).mapError .config)
  let address ← attempt plan ((loadTarget platform.space target).mapError .config)
  platform.addFile files plan path (.raw · address)

/-- The three loops of `load_images`. -/
def addImages (plan : ImageLoadPlan platform.World) (images : List RawImage)
    (requests elves : List String) :
    Outcome LaunchError (ImageLoadPlan platform.World) (ImageLoadPlan platform.World) := do
  let plan ← images.foldlM (fun plan image =>
    platform.addFile files plan image.path (.raw · image.address.toNat)) plan
  let plan ← requests.foldlM (platform.addRequest files) plan
  elves.foldlM (fun plan path => platform.addFile files plan path .elf) plan

/-- `load_images`, for a platform whose devices have just been reset. -/
def loadImages (states : platform.World) (images : List RawImage) (requests elves : List String) :
    Outcome LaunchError (ImageLoadPlan platform.World) (ImageLoadPlan platform.World) := do
  let plan ← platform.addImages files { world := platform.reset states } images requests elves
  (plan.apply platform.space platform.loadBank).mapError fun thrown => (.image thrown.1, thrown.2)

end Platform

/-- What a target stands for: the window of that name, or an address if there is none. -/
inductive Targets (space : AddressSpace) (target : String) : Nat → Prop where
  | window {mapping : Mapping} (member : mapping ∈ space.mappings) (named : mapping.name = target)
      (only : (space.mappings.countP fun other => other.name = target) = 1) :
      Targets space target mapping.base
  | address {value : UInt64} (unnamed : ∀ mapping ∈ space.mappings, mapping.name ≠ target)
      (denotes : DenotesUnsigned target.toList value.toNat) : Targets space target value.toNat

theorem visitWindows_eq_ok_iff {target : String} {mappings : List Mapping}
    {found result : Option Nat} :
    mappings.foldlM (visitWindow target) found = .ok result ↔
      (mappings.countP fun mapping => mapping.name = target) + found.toList.length ≤ 1 ∧
        result = ((mappings.find? fun mapping => mapping.name = target).map Mapping.base).or
          found := by
  induction mappings generalizing found with
  | nil =>
      have few : found.toList.length ≤ 1 := by cases found <;> simp
      simp [pure_eq_ok_iff, few]
  | cons mapping mappings ih =>
      rw [List.foldlM_cons, visitWindow]
      by_cases named : mapping.name = target
      · have counted : (mapping :: mappings).countP (fun other => other.name = target) =
            mappings.countP (fun other => other.name = target) + 1 :=
          List.countP_cons_of_pos (by simpa)
        have first : (mapping :: mappings).find? (fun other => other.name = target) = some mapping :=
          List.find?_cons_of_pos (by simpa)
        rw [if_pos named, counted, first, bind_assoc, reject_bind_eq_ok_iff, pure_bind, ih]
        cases found with
        | some base => simp
        | none =>
            simp only [Option.isSome_none, Bool.false_eq_true, not_false_eq_true, true_and,
              Option.toList_some, List.length_singleton, Option.toList_none, List.length_nil,
              Option.map_some, Option.some_or]
            refine and_congr_right fun few => ?_
            have none : mappings.find? (fun other => other.name = target) = .none := by
              rw [List.find?_eq_none]
              exact List.countP_eq_zero.mp (by omega)
            rw [none]
            rfl
      · have counted : (mapping :: mappings).countP (fun other => other.name = target) =
            mappings.countP (fun other => other.name = target) := List.countP_cons_of_neg (by simpa)
        have first : (mapping :: mappings).find? (fun other => other.name = target) =
            mappings.find? fun other => other.name = target := List.find?_cons_of_neg (by simpa)
        rw [if_neg named, counted, first, pure_bind, ih]

theorem loadTarget_eq_ok_iff {space : AddressSpace} {target : String} {address : Nat} :
    loadTarget space target = .ok address ↔ Targets space target address := by
  rw [loadTarget, bind_eq_ok_iff]
  simp only [visitWindows_eq_ok_iff, Option.toList_none, List.length_nil, Nat.add_zero,
    Option.or_none]
  constructor
  · rintro ⟨found, ⟨few, rfl⟩, returned⟩
    cases search : space.mappings.find? fun mapping => mapping.name = target with
    | some mapping =>
        rw [search] at returned
        cases returned
        have member := List.mem_of_find?_eq_some search
        have named : mapping.name = target := by simpa using List.find?_some search
        have some : 0 < space.mappings.countP fun other => other.name = target :=
          List.countP_pos_iff.mpr ⟨mapping, member, by simpa⟩
        exact .window member named (by omega)
    | none =>
        rw [search] at returned
        obtain ⟨value, parsed, same⟩ := bind_eq_ok_iff.mp returned
        cases same
        refine .address (fun mapping member => ?_) (parseUnsigned_eq_ok_iff.mp parsed)
        simpa using List.find?_eq_none.mp search mapping member
  · intro targets
    cases targets with
    | @window mapping member named only =>
        obtain ⟨single, filtered⟩ := List.length_eq_one_iff.mp
          (List.countP_eq_length_filter.symm.trans only)
        have unique : ∀ other ∈ space.mappings, other.name = target → other = single := by
          intro other otherMember otherNamed
          have kept : other ∈ space.mappings.filter fun mapping => mapping.name = target :=
            List.mem_filter.mpr ⟨otherMember, by simpa⟩
          rwa [filtered, List.mem_singleton] at kept
        obtain ⟨first, search⟩ := Option.isSome_iff_exists.mp (List.find?_isSome.mpr
          ⟨mapping, member, by simpa⟩ :
            (space.mappings.find? fun mapping => mapping.name = target).isSome = true)
        have same : first = mapping :=
          (unique first (List.mem_of_find?_eq_some search)
            (by simpa using List.find?_some search)).trans (unique mapping member named).symm
        refine ⟨some mapping.base, ⟨by omega, ?_⟩, rfl⟩
        rw [search, same]
        rfl
    | @address value unnamed denotes =>
        have search : (space.mappings.find? fun mapping => mapping.name = target) = none :=
          List.find?_eq_none.mpr fun mapping member => by simpa using unnamed mapping member
        have few : (space.mappings.countP fun mapping => mapping.name = target) = 0 :=
          List.countP_eq_zero.mpr fun mapping member => by simpa using unnamed mapping member
        refine ⟨none, ⟨by omega, by rw [search]; rfl⟩, ?_⟩
        simp only [parseUnsigned_eq_ok_iff.mpr denotes, ok_bind]
        rfl

theorem loadRequest_eq_ok_iff {request target path : String} :
    loadRequest request = .ok (target, path) ↔
      request = target ++ "=" ++ path ∧ '=' ∉ target.toList := by
  rw [loadRequest]
  constructor
  · intro found
    split at found
    next => cases found
    next some =>
      obtain ⟨rest, later⟩ := exists_rest some
      obtain ⟨whole, absent⟩ := split_first_iff.mp ⟨rfl, later⟩
      cases found
      rw [later, ← String.toList_inj]
      exact ⟨by simpa using whole, by simpa using absent⟩
  · rintro ⟨rfl, absent⟩
    have whole : (target ++ "=" ++ path).toList = target.toList ++ '=' :: path.toList := by simp
    obtain ⟨front, later⟩ := split_first_iff.mpr ⟨whole, absent⟩
    rw [front, later]
    simp

/-! ## What is loaded -/

namespace Platform

variable {platform : Platform} {files : ImageFiles}

/-- The call for an image that a property names. -/
def ImageCall (files : ImageFiles) (image : RawImage) (call : PlanCall) : Prop :=
  ∃ bytes, files image.path = .ok bytes ∧ call = .raw bytes image.address.toNat

/-- The call for a request on the command line. -/
def RequestCall (space : AddressSpace) (files : ImageFiles) (request : String) (call : PlanCall) :
    Prop :=
  ∃ target path bytes address, request = target ++ "=" ++ path ∧ '=' ∉ target.toList ∧
    Targets space target address ∧ files path = .ok bytes ∧ call = .raw bytes address

def ElfCall (files : ImageFiles) (path : String) (call : PlanCall) : Prop :=
  ∃ bytes, files path = .ok bytes ∧ call = .elf bytes

theorem addFile_eq_ok_iff {plan next : ImageLoadPlan platform.World} {path : String}
    {call : ImageBytes → PlanCall} :
    platform.addFile files plan path call = .ok next ↔
      ∃ bytes, files path = .ok bytes ∧
        plan.add platform.space platform.loadBank (call bytes) = .ok next := by
  rw [addFile, attempt_bind_eq_ok_iff]
  simp only [mapError_eq_ok_iff]

theorem call_of_addFile {plan next : ImageLoadPlan platform.World} {path : String}
    {call : ImageBytes → PlanCall} (added : platform.addFile files plan path call = .ok next) :
    ∃ made, (∃ bytes, files path = .ok bytes ∧ made = call bytes) ∧
      plan.add platform.space platform.loadBank made = .ok next := by
  obtain ⟨bytes, read, here⟩ := addFile_eq_ok_iff.mp added
  exact ⟨_, ⟨bytes, read, rfl⟩, here⟩

theorem call_of_addRequest {plan next : ImageLoadPlan platform.World} {request : String}
    (added : platform.addRequest files plan request = .ok next) :
    ∃ call, RequestCall platform.space files request call ∧
      plan.add platform.space platform.loadBank call = .ok next := by
  rw [addRequest] at added
  obtain ⟨⟨target, path⟩, split, added⟩ := attempt_bind_eq_ok_iff.mp added
  obtain ⟨address, found, added⟩ := attempt_bind_eq_ok_iff.mp added
  obtain ⟨bytes, read, added⟩ := addFile_eq_ok_iff.mp added
  obtain ⟨same, absent⟩ := loadRequest_eq_ok_iff.mp (mapError_eq_ok_iff.mp split)
  exact ⟨_, ⟨target, path, bytes, address, same, absent,
    loadTarget_eq_ok_iff.mp (mapError_eq_ok_iff.mp found), read, rfl⟩, added⟩

/-- A loop that adds images makes a sequence of calls. -/
theorem calls_of_foldlM {A : Type}
    {step : ImageLoadPlan platform.World → A →
      Outcome LaunchError (ImageLoadPlan platform.World) (ImageLoadPlan platform.World)}
    (Makes : A → PlanCall → Prop)
    (each : ∀ plan item next, step plan item = .ok next → ∃ call, Makes item call ∧
      plan.add platform.space platform.loadBank call = .ok next)
    {items : List A} {plan next : ImageLoadPlan platform.World}
    (done : items.foldlM step plan = .ok next) :
    ∃ calls, List.Forall₂ Makes items calls ∧
      plan.addAll platform.space platform.loadBank calls = .ok next := by
  induction items generalizing plan with
  | nil =>
      cases done
      exact ⟨[], .nil, rfl⟩
  | cons item items ih =>
      rw [List.foldlM_cons, bind_eq_ok_iff] at done
      obtain ⟨middle, here, later⟩ := done
      obtain ⟨call, makes, added⟩ := each plan item middle here
      obtain ⟨calls, others, rest⟩ := ih later
      refine ⟨call :: calls, .cons makes others, ?_⟩
      rw [ImageLoadPlan.addAll, List.foldlM_cons, added]
      exact rest

theorem calls_of_addImages {images : List RawImage} {requests elves : List String}
    {plan next : ImageLoadPlan platform.World}
    (added : platform.addImages files plan images requests elves = .ok next) :
    ∃ imageCalls requestCalls elfCalls, List.Forall₂ (ImageCall files) images imageCalls ∧
      List.Forall₂ (RequestCall platform.space files) requests requestCalls ∧
      List.Forall₂ (ElfCall files) elves elfCalls ∧
      plan.addAll platform.space platform.loadBank (imageCalls ++ requestCalls ++ elfCalls) =
        .ok next := by
  rw [addImages] at added
  obtain ⟨first, imaged, added⟩ := bind_eq_ok_iff.mp added
  obtain ⟨second, requested, added⟩ := bind_eq_ok_iff.mp added
  obtain ⟨imageCalls, images, imagesAdded⟩ :=
    calls_of_foldlM (ImageCall files) (fun _ _ _ => call_of_addFile) imaged
  obtain ⟨requestCalls, requests, requestsAdded⟩ :=
    calls_of_foldlM (RequestCall platform.space files) (fun _ _ _ => call_of_addRequest) requested
  obtain ⟨elfCalls, elves, elvesAdded⟩ :=
    calls_of_foldlM (ElfCall files) (fun _ _ _ => call_of_addFile) added
  refine ⟨imageCalls, requestCalls, elfCalls, images, requests, elves, ?_⟩
  rw [ImageLoadPlan.addAll, List.foldlM_append, List.foldlM_append]
  rw [ImageLoadPlan.addAll] at imagesAdded requestsAdded elvesAdded
  rw [imagesAdded, ok_bind, requestsAdded, ok_bind, elvesAdded]

theorem boot_of_loadImages {states : platform.World} {images : List RawImage}
    {requests elves : List String} {plan : ImageLoadPlan platform.World}
    (loaded : platform.loadImages files states images requests elves = .ok plan) :
    ∃ imageCalls requestCalls elfCalls, List.Forall₂ (ImageCall files) images imageCalls ∧
      List.Forall₂ (RequestCall platform.space files) requests requestCalls ∧
      List.Forall₂ (ElfCall files) elves elfCalls ∧
      platform.boot states (imageCalls ++ requestCalls ++ elfCalls) = .ok plan := by
  obtain ⟨added, adds, applied⟩ := bind_eq_ok_iff.mp loaded
  obtain ⟨imageCalls, requestCalls, elfCalls, images, requests, elves, all⟩ :=
    calls_of_addImages adds
  refine ⟨imageCalls, requestCalls, elfCalls, images, requests, elves, ?_⟩
  rw [boot, all, ok_bind]
  exact mapError_eq_ok_iff.mp applied

/-- A step that adds an image changes no device, whether it returns or throws. -/
theorem addFile_keeps {world : platform.World} {plan : ImageLoadPlan platform.World}
    (same : plan.world = world) (path : String) (call : ImageBytes → PlanCall) :
    Ends (platform.addFile files plan path call) (fun next => next.world = world)
      fun _ after => after.world = world := by
  rw [addFile]
  refine ends_attempt_bind (fun _ _ => same) fun image _ => ?_
  cases added : plan.add platform.space platform.loadBank (call image) with
  | ok next =>
      obtain ⟨-, rfl⟩ := ImageLoadPlan.add_planned added
      exact same
  | error thrown =>
      have unchanged : thrown.2 = plan := by
        by_contra changed
        exact ImageLoadPlan.add_avoids plan _ _ added (.inr changed)
      change thrown.2.world = world
      rw [unchanged, same]

theorem addImages_keeps (plan : ImageLoadPlan platform.World) (images : List RawImage)
    (requests elves : List String) :
    Ends (platform.addImages files plan images requests elves)
      (fun next => next.world = plan.world) fun _ after => after.world = plan.world := by
  have loop : ∀ {A : Type} {step : ImageLoadPlan platform.World → A → Outcome LaunchError _ _},
      (∀ start item, start.world = plan.world → Ends (step start item)
        (fun next => next.world = plan.world) fun _ after => after.world = plan.world) →
      ∀ (items : List A) start, start.world = plan.world → Ends (items.foldlM step start)
        (fun next => next.world = plan.world) fun _ after => after.world = plan.world :=
    fun each items start same => ends_foldlM (fun _ next => next.world = plan.world)
      (fun item _ start same => each start item same) items start same
  refine (loop (fun start item same => addFile_keeps same _ _) images plan rfl).bind fun first same =>
    (loop (fun start request same => ?_) requests first same).bind fun second same =>
      loop (fun start item same => addFile_keeps same _ _) elves second same
  exact ends_attempt_bind (fun _ _ => same) fun _ _ =>
    ends_attempt_bind (fun _ _ => same) fun _ _ => addFile_keeps same _ _

end Platform

/-- `load_images` loads everything or nothing.  When it returns, the devices are booted with one
call for each image property, request and executable, in this order, where a request goes to the
only window that bears its name or else to an address; when it throws, no device was changed. -/
theorem load_images_exact (platform : Platform) (memory : ∀ id, Memory (platform.devices id))
    (files : ImageFiles) (states : platform.World) (images : List RawImage)
    (requests elves : List String) :
    (∀ plan, platform.loadImages files states images requests elves = .ok plan →
      ∃ imageCalls requestCalls elfCalls,
        List.Forall₂ (Platform.ImageCall files) images imageCalls ∧
        List.Forall₂ (Platform.RequestCall platform.space files) requests requestCalls ∧
        List.Forall₂ (Platform.ElfCall files) elves elfCalls ∧
        platform.boot states (imageCalls ++ requestCalls ++ elfCalls) = .ok plan) ∧
    ∀ fault after, platform.loadImages files states images requests elves = .error (fault, after) →
      after.world = platform.reset states := by
  constructor
  · exact fun plan loaded => Platform.boot_of_loadImages loaded
  · intro fault after thrown
    rw [Platform.loadImages] at thrown
    have keeps : Ends (platform.addImages files { world := platform.reset states } images requests
      elves) _ _ := Platform.addImages_keeps _ images requests elves
    cases added : platform.addImages files { world := platform.reset states } images requests
        elves with
    | error early =>
        rw [added] at thrown keeps
        cases thrown
        exact keeps
    | ok plan =>
        rw [added] at thrown keeps
        obtain ⟨imageCalls, requestCalls, elfCalls, -, -, -, all⟩ :=
          Platform.calls_of_addImages added
        obtain ⟨-, -, planned⟩ := ImageLoadPlan.addAll_planned all (by simp)
        rcases ImageLoadPlan.apply_spec (platform.storage memory) planned with
          ⟨-, world, done, -⟩ | ⟨-, reason, failed⟩
        · rw [ok_bind, done] at thrown
          cases thrown
        · rw [ok_bind, failed] at thrown
          cases thrown
          exact keeps

/-! ## Images of properties -/

/-- A raw image is found in the memory behind the window that contains it. -/
theorem Platform.content_raw {platform : Platform} (memory : ∀ id, Memory (platform.devices id))
    {states : platform.World} {calls : List PlanCall} {plan : ImageLoadPlan platform.World}
    (booted : platform.boot states calls = .ok plan) {bytes : ImageBytes} {address : Nat}
    (member : .raw bytes address ∈ calls) (nonempty : 0 < bytes.size) :
    ∃ window, platform.space.resolve address bytes.size = some window ∧
      ∀ k < bytes.size, byteAt (platform.content memory window.device plan.world)
        (address - window.base + k) = bytes.byte k := by
  let chunk : Chunk :=
    { segment := { loadAddress := address, fileSize := bytes.size, memorySize := bytes.size }
      data := bytes }
  have chunks : (PlanCall.raw bytes address).chunks = [chunk] :=
    if_neg (Nat.pos_iff_ne_zero.mp nonempty)
  have here : chunk ∈ calls.flatMap PlanCall.chunks :=
    List.mem_flatMap.mpr ⟨_, member, by rw [chunks]; exact List.mem_singleton_self _⟩
  obtain ⟨added, adds, -⟩ := bind_eq_ok_iff.mp booted
  obtain ⟨-, addedChunks, planned⟩ := ImageLoadPlan.addAll_planned adds (by simp)
  rw [List.nil_append] at addedChunks
  obtain ⟨window, resolved, loadable, -⟩ := (planned chunk (addedChunks ▸ here)).resolve
  simp only [loadBank, Option.any_eq_true] at loadable
  obtain ⟨id, position, loads⟩ := loadable
  obtain ⟨-, boot⟩ := content_boot memory position loads booted
  refine ⟨window, resolved, fun k inside => ?_⟩
  rw [(boot (address - window.base + k)).loaded chunk here window resolved rfl k inside rfl]
  exact if_pos inside

/-- Every class keeps the contract of memories. -/
def DeviceObject.memoryOf : (object : Option DeviceObject) →
    Memory (DeviceObject.hardware.classOf object)
  | none => .none rfl fun _ _ _ => rfl
  | some object => object.memory

section Property

variable {files : HostFiles} {spec : PlatformSpec} {addressBits : Nat} {host after : HostServices}
  {built : Constructed DeviceObject}

/-- The image of an instance is listed with the base of its only window. -/
theorem DeviceRegistry.image_of_construct
    (returned : (registered files).construct DeviceObject.hardware spec addressBits host =
      .ok (after, built)) {device : DeviceSpec} (member : device ∈ spec.devices)
    (image : (registered files).imagePath device ≠ "") :
    ∃ mapping ∈ spec.mappings, mapping.device = device.id ∧
      ⟨(registered files).imagePath device, mapping.base⟩ ∈ built.images := by
  obtain ⟨configs, -, configured, -, -, imaged, -⟩ := stages_of_construct returned
  obtain ⟨checks, distinct, -, rfl⟩ := configureAll_eq_ok_iff.mp configured
  obtain ⟨single, images⟩ :=
    (imageAll_eq_ok_iff (registered_sound files) checks distinct).mp imaged
  obtain ⟨other, otherMember, named⟩ := List.countP_pos_iff.mp
    (Nat.lt_of_lt_of_eq Nat.zero_lt_one (single device member image).symm)
  obtain ⟨mapping, search⟩ := Option.isSome_iff_exists.mp (List.find?_isSome.mpr
    ⟨other, otherMember, named⟩ :
      (spec.mappings.find? fun mapping => mapping.device = device.id).isSome = true)
  refine ⟨mapping, List.mem_of_find?_eq_some search, by simpa using List.find?_some search, ?_⟩
  rw [images, List.mem_filterMap]
  exact ⟨device, member, by rw [imageOf, if_neg image, search]; rfl⟩

/-- A window of the specification as the address space holds it. -/
theorem DeviceRegistry.window_of_construct {Host Object : Type}
    {registry : DeviceRegistry Host Object} {hardware : Hardware Object} {host after : Host}
    {built : Constructed Object}
    (returned : registry.construct hardware spec addressBits host = .ok (after, built))
    {mapping : MappingSpec} (member : mapping ∈ spec.mappings) :
    ∃ window ∈ built.space.mappings, window.base = mapping.base.toNat ∧
      built.ids[window.device]? = some mapping.device := by
  obtain ⟨-, space, -, -, mapped, -, -, ids, -⟩ := stages_of_construct returned
  obtain ⟨known, -, -⟩ := PlatformSpec.mapWindows_eq_ok_iff.mp mapped
  obtain ⟨position, found⟩ := PlatformSpec.device_of_mem (known mapping member)
  refine ⟨⟨mapping.base.toNat, mapping.size.toNat, position, mapping.device⟩,
    (windows_of_construct returned).mem_iff.mpr (PlatformSpec.mem_windows.mpr
      ⟨mapping, member, found, rfl⟩), rfl, ?_⟩
  rw [ids]
  exact PlatformSpec.getElem?_of_device found

/-- The memory contracts of a constructed platform. -/
def Constructed.memory (built : Constructed DeviceObject) (sound : built.Sound) (id : String) :
    Memory ((built.platform DeviceObject.hardware sound).devices id) :=
  DeviceObject.memoryOf (built.objects.lookup id)

end Property

/-- An image property is found where the design looks for it.  If the platform was constructed
and its images were loaded, an instance with an image has a window, the file could be read, and
each address of the window that lies within the file leads to that instance, whose memory holds
the byte of the file there. -/
theorem image_property_loaded (files : HostFiles) (contents : ImageFiles) (spec : PlatformSpec)
    (addressBits : Nat) (host after : HostServices) (built : Constructed DeviceObject)
    (returned : (DeviceRegistry.registered files).construct DeviceObject.hardware spec addressBits
      host = .ok (after, built)) (requests elves : List String) :
    let sound := DeviceRegistry.sound_of_construct returned
    let platform := built.platform DeviceObject.hardware sound
    ∀ plan, platform.loadImages contents (built.states DeviceObject.hardware sound) built.images
        requests elves = .ok plan →
      ∀ device ∈ spec.devices, (DeviceRegistry.registered files).imagePath device ≠ "" →
        ∃ mapping ∈ spec.mappings, mapping.device = device.id ∧ ∃ bytes,
          contents ((DeviceRegistry.registered files).imagePath device) = .ok bytes ∧
          ∀ k < bytes.size, ∃ window,
            platform.space.resolve (mapping.base.toNat + k) 1 = some window ∧
            mapping.base.toNat + k - window.base = k ∧
            platform.ids[window.device]? = some device.id ∧
            byteAt (platform.content (built.memory sound) window.device plan.world) k =
              bytes.byte k := by
  intro sound platform plan loaded device member image
  obtain ⟨mapping, mappingMember, named, listed⟩ :=
    DeviceRegistry.image_of_construct returned member image
  obtain ⟨imageCalls, requestCalls, elfCalls, images, -, -, booted⟩ :=
    Platform.boot_of_loadImages loaded
  obtain ⟨call, callMember, bytes, read, rfl⟩ := exists_of_forall₂ images listed
  refine ⟨mapping, mappingMember, named, bytes, read, fun k inside => ?_⟩
  obtain ⟨window, resolved, stored⟩ := Platform.content_raw (built.memory sound) booted
    (List.mem_append_left _ (List.mem_append_left _ callMember)) (Nat.zero_lt_of_lt inside)
  obtain ⟨windowMember, -, above, limit⟩ := platform.space.resolve_eq_some_iff.mp resolved
  obtain ⟨own, ownMember, base, position⟩ :=
    DeviceRegistry.window_of_construct returned mappingMember
  -- Both windows contain the first byte of the image.
  have same : window = own := by
    have here := platform.space.resolve_byte windowMember above (by omega)
    have nonempty := built.space.layout.nonempty own ownMember
    have there := built.space.resolve_byte ownMember base.le
      (by simp only [Mapping.limit]; omega)
    exact Option.some.inj (here.symm.trans there)
  subst same
  refine ⟨window, platform.space.resolve_byte windowMember (by omega) (by omega), by omega,
    named ▸ position, ?_⟩
  have byte := stored k inside
  rwa [base, Nat.sub_self, Nat.zero_add] at byte

/-- A ROM with an image. -/
def romSpec : PlatformSpec where
  devices := [{ id := "rom", type := "rom", properties := [("image", "boot.bin"), ("size", "8")] }]
  mappings := [{ device := "rom", base := 0x1000, size := 8 }]

def noFiles : HostFiles where
  failure _ _ := some "No such file or directory"
  bytes _ _ := none

def bootImage : ImageFiles := fun path =>
  if path = "boot.bin" then .ok wordImage else .error (.error ("cannot open image: " ++ path))

theorem image_property_loaded_rom :
    ∃ (after : HostServices) (built : Constructed DeviceObject) (sound : built.Sound)
      (plan : ImageLoadPlan (built.platform DeviceObject.hardware sound).World) (index : DeviceId),
      (DeviceRegistry.registered noFiles).construct DeviceObject.hardware romSpec 32 {} =
        .ok (after, built) ∧
      built.ids[index]? = some "rom" ∧
      byteAt ((built.platform DeviceObject.hardware sound).content (built.memory sound) index
        plan.world) 2 = 3 := by
  obtain ⟨after, built, returned, plan, loaded⟩ : ∃ (after : HostServices)
      (built : Constructed DeviceObject) (returned : (DeviceRegistry.registered noFiles).construct
        DeviceObject.hardware romSpec 32 {} = .ok (after, built)), ∃ plan,
      (built.platform DeviceObject.hardware (DeviceRegistry.sound_of_construct returned)).loadImages
        bootImage (built.states DeviceObject.hardware _) built.images [] [] = .ok plan :=
    ⟨_, _, rfl, _, eq_ok_of_isOk (by decide +kernel)⟩
  obtain ⟨mapping, -, -, bytes, read, stored⟩ := image_property_loaded noFiles bootImage romSpec 32 {}
    after built returned [] [] plan loaded _ List.mem_cons_self (by decide)
  obtain rfl : wordImage = bytes := Except.ok.inj read
  obtain ⟨window, -, -, position, byte⟩ := stored 2 (by decide)
  exact ⟨after, built, DeviceRegistry.sound_of_construct returned, plan, window.device, returned,
    position, byte⟩

end AxiTestbench
