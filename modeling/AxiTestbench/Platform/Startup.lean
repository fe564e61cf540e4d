import AxiTestbench.Platform.Construct

/-!
# Starting a platform

What the constructor of the platform accepts when the devices are those of the repository, and
what it leaves behind when it throws.
-/

namespace AxiTestbench

open Lib Outcome

/-- The registry after both registrations. -/
def DeviceRegistry.registered (files : HostFiles) : DeviceRegistry HostServices DeviceObject where
  types := registeredDevices files

variable {files : HostFiles} {spec : PlatformSpec}

theorem DeviceRegistry.registered_sound (files : HostFiles) : (registered files).Sound :=
  (addAll_spec sound_empty (registered_added files)).1

/-- An instance and the device that was created for it. -/
def DeviceSpec.Instance (files : HostFiles) (device : DeviceSpec) (entry : String × DeviceObject) :
    Prop :=
  entry.1 = device.id ∧
    Created files ((DeviceRegistry.registered files).configOf device) device.type entry.2

/-- The files that instances want. -/
def wantedBy (files : HostFiles) (devices : List DeviceSpec) : List (String × Bool) :=
  devices.flatMap fun device =>
    wantedFiles device.type ((DeviceRegistry.registered files).configOf device)

/-! ## Creating the devices -/

namespace DeviceRegistry

theorem createOne_eq {configs : Configs} {device : DeviceSpec}
    (checks : (registered files).Checks device)
    (found : configs.at device.id = .ok ((registered files).configOf device)) :
    ∃ object, Created files ((registered files).configOf device) device.type object ∧
      ∀ created, (registered files).createOne configs created device = (do
        let host ← openFiles files
          (wantedFiles device.type ((registered files).configOf device)) created.1
        return (host, created.2 ++ [(device.id, object)])) := by
  have sound := registered_sound files
  have configured := configure_configOf checks
  obtain ⟨type, member, -⟩ := (configure_eq_ok_iff sound).mp configured
  obtain ⟨factory, object, creates, described, opens⟩ :=
    registered_opens member (checked sound member configured)
  refine ⟨object, described, fun created => ?_⟩
  rw [createOne, (type_eq_ok_iff sound).mpr member, found]
  simp only [attempt, ok_bind, DeviceType.invoke, creates, opens created.1, bind_assoc]
  rfl

theorem createAll_eq {configs : Configs} {devices : List DeviceSpec}
    (checks : ∀ device ∈ devices, (registered files).Checks device)
    (found : ∀ device ∈ devices,
      configs.at device.id = .ok ((registered files).configOf device)) :
    ∃ objects, List.Forall₂ (DeviceSpec.Instance files) devices objects ∧
      ∀ host start, devices.foldlM ((registered files).createOne configs) (host, start) = (do
        let host ← openFiles files (wantedBy files devices) host
        return (host, start ++ objects)) := by
  induction devices with
  | nil => exact ⟨[], .nil, fun host start => by rw [List.append_nil]; rfl⟩
  | cons device devices ih =>
      obtain ⟨first, rest⟩ := List.forall_mem_cons.mp checks
      obtain ⟨foundFirst, foundRest⟩ := List.forall_mem_cons.mp found
      obtain ⟨object, described, created⟩ := createOne_eq first foundFirst
      obtain ⟨objects, instances, all⟩ := ih rest foundRest
      refine ⟨(device.id, object) :: objects, .cons ⟨rfl, described⟩ instances, fun host start => ?_⟩
      have split : wantedBy files (device :: devices) =
          wantedFiles device.type ((registered files).configOf device) ++ wantedBy files devices :=
        List.flatMap_cons
      rw [List.foldlM_cons, created, split, openFiles_append, bind_assoc, bind_assoc]
      refine bind_congr fun opened => ?_
      rw [pure_bind, all]
      simp

end DeviceRegistry

/-- Properties determine the device. -/
theorem Created.unique {config : DeviceConfig} {type : String} {left right : DeviceObject}
    (first : Created files config type left) (second : Created files config type right) :
    left = right := by
  cases first with
  | rom found =>
      generalize same : "rom" = type at second
      cases second with
      | rom other => rw [Except.ok.inj (found.symm.trans other)]
      | _ => exact absurd same (by decide)
  | ram found =>
      generalize same : "ram" = type at second
      cases second with
      | ram other => rw [Except.ok.inj (found.symm.trans other)]
      | _ => exact absurd same (by decide)
  | @uart _ uart source character poll =>
      generalize same : "uart" = type at second
      cases second with
      | @uart _ otherUart otherSource otherCharacter otherPoll =>
          cases Except.ok.inj (source.symm.trans otherSource)
          have sameCharacter := Except.ok.inj (character.symm.trans otherCharacter)
          have samePoll := Except.ok.inj (poll.symm.trans otherPoll)
          cases uart
          cases otherUart
          cases sameCharacter
          cases samePoll
          rfl
      | _ => exact absurd same (by decide)
  | exit =>
      generalize same : "exit" = type at second
      cases second with
      | exit => rfl
      | _ => exact absurd same (by decide)
  | clint found =>
      generalize same : "riscv-clint" = type at second
      cases second with
      | clint other => rw [Except.ok.inj (found.symm.trans other)]
      | _ => exact absurd same (by decide)
  | @plic shape _ _ foundSources foundContexts sameSources sameContexts =>
      generalize same : "riscv-plic" = type at second
      cases second with
      | @plic otherShape _ _ otherSources otherContexts otherSameSources otherSameContexts =>
          cases Except.ok.inj (foundSources.symm.trans otherSources)
          cases Except.ok.inj (foundContexts.symm.trans otherContexts)
          cases shape
          cases otherShape
          cases sameSources.trans otherSameSources.symm
          cases sameContexts.trans otherSameContexts.symm
          rfl
      | _ => exact absurd same (by decide)

theorem instances_unique {devices : List DeviceSpec} {left right : List (String × DeviceObject)}
    (first : List.Forall₂ (DeviceSpec.Instance files) devices left)
    (second : List.Forall₂ (DeviceSpec.Instance files) devices right) : left = right := by
  induction first generalizing right with
  | nil =>
      cases second
      rfl
  | cons here rest ih =>
      cases second with
      | cons other others =>
          rw [ih others, Prod.ext (here.1.trans other.1.symm) (here.2.unique other.2)]

theorem exists_of_forall₂ {A B : Type} {R : A → B → Prop} {left : List A} {right : List B}
    (all : List.Forall₂ R left right) {item : A} (member : item ∈ left) :
    ∃ other ∈ right, R item other := by
  induction all with
  | nil => cases member
  | cons here rest ih =>
      rcases List.mem_cons.mp member with rfl | later
      · exact ⟨_, List.mem_cons_self, here⟩
      · obtain ⟨other, otherMember, related⟩ := ih later
        exact ⟨other, List.mem_cons_of_mem _ otherMember, related⟩

/-- What the constructor asks for. -/
structure PlatformSpec.Acceptable (spec : PlatformSpec) (files : HostFiles) (addressBits : Nat)
    (objects : List (String × DeviceObject)) (links : List Link) : Prop where
  width : addressBits = 32 ∨ addressBits = 64
  checks : ∀ device ∈ spec.devices, (DeviceRegistry.registered files).Checks device
  instances : List.Forall₂ (DeviceSpec.Instance files) spec.devices objects
  opens : ∀ file ∈ wantedBy files spec.devices, files.failure file.1 file.2 = none
  known : ∀ mapping ∈ spec.mappings, mapping.device ∈ spec.ids
  narrow : addressBits = 32 → ∀ mapping ∈ spec.mappings, ¬mapping.TooWide
  fits : AddressSpace.fresh.FitAll (spec.windows spec.mappings)
  imaged : ∀ device ∈ spec.devices, (DeviceRegistry.registered files).imagePath device ≠ "" →
    (spec.mappings.countP fun mapping => mapping.device = device.id) = 1
  valid : spec.Valid (DeviceObject.hardware.board objects) links
  acyclic : ¬Kahn.Cyclic (links.map Link.edge)

/-- The rest of the constructor after the devices were created. -/
def PlatformSpec.assemble (spec : PlatformSpec) (files : HostFiles) (addressBits : Nat)
    (objects : List (String × DeviceObject)) : Except ConfigError (Constructed DeviceObject) := do
  let registry := DeviceRegistry.registered files
  let configs := spec.devices.map fun device => (device.id, registry.configOf device)
  let space ← (spec.mapWindows addressBits).mapError .platform
  let images ← registry.imageAll configs spec
  let (wiring, order) ← (spec.connected (DeviceObject.hardware.board objects)).mapError .platform
  return { ids := spec.ids, objects, space := space.freeze, images, wiring, order }

theorem mapError_eq_ok_iff {E F A : Type} {wrap : E → F} {result : Except E A} {value : A} :
    result.mapError wrap = .ok value ↔ result = .ok value := by
  cases result <;> simp [Except.mapError]

theorem PlatformSpec.assemble_eq_ok_iff {addressBits : Nat}
    {objects : List (String × DeviceObject)} {built : Constructed DeviceObject}
    (checks : ∀ device ∈ spec.devices, (DeviceRegistry.registered files).Checks device)
    (distinct : spec.ids.Nodup) :
    spec.assemble files addressBits objects = .ok built ↔
      ∃ space wiring order, spec.mapWindows addressBits = .ok space ∧
        (∀ device ∈ spec.devices, (DeviceRegistry.registered files).imagePath device ≠ "" →
          (spec.mappings.countP fun mapping => mapping.device = device.id) = 1) ∧
        spec.connected (DeviceObject.hardware.board objects) = .ok (wiring, order) ∧
        built = ⟨spec.ids, objects, space.freeze,
          spec.devices.filterMap ((DeviceRegistry.registered files).imageOf spec.mappings), wiring,
          order⟩ := by
  have sound := DeviceRegistry.registered_sound files
  simp only [assemble, bind_eq_ok_iff, mapError_eq_ok_iff, Prod.exists, pure_eq_ok_iff,
    DeviceRegistry.imageAll_eq_ok_iff sound checks distinct]
  constructor
  · rintro ⟨space, mapped, images, ⟨imaged, rfl⟩, wiring, order, connected, rfl⟩
    exact ⟨space, wiring, order, mapped, imaged, connected, rfl⟩
  · rintro ⟨space, wiring, order, mapped, imaged, connected, rfl⟩
    exact ⟨space, mapped, _, ⟨imaged, rfl⟩, wiring, order, connected, rfl⟩

/-- An instance that fails its checks is reported before any factory is called. -/
theorem DeviceRegistry.construct_of_unchecked {Host Object : Type}
    {registry : DeviceRegistry Host Object} (hardware : Hardware Object) {addressBits : Nat}
    (unchecked : ¬((addressBits = 32 ∨ addressBits = 64) ∧
      (∀ device ∈ spec.devices, registry.Checks device) ∧ spec.ids.Nodup)) (host : Host) :
    ∃ fault, registry.construct hardware spec addressBits host = .error (fault, host) := by
  rw [construct]
  by_cases bits : addressBits ≠ 32 ∧ addressBits ≠ 64
  · refine ⟨.invalidArgument "invalid address width", ?_⟩
    rw [reject, if_pos bits]
    rfl
  · simp only [reject, bits, if_false, attempt, ok_bind]
    cases configured : spec.devices.foldlM registry.configureOne [] with
    | error fault => exact ⟨fault, rfl⟩
    | ok configs =>
        obtain ⟨checks, distinct, -⟩ := configureAll_eq_ok_iff.mp configured
        exact absurd ⟨by omega, checks, distinct⟩ unchecked

/-- After the checks the constructor opens the files and then depends on the host no more. -/
theorem DeviceRegistry.construct_of_checks {addressBits : Nat}
    (width : addressBits = 32 ∨ addressBits = 64)
    (checks : ∀ device ∈ spec.devices, (registered files).Checks device)
    (distinct : spec.ids.Nodup) :
    ∃ objects, List.Forall₂ (DeviceSpec.Instance files) spec.devices objects ∧ ∀ host,
      (registered files).construct DeviceObject.hardware spec addressBits host = (do
        let host ← openFiles files (wantedBy files spec.devices) host
        let built ← attempt host (spec.assemble files addressBits objects)
        return (host, built)) := by
  have bits : ¬(addressBits ≠ 32 ∧ addressBits ≠ 64) := by omega
  have configured : spec.devices.foldlM (registered files).configureOne [] = .ok _ :=
    configureAll_eq_ok_iff.mpr ⟨checks, distinct, by simp, rfl⟩
  obtain ⟨objects, instances, created⟩ :=
    createAll_eq checks fun device member => at_configs distinct member
  refine ⟨objects, instances, fun host => ?_⟩
  rw [construct, configured]
  simp only [reject, bits, if_false, attempt, ok_bind, List.nil_append, created, bind_assoc,
    pure_bind]
  refine bind_congr fun opened => ?_
  rw [PlatformSpec.assemble]
  cases spec.mapWindows addressBits with
  | error fault => rfl
  | ok space =>
      simp only [Except.mapError, ok_bind]
      cases (registered files).imageAll (spec.devices.map fun device =>
        (device.id, (registered files).configOf device)) spec with
      | error fault => rfl
      | ok images =>
          simp only [ok_bind]
          cases spec.connected (DeviceObject.hardware.board objects) with
          | error fault => rfl
          | ok result => rfl

/-- What the constructor has built from an acceptable specification. -/
structure PlatformSpec.Builds (spec : PlatformSpec) (files : HostFiles) (links : List Link)
    (built : Constructed DeviceObject) : Prop where
  ids : built.ids = spec.ids
  frozen : built.space.frozen = true
  windows : built.space.mappings.Perm
    ((spec.windows spec.mappings).map AddressSpace.Window.mapping)
  images : built.images =
    spec.devices.filterMap ((DeviceRegistry.registered files).imageOf spec.mappings)
  connects : spec.Connects (DeviceObject.hardware.board built.objects) links built.wiring built.order

theorem PlatformSpec.Acceptable.assemble {addressBits : Nat}
    {objects : List (String × DeviceObject)} {links : List Link}
    (acceptable : spec.Acceptable files addressBits objects links) :
    ∃ built, spec.assemble files addressBits objects = .ok built ∧ built.objects = objects ∧
      spec.Builds files links built := by
  obtain ⟨space, inserted⟩ := (AddressSpace.insertAll_spec _ _).2 acceptable.fits
  obtain ⟨-, -, stored⟩ := (AddressSpace.insertAll_spec _ _).1 space inserted
  rw [show AddressSpace.fresh.mappings = [] from rfl, List.append_nil] at stored
  obtain ⟨wiring, order, connected, connects⟩ := acceptable.valid.connected acceptable.acyclic
  exact ⟨_, (assemble_eq_ok_iff acceptable.checks acceptable.valid.ids).mpr ⟨space, wiring, order,
    mapWindows_eq_ok_iff.mpr ⟨acceptable.known, acceptable.narrow, inserted⟩, acceptable.imaged,
    connected, rfl⟩, rfl, rfl, rfl, stored, rfl, connects⟩

theorem PlatformSpec.acceptable_of_assemble {addressBits : Nat}
    {objects : List (String × DeviceObject)} {built : Constructed DeviceObject}
    (width : addressBits = 32 ∨ addressBits = 64)
    (checks : ∀ device ∈ spec.devices, (DeviceRegistry.registered files).Checks device)
    (distinct : spec.ids.Nodup)
    (instances : List.Forall₂ (DeviceSpec.Instance files) spec.devices objects)
    (opens : ∀ file ∈ wantedBy files spec.devices, files.failure file.1 file.2 = none)
    (assembled : spec.assemble files addressBits objects = .ok built) :
    ∃ links, spec.Acceptable files addressBits built.objects links ∧
      spec.Builds files links built := by
  obtain ⟨space, wiring, order, mapped, imaged, connected, rfl⟩ :=
    (assemble_eq_ok_iff checks distinct).mp assembled
  obtain ⟨known, narrow, inserted⟩ := mapWindows_eq_ok_iff.mp mapped
  obtain ⟨fits, -, stored⟩ := (AddressSpace.insertAll_spec _ _).1 space inserted
  obtain ⟨links, connects⟩ := connects_of_connected distinct connected
  rw [show AddressSpace.fresh.mappings = [] from rfl, List.append_nil] at stored
  exact ⟨links, ⟨width, checks, instances, opens, known, narrow, fits, imaged, connects.valid,
    connects.acyclic⟩, rfl, rfl, stored, rfl, connects⟩

theorem PlatformSpec.acceptable_of_construct {addressBits : Nat} {host after : HostServices}
    {built : Constructed DeviceObject}
    (returned : (DeviceRegistry.registered files).construct DeviceObject.hardware spec addressBits
      host = .ok (after, built)) :
    after.files = host.files ++ wantedBy files spec.devices ∧
      ∃ links, spec.Acceptable files addressBits built.objects links ∧
        spec.Builds files links built := by
  by_cases checked : (addressBits = 32 ∨ addressBits = 64) ∧
      (∀ device ∈ spec.devices, (DeviceRegistry.registered files).Checks device) ∧ spec.ids.Nodup
  · obtain ⟨width, checks, distinct⟩ := checked
    obtain ⟨objects, instances, constructed⟩ :=
      DeviceRegistry.construct_of_checks width checks distinct
    rw [constructed host, bind_eq_ok_iff] at returned
    obtain ⟨opened, opening, rest⟩ := returned
    obtain ⟨platform, assembled, same⟩ := attempt_bind_eq_ok_iff.mp rest
    cases same
    obtain ⟨opens, rfl⟩ := openFiles_eq_ok_iff.mp opening
    exact ⟨rfl, acceptable_of_assemble width checks distinct instances opens assembled⟩
  · obtain ⟨fault, failed⟩ :=
      DeviceRegistry.construct_of_unchecked DeviceObject.hardware checked host
    cases returned.symm.trans failed

theorem PlatformSpec.Acceptable.construct {addressBits : Nat}
    {objects : List (String × DeviceObject)} {links : List Link}
    (acceptable : spec.Acceptable files addressBits objects links) (host : HostServices) :
    ∃ built, (DeviceRegistry.registered files).construct DeviceObject.hardware spec addressBits
        host = .ok (⟨host.files ++ wantedBy files spec.devices⟩, built) ∧
      built.objects = objects ∧ spec.Builds files links built := by
  obtain ⟨others, instances, constructed⟩ := DeviceRegistry.construct_of_checks acceptable.width
    acceptable.checks acceptable.valid.ids
  obtain rfl := instances_unique instances acceptable.instances
  obtain ⟨built, assembled, described⟩ := acceptable.assemble
  refine ⟨built, (constructed host).trans ?_, described⟩
  rw [openFiles_eq_ok host acceptable.opens, ok_bind, assembled]
  rfl

/-- When the constructor throws, the opened files are the first of those that the instances
want, in their order, and none of them unless every instance has passed its checks. -/
theorem construction_failure_contained (files : HostFiles) (spec : PlatformSpec)
    (addressBits : Nat) (host after : HostServices) (fault : ConfigError)
    (thrown : (DeviceRegistry.registered files).construct DeviceObject.hardware spec addressBits
      host = .error (fault, after)) :
    ∃ opened, opened <+: wantedBy files spec.devices ∧ after.files = host.files ++ opened ∧
      (∀ file ∈ opened, files.failure file.1 file.2 = none) ∧
      (opened ≠ [] → (addressBits = 32 ∨ addressBits = 64) ∧
        (∀ device ∈ spec.devices, (DeviceRegistry.registered files).Checks device) ∧
        spec.ids.Nodup) := by
  by_cases checked : (addressBits = 32 ∨ addressBits = 64) ∧
      (∀ device ∈ spec.devices, (DeviceRegistry.registered files).Checks device) ∧ spec.ids.Nodup
  · obtain ⟨width, checks, distinct⟩ := checked
    obtain ⟨objects, -, constructed⟩ := DeviceRegistry.construct_of_checks width checks distinct
    rw [constructed host] at thrown
    cases opening : openFiles files (wantedBy files spec.devices) host with
    | error thrownEarly =>
        rw [opening] at thrown
        cases thrown
        obtain ⟨opened, front, same, opens⟩ := openFiles_front opening
        exact ⟨opened, front, same, opens, fun _ => ⟨width, checks, distinct⟩⟩
    | ok openedHost =>
        obtain ⟨opens, rfl⟩ := openFiles_eq_ok_iff.mp opening
        rw [opening, ok_bind] at thrown
        cases assembled : spec.assemble files addressBits objects with
        | ok built =>
            rw [assembled] at thrown
            cases thrown
        | error reason =>
            rw [assembled] at thrown
            cases thrown
            exact ⟨_, List.prefix_refl _, rfl, opens, fun _ => ⟨width, checks, distinct⟩⟩
  · obtain ⟨reason, failed⟩ := DeviceRegistry.construct_of_unchecked DeviceObject.hardware checked
      host
    cases thrown.symm.trans failed
    exact ⟨[], List.nil_prefix, (List.append_nil _).symm, by simp, fun some => (some rfl).elim⟩

/-- A UART whose output does not open. -/
theorem construction_failure_contained_uart :
    let files : HostFiles :=
      { failure := fun _ input => if input then none else some "Permission denied"
        bytes := fun _ _ => none }
    let spec : PlatformSpec :=
      { devices := [{ id := "uart", type := "uart",
                      properties := [("input", "typed"), ("output", "log")] }] }
    ∃ fault after opened, (DeviceRegistry.registered files).construct DeviceObject.hardware spec 32
        {} = .error (fault, after) ∧
      opened <+: wantedBy files spec.devices ∧ after.files = opened ∧ opened = [("typed", true)] := by
  intro files spec
  have thrown : (DeviceRegistry.registered files).construct DeviceObject.hardware spec 32 {} =
      .error (.runtimeError "cannot open 'log': Permission denied", ⟨[("typed", true)]⟩) := rfl
  obtain ⟨opened, front, same, -⟩ := construction_failure_contained files spec 32 {} _ _ thrown
  exact ⟨_, _, opened, thrown, front, same, same.symm⟩

end AxiTestbench
