import AxiTestbench.Platform.Factories

/-!
# The constructor of the platform

`Platform::Platform` (`platform.cpp`): the properties of all instances are checked, then the
devices are created, mapped into the address space and connected.
-/

namespace AxiTestbench

open Lib Outcome

/-! ## Ports -/

/-- `index` of `interrupt_devices.cpp`: the number after the stem of a port name. -/
def index (name stem : String) (limit : Nat) : Option Nat :=
  if stem.toList <+: name.toList then
    match fromChars 10 32 (name.toList.drop stem.toList.length) with
    | some (value, []) => if value ≥ limit then none else some value
    | _ => none
  else none

theorem index_eq_some_iff {name stem : String} {limit value : Nat} (small : limit ≤ 2 ^ 32) :
    index name stem limit = some value ↔
      ∃ digits, name.toList = stem.toList ++ digits ∧ Numeral 10 digits value ∧ value < limit := by
  rw [index]
  constructor
  · intro found
    split at found
    next starts =>
      obtain ⟨digits, same⟩ := starts
      rw [← same, List.drop_left] at found
      split at found
      next number scan =>
        split at found
        next => cases found
        next below =>
          cases found
          exact ⟨digits, same.symm, (fromChars_eq_whole_iff.mp scan).1, Nat.not_le.mp below⟩
      next => cases found
    next => cases found
  · rintro ⟨digits, same, numeral, below⟩
    rw [same, if_pos (List.prefix_append _ _), List.drop_left,
      fromChars_eq_whole_iff.mpr ⟨numeral, by omega⟩]
    exact if_neg (by omega)

/-- `Device::input` and `Device::output` without an override. -/
def DevicePorts.none : DevicePorts where
  inputs := 0
  few := by decide
  input _ := Option.none
  input_lt := by simp
  inputWidth _ := 1
  output _ := Option.none
  outputWidth _ := 1

def UartDevice.ports : DevicePorts :=
  { DevicePorts.none with output := fun name => if name = "irq" then some 0 else Option.none }

def Clint.ports : DevicePorts :=
  { DevicePorts.none with
    output := fun name =>
      if name = "mtime" then some 0
      else if name = "mtip" then some 1
      else if name = "msip" then some 2
      else Option.none
    outputWidth := fun signal => if signal = 0 then 64 else 1 }

/-- Input `0` exists but has no name. -/
def Plic.ports (shape : PlicShape) : DevicePorts where
  inputs := shape.sources + 1
  few := by
    have := shape.sources_le
    omega
  input name := (index name "source" (shape.sources + 1)).filter (· ≠ 0)
  input_lt name source found := by
    have small := shape.sources_le
    obtain ⟨named, -⟩ := Option.filter_eq_some_iff.mp found
    obtain ⟨digits, -, -, below⟩ := (index_eq_some_iff (by omega)).mp named
    exact below
  inputWidth _ := 1
  output name := index name "context" shape.contexts
  outputWidth _ := 1

def DeviceObject.ports : DeviceObject → DevicePorts
  | .uart _ _ => UartDevice.ports
  | .clint _ => Clint.ports
  | .plic shape => Plic.ports shape
  | .rom _ | .ram _ | .exit => .none

/-! ## The constructor -/

/-- What the platform uses of the objects that factories create. -/
structure Hardware (Object : Type) where
  deviceClass : Object → DeviceClass
  ports : Object → DevicePorts
  initial : (object : Object) → (deviceClass object).State

def DeviceObject.hardware : Hardware DeviceObject where
  deviceClass := DeviceObject.deviceClass
  ports := DeviceObject.ports
  initial := DeviceObject.initial

variable {Host Object : Type}

/-- `configs`, the checked properties of the instances. -/
abbrev Configs := List (String × DeviceConfig)

def Configs.at (configs : Configs) (id : String) : Except ConfigError DeviceConfig :=
  match configs.lookup id with
  | none => .error (.runtimeError "map::at")
  | some config => .ok config

structure RawImage where
  path : String
  address : UInt64

/-- A call of the factory; an empty `std::function` throws. -/
def DeviceType.invoke (type : DeviceType Host Object) (config : DeviceConfig) (host : Host) :
    Outcome ConfigError Host (Host × Option Object) :=
  match type.create with
  | none => .error (.runtimeError "bad_function_call", host)
  | some create => create config host

namespace DeviceRegistry

variable (registry : DeviceRegistry Host Object)

/-- The body of the first loop, which checks an instance. -/
def configureOne (configs : Configs) (device : DeviceSpec) : Except ConfigError Configs := do
  validateName device.id
  let config ← registry.configure device.type device.properties
  reject ((configs.lookup device.id).isSome = true)
    (.invalidArgument ("duplicate device instance: " ++ device.id))
  return configs ++ [(device.id, config)]

/-- The body of the second loop, which creates the device of an instance. -/
def createOne (configs : Configs) (created : Host × List (String × Object)) (device : DeviceSpec) :
    Outcome ConfigError Host (Host × List (String × Object)) := do
  let type ← attempt created.1 (registry.type device.type)
  let config ← attempt created.1 (configs.at device.id)
  let (host, object) ← type.invoke config created.1
  match object with
  | none => .error (.invalidArgument ("factory returned null: " ++ device.id), host)
  | some object => return (host, created.2 ++ [(device.id, object)])

/-- The body of the loop over the image properties. -/
def imageOne (configs : Configs) (mappings : List MappingSpec) (device : DeviceSpec) :
    Except ConfigError (Option RawImage) := do
  let type ← registry.type device.type
  if type.imageOption = "" then
    return none
  let path ← (← configs.at device.id).text type.imageOption
  if path = "" then
    return none
  reject ((mappings.countP fun mapping => mapping.device = device.id) ≠ 1)
    (.invalidArgument ("image property requires exactly one mapping: " ++ device.id))
  return (mappings.find? fun mapping => mapping.device = device.id).map fun mapping =>
    { path, address := mapping.base }

def imageAll (configs : Configs) (spec : PlatformSpec) : Except ConfigError (List RawImage) :=
  spec.devices.foldlM (fun images device => do
    let image ← registry.imageOne configs spec.mappings device
    return images ++ image.toList) []

end DeviceRegistry

/-- The ports behind the instance ids. -/
def Hardware.board (hardware : Hardware Object) (objects : List (String × Object)) : Board :=
  fun id => (objects.lookup id).elim .none hardware.ports

/-- The worklist of `connect` stops after as many rounds as there are devices. -/
def PlatformSpec.connected (spec : PlatformSpec) (board : Board) :
    Except PlatformError (Wiring × List String) :=
  (spec.connect board (spec.devices.length + 1)).getD (.error .cycle)

/-- The members that the constructor has filled in. -/
structure Constructed (Object : Type) where
  ids : List String
  objects : List (String × Object)
  space : AddressSpace
  images : List RawImage
  wiring : Wiring
  order : List String

/-- The constructor up to the call of `reset()`; on an exception the host keeps what the
factories have opened until the members are destroyed. -/
def DeviceRegistry.construct (registry : DeviceRegistry Host Object) (hardware : Hardware Object)
    (spec : PlatformSpec) (addressBits : Nat) (host : Host) :
    Outcome ConfigError Host (Host × Constructed Object) := do
  attempt host (reject (addressBits ≠ 32 ∧ addressBits ≠ 64)
    (.invalidArgument "invalid address width"))
  let configs ← attempt host (spec.devices.foldlM registry.configureOne [])
  let (host, objects) ← spec.devices.foldlM (registry.createOne configs) (host, [])
  let space ← attempt host ((spec.mapWindows addressBits).mapError .platform)
  let images ← attempt host (registry.imageAll configs spec)
  let (wiring, order) ← attempt host
    ((spec.connected (hardware.board objects)).mapError .platform)
  return (host, { ids := spec.ids, objects, space := space.freeze, images, wiring, order })

/-! ## The loops -/

namespace DeviceRegistry

variable {registry : DeviceRegistry Host Object}

/-- The properties that `configure` returns for an instance. -/
def configOf (registry : DeviceRegistry Host Object) (device : DeviceSpec) : DeviceConfig :=
  (registry.configure device.type device.properties).toOption.getD ⟨[]⟩

/-- An instance passes the checks of the first loop. -/
def Checks (registry : DeviceRegistry Host Object) (device : DeviceSpec) : Prop :=
  ValidName device.id ∧ ∃ config, registry.configure device.type device.properties = .ok config

theorem configure_configOf {device : DeviceSpec} (checks : registry.Checks device) :
    registry.configure device.type device.properties = .ok (registry.configOf device) := by
  obtain ⟨-, config, found⟩ := checks
  rw [configOf, found]
  rfl

theorem configureOne_eq_ok_iff {configs next : Configs} {device : DeviceSpec} :
    registry.configureOne configs device = .ok next ↔
      registry.Checks device ∧ configs.lookup device.id = none ∧
        next = configs ++ [(device.id, registry.configOf device)] := by
  have unused : ¬(configs.lookup device.id).isSome = true ↔ configs.lookup device.id = none := by
    cases configs.lookup device.id <;> simp
  rw [configureOne, validateName, reject_bind_eq_ok_iff, not_not, bind_eq_ok_iff]
  simp only [reject_bind_eq_ok_iff, unused, pure_eq_ok_iff, Checks]
  constructor
  · rintro ⟨named, config, found, fresh, rfl⟩
    refine ⟨⟨named, config, found⟩, fresh, ?_⟩
    rw [configOf, found]
    rfl
  · rintro ⟨⟨named, config, found⟩, fresh, rfl⟩
    refine ⟨named, config, found, fresh, ?_⟩
    rw [configOf, found]
    rfl

theorem configureAll_eq_ok_iff {devices : List DeviceSpec} {start configs : Configs} :
    devices.foldlM registry.configureOne start = .ok configs ↔
      (∀ device ∈ devices, registry.Checks device) ∧ (devices.map DeviceSpec.id).Nodup ∧
        (∀ device ∈ devices, start.lookup device.id = none) ∧
        configs = start ++ devices.map fun device => (device.id, registry.configOf device) := by
  induction devices generalizing start with
  | nil => simp [pure_eq_ok_iff]
  | cons device devices ih =>
      have later : (∀ other ∈ devices,
          (start ++ [(device.id, registry.configOf device)]).lookup other.id = none) ↔
            device.id ∉ devices.map DeviceSpec.id ∧ ∀ other ∈ devices, start.lookup other.id = none := by
        simp only [List.lookup_append, Option.or_eq_none_iff, List.mem_map, not_exists, not_and]
        grind
      rw [List.foldlM_cons, bind_eq_ok_iff]
      simp only [configureOne_eq_ok_iff, ih, List.forall_mem_cons, List.map_cons, List.nodup_cons]
      constructor
      · rintro ⟨middle, ⟨checks, fresh, rfl⟩, rest, distinct, unused, rfl⟩
        obtain ⟨absent, unused⟩ := later.mp unused
        exact ⟨⟨checks, rest⟩, ⟨absent, distinct⟩, ⟨fresh, unused⟩, by simp⟩
      · rintro ⟨⟨checks, rest⟩, ⟨absent, distinct⟩, ⟨fresh, unused⟩, rfl⟩
        exact ⟨_, ⟨checks, fresh, rfl⟩, rest, distinct, later.mpr ⟨absent, unused⟩, by simp⟩

/-- The properties that the later loops find. -/
theorem at_configs {devices : List DeviceSpec} (distinct : (devices.map DeviceSpec.id).Nodup)
    {device : DeviceSpec} (member : device ∈ devices) :
    Configs.at (devices.map fun device => (device.id, registry.configOf device)) device.id =
      .ok (registry.configOf device) := by
  have keys : (devices.map fun device => (device.id, registry.configOf device)).map Prod.fst =
      devices.map DeviceSpec.id := by
    rw [List.map_map]
    rfl
  have found := (lookup_eq_some_iff_mem (keys ▸ distinct)).mpr
    (List.mem_map_of_mem (f := fun device => (device.id, registry.configOf device)) member)
  rw [Configs.at, found]

/-- The image that an instance names, or no text. -/
def imagePath (registry : DeviceRegistry Host Object) (device : DeviceSpec) : String :=
  match registry.type device.type with
  | .error _ => ""
  | .ok type =>
      if type.imageOption = "" then ""
      else ((registry.configOf device).text type.imageOption).toOption.getD ""

/-- The image of an instance lies at the base of its window. -/
def imageOf (registry : DeviceRegistry Host Object) (mappings : List MappingSpec)
    (device : DeviceSpec) : Option RawImage :=
  if registry.imagePath device = "" then none
  else
    (mappings.find? fun mapping => mapping.device = device.id).map fun mapping =>
      { path := registry.imagePath device, address := mapping.base }

theorem imageOne_eq_ok_iff (sound : registry.Sound) {configs : Configs} {device : DeviceSpec}
    (checks : registry.Checks device)
    (found : configs.at device.id = .ok (registry.configOf device))
    {mappings : List MappingSpec} {image : Option RawImage} :
    registry.imageOne configs mappings device = .ok image ↔
      (registry.imagePath device ≠ "" →
        (mappings.countP fun mapping => mapping.device = device.id) = 1) ∧
      image = registry.imageOf mappings device := by
  obtain ⟨type, member, -, -, -⟩ := (configure_eq_ok_iff sound).mp (configure_configOf checks)
  have known := (type_eq_ok_iff sound).mpr member
  have checked := registry.checked sound member (configure_configOf checks)
  rw [imageOne, imageOf, imagePath, known]
  simp only [ok_bind]
  by_cases none : type.imageOption = ""
  · simp [none, pure, Except.pure, eq_comm]
  · obtain ⟨option, optionMember, same, -⟩ := (sound.formed _ member).image.resolve_left none
    have text := same ▸ checked.text option optionMember
    simp only [none, if_false, found, text, ok_bind, Except.toOption, Option.getD_some]
    by_cases empty : option.chosen device.properties = ""
    · simp [empty, pure, Except.pure, eq_comm]
    · simp only [empty, if_false, reject_bind_eq_ok_iff, not_not, pure_eq_ok_iff, ne_eq,
        not_false_eq_true, forall_const]

theorem imageAll_eq_ok_iff (sound : registry.Sound) {spec : PlatformSpec}
    (checks : ∀ device ∈ spec.devices, registry.Checks device) (distinct : spec.ids.Nodup)
    {images : List RawImage} :
    registry.imageAll (spec.devices.map fun device => (device.id, registry.configOf device)) spec =
        .ok images ↔
      (∀ device ∈ spec.devices, registry.imagePath device ≠ "" →
        (spec.mappings.countP fun mapping => mapping.device = device.id) = 1) ∧
      images = spec.devices.filterMap (registry.imageOf spec.mappings) := by
  rw [imageAll, foldlM_collect_eq_ok_iff fun device member image =>
    imageOne_eq_ok_iff sound (checks device member) (at_configs distinct member), List.nil_append]

end DeviceRegistry

namespace PlatformSpec

variable {spec : PlatformSpec}

theorem getElem?_of_device {id : String} {position : DeviceId}
    (found : spec.device id = .ok position) : spec.ids[position]? = some id := by
  rw [device] at found
  split at found
  next other search =>
    cases found
    obtain ⟨inRange, same, -⟩ := List.findIdx?_eq_some_iff_getElem.mp search
    rw [List.getElem?_eq_getElem inRange, beq_iff_eq.mp same]
  next => cases found

theorem device_eq_ok_iff {id : String} :
    (∃ position, spec.device id = .ok position) ↔ id ∈ spec.ids :=
  ⟨fun ⟨_, found⟩ => List.mem_of_getElem? (getElem?_of_device found), device_of_mem⟩

/-- The mapping loop, with the space that it fills. -/
theorem mapWindows_eq_ok_iff {addressBits : Nat} {mappings : List MappingSpec}
    {space next : AddressSpace} :
    mappings.foldlM (spec.mapWindow addressBits) space = .ok next ↔
      (∀ mapping ∈ mappings, mapping.device ∈ spec.ids) ∧
      (addressBits = 32 → ∀ mapping ∈ mappings, ¬mapping.TooWide) ∧
      space.insertAll (spec.windows mappings) = .ok next := by
  induction mappings generalizing space with
  | nil => simp [windows, AddressSpace.insertAll, pure_eq_ok_iff]
  | cons mapping mappings ih =>
      rw [List.foldlM_cons, bind_eq_ok_iff]
      simp only [ih, mapWindow, reject_bind_eq_ok_iff, not_and]
      cases found : spec.device mapping.device with
      | error fault =>
          have absent : mapping.device ∉ spec.ids := fun member => by
            obtain ⟨position, other⟩ := device_of_mem member
            cases found.symm.trans other
          simp [absent, bind, Except.bind]
      | ok position =>
          have member : mapping.device ∈ spec.ids := device_eq_ok_iff.mp ⟨position, found⟩
          have windowsEq : spec.windows (mapping :: mappings) =
              { base := mapping.base, size := mapping.size, device := position,
                name := mapping.device } :: spec.windows mappings := by
            simp [windows, found, Except.toOption]
          rw [windowsEq, AddressSpace.insertAll, List.foldlM_cons]
          simp only [ok_bind, List.forall_mem_cons, member, true_and, AddressSpace.insert]
          cases space.map mapping.base mapping.size position mapping.device with
          | error fault => simp [Except.mapError, bind, Except.bind]
          | ok middle =>
              simp only [Except.mapError, ok_bind, Except.ok.injEq]
              constructor
              · rintro ⟨_, ⟨narrow, rfl⟩, known, rest, inserted⟩
                exact ⟨known, fun bits => ⟨narrow bits, rest bits⟩, inserted⟩
              · rintro ⟨known, narrow, inserted⟩
                exact ⟨_, ⟨fun bits => (narrow bits).1, rfl⟩, known, fun bits => (narrow bits).2,
                  inserted⟩

/-- The connections resolve to links without a cycle, which the wiring and the order follow. -/
structure Connects (spec : PlatformSpec) (board : Board) (links : List Link) (wiring : Wiring)
    (order : List String) : Prop where
  valid : spec.Valid board links
  acyclic : ¬Kahn.Cyclic (links.map Link.edge)
  wired : Wired links wiring
  perm : order.Perm spec.ids
  scheduled : Scheduled wiring.Reads order

theorem Valid.connected {board : Board} {links : List Link} (valid : spec.Valid board links)
    (acyclic : ¬Kahn.Cyclic (links.map Link.edge)) :
    ∃ wiring order, spec.connected board = .ok (wiring, order) ∧
      spec.Connects board links wiring order := by
  obtain ⟨wiring, order, wired, -, -, -, full, found⟩ := valid.connect_spec (Nat.lt_succ_self _)
  rw [if_neg (not_not.mpr (full.mpr acyclic))] at found
  obtain ⟨scheduled, perm⟩ := spec.scheduled_of_accepted valid.ids (Nat.lt_succ_self _) found
  refine ⟨wiring, order, ?_, valid, acyclic, wired, perm, scheduled⟩
  rw [PlatformSpec.connected, found, Option.getD_some]

theorem connects_of_connected {board : Board} (distinct : spec.ids.Nodup) {wiring : Wiring}
    {order : List String} (accepted : spec.connected board = .ok (wiring, order)) :
    ∃ links, spec.Connects board links wiring order := by
  obtain ⟨links, valid⟩ : ∃ links, spec.Valid board links := by
    rw [PlatformSpec.connected, connect] at accepted
    split at accepted
    next => cases accepted
    next found loop => exact valid_of_connected distinct loop
  by_cases cyclic : Kahn.Cyclic (links.map Link.edge)
  · obtain ⟨_, order, -, -, -, -, full, found⟩ := valid.connect_spec (Nat.lt_succ_self _)
    have short : order.length ≠ spec.devices.length := fun all => full.mp all cyclic
    rw [PlatformSpec.connected, found, if_pos short] at accepted
    cases accepted
  · obtain ⟨_, _, found, connects⟩ := valid.connected cyclic
    rw [accepted] at found
    cases found
    exact ⟨links, connects⟩

end PlatformSpec

end AxiTestbench
