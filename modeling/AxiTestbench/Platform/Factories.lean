import AxiTestbench.Platform.Kinds
import AxiTestbench.Platform.Registry

/-!
# Factories

The device types that `register_builtin_devices` and the platform of the Fuxi example register:
their options, and the factories that create devices from checked properties.
-/

namespace AxiTestbench

open Lib Outcome

/-! ## Files of the host -/

/-- What the host does with a path: the reason why it does not open, and the bytes that
successive reads of an input find. -/
structure HostFiles where
  failure : (path : String) → (input : Bool) → Option String
  bytes : (path : String) → Nat → Option UInt8

/-- The files that factories have opened; the standard streams are borrowed. -/
structure HostServices where
  files : List (String × Bool) := []

/-- `open_input` and `open_output`. -/
def HostServices.open (host : HostServices) (files : HostFiles) (path : String) (input : Bool) :
    Outcome ConfigError HostServices HostServices :=
  if path = "-" then .ok host
  else
    match files.failure path input with
    | some reason => .error (.runtimeError ("cannot open '" ++ path ++ "': " ++ reason), host)
    | none => .ok { files := host.files ++ [(path, input)] }

/-! ## The types -/

abbrev Factory := DeviceConfig → HostServices →
  Outcome ConfigError HostServices (HostServices × Option DeviceObject)

def memoryOptions : List DeviceOption :=
  [{ name := "size", kind := .unsigned, defaultValue := "65536", minimum := 1 },
    { name := "image", kind := .string, defaultValue := "" }]

/-- The constructors of ROM and RAM differ in a word of their exception. -/
def createMemory (kind : String) (object : List UInt8 → DeviceObject) : Factory :=
  fun config host => do
    let size ← attempt host (config.number "size")
    attempt host (reject (size = 0) (.invalidArgument (kind ++ " size must not be zero")))
    return (host, some (object (List.replicate size.toNat 0)))

def createRom : Factory := createMemory "ROM" fun bytes => .rom ⟨bytes⟩

def createRam : Factory := createMemory "RAM" fun bytes => .ram ⟨bytes⟩

def uartOptions : List DeviceOption :=
  [{ name := "input", kind := .string, defaultValue := "-" },
    { name := "output", kind := .string, defaultValue := "-" },
    { name := "character-cycles", kind := .unsigned, defaultValue := "16", minimum := 1,
      maximum := 0xffffffffffffffff / 4 },
    { name := "input-poll-cycles", kind := .unsigned, defaultValue := "1024", minimum := 1 }]

/-- `set_character_cycles` and `set_input_poll_cycles`. -/
def uartConfig (character poll : UInt64) : Except ConfigError UartConfig :=
  if range : character = 0 ∨ character > 0xffffffffffffffff / 4 then
    .error (.invalidArgument "UART character cycles out of range")
  else if zero : poll = 0 then
    .error (.invalidArgument "UART input poll cycles must be positive")
  else
    .ok
      { characterCycles := character
        inputPollCycles := poll
        characterCycles_pos := UInt64.pos_iff_ne_zero.mpr (not_or.mp range).1
        characterCycles_le := UInt64.not_lt.mp (not_or.mp range).2
        inputPollCycles_pos := UInt64.pos_iff_ne_zero.mpr zero }

def createUart (files : HostFiles) : Factory := fun config host => do
  let input ← attempt host (config.text "input")
  let host ← host.open files input true
  let output ← attempt host (config.text "output")
  let host ← host.open files output false
  let character ← attempt host (config.number "character-cycles")
  let poll ← attempt host (config.number "input-poll-cycles")
  let uart ← attempt host (uartConfig character poll)
  return (host, some (.uart uart (files.bytes input)))

def createExit : Factory := fun _ host => .ok (host, some .exit)

def clintOptions : List DeviceOption :=
  [{ name := "divider", kind := .unsigned, defaultValue := "1", minimum := 1 }]

def createClint : Factory := fun config host => do
  let divider ← attempt host (config.number "divider")
  attempt host (reject (divider = 0) (.invalidArgument "CLINT divider must be positive"))
  return (host, some (.clint divider))

def plicOptions : List DeviceOption :=
  [{ name := "sources", kind := .unsigned, defaultValue := "31", minimum := 1, maximum := 1023 },
    { name := "contexts", kind := .unsigned, defaultValue := "2", minimum := 1, maximum := 64 }]

theorem plic_bounds {sources contexts : UInt32}
    (range : ¬(sources = 0 ∨ sources > 1023 ∨ contexts = 0 ∨ contexts > 64)) :
    (0 < sources.toNat ∧ sources.toNat ≤ 1023) ∧ 0 < contexts.toNat ∧ contexts.toNat ≤ 64 := by
  simp only [← UInt32.toNat_inj, gt_iff_lt, UInt32.lt_iff_toNat_lt, UInt32.toNat_ofNat] at range
  omega

/-- The checks of the constructor of `Plic`, whose parameters are `unsigned`. -/
def plicShape (sources contexts : UInt32) : Except ConfigError PlicShape :=
  if range : sources = 0 ∨ sources > 1023 ∨ contexts = 0 ∨ contexts > 64 then
    .error (.invalidArgument "PLIC requires 1..1023 sources and 1..64 contexts")
  else
    .ok
      { sources := sources.toNat
        contexts := contexts.toNat
        sources_pos := (plic_bounds range).1.1
        sources_le := (plic_bounds range).1.2
        contexts_pos := (plic_bounds range).2.1
        contexts_le := (plic_bounds range).2.2 }

def createPlic : Factory := fun config host => do
  let sources ← attempt host (config.number "sources")
  let contexts ← attempt host (config.number "contexts")
  let shape ← attempt host (plicShape sources.toUInt32 contexts.toUInt32)
  return (host, some (.plic shape))

abbrev ObjectType := DeviceType HostServices DeviceObject

/-- `register_builtin_devices`. -/
def builtinDevices (files : HostFiles) : List (String × ObjectType) :=
  [("rom", { options := memoryOptions, create := some createRom, imageOption := "image" }),
    ("ram", { options := memoryOptions, create := some createRam, imageOption := "image" }),
    ("uart", { options := uartOptions, create := some (createUart files) }),
    ("exit", { options := [], create := some createExit })]

/-- `register_devices` of the Fuxi platform. -/
def fuxiDevices : List (String × ObjectType) :=
  [("riscv-clint", { options := clintOptions, create := some createClint }),
    ("riscv-plic", { options := plicOptions, create := some createPlic })]

def registeredDevices (files : HostFiles) : List (String × ObjectType) :=
  builtinDevices files ++ fuxiDevices

/-! ## Factories do not refuse checked properties -/

/-- The files that an instance of a type wants. -/
def wantedFiles (type : String) (config : DeviceConfig) : List (String × Bool) :=
  if type = "uart" then
    match config.text "input", config.text "output" with
    | .ok input, .ok output => [(input, true), (output, false)].filter fun file => file.1 ≠ "-"
    | _, _ => []
  else []

/-- Files are opened one after the other until one of them fails. -/
def openFiles (files : HostFiles) : List (String × Bool) → HostServices →
    Outcome ConfigError HostServices HostServices
  | [], host => .ok host
  | (path, input) :: rest, host =>
      match files.failure path input with
      | some reason => .error (.runtimeError ("cannot open '" ++ path ++ "': " ++ reason), host)
      | none => openFiles files rest { files := host.files ++ [(path, input)] }

/-- The factory opens the files and then creates the object. -/
def Opens (files : HostFiles) (wanted : List (String × Bool)) (object : DeviceObject)
    (factory : HostServices → Outcome ConfigError HostServices (HostServices × Option DeviceObject)) :
    Prop :=
  ∀ host, factory host = (do
    let host ← openFiles files wanted host
    return (host, some object))

variable {files : HostFiles} {config : DeviceConfig} {properties : Properties}

/-- A number that a checked option allows. -/
theorem positive_number {options : List DeviceOption} (checked : config.Checked options properties)
    {option : DeviceOption} (member : option ∈ options) (kind : option.kind = .unsigned)
    (least : option.minimum = 1) :
    ∃ number, config.number option.name = .ok number ∧ number ≠ 0 ∧ number ≤ option.maximum := by
  obtain ⟨number, found, -, above, below⟩ := checked.number option member kind
  refine ⟨number, found, ?_, below⟩
  rintro rfl
  rw [least] at above
  exact absurd above (by decide)

theorem createMemory_opens (kind : String) (object : List UInt8 → DeviceObject)
    (checked : config.Checked memoryOptions properties) :
    ∃ size, config.number "size" = .ok size ∧
      Opens files [] (object (List.replicate size.toNat 0)) (createMemory kind object config) := by
  obtain ⟨size, found, nonzero, -⟩ := positive_number checked List.mem_cons_self rfl rfl
  refine ⟨size, found, fun host => ?_⟩
  simp only [createMemory, found, attempt, ok_bind, reject, nonzero, if_false, openFiles]

theorem createClint_opens (checked : config.Checked clintOptions properties) :
    ∃ divider, config.number "divider" = .ok divider ∧ 0 < divider ∧
      Opens files [] (.clint divider) (createClint config) := by
  obtain ⟨divider, found, nonzero, -⟩ := positive_number checked List.mem_cons_self rfl rfl
  refine ⟨divider, found, UInt64.pos_iff_ne_zero.mpr nonzero, fun host => ?_⟩
  simp only [createClint, found, attempt, ok_bind, reject, nonzero, if_false, openFiles]

theorem createPlic_opens (checked : config.Checked plicOptions properties) :
    ∃ sources contexts shape, config.number "sources" = .ok sources ∧
      config.number "contexts" = .ok contexts ∧ shape.sources = sources.toNat ∧
      shape.contexts = contexts.toNat ∧ Opens files [] (.plic shape) (createPlic config) := by
  obtain ⟨sources, foundSources, someSources, fewSources⟩ :=
    positive_number checked List.mem_cons_self rfl rfl
  obtain ⟨contexts, foundContexts, someContexts, fewContexts⟩ :=
    positive_number checked (List.mem_cons_of_mem _ List.mem_cons_self) rfl rfl
  change config.number "sources" = .ok sources at foundSources
  change config.number "contexts" = .ok contexts at foundContexts
  have sourcesLe : sources.toNat ≤ 1023 := UInt64.le_iff_toNat_le.mp fewSources
  have contextsLe : contexts.toNat ≤ 64 := UInt64.le_iff_toNat_le.mp fewContexts
  have sameSources : sources.toUInt32.toNat = sources.toNat := by
    rw [UInt64.toNat_toUInt32]
    omega
  have sameContexts : contexts.toUInt32.toNat = contexts.toNat := by
    rw [UInt64.toNat_toUInt32]
    omega
  have range : ¬(sources.toUInt32 = 0 ∨ sources.toUInt32 > 1023 ∨ contexts.toUInt32 = 0 ∨
      contexts.toUInt32 > 64) := by
    rw [ne_eq, ← UInt64.toNat_inj] at someSources someContexts
    simp only [UInt64.toNat_zero] at someSources someContexts
    simp only [← UInt32.toNat_inj, gt_iff_lt, UInt32.lt_iff_toNat_lt, sameSources, sameContexts,
      UInt32.toNat_ofNat]
    omega
  obtain ⟨shape, shaped, shapeSources, shapeContexts⟩ : ∃ shape,
      plicShape sources.toUInt32 contexts.toUInt32 = .ok shape ∧
        shape.sources = sources.toUInt32.toNat ∧ shape.contexts = contexts.toUInt32.toNat :=
    ⟨_, dif_neg range, rfl, rfl⟩
  refine ⟨sources, contexts, shape, foundSources, foundContexts, shapeSources.trans sameSources,
    shapeContexts.trans sameContexts, fun host => ?_⟩
  simp only [createPlic, foundSources, foundContexts, attempt, ok_bind, shaped, openFiles]

theorem openFiles_append (first second : List (String × Bool)) (host : HostServices) :
    openFiles files (first ++ second) host =
      (openFiles files first host >>= openFiles files second) := by
  induction first generalizing host with
  | nil => rfl
  | cons file first ih =>
      obtain ⟨path, input⟩ := file
      rw [List.cons_append, openFiles, openFiles]
      cases files.failure path input with
      | some reason => rfl
      | none => exact ih _

theorem open_eq_openFiles (host : HostServices) (path : String) (input : Bool) :
    host.open files path input =
      openFiles files ([(path, input)].filter fun file => file.1 ≠ "-") host := by
  rw [HostServices.open]
  by_cases standard : path = "-"
  · simp [standard, openFiles]
  · simp only [standard, if_false, ne_eq, not_false_eq_true, decide_true, List.filter_cons_of_pos,
      List.filter_nil, openFiles]

theorem createUart_opens (files : HostFiles) (checked : config.Checked uartOptions properties) :
    ∃ input output character poll uart, config.text "input" = .ok input ∧
      config.text "output" = .ok output ∧ config.number "character-cycles" = .ok character ∧
      config.number "input-poll-cycles" = .ok poll ∧ uart.characterCycles = character ∧
      uart.inputPollCycles = poll ∧
      Opens files ([(input, true), (output, false)].filter fun file => file.1 ≠ "-")
        (.uart uart (files.bytes input)) (createUart files config) := by
  have input := checked.text _ List.mem_cons_self
  have output := checked.text _ (List.mem_cons_of_mem _ List.mem_cons_self)
  obtain ⟨character, foundCharacter, someCharacter, fewCharacter⟩ := positive_number checked
    (List.mem_cons_of_mem _ (List.mem_cons_of_mem _ List.mem_cons_self)) rfl rfl
  obtain ⟨poll, foundPoll, somePoll, -⟩ := positive_number checked
    (List.mem_cons_of_mem _ (List.mem_cons_of_mem _ (List.mem_cons_of_mem _ List.mem_cons_self)))
    rfl rfl
  have range : ¬(character = 0 ∨ character > 0xffffffffffffffff / 4) :=
    not_or.mpr ⟨someCharacter, UInt64.not_lt.mpr fewCharacter⟩
  obtain ⟨uart, configured, sameCharacter, samePoll⟩ : ∃ uart, uartConfig character poll = .ok uart ∧
      uart.characterCycles = character ∧ uart.inputPollCycles = poll :=
    ⟨_, by rw [uartConfig, dif_neg range, dif_neg somePoll], rfl, rfl⟩
  refine ⟨_, _, character, poll, uart, input, output, foundCharacter, foundPoll, sameCharacter,
    samePoll, fun host => ?_⟩
  change config.text "input" = .ok _ at input
  change config.text "output" = .ok _ at output
  change config.number "character-cycles" = .ok _ at foundCharacter
  change config.number "input-poll-cycles" = .ok _ at foundPoll
  simp only [createUart, input, output, foundCharacter, foundPoll, configured, attempt, ok_bind]
  rw [open_eq_openFiles, show ∀ first second : String × Bool, [first, second] = [first] ++ [second]
    from fun _ _ => rfl, List.filter_append, openFiles_append, bind_assoc]
  exact bind_congr fun opened => by rw [open_eq_openFiles]

theorem openFiles_eq_ok {wanted : List (String × Bool)} (host : HostServices)
    (opens : ∀ file ∈ wanted, files.failure file.1 file.2 = none) :
    openFiles files wanted host = .ok { files := host.files ++ wanted } := by
  induction wanted generalizing host with
  | nil => simp [openFiles]
  | cons file wanted ih =>
      obtain ⟨path, input⟩ := file
      obtain ⟨first, later⟩ := List.forall_mem_cons.mp opens
      simp only at first
      simp only [openFiles, first]
      rw [ih _ later, List.append_assoc, List.singleton_append]

theorem openFiles_front {wanted : List (String × Bool)} {host after : HostServices}
    {fault : ConfigError} (failed : openFiles files wanted host = .error (fault, after)) :
    ∃ opened, opened <+: wanted ∧ after.files = host.files ++ opened ∧
      ∀ file ∈ opened, files.failure file.1 file.2 = none := by
  induction wanted generalizing host with
  | nil => cases failed
  | cons file wanted ih =>
      obtain ⟨path, input⟩ := file
      rw [openFiles] at failed
      split at failed
      next =>
        cases failed
        exact ⟨[], List.nil_prefix, (List.append_nil _).symm, by simp⟩
      next opens =>
        obtain ⟨opened, front, same, rest⟩ := ih failed
        refine ⟨(path, input) :: opened, List.cons_prefix_cons.mpr ⟨rfl, front⟩, ?_,
          List.forall_mem_cons.mpr ⟨opens, rest⟩⟩
        rw [same, List.append_assoc, List.singleton_append]

theorem openFiles_eq_ok_iff {wanted : List (String × Bool)} {host after : HostServices} :
    openFiles files wanted host = .ok after ↔
      (∀ file ∈ wanted, files.failure file.1 file.2 = none) ∧
        after = { files := host.files ++ wanted } := by
  constructor
  · intro opened
    have opens : ∀ file ∈ wanted, files.failure file.1 file.2 = none := by
      induction wanted generalizing host with
      | nil => simp
      | cons file wanted ih =>
          obtain ⟨path, input⟩ := file
          rw [openFiles] at opened
          split at opened
          next => cases opened
          next succeeds => exact List.forall_mem_cons.mpr ⟨succeeds, ih opened⟩
    rw [openFiles_eq_ok host opens] at opened
    exact ⟨opens, (Except.ok.inj opened).symm⟩
  · rintro ⟨opens, rfl⟩
    exact openFiles_eq_ok host opens

/-- The object that a factory creates from properties. -/
inductive Created (files : HostFiles) (config : DeviceConfig) : String → DeviceObject → Prop where
  | rom {size : UInt64} (found : config.number "size" = .ok size) :
      Created files config "rom" (.rom ⟨List.replicate size.toNat 0⟩)
  | ram {size : UInt64} (found : config.number "size" = .ok size) :
      Created files config "ram" (.ram ⟨List.replicate size.toNat 0⟩)
  | uart {input : String} {uart : UartConfig} (source : config.text "input" = .ok input)
      (character : config.number "character-cycles" = .ok uart.characterCycles)
      (poll : config.number "input-poll-cycles" = .ok uart.inputPollCycles) :
      Created files config "uart" (.uart uart (files.bytes input))
  | exit : Created files config "exit" .exit
  | clint {divider : UInt64} (found : config.number "divider" = .ok divider)
      (positive : 0 < divider) : Created files config "riscv-clint" (.clint divider)
  | plic {shape : PlicShape} {sources contexts : UInt64}
      (foundSources : config.number "sources" = .ok sources)
      (foundContexts : config.number "contexts" = .ok contexts)
      (sameSources : shape.sources = sources.toNat)
      (sameContexts : shape.contexts = contexts.toNat) :
      Created files config "riscv-plic" (.plic shape)

theorem registered_opens {name : String} {type : ObjectType}
    (member : (name, type) ∈ registeredDevices files)
    (checked : config.Checked type.options properties) :
    ∃ factory object, type.create = some factory ∧ Created files config name object ∧
      Opens files (wantedFiles name config) object (factory config) := by
  simp only [registeredDevices, builtinDevices, fuxiDevices, List.cons_append, List.nil_append,
    List.mem_cons, Prod.mk.injEq, List.not_mem_nil, or_false] at member
  rcases member with ⟨rfl, rfl⟩ | ⟨rfl, rfl⟩ | ⟨rfl, rfl⟩ | ⟨rfl, rfl⟩ | ⟨rfl, rfl⟩ | ⟨rfl, rfl⟩
  · obtain ⟨size, found, opens⟩ := createMemory_opens "ROM" (fun bytes => .rom ⟨bytes⟩) checked
    exact ⟨_, _, rfl, .rom found, opens⟩
  · obtain ⟨size, found, opens⟩ := createMemory_opens "RAM" (fun bytes => .ram ⟨bytes⟩) checked
    exact ⟨_, _, rfl, .ram found, opens⟩
  · obtain ⟨input, output, character, poll, uart, source, sink, foundCharacter, foundPoll, rfl, rfl,
      opens⟩ := createUart_opens files checked
    refine ⟨_, _, rfl, .uart source foundCharacter foundPoll, ?_⟩
    simpa only [wantedFiles, source, sink, if_true] using opens
  · exact ⟨_, _, rfl, .exit, fun host => rfl⟩
  · obtain ⟨divider, found, positive, opens⟩ := createClint_opens checked
    exact ⟨_, _, rfl, .clint found positive, opens⟩
  · obtain ⟨sources, contexts, shape, foundSources, foundContexts, sameSources, sameContexts,
      opens⟩ := createPlic_opens checked
    exact ⟨_, _, rfl, .plic foundSources foundContexts sameSources sameContexts, opens⟩

theorem registered_formed {entry : String × ObjectType} (member : entry ∈ registeredDevices files) :
    ValidName entry.1 ∧ entry.2.WellFormed := by
  have formed : ∀ options : List DeviceOption, (∀ option ∈ options, ValidName option.name) →
      (options.map DeviceOption.name).Nodup →
      (∀ option ∈ options, option.minimum ≤ option.maximum) → ∀ factory,
      (⟨options, some factory, ""⟩ : ObjectType).WellFormed :=
    fun options named distinct bounded factory => ⟨rfl, named, distinct, bounded, .inl rfl⟩
  have memory : ∀ factory, (⟨memoryOptions, some factory, "image"⟩ : ObjectType).WellFormed := by
    have named : ∀ option ∈ memoryOptions, ValidName option.name := by decide
    have distinct : (memoryOptions.map DeviceOption.name).Nodup := by decide
    have bounded : ∀ option ∈ memoryOptions, option.minimum ≤ option.maximum := by decide
    exact fun factory => ⟨rfl, named, distinct, bounded,
      .inr ⟨_, List.mem_cons_of_mem _ List.mem_cons_self, rfl, rfl⟩⟩
  simp only [registeredDevices, builtinDevices, fuxiDevices, List.cons_append, List.nil_append,
    List.mem_cons, List.not_mem_nil, or_false] at member
  rcases member with rfl | rfl | rfl | rfl | rfl | rfl
  · exact ⟨show ValidName "rom" by decide, memory _⟩
  · exact ⟨show ValidName "ram" by decide, memory _⟩
  · exact ⟨show ValidName "uart" by decide, formed uartOptions (by decide) (by decide) (by decide) _⟩
  · exact ⟨show ValidName "exit" by decide, formed [] (by decide) (by decide) (by decide) _⟩
  · exact ⟨show ValidName "riscv-clint" by decide,
      formed clintOptions (by decide) (by decide) (by decide) _⟩
  · exact ⟨show ValidName "riscv-plic" by decide,
      formed plicOptions (by decide) (by decide) (by decide) _⟩

theorem registered_added (files : HostFiles) :
    ({} : DeviceRegistry HostServices DeviceObject).addAll (registeredDevices files) =
      .ok { types := registeredDevices files } :=
  DeviceRegistry.addAll_eq_ok (fun _ member => registered_formed member)
    (show ["rom", "ram", "uart", "exit", "riscv-clint", "riscv-plic"].Nodup by decide)

end AxiTestbench
