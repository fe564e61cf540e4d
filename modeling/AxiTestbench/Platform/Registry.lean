import AxiTestbench.Lib.Check
import AxiTestbench.Lib.Numerals
import AxiTestbench.Platform.Spec

/-!
# Device types and their options

`DeviceRegistry` of `platform.cpp`: the schema of each device type is checked when the type is
added, and the properties of an instance are checked against the schema before anything is
created from them.
-/

namespace AxiTestbench

open Lib

/-- Exceptions of the startup code, with the texts of the source. -/
inductive ConfigError where
  | invalidArgument (what : String)
  | runtimeError (what : String)
  | platform (error : PlatformError)
  deriving DecidableEq

/-! ## Numbers -/

/-- The text after `0x` or `0X`. -/
def hexDigits? : List Char → Option (List Char)
  | '0' :: 'x' :: digits => some digits
  | '0' :: 'X' :: digits => some digits
  | _ => none

/-- `parse_unsigned` of `platform.cpp`. -/
def parseUnsigned (text : String) : Except ConfigError UInt64 :=
  let (base, digits) :=
    match hexDigits? text.toList with
    | some digits => (16, digits)
    | none => (10, text.toList)
  match fromChars base 64 digits with
  | some (value, []) => .ok (UInt64.ofNat value)
  | _ => .error (.invalidArgument ("invalid unsigned integer: " ++ text))

/-- What `parse_unsigned` accepts: a decimal numeral, or a hexadecimal one after its prefix. -/
def DenotesUnsigned (text : List Char) (value : Nat) : Prop :=
  Numeral 10 text value ∨
    ∃ digits, (text = '0' :: 'x' :: digits ∨ text = '0' :: 'X' :: digits) ∧ Numeral 16 digits value

theorem hexDigits?_eq_some_iff {text digits : List Char} :
    hexDigits? text = some digits ↔ text = '0' :: 'x' :: digits ∨ text = '0' :: 'X' :: digits := by
  constructor
  · intro found
    rw [hexDigits?.eq_def] at found
    split at found
    · exact .inl (by rw [Option.some.inj found])
    · exact .inr (by rw [Option.some.inj found])
    · cases found
  · rintro (rfl | rfl) <;> rfl

/-- No decimal numeral has the prefix. -/
theorem not_numeral_of_hex {text digits : List Char} {value : Nat}
    (hex : hexDigits? text = some digits) : ¬Numeral 10 text value := by
  intro numeral
  have all := (numeral_iff.mp numeral).2.1
  rcases hexDigits?_eq_some_iff.mp hex with rfl | rfl
  · exact absurd (all 'x' (by simp)) (by decide)
  · exact absurd (all 'X' (by simp)) (by decide)

theorem parseUnsigned_eq_ok_iff {text : String} {value : UInt64} :
    parseUnsigned text = .ok value ↔ DenotesUnsigned text.toList value.toNat := by
  have read : ∀ base digits, (match fromChars base 64 digits with
      | some (value, []) => (.ok (UInt64.ofNat value) : Except ConfigError UInt64)
      | _ => .error (.invalidArgument ("invalid unsigned integer: " ++ text))) = .ok value ↔
        Numeral base digits value.toNat := by
    intro base digits
    have small := value.toNat_lt
    constructor
    · intro parsed
      split at parsed
      next number scan =>
        obtain ⟨numeral, inRange⟩ := fromChars_eq_whole_iff.mp scan
        rw [← Except.ok.inj parsed, UInt64.toNat_ofNat', Nat.mod_eq_of_lt inRange]
        exact numeral
      next => cases parsed
    · intro numeral
      rw [fromChars_eq_whole_iff.mpr ⟨numeral, small⟩]
      exact congrArg Except.ok (by simp)
  rw [parseUnsigned, DenotesUnsigned]
  cases hex : hexDigits? text.toList with
  | some digits =>
      simp only [read]
      refine ⟨fun numeral => .inr ⟨digits, hexDigits?_eq_some_iff.mp hex, numeral⟩, ?_⟩
      rintro (decimal | ⟨other, same, numeral⟩)
      · exact absurd decimal (not_numeral_of_hex hex)
      · rw [hexDigits?_eq_some_iff.mpr same] at hex
        cases hex
        exact numeral
  | none =>
      simp only [read]
      refine ⟨.inl, ?_⟩
      rintro (decimal | ⟨other, same, -⟩)
      · exact decimal
      · rw [hexDigits?_eq_some_iff.mpr same] at hex
        cases hex

theorem parseUnsigned_toString (value : UInt64) :
    parseUnsigned (toString value.toNat) = .ok value := by
  refine parseUnsigned_eq_ok_iff.mpr (.inl ?_)
  rw [show (toString value.toNat).toList = Nat.toDigits 10 value.toNat from Nat.toList_repr]
  exact numeral_toDigits (by decide) (by decide) _

/-- Numbers on the command line.  A text is accepted exactly if it is a decimal numeral, or a
hexadecimal one after `0x` or `0X`, of a value that fits 64 bits; every other text is named in
the exception; and what is printed in either notation is read back. -/
theorem unsigned_text_exact (text : String) (value : UInt64) :
    (parseUnsigned text = .ok value ↔ DenotesUnsigned text.toList value.toNat) ∧
    ((∀ number < 2 ^ 64, ¬DenotesUnsigned text.toList number) → parseUnsigned text =
      .error (.invalidArgument ("invalid unsigned integer: " ++ text))) ∧
    parseUnsigned (toString value.toNat) = .ok value ∧
    parseUnsigned ("0x" ++ String.ofList (Nat.toDigits 16 value.toNat)) = .ok value ∧
    parseUnsigned ("0X" ++ String.ofList (Nat.toDigits 16 value.toNat)) = .ok value := by
  have hex : Numeral 16 (Nat.toDigits 16 value.toNat) value.toNat :=
    numeral_toDigits (by decide) (by decide) _
  refine ⟨parseUnsigned_eq_ok_iff, fun refused => ?_, parseUnsigned_toString value, ?_, ?_⟩
  · cases parsed : parseUnsigned text with
    | ok number => exact absurd (parseUnsigned_eq_ok_iff.mp parsed) (refused _ number.toNat_lt)
    | error fault =>
        rw [parseUnsigned] at parsed
        simp only at parsed
        split at parsed
        next => cases parsed
        next => rw [← parsed]
  · exact parseUnsigned_eq_ok_iff.mpr (.inr ⟨_, .inl (by simp), hex⟩)
  · exact parseUnsigned_eq_ok_iff.mpr (.inr ⟨_, .inr (by simp), hex⟩)

/-! ## Schemas -/

inductive OptionKind where
  | string
  | unsigned
  | boolean
  deriving DecidableEq

structure DeviceOption where
  name : String
  kind : OptionKind
  defaultValue : String
  minimum : UInt64 := 0
  maximum : UInt64 := 0xffffffffffffffff

/-- Properties in the order of their keys. -/
abbrev Properties := List (String × String)

structure DeviceConfig where
  values : Properties

namespace DeviceConfig

def text (config : DeviceConfig) (name : String) : Except ConfigError String :=
  match config.values.lookup name with
  | none => .error (.invalidArgument ("unknown device option: " ++ name))
  | some value => .ok value

def number (config : DeviceConfig) (name : String) : Except ConfigError UInt64 := do
  parseUnsigned (← config.text name)

def boolean (config : DeviceConfig) (name : String) : Except ConfigError Bool := do
  return (← config.text name) == "true"

end DeviceConfig

/-- A factory gets the checked properties and may change the state of the host; it may return
no device. -/
structure DeviceType (Host Object : Type) where
  options : List DeviceOption
  create : Option (DeviceConfig → Host → Lib.Outcome ConfigError Host (Host × Option Object))
  imageOption : String := ""

def nameCharacters : String :=
  "abcdefghijklmnopqrstuvwxyzABCDEFGHIJKLMNOPQRSTUVWXYZ0123456789_-"

def ValidName (name : String) : Prop :=
  name ≠ "" ∧ ∀ ch ∈ name.toList, ch ∈ nameCharacters.toList

instance (name : String) : Decidable (ValidName name) :=
  decidable_of_iff (name ≠ "" ∧
    (name.toList.all fun ch => nameCharacters.toList.contains ch) = true) (by simp [ValidName])

def validateName (name : String) : Except ConfigError Unit :=
  reject (¬ValidName name) (.invalidArgument ("invalid name: " ++ name))

/-- The loop of `add` over the options; `names` is the set of those before. -/
def checkOptions : List DeviceOption → (names : List String) → Except ConfigError Unit
  | [], _ => .ok ⟨⟩
  | option :: options, names => do
      validateName option.name
      reject (option.name ∈ names)
        (.invalidArgument ("duplicate device option: " ++ option.name))
      reject (option.minimum > option.maximum)
        (.invalidArgument ("invalid option bounds: " ++ option.name))
      checkOptions options (option.name :: names)

variable {Host Object : Type}

/-- The named option, if any, is the first of its name. -/
def DeviceType.option? (type : DeviceType Host Object) (name : String) : Option DeviceOption :=
  type.options.find? fun option => option.name == name

structure DeviceRegistry (Host Object : Type) where
  types : List (String × DeviceType Host Object) := []

namespace DeviceRegistry

def add (registry : DeviceRegistry Host Object) (name : String) (type : DeviceType Host Object) :
    Except ConfigError (DeviceRegistry Host Object) := do
  validateName name
  reject (type.create.isNone = true) (.invalidArgument ("missing device factory: " ++ name))
  checkOptions type.options []
  reject (type.imageOption ≠ "" ∧
      (type.option? type.imageOption).all (fun option => option.kind ≠ .string) = true)
    (.invalidArgument "image option must be a string property")
  reject ((registry.types.lookup name).isSome = true)
    (.invalidArgument ("duplicate device type: " ++ name))
  return { types := registry.types ++ [(name, type)] }

def type (registry : DeviceRegistry Host Object) (name : String) :
    Except ConfigError (DeviceType Host Object) :=
  match registry.types.lookup name with
  | none => .error (.invalidArgument ("unknown device type: " ++ name))
  | some found => .ok found

end DeviceRegistry

/-- The value of an option for an instance. -/
def DeviceOption.chosen (option : DeviceOption) (properties : Properties) : String :=
  (properties.lookup option.name).getD option.defaultValue

/-- The check of one value in `configure`. -/
def DeviceOption.check (option : DeviceOption) (value : String) : Except ConfigError Unit :=
  match option.kind with
  | .unsigned => do
      let number ← parseUnsigned value
      reject (number < option.minimum ∨ number > option.maximum)
        (.invalidArgument ("option out of range: " ++ option.name))
  | .boolean =>
      reject (value ≠ "true" ∧ value ≠ "false")
        (.invalidArgument ("option expects true or false: " ++ option.name))
  | .string => .ok ⟨⟩

/-- `emplace` of `std::map` keeps an entry that is there. -/
def Properties.emplace (properties : Properties) (key value : String) : Properties :=
  if (properties.lookup key).isSome then properties else properties ++ [(key, value)]

/-- The body of the second loop of `configure`. -/
def DeviceOption.enter (properties : Properties) (result : Properties) (option : DeviceOption) :
    Except ConfigError Properties := do
  option.check (option.chosen properties)
  return result.emplace option.name (option.chosen properties)

def DeviceRegistry.configure (registry : DeviceRegistry Host Object) (name : String)
    (properties : Properties) : Except ConfigError DeviceConfig := do
  let type ← registry.type name
  properties.forM fun (key, _) =>
    reject ((type.option? key).isNone = true)
      (.invalidArgument ("unknown option for " ++ name ++ ": " ++ key))
  let values ← type.options.foldlM (DeviceOption.enter properties) []
  return { values }

/-! ## What the checks establish -/

/-- The type of a schema that `add` accepts. -/
structure DeviceType.WellFormed (type : DeviceType Host Object) : Prop where
  creates : type.create.isSome = true
  named : ∀ option ∈ type.options, ValidName option.name
  distinct : (type.options.map DeviceOption.name).Nodup
  bounded : ∀ option ∈ type.options, option.minimum ≤ option.maximum
  image : type.imageOption = "" ∨
    ∃ option ∈ type.options, option.name = type.imageOption ∧ option.kind = .string

theorem checkOptions_eq_ok_iff {options : List DeviceOption} {names : List String} :
    checkOptions options names = .ok ⟨⟩ ↔
      (∀ option ∈ options, ValidName option.name) ∧ (options.map DeviceOption.name).Nodup ∧
        (∀ option ∈ options, option.name ∉ names) ∧
        ∀ option ∈ options, option.minimum ≤ option.maximum := by
  induction options generalizing names with
  | nil => simp [checkOptions]
  | cons option options ih =>
      simp only [checkOptions, validateName, reject_bind_eq_ok_iff, ih, not_not, gt_iff_lt,
        UInt64.not_lt, List.mem_cons, forall_eq_or_imp, List.map_cons, List.nodup_cons, not_or,
        List.mem_map, not_exists, not_and]
      grind

theorem option?_eq_some {type : DeviceType Host Object}
    (distinct : (type.options.map DeviceOption.name).Nodup) {name : String}
    {option : DeviceOption} :
    type.option? name = some option ↔ option ∈ type.options ∧ option.name = name := by
  rw [DeviceType.option?]
  constructor
  · intro found
    exact ⟨List.mem_of_find?_eq_some found, by simpa using List.find?_some found⟩
  · rintro ⟨member, rfl⟩
    obtain ⟨other, found⟩ := Option.isSome_iff_exists.mp
      (List.find?_isSome.mpr ⟨option, member, by simp⟩ :
        (type.options.find? fun other => other.name == option.name).isSome = true)
    rw [found]
    have same : other.name = option.name := by simpa using List.find?_some found
    exact congrArg some (List.inj_on_of_nodup_map distinct (List.mem_of_find?_eq_some found) member
      same)

theorem DeviceRegistry.add_eq_ok_iff {registry next : DeviceRegistry Host Object} {name : String}
    {type : DeviceType Host Object} :
    registry.add name type = .ok next ↔
      ValidName name ∧ type.WellFormed ∧ registry.types.lookup name = none ∧
        next = { types := registry.types ++ [(name, type)] } := by
  have image : ¬(type.imageOption ≠ "" ∧
      (type.option? type.imageOption).all (fun option => option.kind ≠ .string) = true) ↔
        type.imageOption = "" ∨ ∃ option, type.option? type.imageOption = some option ∧
          option.kind = .string := by
    cases type.option? type.imageOption <;> simp [or_iff_not_imp_left]
  have missing : ¬(registry.types.lookup name).isSome = true ↔ registry.types.lookup name = none := by
    cases registry.types.lookup name <;> simp
  rw [add, validateName, reject_bind_eq_ok_iff, not_not]
  refine and_congr Iff.rfl ?_
  rw [reject_bind_eq_ok_iff, bind_eq_ok_iff]
  constructor
  · rintro ⟨creates, ⟨⟩, options, rest⟩
    rw [reject_bind_eq_ok_iff, reject_bind_eq_ok_iff, image, missing, pure_eq_ok_iff] at rest
    obtain ⟨named, distinct, -, bounded⟩ := checkOptions_eq_ok_iff.mp options
    refine ⟨⟨by simpa [Option.isSome_iff_ne_none] using creates, named, distinct, bounded, ?_⟩, rest.2⟩
    refine rest.1.imp id ?_
    rintro ⟨option, found, kind⟩
    obtain ⟨member, same⟩ := (option?_eq_some distinct).mp found
    exact ⟨option, member, same, kind⟩
  · rintro ⟨formed, unused, rfl⟩
    refine ⟨by simpa [Option.isSome_iff_ne_none] using formed.creates, ⟨⟩,
      checkOptions_eq_ok_iff.mpr ⟨formed.named, formed.distinct, by simp, formed.bounded⟩, ?_⟩
    rw [reject_bind_eq_ok_iff, reject_bind_eq_ok_iff, image, missing, pure_eq_ok_iff]
    refine ⟨formed.image.imp id ?_, unused, rfl⟩
    rintro ⟨option, member, same, kind⟩
    exact ⟨option, (option?_eq_some formed.distinct).mpr ⟨member, same⟩, kind⟩

/-- The registry after types were added in order. -/
def DeviceRegistry.addAll (registry : DeviceRegistry Host Object)
    (entries : List (String × DeviceType Host Object)) :
    Except ConfigError (DeviceRegistry Host Object) :=
  entries.foldlM (fun registry entry => registry.add entry.1 entry.2) registry

/-- Every registry holds distinct names and well-formed types. -/
structure DeviceRegistry.Sound (registry : DeviceRegistry Host Object) : Prop where
  distinct : (registry.types.map Prod.fst).Nodup
  formed : ∀ entry ∈ registry.types, entry.2.WellFormed

theorem DeviceRegistry.Sound.add {registry next : DeviceRegistry Host Object} {name : String}
    {type : DeviceType Host Object} (sound : registry.Sound)
    (added : registry.add name type = .ok next) : next.Sound := by
  obtain ⟨-, formed, unused, rfl⟩ := add_eq_ok_iff.mp added
  rw [List.lookup_eq_none_iff] at unused
  constructor
  · rw [List.map_append, List.nodup_append]
    refine ⟨sound.distinct, by simp, ?_⟩
    rintro key member other ⟨⟩ rfl
    · obtain ⟨entry, entryMember, rfl⟩ := List.mem_map.mp member
      simpa using unused entry entryMember
    next impossible => cases impossible
  · intro entry member
    rcases List.mem_append.mp member with old | new
    · exact sound.formed entry old
    · rw [List.mem_singleton.mp new]
      exact formed

theorem DeviceRegistry.addAll_spec {registry next : DeviceRegistry Host Object}
    {entries : List (String × DeviceType Host Object)} (sound : registry.Sound)
    (added : registry.addAll entries = .ok next) :
    next.Sound ∧ next.types = registry.types ++ entries := by
  induction entries generalizing registry with
  | nil =>
      cases added
      exact ⟨sound, (List.append_nil _).symm⟩
  | cons entry entries ih =>
      rw [addAll, List.foldlM_cons, bind_eq_ok_iff] at added
      obtain ⟨middle, first, rest⟩ := added
      obtain ⟨-, -, -, rfl⟩ := add_eq_ok_iff.mp first
      obtain ⟨final, types⟩ := ih (sound.add first) rest
      exact ⟨final, by rw [types, List.append_assoc]; rfl⟩

/-- Well-formed types with valid names that differ are all accepted. -/
theorem DeviceRegistry.addAll_eq_ok {registry : DeviceRegistry Host Object}
    {entries : List (String × DeviceType Host Object)}
    (formed : ∀ entry ∈ entries, ValidName entry.1 ∧ entry.2.WellFormed)
    (distinct : ((registry.types ++ entries).map Prod.fst).Nodup) :
    registry.addAll entries = .ok { types := registry.types ++ entries } := by
  induction entries generalizing registry with
  | nil => rw [List.append_nil]; rfl
  | cons entry entries ih =>
      obtain ⟨⟨named, first⟩, later⟩ := List.forall_mem_cons.mp formed
      have unused : registry.types.lookup entry.1 = none := by
        rw [List.lookup_eq_none_iff]
        intro other member
        rw [List.map_append, List.nodup_append] at distinct
        simpa using (distinct.2.2 other.1 (List.mem_map_of_mem member) entry.1 (by simp)).symm
      have added := add_eq_ok_iff.mpr ⟨named, first, unused, rfl⟩
      have split : registry.types ++ entry :: entries = registry.types ++ [entry] ++ entries := by
        simp
      rw [addAll, List.foldlM_cons, added]
      rw [split] at distinct ⊢
      exact ih later distinct

/-! ## Checked properties -/

/-- What `configure` asks of a value. -/
def DeviceOption.Accepts (option : DeviceOption) (value : String) : Prop :=
  match option.kind with
  | .unsigned => ∃ number : UInt64, DenotesUnsigned value.toList number.toNat ∧
      option.minimum ≤ number ∧ number ≤ option.maximum
  | .boolean => value = "true" ∨ value = "false"
  | .string => True

theorem DeviceOption.check_eq_ok_iff {option : DeviceOption} {value : String} :
    option.check value = .ok ⟨⟩ ↔ option.Accepts value := by
  rw [check, Accepts]
  cases option.kind with
  | string => simp
  | boolean => simp [reject_eq_ok_iff, or_iff_not_imp_left]
  | unsigned =>
      simp only [bind_eq_ok_iff, reject_eq_ok_iff, not_or, UInt64.not_lt, gt_iff_lt,
        parseUnsigned_eq_ok_iff]

theorem foldlM_enter_eq_ok_iff {properties values : Properties} {options : List DeviceOption}
    (distinct : (options.map DeviceOption.name).Nodup) {result : Properties}
    (unused : ∀ option ∈ options, result.lookup option.name = none) :
    options.foldlM (DeviceOption.enter properties) result = .ok values ↔
      (∀ option ∈ options, option.Accepts (option.chosen properties)) ∧
        values = result ++ options.map fun option => (option.name, option.chosen properties) := by
  induction options generalizing result with
  | nil => simp [pure, Except.pure, eq_comm]
  | cons option options ih =>
      obtain ⟨fresh, later⟩ := List.nodup_cons.mp distinct
      have entered : DeviceOption.enter properties result option =
          (do option.check (option.chosen properties)
              return result ++ [(option.name, option.chosen properties)]) := by
        rw [DeviceOption.enter, Properties.emplace, unused option (by simp)]
        rfl
      have stillUnused : ∀ other ∈ options,
          (result ++ [(option.name, option.chosen properties)]).lookup other.name = none := by
        intro other member
        have different : other.name ≠ option.name := by
          rintro same
          exact fresh (same ▸ List.mem_map_of_mem member)
        rw [List.lookup_append, unused other (by simp [member])]
        simp [different]
      rw [List.foldlM_cons, entered, bind_assoc, bind_eq_ok_iff]
      simp only [pure_bind, ih later stillUnused, List.forall_mem_cons, List.map_cons,
        List.append_assoc, List.singleton_append]
      constructor
      · rintro ⟨⟨⟩, first, rest, rfl⟩
        exact ⟨⟨DeviceOption.check_eq_ok_iff.mp first, rest⟩, rfl⟩
      · rintro ⟨⟨first, rest⟩, rfl⟩
        exact ⟨⟨⟩, DeviceOption.check_eq_ok_iff.mpr first, rest, rfl⟩

theorem lookup_eq_some_iff_mem {A : Type} {entries : List (String × A)}
    (distinct : (entries.map Prod.fst).Nodup) {key : String} {value : A} :
    entries.lookup key = some value ↔ (key, value) ∈ entries := by
  induction entries with
  | nil => simp
  | cons entry entries ih =>
      obtain ⟨name, first⟩ := entry
      obtain ⟨fresh, later⟩ := List.nodup_cons.mp distinct
      by_cases same : key = name
      · subst same
        have absent : (key, value) ∉ entries := by
          intro member
          exact fresh (List.mem_map.mpr ⟨_, member, rfl⟩)
        simp [absent, eq_comm]
      · have different : (key == name) = false := by simpa using same
        simp only [List.lookup_cons, different, ih later, List.mem_cons, Prod.mk.injEq, same,
          false_and, false_or]

theorem DeviceRegistry.type_eq_ok_iff {registry : DeviceRegistry Host Object}
    (sound : registry.Sound) {name : String} {type : DeviceType Host Object} :
    registry.type name = .ok type ↔ (name, type) ∈ registry.types := by
  rw [← lookup_eq_some_iff_mem sound.distinct, DeviceRegistry.type]
  cases registry.types.lookup name <;> simp

theorem forM_reject_eq_ok_iff {A : Type} {bad : A → Prop} [DecidablePred bad]
    {fault : A → ConfigError} {items : List A} :
    (items.forM fun item => reject (bad item) (fault item)) = .ok ⟨⟩ ↔ ∀ item ∈ items, ¬bad item := by
  induction items with
  | nil => simp [pure, Except.pure]
  | cons item items ih =>
      rw [List.forall_mem_cons, ← ih]
      by_cases fails : bad item
      · simp [List.forM, reject, fails, bind, Except.bind]
      · simp [List.forM, reject, fails, bind, Except.bind]

theorem DeviceRegistry.configure_eq_ok_iff {registry : DeviceRegistry Host Object}
    (sound : registry.Sound) {name : String} {properties : Properties} {config : DeviceConfig} :
    registry.configure name properties = .ok config ↔
      ∃ type, (name, type) ∈ registry.types ∧
        (∀ property ∈ properties, ∃ option ∈ type.options, option.name = property.1) ∧
        (∀ option ∈ type.options, option.Accepts (option.chosen properties)) ∧
        config.values =
          type.options.map fun option => (option.name, option.chosen properties) := by
  rw [configure, bind_eq_ok_iff]
  refine exists_congr fun type => ?_
  rw [type_eq_ok_iff sound]
  refine and_congr_right fun member => ?_
  have formed := sound.formed _ member
  have known : (∀ property ∈ properties, ¬(type.option? property.1).isNone = true) ↔
      ∀ property ∈ properties, ∃ option ∈ type.options, option.name = property.1 := by
    refine forall₂_congr fun property _ => ?_
    rw [Option.isNone_iff_eq_none, ← ne_eq, Option.ne_none_iff_exists']
    exact exists_congr fun option => option?_eq_some formed.distinct
  rw [bind_eq_ok_iff, ← known]
  constructor
  · rintro ⟨⟨⟩, checked, rest⟩
    obtain ⟨values, entered, returned⟩ := bind_eq_ok_iff.mp rest
    cases returned
    obtain ⟨accepted, same⟩ := (foldlM_enter_eq_ok_iff formed.distinct (by simp)).mp entered
    exact ⟨forM_reject_eq_ok_iff.mp checked, accepted, same⟩
  · rintro ⟨checked, accepted, same⟩
    refine ⟨⟨⟩, forM_reject_eq_ok_iff.mpr checked, bind_eq_ok_iff.mpr ⟨config.values,
      (foldlM_enter_eq_ok_iff formed.distinct (by simp)).mpr ⟨accepted, same⟩, rfl⟩⟩

/-- The values that a factory finds. -/
theorem DeviceConfig.text_of_values {config : DeviceConfig} {options : List DeviceOption}
    {properties : Properties} (distinct : (options.map DeviceOption.name).Nodup)
    (values : config.values = options.map fun option => (option.name, option.chosen properties)) :
    (∀ option ∈ options, config.text option.name = .ok (option.chosen properties)) ∧
      ∀ name, (∀ option ∈ options, option.name ≠ name) →
        config.text name = .error (.invalidArgument ("unknown device option: " ++ name)) := by
  have keys : config.values.map Prod.fst = options.map DeviceOption.name := by
    rw [values, List.map_map]
    rfl
  constructor
  · intro option member
    have found : config.values.lookup option.name = some (option.chosen properties) := by
      rw [lookup_eq_some_iff_mem (keys ▸ distinct), values]
      exact List.mem_map_of_mem member
    rw [text, found]
  · intro name different
    have missing : config.values.lookup name = none := by
      rw [List.lookup_eq_none_iff, values]
      intro entry member
      obtain ⟨option, optionMember, rfl⟩ := List.mem_map.mp member
      simpa using (different option optionMember).symm
    rw [text, missing]

theorem DeviceConfig.number_eq_ok_iff {config : DeviceConfig} {name value : String}
    (text : config.text name = .ok value) {number : UInt64} :
    config.number name = .ok number ↔ DenotesUnsigned value.toList number.toNat := by
  rw [DeviceConfig.number, text, ← parseUnsigned_eq_ok_iff]
  rfl

/-- What a factory finds in properties that were checked against a schema. -/
structure DeviceConfig.Checked (config : DeviceConfig) (options : List DeviceOption)
    (properties : Properties) : Prop where
  text : ∀ option ∈ options, config.text option.name = .ok (option.chosen properties)
  number : ∀ option ∈ options, option.kind = .unsigned →
    ∃ number, config.number option.name = .ok number ∧
      DenotesUnsigned (option.chosen properties).toList number.toNat ∧
      option.minimum ≤ number ∧ number ≤ option.maximum
  boolean : ∀ option ∈ options, option.kind = .boolean →
    ∃ flag, config.boolean option.name = .ok flag ∧
      option.chosen properties = if flag then "true" else "false"
  missing : ∀ name, (∀ option ∈ options, option.name ≠ name) →
    config.text name = .error (.invalidArgument ("unknown device option: " ++ name))

theorem DeviceRegistry.checked {registry : DeviceRegistry Host Object} (sound : registry.Sound)
    {name : String} {type : DeviceType Host Object} (member : (name, type) ∈ registry.types)
    {properties : Properties} {config : DeviceConfig}
    (configured : registry.configure name properties = .ok config) :
    config.Checked type.options properties := by
  obtain ⟨other, otherMember, -, accepted, values⟩ := (configure_eq_ok_iff sound).mp configured
  obtain rfl : type = other := Option.some.inj
    (((lookup_eq_some_iff_mem sound.distinct).mpr member).symm.trans
      ((lookup_eq_some_iff_mem sound.distinct).mpr otherMember))
  obtain ⟨found, missing⟩ := DeviceConfig.text_of_values (sound.formed _ member).distinct values
  refine ⟨found, fun option optionMember kind => ?_, fun option optionMember kind => ?_, missing⟩
  · have fits := accepted option optionMember
    rw [DeviceOption.Accepts, kind] at fits
    obtain ⟨number, denotes, bounds⟩ := fits
    exact ⟨number, (DeviceConfig.number_eq_ok_iff (found option optionMember)).mpr denotes,
      denotes, bounds⟩
  · have fits := accepted option optionMember
    rw [DeviceOption.Accepts, kind] at fits
    refine ⟨option.chosen properties == "true", ?_, ?_⟩
    · rw [DeviceConfig.boolean, found option optionMember]
      rfl
    · rcases fits with isTrue | isFalse
      · simp [isTrue]
      · simp [isFalse]

theorem DeviceRegistry.sound_empty : ({} : DeviceRegistry Host Object).Sound :=
  ⟨List.nodup_nil, by simp⟩

/-- Properties are checked completely before anything is created from them.  Whatever types were
added, `configure` succeeds exactly if the type is known, every property belongs to an option,
and the value of every option, given or default, fits its kind and bounds.  A factory then
finds each option by name, numbers within their bounds, and no other name. -/
theorem checked_properties_complete (entries : List (String × DeviceType Host Object))
    (registry : DeviceRegistry Host Object)
    (built : ({} : DeviceRegistry Host Object).addAll entries = .ok registry) (name : String)
    (properties : Properties) :
    ((∃ config, registry.configure name properties = .ok config) ↔
      ∃ type, (name, type) ∈ entries ∧
        (∀ property ∈ properties, ∃ option ∈ type.options, option.name = property.1) ∧
        ∀ option ∈ type.options, option.Accepts (option.chosen properties)) ∧
    ∀ type config, (name, type) ∈ entries → registry.configure name properties = .ok config →
      config.Checked type.options properties := by
  obtain ⟨sound, types⟩ := DeviceRegistry.addAll_spec DeviceRegistry.sound_empty built
  obtain rfl : registry.types = entries := types
  refine ⟨?_, fun type config member configured => DeviceRegistry.checked sound member configured⟩
  simp only [DeviceRegistry.configure_eq_ok_iff sound]
  constructor
  · rintro ⟨config, type, member, known, accepted, -⟩
    exact ⟨type, member, known, accepted⟩
  · rintro ⟨type, member, known, accepted⟩
    exact ⟨⟨_⟩, type, member, known, accepted, rfl⟩

/-- A type with one number. -/
def counterType : String × DeviceType Unit Unit :=
  ("counter",
    { options := [{ name := "step", kind := .unsigned, defaultValue := "1", minimum := 1 }]
      create := some fun _ host => .ok (host, some ()) })

theorem checked_properties_complete_counter :
    ∃ registry config, ({} : DeviceRegistry Unit Unit).addAll [counterType] = .ok registry ∧
      registry.configure "counter" [("step", "0x10")] = .ok config ∧
      ∃ number, config.number "step" = .ok number ∧ 1 ≤ number := by
  obtain ⟨registry, built⟩ : ∃ registry, ({} : DeviceRegistry Unit Unit).addAll [counterType] =
      .ok registry := ⟨_, rfl⟩
  obtain ⟨accepts, finds⟩ := checked_properties_complete [counterType] registry built "counter"
    [("step", "0x10")]
  have denotes : DenotesUnsigned "0x10".toList 16 :=
    .inr ⟨['1', '0'], .inl (by decide), numeral_toDigits (by decide) (by decide) 16⟩
  obtain ⟨config, configured⟩ := accepts.mpr ⟨counterType.2, by simp [counterType],
    by simp [counterType], by simpa [counterType, DeviceOption.Accepts, DeviceOption.chosen] using
      ⟨16, denotes, by decide, by decide⟩⟩
  obtain ⟨value, found, -, positive, -⟩ :=
    (finds counterType.2 config (by simp [counterType]) configured).number _
      (List.mem_singleton_self _) rfl
  exact ⟨registry, config, built, configured, value, found, positive⟩

end AxiTestbench
