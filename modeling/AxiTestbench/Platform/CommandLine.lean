import AxiTestbench.Platform.Edit
import AxiTestbench.Simulator

/-!
# The command line

`parse_options` of `sim_main.cpp`.  The options are read from left to right; some of them edit the
specification of the platform at once.  Probabilities are floating-point numbers, so the parser
of their texts is a parameter.
-/

namespace AxiTestbench

open Lib Outcome

/-! ## Numbers -/

/-- `isspace` in the C locale. -/
def isSpace (ch : Char) : Bool :=
  [' ', '\t', '\n', '\r', Char.ofNat 11, Char.ofNat 12].contains ch

/-- The sign that `strtoull` skips, and whether it negates. -/
def splitSign : List Char → Bool × List Char
  | '-' :: rest => (true, rest)
  | '+' :: rest => (false, rest)
  | text => (false, text)

/-- Base zero: a hexadecimal number after its mark, an octal one after a zero, or a decimal one. -/
def splitBase : List Char → Nat × List Char
  | '0' :: mark :: digit :: rest =>
      if (mark = 'x' ∨ mark = 'X') ∧ (digitIn 16 digit).isSome then (16, digit :: rest)
      else (8, '0' :: mark :: digit :: rest)
  | '0' :: rest => (8, '0' :: rest)
  | text => (10, text)

/-- `std::strtoull` with base zero: the value and the rest of the text, unless there is no digit
or the value is out of range. -/
def strtoull (text : List Char) : Option (UInt64 × List Char) :=
  let (negative, body) := splitSign (text.dropWhile isSpace)
  let (base, digits) := splitBase body
  (fromChars base 64 digits).map fun (value, rest) =>
    (if negative then 0 - UInt64.ofNat value else UInt64.ofNat value, rest)

/-- `parse_unsigned` of `sim_main.cpp`. -/
def parseNumber (text option : String) : Except ConfigError UInt64 :=
  if text.toList = [] ∨ text.toList.head? = some '-' then
    .error (.invalidArgument (option ++ " expects an unsigned integer"))
  else
    match strtoull text.toList with
    | some (value, []) => .ok value
    | _ => .error (.invalidArgument ("invalid value for " ++ option ++ ": " ++ text))

/-- The numerals of C. -/
inductive CNumeral : List Char → Nat → Prop where
  | hexadecimal {mark : Char} {digits : List Char} {value : Nat} (marked : mark = 'x' ∨ mark = 'X')
      (numeral : Numeral 16 digits value) : CNumeral ('0' :: mark :: digits) value
  | octal {digits : List Char} {value : Nat} (numeral : Numeral 8 ('0' :: digits) value) :
      CNumeral ('0' :: digits) value
  | decimal {text : List Char} {value : Nat} (nonzero : text.head? ≠ some '0')
      (numeral : Numeral 10 text value) : CNumeral text value

/-- A numeral after an optional sign.  A minus negates modulo `2 ^ 64`. -/
inductive SignedNumeral : List Char → UInt64 → Prop where
  | plain {text : List Char} {value : UInt64} (numeral : CNumeral text value.toNat) :
      SignedNumeral text value
  | plus {text : List Char} {value : UInt64} (numeral : CNumeral text value.toNat) :
      SignedNumeral ('+' :: text) value
  | minus {text : List Char} {value : UInt64} (numeral : CNumeral text value.toNat) :
      SignedNumeral ('-' :: text) (0 - value)

/-- What `parse_unsigned` accepts.  A text does not begin with a minus, but blanks may hide one. -/
structure DenotesNumber (text : List Char) (value : UInt64) : Prop where
  begins : text.head? ≠ some '-'
  numeral : ∃ blanks body, text = blanks ++ body ∧ (∀ ch ∈ blanks, isSpace ch = true) ∧
    SignedNumeral body value

theorem splitBase_eq_whole_iff {body : List Char} {value : Nat} :
    fromChars (splitBase body).1 64 (splitBase body).2 = some (value, []) ↔
      CNumeral body value ∧ value < 2 ^ 64 := by
  rw [fromChars_eq_whole_iff]
  refine and_congr_left fun _ => ?_
  rw [splitBase.eq_def]
  split
  next mark digit rest =>
    split
    next hex =>
      refine ⟨.hexadecimal hex.1, fun numeral => ?_⟩
      cases numeral with
      | hexadecimal _ numeral => exact numeral
      | octal numeral =>
          have isDigit := (numeral_iff.mp numeral).2.1 mark (by simp)
          rcases hex.1 with rfl | rfl
          · exact absurd isDigit (by decide)
          · exact absurd isDigit (by decide)
      | decimal nonzero => exact absurd rfl nonzero
    next plain =>
      refine ⟨.octal, fun numeral => ?_⟩
      cases numeral with
      | hexadecimal marked numeral =>
          exact absurd ⟨marked, (numeral_iff.mp numeral).2.1 digit (by simp)⟩ plain
      | octal numeral => exact numeral
      | decimal nonzero => exact absurd rfl nonzero
  next rest short =>
    refine ⟨.octal, fun numeral => ?_⟩
    cases numeral with
    | @hexadecimal mark digits _ marked numeral =>
        obtain ⟨digit, more, rfl⟩ := List.exists_cons_of_ne_nil (numeral_iff.mp numeral).1
        exact absurd rfl (short mark digit more)
    | octal numeral => exact numeral
    | decimal nonzero => exact absurd rfl nonzero
  next _ long short =>
    have nonzero : body.head? ≠ some '0' := by
      intro zero
      obtain ⟨rest, rfl⟩ := List.head?_eq_some_iff.mp zero
      exact short rest rfl
    refine ⟨.decimal nonzero, fun numeral => ?_⟩
    cases numeral with
    | hexadecimal => exact absurd rfl nonzero
    | octal => exact absurd rfl nonzero
    | decimal _ numeral => exact numeral

/-- A numeral begins with a digit, which is no blank and no sign. -/
theorem CNumeral.begins {text : List Char} {value : Nat} (numeral : CNumeral text value) :
    ∃ ch rest, text = ch :: rest ∧ isSpace ch = false ∧ ch ≠ '-' ∧ ch ≠ '+' := by
  cases numeral with
  | hexadecimal => exact ⟨'0', _, rfl, by decide, by decide, by decide⟩
  | octal => exact ⟨'0', _, rfl, by decide, by decide, by decide⟩
  | decimal _ numeral =>
      obtain ⟨nonempty, digits, -⟩ := numeral_iff.mp numeral
      obtain ⟨ch, rest, rfl⟩ := List.exists_cons_of_ne_nil nonempty
      have isDigit := digits ch (by simp)
      have others : ∀ other, digitIn 10 other = none → ch ≠ other := by
        rintro other none rfl
        rw [none] at isDigit
        cases isDigit
      refine ⟨ch, rest, rfl, ?_, others '-' (by decide), others '+' (by decide)⟩
      simp [isSpace, others ' ' (by decide), others '\t' (by decide), others '\n' (by decide),
        others '\r' (by decide), others (Char.ofNat 11) (by decide),
        others (Char.ofNat 12) (by decide)]

theorem CNumeral.splitSign_eq {text : List Char} {value : Nat} (numeral : CNumeral text value) :
    splitSign text = (false, text) := by
  obtain ⟨ch, rest, rfl, -, minus, plus⟩ := numeral.begins
  rw [splitSign.eq_def]
  split
  next same => exact absurd (List.cons.inj same).1 minus
  next same => exact absurd (List.cons.inj same).1 plus
  next => rfl

theorem splitSign_cases (body : List Char) :
    (∃ rest, body = '-' :: rest ∧ splitSign body = (true, rest)) ∨
      (∃ rest, body = '+' :: rest ∧ splitSign body = (false, rest)) ∨
      splitSign body = (false, body) := by
  rw [splitSign.eq_def]
  split
  next rest => exact .inl ⟨rest, rfl, rfl⟩
  next rest => exact .inr (.inl ⟨rest, rfl, rfl⟩)
  next => exact .inr (.inr rfl)

theorem SignedNumeral.begins {body : List Char} {value : UInt64}
    (numeral : SignedNumeral body value) : ∃ ch rest, body = ch :: rest ∧ isSpace ch = false := by
  cases numeral with
  | plain numeral =>
      obtain ⟨ch, rest, same, stop, -⟩ := numeral.begins
      exact ⟨ch, rest, same, stop⟩
  | plus => exact ⟨'+', _, rfl, by decide⟩
  | minus => exact ⟨'-', _, rfl, by decide⟩

/-- Reading a body to its end. -/
theorem fromChars_splitSign_iff {body : List Char} {value : UInt64} :
    ((fromChars (splitBase (splitSign body).2).1 64 (splitBase (splitSign body).2).2).map
      fun (number, rest) => (if (splitSign body).1 then 0 - UInt64.ofNat number
        else UInt64.ofNat number, rest)) = some (value, []) ↔ SignedNumeral body value := by
  constructor
  · intro read
    obtain ⟨⟨number, rest⟩, scan, same⟩ := Option.map_eq_some_iff.mp read
    obtain ⟨value_eq, rfl⟩ := Prod.mk.inj same
    obtain ⟨numeral, small⟩ := splitBase_eq_whole_iff.mp scan
    rw [← UInt64.toNat_ofNat_of_lt' small] at numeral
    rw [← value_eq]
    rcases splitSign_cases body with ⟨rest, rfl, sign⟩ | ⟨rest, rfl, sign⟩ | sign <;>
      rw [sign] at numeral ⊢
    · exact .minus numeral
    · exact .plus numeral
    · exact .plain numeral
  · intro numeral
    have scan : ∀ {text : List Char} {number : UInt64}, CNumeral text number.toNat →
        fromChars (splitBase text).1 64 (splitBase text).2 = some (number.toNat, []) :=
      fun numeral => splitBase_eq_whole_iff.mpr ⟨numeral, UInt64.toNat_lt _⟩
    cases numeral with
    | plain numeral => simp [numeral.splitSign_eq, scan numeral]
    | plus numeral => simp [splitSign, scan numeral]
    | minus numeral => simp [splitSign, scan numeral]

theorem strtoull_eq_whole_iff {text : List Char} {value : UInt64} :
    strtoull text = some (value, []) ↔ ∃ blanks body, text = blanks ++ body ∧
      (∀ ch ∈ blanks, isSpace ch = true) ∧ SignedNumeral body value := by
  rw [strtoull]
  refine fromChars_splitSign_iff.trans ⟨fun numeral => ?_, ?_⟩
  · exact ⟨text.takeWhile isSpace, _, List.takeWhile_append_dropWhile.symm,
      fun _ member => List.mem_takeWhile_imp member, numeral⟩
  · rintro ⟨blanks, body, rfl, blank, numeral⟩
    obtain ⟨ch, rest, rfl, stop⟩ := numeral.begins
    rw [List.dropWhile_append_of_pos blank, List.dropWhile_cons_of_neg (by simp [stop])]
    exact numeral

theorem parseNumber_eq_ok_iff {text option : String} {value : UInt64} :
    parseNumber text option = .ok value ↔ DenotesNumber text.toList value := by
  rw [parseNumber]
  constructor
  · intro parsed
    split at parsed
    next => cases parsed
    next start =>
      split at parsed
      next number scan =>
        cases parsed
        exact ⟨fun minus => start (.inr minus), strtoull_eq_whole_iff.mp scan⟩
      next => cases parsed
  · rintro ⟨begins, blanks, body, whole, blank, numeral⟩
    obtain ⟨ch, rest, rfl, -⟩ := numeral.begins
    have start : ¬(text.toList = [] ∨ text.toList.head? = some '-') := by
      rintro (empty | minus)
      · simp [whole] at empty
      · exact begins minus
    rw [if_neg start, strtoull_eq_whole_iff.mpr ⟨blanks, _, whole, blank, numeral⟩]

theorem CNumeral.denotes {text : List Char} {value : UInt64} (numeral : CNumeral text value.toNat) :
    DenotesNumber text value := by
  obtain ⟨ch, rest, rfl, -, minus, -⟩ := numeral.begins
  exact ⟨by simpa using minus, [], _, rfl, by simp, .plain numeral⟩

/-- A text that begins with a zero has no blanks and no sign. -/
theorem DenotesNumber.numeral_of_zero {digits : List Char} {value : UInt64}
    (denotes : DenotesNumber ('0' :: digits) value) : CNumeral ('0' :: digits) value.toNat := by
  obtain ⟨-, blanks, body, whole, blank, numeral⟩ := denotes
  cases blanks with
  | nil =>
      obtain rfl : '0' :: digits = body := whole
      cases numeral with
      | plain numeral => exact numeral
  | cons ch blanks =>
      obtain rfl : '0' = ch := (List.cons.inj whole).1
      exact absurd (blank '0' (by simp)) (by decide)

/-- The two readers of numbers.  An option with a number accepts the numerals of C after blanks
and a sign, and nothing else; and a number that a property accepts has the same value for an
option, unless it is a decimal numeral with a leading zero, which an option can only read as an
octal one. -/
theorem option_numbers_exact (text option : String) :
    (∀ value, parseNumber text option = .ok value ↔ DenotesNumber text.toList value) ∧
    ∀ value, parseUnsigned text = .ok value → parseNumber text option = .ok value ∨
      ∃ digits, digits ≠ [] ∧ text.toList = '0' :: digits ∧ Numeral 10 text.toList value.toNat ∧
        ∀ other, parseNumber text option = .ok other → Numeral 8 text.toList other.toNat := by
  refine ⟨fun _ => parseNumber_eq_ok_iff, fun value accepted => ?_⟩
  simp only [parseNumber_eq_ok_iff]
  rcases parseUnsigned_eq_ok_iff.mp accepted with decimal | ⟨digits, marked, hex⟩
  · by_cases zero : text.toList.head? = some '0'
    · obtain ⟨digits, same⟩ := List.head?_eq_some_iff.mp zero
      rw [same] at decimal ⊢
      by_cases single : digits = []
      · subst single
        have value_eq : value.toNat = 0 := (numeral_iff.mp decimal).2.2
        exact .inl (CNumeral.octal (value_eq ▸ .digit (by decide))).denotes
      · refine .inr ⟨digits, single, rfl, decimal, fun other denotes => ?_⟩
        cases denotes.numeral_of_zero with
        | hexadecimal marked =>
            have all := (numeral_iff.mp decimal).2.1
            rcases marked with rfl | rfl
            · exact absurd (all 'x' (by simp)) (by decide)
            · exact absurd (all 'X' (by simp)) (by decide)
        | octal numeral => exact numeral
        | decimal nonzero => exact absurd rfl nonzero
    · exact .inl (CNumeral.decimal zero decimal).denotes
  · rcases marked with same | same
    · exact .inl (same ▸ (CNumeral.hexadecimal (.inl rfl) hex).denotes)
    · exact .inl (same ▸ (CNumeral.hexadecimal (.inr rfl) hex).denotes)

/-! ## Options -/

namespace CommandLine

/-- `Options` of `sim_main.cpp`, of which the loop reads the counters. -/
structure Options (Probability : Type) extends Simulator.Options where
  elves : List String := []
  rawImages : List String := []
  trace : Option String := none
  seed : UInt64 := 1
  stallProbability : Probability
  stats : Bool := false
  help : Bool := false

/-- What the build and the floating-point library provide. -/
structure Build (Probability : Type) where
  /-- The constant `0.0`. -/
  zero : Probability
  /-- The value of a whole text for `strtod`, unless it is out of range or not a probability. -/
  probability : String → Option Probability
  /-- `AXI_TB_TRACE_ENABLED`. -/
  traceEnabled : Bool

variable {Probability : Type}

/-- `parse_probability`. -/
def Build.parseProbability (build : Build Probability) (text option : String) :
    Except ConfigError Probability :=
  match build.probability text with
  | some value => .ok value
  | none => .error (.invalidArgument ("invalid value for " ++ option ++ ": " ++ text))

theorem parseProbability_eq_ok_iff {build : Build Probability} {text option : String}
    {value : Probability} :
    build.parseProbability text option = .ok value ↔ build.probability text = some value := by
  rw [Build.parseProbability]
  cases build.probability text with
  | some number => simp
  | none => simp

/-- The options so far and the specification that they edit. -/
abbrev Parsed (Probability : Type) := Options Probability × PlatformSpec

/-- The branches of `parse_options` that take no argument. -/
def flag (name : String) : Option (Options Probability → Options Probability) :=
  if name = "--help" ∨ name = "-h" then some fun options => { options with help := true }
  else if name = "--stats" then some fun options => { options with stats := true }
  else if name.toList.head? = some '+' then some id
  else none

/-- The branches of `parse_options` that take an argument. -/
def option (build : Build Probability) (name : String) :
    Option (String → Parsed Probability → Except ConfigError (Parsed Probability)) :=
  if name = "--elf" then some fun value (options, spec) =>
    .ok ({ options with elves := options.elves ++ [value] }, spec)
  else if name = "--rom-image" then some fun value (options, spec) => do
    return (options, ← spec.set ("rom.image=" ++ value))
  else if name = "--ram-image" then some fun value (options, spec) => do
    return (options, ← spec.set ("ram.image=" ++ value))
  else if name = "--uart-in" then some fun value (options, spec) => do
    return (options, ← spec.set ("uart.input=" ++ value))
  else if name = "--uart-out" then some fun value (options, spec) => do
    return (options, ← spec.set ("uart.output=" ++ value))
  else if name = "--set" then some fun value (options, spec) => do
    return (options, ← spec.set value)
  else if name = "--load" then some fun value (options, spec) =>
    .ok ({ options with rawImages := options.rawImages ++ [value] }, spec)
  else if name = "--trace" then some fun value (options, spec) =>
    .ok ({ options with trace := some value }, spec)
  else if name = "--max-cycles" then some fun value (options, spec) => do
    return ({ options with maxCycles := ← parseNumber value name }, spec)
  else if name = "--reset-cycles" then some fun value (options, spec) => do
    return ({ options with resetCycles := ← parseNumber value name }, spec)
  else if name = "--seed" then some fun value (options, spec) => do
    return ({ options with seed := ← parseNumber value name }, spec)
  else if name = "--stall-probability" then some fun value (options, spec) => do
    return ({ options with stallProbability := ← build.parseProbability value name }, spec)
  else none

/-- The loop of `parse_options` over the arguments that are left. -/
def parseLoop (build : Build Probability) :
    List String → Parsed Probability → Except ConfigError (Parsed Probability)
  | [], parsed => .ok parsed
  | name :: rest, (options, spec) =>
      match flag name with
      | some change => parseLoop build rest (change options, spec)
      | none =>
          match option build name, rest with
          | some change, value :: rest => do parseLoop build rest (← change value (options, spec))
          | some _, [] => .error (.invalidArgument (name ++ " requires an argument"))
          | none, _ => .error (.invalidArgument ("unknown option: " ++ name))

/-- `parse_options`, for the arguments after the name of the program. -/
def parseOptions (build : Build Probability) (spec : PlatformSpec) (arguments : List String) :
    Except ConfigError (Parsed Probability) := do
  let (options, spec) ← parseLoop build arguments ({ stallProbability := build.zero }, spec)
  reject (options.maxCycles = 0) (.invalidArgument "--max-cycles must be greater than zero")
  reject (build.traceEnabled = false ∧ options.trace ≠ none) (.invalidArgument
    "--trace requires tracing to be enabled when configuring the target")
  return (options, spec)

/-! ## The language of command lines -/

/-- One option with the meaning of its argument. -/
inductive Setting (Probability : Type) where
  | help
  | stats
  | plusarg
  | elf (path : String)
  | load (request : String)
  | property (assignment : String)
  | trace (path : String)
  | maxCycles (value : UInt64)
  | resetCycles (value : UInt64)
  | seed (value : UInt64)
  | stallProbability (value : Probability)

/-- How a setting is written. -/
inductive Written (build : Build Probability) : Setting Probability → List String → Prop where
  | help : Written build .help ["--help"]
  | shortHelp : Written build .help ["-h"]
  | stats : Written build .stats ["--stats"]
  | plusarg {name : String} (begins : name.toList.head? = some '+') : Written build .plusarg [name]
  | elf (path : String) : Written build (.elf path) ["--elf", path]
  | load (request : String) : Written build (.load request) ["--load", request]
  | property (assignment : String) : Written build (.property assignment) ["--set", assignment]
  | romImage (path : String) :
      Written build (.property ("rom.image=" ++ path)) ["--rom-image", path]
  | ramImage (path : String) :
      Written build (.property ("ram.image=" ++ path)) ["--ram-image", path]
  | uartIn (path : String) : Written build (.property ("uart.input=" ++ path)) ["--uart-in", path]
  | uartOut (path : String) :
      Written build (.property ("uart.output=" ++ path)) ["--uart-out", path]
  | trace (path : String) : Written build (.trace path) ["--trace", path]
  | maxCycles {text : String} {value : UInt64} (denotes : DenotesNumber text.toList value) :
      Written build (.maxCycles value) ["--max-cycles", text]
  | resetCycles {text : String} {value : UInt64} (denotes : DenotesNumber text.toList value) :
      Written build (.resetCycles value) ["--reset-cycles", text]
  | seed {text : String} {value : UInt64} (denotes : DenotesNumber text.toList value) :
      Written build (.seed value) ["--seed", text]
  | stallProbability {text : String} {value : Probability}
      (denotes : build.probability text = some value) :
      Written build (.stallProbability value) ["--stall-probability", text]

namespace Setting

/-- The effect of a setting on the options. -/
def apply (options : Options Probability) : Setting Probability → Options Probability
  | help => { options with help := true }
  | stats => { options with stats := true }
  | elf path => { options with elves := options.elves ++ [path] }
  | load request => { options with rawImages := options.rawImages ++ [request] }
  | trace path => { options with trace := some path }
  | maxCycles value => { options with maxCycles := value }
  | resetCycles value => { options with resetCycles := value }
  | seed value => { options with seed := value }
  | stallProbability value => { options with stallProbability := value }
  | property _ | plusarg => options

def assignment? : Setting Probability → Option String
  | property assignment => some assignment
  | _ => none

def elf? : Setting Probability → Option String
  | elf path => some path
  | _ => none

def load? : Setting Probability → Option String
  | load request => some request
  | _ => none

def trace? : Setting Probability → Option String
  | trace path => some path
  | _ => none

def maxCycles? : Setting Probability → Option UInt64
  | maxCycles value => some value
  | _ => none

def resetCycles? : Setting Probability → Option UInt64
  | resetCycles value => some value
  | _ => none

def seed? : Setting Probability → Option UInt64
  | seed value => some value
  | _ => none

def stallProbability? : Setting Probability → Option Probability
  | stallProbability value => some value
  | _ => none

/-- The effect on the specification. -/
def edit (spec : PlatformSpec) (setting : Setting Probability) :
    Except ConfigError PlatformSpec :=
  match setting.assignment? with
  | some assignment => spec.set assignment
  | none => .ok spec

end Setting

variable {build : Build Probability}

/-- The name of a plusarg is not that of another option. -/
theorem flag_of_plus {name : String} (begins : name.toList.head? = some '+') :
    (flag name : Option (Options Probability → Options Probability)) = some id := by
  have other : ∀ word : String, word.toList.head? ≠ some '+' → name ≠ word :=
    fun word differs same => differs (same ▸ begins)
  rw [flag, if_neg (by simp [other "--help" (by decide), other "-h" (by decide)]),
    if_neg (other "--stats" (by decide)), if_pos begins]

theorem parseLoop_flag {name : String} {change : Options Probability → Options Probability}
    (known : flag name = some change) (rest : List String) (options : Options Probability)
    (spec : PlatformSpec) :
    parseLoop build (name :: rest) (options, spec) =
      parseLoop build rest (change options, spec) := by
  rw [parseLoop.eq_def]
  simp only [known]

/-- One turn of the loop. -/
theorem parseLoop_written {setting : Setting Probability} {piece : List String}
    (written : Written build setting piece) (rest : List String) (options : Options Probability)
    (spec : PlatformSpec) :
    parseLoop build (piece ++ rest) (options, spec) =
      (setting.edit spec >>= fun spec => parseLoop build rest (setting.apply options, spec)) := by
  have number : ∀ {text name : String} {value : UInt64}, DenotesNumber text.toList value →
      parseNumber text name = .ok value := parseNumber_eq_ok_iff.mpr
  cases written with
  | plusarg begins => exact parseLoop_flag (flag_of_plus begins) rest options spec
  | maxCycles denotes =>
      simp [parseLoop, flag, option, number denotes]
      rfl
  | resetCycles denotes =>
      simp [parseLoop, flag, option, number denotes]
      rfl
  | seed denotes =>
      simp [parseLoop, flag, option, number denotes]
      rfl
  | stallProbability denotes =>
      simp [parseLoop, flag, option, Build.parseProbability, denotes]
      rfl
  | _ =>
      simp [parseLoop, flag, option]
      rfl

theorem of_ite_some {A : Type} {condition : Prop} [Decidable condition] {value result : A}
    {others : Option A} (chosen : (if condition then some value else others) = some result) :
    condition ∧ value = result ∨ others = some result := by
  split at chosen
  next holds => exact .inl ⟨holds, Option.some.inj chosen⟩
  next => exact .inr chosen

theorem written_of_flag (build : Build Probability) {name : String}
    {change : Options Probability → Options Probability} (known : flag name = some change) :
    ∃ setting, Written build setting [name] := by
  rcases of_ite_some known with ⟨rfl | rfl, -⟩ | known
  · exact ⟨_, .help⟩
  · exact ⟨_, .shortHelp⟩
  rcases of_ite_some known with ⟨rfl, -⟩ | known
  · exact ⟨_, .stats⟩
  rcases of_ite_some known with ⟨begins, -⟩ | known
  · exact ⟨_, .plusarg begins⟩
  cases known

theorem written_of_option {name value : String}
    {change : String → Parsed Probability → Except ConfigError (Parsed Probability)}
    (known : option build name = some change) {options : Options Probability}
    {spec : PlatformSpec} {next : Parsed Probability}
    (changed : change value (options, spec) = .ok next) :
    ∃ setting, Written build setting [name, value] := by
  rcases of_ite_some known with ⟨rfl, rfl⟩ | known
  · exact ⟨_, .elf value⟩
  rcases of_ite_some known with ⟨rfl, rfl⟩ | known
  · exact ⟨_, .romImage value⟩
  rcases of_ite_some known with ⟨rfl, rfl⟩ | known
  · exact ⟨_, .ramImage value⟩
  rcases of_ite_some known with ⟨rfl, rfl⟩ | known
  · exact ⟨_, .uartIn value⟩
  rcases of_ite_some known with ⟨rfl, rfl⟩ | known
  · exact ⟨_, .uartOut value⟩
  rcases of_ite_some known with ⟨rfl, rfl⟩ | known
  · exact ⟨_, .property value⟩
  rcases of_ite_some known with ⟨rfl, rfl⟩ | known
  · exact ⟨_, .load value⟩
  rcases of_ite_some known with ⟨rfl, rfl⟩ | known
  · exact ⟨_, .trace value⟩
  rcases of_ite_some known with ⟨rfl, rfl⟩ | known
  · obtain ⟨number, parsed, -⟩ := bind_eq_ok_iff.mp changed
    exact ⟨_, .maxCycles (parseNumber_eq_ok_iff.mp parsed)⟩
  rcases of_ite_some known with ⟨rfl, rfl⟩ | known
  · obtain ⟨number, parsed, -⟩ := bind_eq_ok_iff.mp changed
    exact ⟨_, .resetCycles (parseNumber_eq_ok_iff.mp parsed)⟩
  rcases of_ite_some known with ⟨rfl, rfl⟩ | known
  · obtain ⟨number, parsed, -⟩ := bind_eq_ok_iff.mp changed
    exact ⟨_, .seed (parseNumber_eq_ok_iff.mp parsed)⟩
  rcases of_ite_some known with ⟨rfl, rfl⟩ | known
  · obtain ⟨probability, parsed, -⟩ := bind_eq_ok_iff.mp changed
    exact ⟨_, .stallProbability (parseProbability_eq_ok_iff.mp parsed)⟩
  cases known

/-- What the loop accepts begins with a setting. -/
theorem exists_written {name : String} {rest : List String} {options : Options Probability}
    {spec : PlatformSpec} {after : Parsed Probability}
    (parsed : parseLoop build (name :: rest) (options, spec) = .ok after) :
    ∃ setting piece others, name :: rest = piece ++ others ∧ others.length ≤ rest.length ∧
      Written build setting piece := by
  rw [parseLoop.eq_def] at parsed
  simp only at parsed
  split at parsed
  next known =>
    obtain ⟨setting, written⟩ := written_of_flag build known
    exact ⟨setting, [name], rest, rfl, le_rfl, written⟩
  next =>
    split at parsed
    next value others known =>
      obtain ⟨middle, changed, -⟩ := bind_eq_ok_iff.mp parsed
      obtain ⟨setting, written⟩ := written_of_option known changed
      exact ⟨setting, [name, value], others, rfl, by simp, written⟩
    next => cases parsed
    next => cases parsed

/-- The loop accepts the arguments that are a sequence of settings, and makes them in order. -/
theorem parseLoop_eq_ok_iff {arguments : List String} {options after : Options Probability}
    {spec next : PlatformSpec} :
    parseLoop build arguments (options, spec) = .ok (after, next) ↔
      ∃ settings pieces, arguments = pieces.flatten ∧
        List.Forall₂ (Written build) settings pieces ∧
        settings.foldlM Setting.edit spec = .ok next ∧
        after = settings.foldl Setting.apply options := by
  constructor
  · intro parsed
    induction length : arguments.length using Nat.strong_induction_on generalizing arguments options
      spec with
    | h size ih =>
        cases arguments with
        | nil =>
            cases parsed
            exact ⟨[], [], rfl, .nil, rfl, rfl⟩
        | cons name rest =>
            obtain ⟨setting, piece, others, whole, shorter, written⟩ := exists_written parsed
            rw [whole, parseLoop_written written] at parsed
            obtain ⟨middle, edited, later⟩ := bind_eq_ok_iff.mp parsed
            obtain ⟨settings, pieces, rfl, more, edits, rfl⟩ :=
              ih _ (by rw [← length]; exact Nat.lt_succ_of_le shorter) later rfl
            refine ⟨setting :: settings, piece :: pieces, whole, .cons written more, ?_, rfl⟩
            rw [List.foldlM_cons, edited]
            exact edits
  · rintro ⟨settings, pieces, rfl, written, edited, rfl⟩
    induction written generalizing options spec with
    | nil =>
        cases edited
        rfl
    | cons first _ ih =>
        rw [List.foldlM_cons, bind_eq_ok_iff] at edited
        obtain ⟨middle, here, later⟩ := edited
        rw [List.flatten_cons, parseLoop_written first, here]
        exact ih later

/-- The options that a sequence of settings asks for: files in their order, the last of all other
values, and a flag if it is there. -/
structure Options.Collects (build : Build Probability) (settings : List (Setting Probability))
    (options : Options Probability) : Prop where
  elves : options.elves = settings.filterMap Setting.elf?
  rawImages : options.rawImages = settings.filterMap Setting.load?
  trace : options.trace = (settings.filterMap Setting.trace?).getLast?
  maxCycles : options.maxCycles = (settings.filterMap Setting.maxCycles?).getLastD 10000000
  resetCycles : options.resetCycles = (settings.filterMap Setting.resetCycles?).getLastD 5
  seed : options.seed = (settings.filterMap Setting.seed?).getLastD 1
  stallProbability : options.stallProbability =
    (settings.filterMap Setting.stallProbability?).getLastD build.zero
  stats : options.stats = true ↔ .stats ∈ settings
  help : options.help = true ↔ .help ∈ settings

theorem Options.Collects.unique {settings : List (Setting Probability)}
    {left right : Options Probability} (first : left.Collects build settings)
    (second : right.Collects build settings) : left = right := by
  have stats := Bool.eq_iff_iff.mpr (first.stats.trans second.stats.symm)
  have help := Bool.eq_iff_iff.mpr (first.help.trans second.help.symm)
  obtain ⟨⟨_, _⟩, _, _, _, _, _, _, _⟩ := left
  obtain ⟨⟨_, _⟩, _, _, _, _, _, _, _⟩ := right
  obtain ⟨rfl, rfl, rfl, rfl, rfl, rfl, rfl, -, -⟩ := first
  obtain ⟨rfl, rfl, rfl, rfl, rfl, rfl, rfl, -, -⟩ := second
  cases stats
  cases help
  rfl

theorem collects_foldl (build : Build Probability) (settings : List (Setting Probability)) :
    (settings.foldl Setting.apply { stallProbability := build.zero }).Collects build settings := by
  induction settings using List.reverseRecOn with
  | nil => constructor <;> simp
  | append_singleton settings setting ih =>
      rw [List.foldl_append]
      obtain ⟨elves, rawImages, trace, maxCycles, resetCycles, seed, probability, stats, help⟩ := ih
      constructor <;> simp only [List.filterMap_append, List.foldl_cons, List.foldl_nil] <;>
        cases setting <;>
        simp [Setting.apply, Setting.elf?, Setting.load?, Setting.trace?, Setting.maxCycles?,
          Setting.resetCycles?, Setting.seed?, Setting.stallProbability?, *]

theorem foldlM_edit (spec : PlatformSpec) (settings : List (Setting Probability)) :
    settings.foldlM Setting.edit spec = spec.setAll (settings.filterMap Setting.assignment?) := by
  induction settings generalizing spec with
  | nil => rfl
  | cons setting settings ih =>
      rw [List.foldlM_cons, List.filterMap_cons, Setting.edit]
      cases setting.assignment? with
      | none => exact ih spec
      | some assignment =>
          rw [PlatformSpec.setAll, List.foldlM_cons]
          exact congrArg _ (funext ih)

/-- Command lines.  The arguments are accepted exactly if they are a sequence of settings whose
assignments the specification accepts, with a limit that is not zero and a trace only where the
build has one; the options are then those that the settings ask for, and the specification is
edited by the assignments in their order, whichever option they were given with. -/
theorem command_line_exact {Probability : Type} (build : Build Probability)
    (spec next : PlatformSpec) (arguments : List String) (options : Options Probability) :
    parseOptions build spec arguments = .ok (options, next) ↔
      ∃ settings pieces, arguments = pieces.flatten ∧
        List.Forall₂ (Written build) settings pieces ∧
        spec.setAll (settings.filterMap Setting.assignment?) = .ok next ∧
        options.Collects build settings ∧ options.maxCycles ≠ 0 ∧
        (options.trace.isSome → build.traceEnabled = true) := by
  have traced : ∀ trace : Option String, (trace.isSome → build.traceEnabled = true) ↔
      ¬(build.traceEnabled = false ∧ trace ≠ none) := by
    intro trace
    cases trace <;> simp
  rw [parseOptions, bind_eq_ok_iff]
  constructor
  · rintro ⟨⟨after, edited⟩, looped, checked⟩
    obtain ⟨settings, pieces, whole, written, edits, rfl⟩ := parseLoop_eq_ok_iff.mp looped
    obtain ⟨limit, checked⟩ := reject_bind_eq_ok_iff.mp checked
    obtain ⟨trace, returned⟩ := reject_bind_eq_ok_iff.mp checked
    cases returned
    exact ⟨settings, pieces, whole, written, foldlM_edit spec settings ▸ edits,
      collects_foldl build settings, limit, (traced _).mpr trace⟩
  · rintro ⟨settings, pieces, whole, written, edits, collects, limit, trace⟩
    refine ⟨(options, next), parseLoop_eq_ok_iff.mpr ⟨settings, pieces, whole, written,
      (foldlM_edit spec settings).trans edits, collects.unique (collects_foldl build settings)⟩,
      reject_bind_eq_ok_iff.mpr ⟨limit, reject_bind_eq_ok_iff.mpr ⟨(traced _).mp trace, rfl⟩⟩⟩

end CommandLine

end AxiTestbench
