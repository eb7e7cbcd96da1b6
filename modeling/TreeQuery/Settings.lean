import TreeQuery.Catalog.Definition
import TreeQuery.Environment
import TreeQuery.Text.Digit

/-!
Settings of the compiler: where they come from and when they are valid.

Settings are read from a written record or from environment variables.  What is not given takes its
default; what is given is checked, and all violations are reported together.
-/

namespace TreeQuery

structure Settings where
  stem : String := "t"
  /-- How many relations may be nested, in selections and filters together. -/
  maxDepth : Nat := 16
  chunkSize : Nat := 50
  /-- Whether a key may name a property whose first letter has the other case. -/
  caseFallback : Bool := true
  deriving DecidableEq, Repr

/-! ## Validity -/

inductive Violation where
  | stemLength
  | stemLetters
  | chunkSizeRange
  | maxDepthRange
  deriving DecidableEq, Repr

namespace Violation

def field : Violation → String
  | .stemLength => "alias_prefix"
  | .stemLetters => "alias_prefix"
  | .chunkSizeRange => "json_chunk_size"
  | .maxDepthRange => "max_nesting_depth"

def code : Violation → String
  | .stemLength => "length"
  | .stemLetters => "alias_prefix"
  | .chunkSizeRange => "range"
  | .maxDepthRange => "range"

def message : Violation → String
  | .stemLength => "Alias prefix must be 1-8 characters"
  | .stemLetters =>
      "Alias prefix must start with a letter and contain only lowercase letters and digits"
  | .chunkSizeRange => "JSON object chunk size must be between 1 and 50"
  | .maxDepthRange => "Max nesting depth must be between 1 and 64"

end Violation

namespace Settings

def isStemLetter (c : Char) : Bool := 'a' ≤ c && c ≤ 'z'

def hasStemLetters (stem : String) : Bool :=
  stem.toList.head?.any isStemLetter && stem.toList.all fun c => isStemLetter c || Text.isDigit c

def satisfies (settings : Settings) : Violation → Bool
  | .stemLength => 1 ≤ settings.stem.length && settings.stem.length ≤ 8
  | .stemLetters => hasStemLetters settings.stem
  | .chunkSizeRange => 1 ≤ settings.chunkSize && settings.chunkSize ≤ 50
  | .maxDepthRange => 1 ≤ settings.maxDepth && settings.maxDepth ≤ 64

/-- All rules that are broken, ordered by the setting at fault. -/
def violations (settings : Settings) : List Violation :=
  [Violation.stemLength, .stemLetters, .chunkSizeRange, .maxDepthRange].filter fun rule =>
    !settings.satisfies rule

end Settings

/-! ## Errors -/

inductive SettingFault where
  | empty
  | invalidDigit
  | tooLarge
  | noBoolean
  deriving DecidableEq, Repr

def SettingFault.message : SettingFault → String
  | .empty => "cannot parse integer from empty string"
  | .invalidDigit => "invalid digit found in string"
  | .tooLarge => "number too large to fit in target type"
  | .noBoolean => "provided string was not `true` or `false`"

inductive SettingsError where
  | variable (name text : String) (fault : SettingFault)
  | unreadable (reason : String)
  | unparsable
  | invalid (violations : List Violation)
  deriving DecidableEq, Repr

def Settings.checked (settings : Settings) : Except SettingsError Settings :=
  if settings.violations.isEmpty then .ok settings else .error (.invalid settings.violations)

/-! ## Environment variables -/

def readDigits (limit : Nat) : Nat → List Char → Except SettingFault Nat
  | value, [] => .ok value
  | value, c :: rest =>
      if Text.isDigit c then
        let value := value * 10 + Text.digitValue c
        if limit < value then .error .tooLarge else readDigits limit value rest
      else .error .invalidDigit

def readNatural (limit : Nat) (text : String) : Except SettingFault Nat :=
  match text.toList with
  | [] => .error .empty
  | ['+'] => .error .invalidDigit
  | '+' :: digits => readDigits limit 0 digits
  | digits => readDigits limit 0 digits

def readFlag : String → Except SettingFault Bool
  | "true" => .ok true
  | "false" => .ok false
  | _ => .error .noBoolean

def maxWord32 : Nat := 0xFFFFFFFF

def maxWord64 : Nat := 0xFFFFFFFFFFFFFFFF

def Environment.read {α : Type} (environment : Environment) (name : String) (default : α)
    (read : String → Except SettingFault α) : Except SettingsError α :=
  match environment.lookup name with
  | none => .ok default
  | some text =>
      match read text with
      | .ok value => .ok value
      | .error fault => .error (.variable name text fault)

namespace Settings

def ofEnvironment (environment : Environment) : Except SettingsError Settings := do
  let stem := (environment.lookup "NESTQL_ALIAS_PREFIX").getD "t"
  let maxDepth ← environment.read "NESTQL_MAX_NESTING_DEPTH" 16 (readNatural maxWord32)
  let chunkSize ← environment.read "NESTQL_JSON_CHUNK_SIZE" 50 (readNatural maxWord64)
  let caseFallback ← environment.read "NESTQL_CASE_FALLBACK" true readFlag
  checked { stem, maxDepth, chunkSize, caseFallback }

/-! ## Records -/

variable {ν : Type} [Written ν]

def readBounded (limit : Nat) (value : ν) : Option Nat :=
  (Written.natural? value).filter (· ≤ limit)

def fieldNames : List String :=
  ["alias_prefix", "max_nesting_depth", "json_chunk_size", "case_fallback"]

def read (value : ν) : Option Settings := do
  let fields ← Written.fields? fieldNames value
  let stem ← defaultedField "t" readText "alias_prefix" fields
  let maxDepth ← defaultedField 16 (readBounded maxWord32) "max_nesting_depth" fields
  let chunkSize ← defaultedField 50 (readBounded maxWord64) "json_chunk_size" fields
  let caseFallback ← defaultedField true Written.flag? "case_fallback" fields
  pure { stem, maxDepth, chunkSize, caseFallback }

def ofWritten (value : ν) : Except SettingsError Settings :=
  match read value with
  | some settings => settings.checked
  | none => .error .unparsable

def ofFile : Except String String → Except SettingsError Settings
  | .error reason => .error (.unreadable reason)
  | .ok text =>
      match Yaml.Node.parse? text with
      | some node => ofWritten node
      | none => .error .unparsable

end Settings

end TreeQuery
