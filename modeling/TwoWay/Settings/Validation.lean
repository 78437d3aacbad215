import TwoWay.Settings.Basic
import TwoWay.Value.Quoted
import TwoWay.Schema.Basic

/-!
# Reading settings

Settings are read from named values. A flag may be written as a truth value, as the number
zero or one, or as one of a few words; a level in any case; a policy exactly. Everything
that is wrong is reported: what concerns the fields first, in their order, then the names
that are no fields and the keys that are no names.
-/

namespace TwoWay

/-- What is wrong with a setting. -/
inductive SettingsFault where
  | notText
  /-- Bytes that are no text. -/
  | notUnicode
  | unknownLevel (text : String)
  | notFlag
  | unreadableFlag
  | unknownPolicy
  | unknownName
  /-- A key that is no text. -/
  | notName
  | notSection (name : String)
  | frozen
  deriving DecidableEq, Repr

/-- A key of a section: a name or, among keys that are none, a number or the written form of
another value. -/
inductive SettingsKey where
  | name (text : String)
  | number (i : Int)
  | written (text : String)
  deriving DecidableEq, Repr

/-- A fault and where it is: the keys from the outside in. -/
structure SettingsError where
  place : List SettingsKey
  fault : SettingsFault
  deriving DecidableEq, Repr

namespace SettingsFault

def kind : SettingsFault → String
  | .notText => "string_type"
  | .notUnicode => "string_unicode"
  | .unknownLevel _ => "value_error"
  | .notFlag => "bool_type"
  | .unreadableFlag => "bool_parsing"
  | .unknownPolicy => "literal_error"
  | .unknownName => "extra_forbidden"
  | .notName => "invalid_key"
  | .notSection _ => "model_type"
  | .frozen => "frozen_instance"

def message : SettingsFault → String
  | .notText => "Input should be a valid string"
  | .notUnicode =>
    "Input should be a valid string, unable to parse raw data as a unicode string"
  | .unknownLevel t => "Value error, Unknown log level '" ++ t ++
    "'. Expected one of: CRITICAL, DEBUG, ERROR, INFO, WARNING"
  | .notFlag => "Input should be a valid boolean"
  | .unreadableFlag => "Input should be a valid boolean, unable to interpret input"
  | .unknownPolicy => "Input should be 'passthrough' or 'error'"
  | .unknownName => "Extra inputs are not permitted"
  | .notName => "Keys should be strings"
  | .notSection name => "Input should be a valid dictionary or instance of " ++ name
  | .frozen => "Instance is frozen"

end SettingsFault

namespace LogLevel

def text : LogLevel → String
  | .debug => "DEBUG"
  | .info => "INFO"
  | .warning => "WARNING"
  | .error => "ERROR"
  | .critical => "CRITICAL"

def all : List LogLevel := [.debug, .info, .warning, .error, .critical]

/-- The capital of a letter; the dotless i has the capital of the i. -/
def capital (c : Char) : Char := if c = 'ı' then 'I' else c.toUpper

/-- The level that a text names in any case. -/
def ofText? (text : String) : Option LogLevel := all.find? (·.text = text.map capital)

/-- Records of a level count by this number. -/
def number : LogLevel → Nat
  | .debug => 10
  | .info => 20
  | .warning => 30
  | .error => 40
  | .critical => 50

end LogLevel

def UnknownKindPolicy.text : UnknownKindPolicy → String
  | .passthrough => "passthrough"
  | .error => "error"

/-- Named values. -/
abbrev Fields := List (String × Datum)

/-- Numbers in settings are integers of 64 bits. -/
def isSettingsNumber (i : Int) : Bool := -(powerOfTwo 63 : Int) ≤ i && i < powerOfTwo 63

/-- The key that a value stands for. -/
def SettingsKey.ofValue (v : Datum) : SettingsKey :=
  match v, v.asInteger? with
  | .str s, _ => .name s
  | v, some i => if isSettingsNumber i then .number i else .written v.quoted
  | v, none => .written v.quoted

namespace Settings

/-- A text; bytes are read as one. -/
def readText (v : Datum) : Except SettingsFault String :=
  match v with
  | .str s => .ok s
  | .bytes bs => ((String.fromUTF8? ⟨bs.toArray⟩).map Except.ok).getD (.error .notUnicode)
  | _ => .error .notText

def readLevel (v : Datum) : Except SettingsFault LogLevel := do
  let text ← readText v
  match LogLevel.ofText? text with
  | some level => return level
  | none => throw (.unknownLevel text)

def readPolicy (v : Datum) : Except SettingsFault UnknownKindPolicy :=
  match v with
  | .str "passthrough" => .ok .passthrough
  | .str "error" => .ok .error
  | _ => .error .unknownPolicy

/-- The flag that a word stands for. -/
def flagOfWord (word : String) : Except SettingsFault Bool :=
  let small := word.map Char.toLower
  if ["1", "on", "t", "true", "y", "yes"].contains small then .ok true
  else if ["0", "off", "f", "false", "n", "no"].contains small then .ok false
  else .error .unreadableFlag

/-- The flag that a number stands for. -/
def flagOfInteger (i : Int) : Except SettingsFault Bool :=
  if !isSettingsNumber i then .error .notFlag
  else if i = 0 then .ok false else if i = 1 then .ok true else .error .unreadableFlag

def readFlag (v : Datum) : Except SettingsFault Bool :=
  match v with
  | .bool b => .ok b
  | .int i => flagOfInteger i
  | .float d =>
    if d.isInteger then flagOfInteger (d.truncate?.getD 0) else .error .notFlag
  | .str s => flagOfWord s
  | .bytes _ => do flagOfWord (← (readText v).mapError fun _ => .unreadableFlag)
  | _ => .error .notFlag

/-- Values under keys. -/
abbrev Keyed := List (SettingsKey × Datum)

def entriesOf (fields : Fields) : Keyed := fields.map fun f => (.name f.1, f.2)

/-- A field by its name: its value or the default, with the errors so far. -/
def readField {α : Type} (entries : Keyed) (place : List SettingsKey) (name : String)
    (fallback : α) (read : Datum → Except SettingsFault α) : α × List SettingsError :=
  match entries.lookup (.name name) with
  | none => (fallback, [])
  | some v =>
    match read v with
    | .ok a => (a, [])
    | .error f => (fallback, [⟨place ++ [.name name], f⟩])

/-- The keys that are no names, and the names that are no fields. -/
def unknownKeys (entries : Keyed) (place : List SettingsKey) (names : List String) :
    List SettingsError :=
  entries.filterMap fun e =>
    match e.1 with
    | .name n => if names.contains n then none else some ⟨place ++ [e.1], .unknownName⟩
    | _ => some ⟨place ++ [e.1], .notName⟩

/-- Logging settings and what is wrong with them. -/
def readLogging (place : List SettingsKey) (entries : Keyed) :
    LoggingSettings × List SettingsError :=
  let (level, e₁) := readField entries place "level" .warning readLevel
  let (json, e₂) := readField entries place "json_output" false readFlag
  (⟨level, json⟩, e₁ ++ e₂ ++ unknownKeys entries place ["level", "json_output"])

/-- Inversion settings and what is wrong with them. -/
def readInversion (place : List SettingsKey) (entries : Keyed) :
    InversionSettings × List SettingsError :=
  let (policy, e₁) := readField entries place "unknown_kind" .passthrough readPolicy
  let (log, e₂) := readField entries place "log_elisions" false readFlag
  (⟨policy, log⟩, e₁ ++ e₂ ++ unknownKeys entries place ["unknown_kind", "log_elisions"])

/-- A section of a document. -/
def readSection {α : Type} (entries : Keyed) (name model : String) (fallback : α)
    (read : List SettingsKey → Keyed → α × List SettingsError) : α × List SettingsError :=
  match entries.lookup (.name name) with
  | none => (fallback, [])
  | some (.dict _ inner) =>
    read [.name name] (inner.map fun e => (SettingsKey.ofValue e.1, e.2))
  | some _ => (fallback, [⟨[.name name], .notSection model⟩])

/-- A whole document and what is wrong with it. -/
def readDocument (entries : Keyed) : Settings × List SettingsError :=
  let (logging, e₁) := readSection entries "logging" "LoggingSettings" {} readLogging
  let (inversion, e₂) := readSection entries "inversion" "InversionSettings" {} readInversion
  (⟨logging, inversion⟩, e₁ ++ e₂ ++ unknownKeys entries [] ["logging", "inversion"])

/-- What was read, if nothing was wrong. -/
def accepted {α : Type} (r : α × List SettingsError) : Except (List SettingsError) α :=
  if r.2.isEmpty then .ok r.1 else .error r.2

end Settings

/-- Logging settings of named values. -/
def LoggingSettings.ofFields (fields : Fields) : Except (List SettingsError) LoggingSettings :=
  Settings.accepted (Settings.readLogging [] (Settings.entriesOf fields))

/-- Inversion settings of named values. -/
def InversionSettings.ofFields (fields : Fields) :
    Except (List SettingsError) InversionSettings :=
  Settings.accepted (Settings.readInversion [] (Settings.entriesOf fields))

/-- A settings document of named values. -/
def Settings.ofFields (fields : Fields) : Except (List SettingsError) Settings :=
  Settings.accepted (Settings.readDocument (Settings.entriesOf fields))

end TwoWay
