/-
**Reading settings from TOML.**

Each part of the settings is a table with the keys of its fields, or a list of the fields in order, of
which the surplus is not looked at. Every field has a default, and no other key is allowed. The first
entry that does not fit is reported; quoted texts in the report are hidden.

For an entry that does not fit there are exact words. A text that is not TOML is only told apart from the
others; the words for that are of no account, and they do not say where and what the fault is.

* `Settings.parse` — the settings that a text denotes.
* `Settings.load` — the settings in a file, and the event of having read them.
-/

import NameDomains.FileTree
import NameDomains.Log.Event
import NameDomains.Settings.Basic
import NameDomains.Text.Quoted
import NameDomains.Text.Redaction
import NameDomains.Toml.Reader

namespace NameDomains

namespace Settings

/-- An entry that does not fit. -/
inductive Misfit
  | unknownField (name : String) (expected : List String)
  | wrongType (found : Toml.Value) (expected : String)

/-- Why there are no settings. -/
inductive Error
  /-- The file cannot be read. -/
  | unreadable (path : String) (cause : FileError)
  /-- The text is not TOML. -/
  | malformed
  /-- An entry does not fit. -/
  | misfit (entry : Misfit)

/-! ### Words -/

/-- A binary number in words has its shortest digits, all by their places. -/
def showReal (value : Binary64) : String := value.render Decimal.positional .upward

/-- A value in words. -/
def describe : Toml.Value → String
  | .text value => "string " ++ Text.quote value
  | .integer value => "integer `" ++ toString value ++ "`"
  | .real value => "floating point `" ++ showReal value ++ "`"
  | .flag true => "boolean `true`"
  | .flag false => "boolean `false`"
  | .datetime => "map"
  | .list _ => "sequence"
  | .table .. => "map"
  | .tables _ => "sequence"

/-- A choice of names in words. -/
def describeChoice : List String → String
  | [] => "there are no fields"
  | [a] => "expected `" ++ a ++ "`"
  | [a, b] => "expected `" ++ a ++ "` or `" ++ b ++ "`"
  | names => "expected one of " ++ ", ".intercalate (names.map fun name => "`" ++ name ++ "`")

/-- A misfit in words, quoted texts included. -/
def Misfit.describe : Misfit → String
  | unknownField name expected => "unknown field `" ++ name ++ "`, " ++ describeChoice expected
  | wrongType found expected =>
    "invalid type: " ++ Settings.describe found ++ ", expected " ++ expected

/-- The error in words. -/
def Error.message : Error → String
  | unreadable path cause => "failed to read config file " ++ path ++ ": " ++ cause.message
  | malformed => "failed to parse toml config: malformed text"
  | misfit entry => "failed to parse toml config: " ++ Text.redact entry.describe

/-! ### Shapes -/

/-- The result of reading a value. -/
abbrev Decoded (α : Type) := Except Misfit α

/-- A truth value. -/
def decodeFlag : Toml.Value → Decoded Bool
  | .flag value => .ok value
  | found => .error (.wrongType found "a boolean")

/-- A text. -/
def decodeText : Toml.Value → Decoded String
  | .text value => .ok value
  | found => .error (.wrongType found "a string")

/-- The path of a file. -/
def decodePath : Toml.Value → Decoded String
  | .text value => .ok value
  | found => .error (.wrongType found "path string")

/-- A field of a part of the settings. -/
structure Field (Part : Type) where
  name : String
  decode : Part → Toml.Value → Decoded Part

/-- A part of the settings, read over its defaults field by field. -/
structure Schema (Part : Type) where
  name : String
  fields : List (Field Part)
  default : Part

namespace Schema

variable {Part : Type}

/-- Reads the value of a key. -/
def addKey (schema : Schema Part) (part : Part) (key : String) (value : Toml.Value) :
    Decoded Part :=
  match schema.fields.find? fun field => field.name = key with
  | some field => field.decode part value
  | none => .error (.unknownField key (schema.fields.map Field.name))

/-- Reads an entry of a table. -/
def addEntry (schema : Schema Part) (part : Part) (entry : Toml.Entry) : Decoded Part :=
  schema.addKey part entry.key entry.value

/-- Reads items into fields in order. -/
def addItems (part : Part) : List (Field Part) → List Toml.Value → Decoded Part
  | field :: fields, item :: items => do
    let part ← field.decode part item
    addItems part fields items
  | _, _ => .ok part

/-- Reads a part of the settings. A date has one key, which no part knows. -/
def decode (schema : Schema Part) : Toml.Value → Decoded Part
  | .table _ entries => entries.foldlM schema.addEntry schema.default
  | .list items => addItems schema.default schema.fields items
  | .tables rows => addItems schema.default schema.fields rows
  | .datetime => schema.addKey schema.default "$__toml_private_datetime" .datetime
  | found => .error (.wrongType found ("struct " ++ schema.name))

end Schema

end Settings

/-! ### The settings -/

/-- How resolver settings are written. -/
def ResolverSettings.schema : Settings.Schema ResolverSettings where
  name := "ResolverConfig"
  default := {}
  fields := [
    { name := "obfuscated"
      decode := fun part value => return { part with obfuscated := ← Settings.decodeFlag value } },
    { name := "mappings"
      decode := fun part value =>
        return { part with mappings := some (← Settings.decodePath value) } }]

/-- How log settings are written. -/
def LogSettings.schema : Settings.Schema LogSettings where
  name := "LoggingConfig"
  default := {}
  fields := [
    { name := "level"
      decode := fun part value => return { part with level := ← Settings.decodeText value } },
    { name := "json"
      decode := fun part value => return { part with json := ← Settings.decodeFlag value } },
    { name := "stderr"
      decode := fun part value => return { part with stderr := ← Settings.decodeFlag value } },
    { name := "file"
      decode := fun part value =>
        return { part with file := some (← Settings.decodePath value) } }]

namespace Settings

/-- How settings are written. -/
def schema : Schema Settings where
  name := "ObfmapConfig"
  default := {}
  fields := [
    { name := "resolver"
      decode := fun part value =>
        return { part with resolver := ← ResolverSettings.schema.decode value } },
    { name := "logging"
      decode := fun part value =>
        return { part with logging := ← LogSettings.schema.decode value } }]

/-- The settings in the root table of a document. -/
def ofEntries (entries : List Toml.Entry) : Decoded Settings :=
  schema.decode (.table .header entries)

/-- The settings that a text denotes. -/
def parse (text : String) : Except Error Settings :=
  match Toml.parse? text with
  | none => .error .malformed
  | some entries => (ofEntries entries).mapError .misfit

/-- The settings in a file; reading them is logged. -/
def load (files : FileTree) (path : String) : Logged (Except Error Settings) :=
  match files.readText path with
  | .error cause => pure (.error (.unreadable path cause))
  | .ok text =>
    match parse text with
    | .error error => pure (.error error)
    | .ok settings => do
      Logged.log (.configLoaded path settings.resolver.obfuscated)
      return .ok settings

end Settings

end NameDomains
