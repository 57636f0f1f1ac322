/-
**Decoding JSON trees.**

A tree is walked from left to right as a value of a known shape, and the first problem ends the walk: a
fault of the text, or a value that its place does not take.

A record is written as an object or as the list of its fields in order. Keys that name no field are
passed over; a field given twice is a problem at its second key. A field that is not given is a
problem if it is required, and a list may not hold more items than the record has fields.

For a value that its place does not take there are exact words, though not the line and the column where it
stands. A fault of the text is told apart from a text that ends too early; what the words for either of the two
say is of no account, and they do not say where and what the fault is.

* `Problem`, `Problem.message` — what can be wrong, and the words for it.
* `decodeText`, `decodeOptionalText`, `decodeList`, `decodeMap`, `decodeRecord` — the shapes.
* `decodeDocument` — a whole text; nothing may follow the value.
-/

import NameDomains.Json.Node
import NameDomains.Text.Quoted
import Std.Data.ExtTreeMap

namespace NameDomains.Json

/-- A value that stands where another was expected. -/
inductive Found
  | null
  | flag (value : Bool)
  | number (value : Number)
  | text (value : String)
  | list
  | object
  deriving DecidableEq, Repr

/-- Why a document is not what it should be. -/
inductive Problem
  | fault (kind : Fault)
  | wrongType (found : Found) (expected : String)
  | missingField (name : String)
  | duplicateField (name : String)
  /-- A list is too short for the record it stands for. -/
  | wrongLength (length : Nat) (expected : String)
  deriving DecidableEq, Repr

/-! ### Words -/

/-- A binary number in words has its shortest digits, by places where the first one stands between
the fifth place after the point and the sixteenth before it, and with a power of ten otherwise. -/
def showReal (value : Binary64) : String :=
  value.render (fun number =>
    if number.digits = 0 || (-5 ≤ number.leadingPower && number.leadingPower ≤ 15) then
      number.positional
    else number.scientific) .even

/-- A value in words. -/
def Found.describe : Found → String
  | null => "null"
  | flag true => "boolean `true`"
  | flag false => "boolean `false`"
  | number (.integer value) => "integer `" ++ toString value ++ "`"
  | number (.real value) => "floating point `" ++ showReal value ++ "`"
  | text value => "string " ++ Text.quote value
  | list => "sequence"
  | object => "map"

/-- A problem in words. -/
def Problem.message : Problem → String
  | fault .malformed => "malformed text"
  | fault .truncated => "text ends too early"
  | wrongType found expected => "invalid type: " ++ found.describe ++ ", expected " ++ expected
  | missingField name => "missing field `" ++ name ++ "`"
  | duplicateField name => "duplicate field `" ++ name ++ "`"
  | wrongLength length expected => "invalid length " ++ toString length ++ ", expected " ++ expected

/-! ### Shapes -/

/-- The result of decoding a tree. -/
abbrev Decoded (α : Type) := Except Problem α

/-- The problem of a value that its place does not take; a fault of the value itself comes first. -/
def mismatch (node : Node) (expected : String) : Problem :=
  match node with
  | .null => .wrongType .null expected
  | .flag value => .wrongType (.flag value) expected
  | .number (some value) => .wrongType (.number value) expected
  | .number none => .fault .malformed
  | .text (some value) => .wrongType (.text value) expected
  | .text none => .fault .malformed
  | .list .. => .wrongType .list expected
  | .object .. => .wrongType .object expected
  | .broken kind _ => .fault kind

/-- Fails with a fault if there is one. -/
def failOn : Option Fault → Decoded Unit
  | some kind => .error (.fault kind)
  | none => .ok ()

/-- A text. -/
def decodeText : Node → Decoded String
  | .text (some value) => .ok value
  | node => .error (mismatch node "a string")

/-- A text, or null for none. -/
def decodeOptionalText : Node → Decoded (Option String)
  | .null => .ok none
  | node => some <$> decodeText node

/-- A list whose items have one shape. -/
def decodeList {α : Type} (decode : Node → Decoded α) : Node → Decoded (List α)
  | .list items ending => do
    let values ← items.mapM decode
    failOn ending
    return values
  | node => .error (mismatch node "a sequence")

/-- Adds one entry of a map; a later entry replaces an earlier one. -/
def addEntry {α : Type} (decode : Node → Decoded α) (map : Std.ExtTreeMap String α) :
    Entry → Decoded (Std.ExtTreeMap String α)
  | .mk key value => do
    let name ← decodeText key
    return map.insert name (← decode value)

/-- A map whose values have one shape. -/
def decodeMap {α : Type} (decode : Node → Decoded α) : Node → Decoded (Std.ExtTreeMap String α)
  | .object entries ending => do
    let map ← entries.foldlM (addEntry decode) ∅
    failOn ending
    return map
  | node => .error (mismatch node "a map")

/-! ### Records -/

/-- A field of a record, for a draft that holds what was read so far. -/
structure Field (Draft : Type) where
  name : String
  required : Bool
  isGiven : Draft → Bool
  decode : Draft → Node → Decoded Draft

/-- A record, read into a draft field by field. -/
structure Record (Draft : Type) where
  name : String
  fields : List (Field Draft)
  blank : Draft

namespace Record

variable {Draft : Type}

/-- What a value that is not this record should have been. -/
def expectation (record : Record Draft) : String := "struct " ++ record.name

/-- Reads one entry of an object into a draft. -/
def addEntry (record : Record Draft) (draft : Draft) : Entry → Decoded Draft
  | .mk key value => do
    let name ← decodeText key
    match record.fields.find? fun field => field.name = name with
    | some field =>
      if field.isGiven draft then throw (.duplicateField name)
      field.decode draft value
    | none =>
      failOn value.faultWhenSkipped
      return draft

/-- The first required field that a draft lacks. -/
def missing? (record : Record Draft) (draft : Draft) : Option (Field Draft) :=
  record.fields.find? fun field => field.required && !field.isGiven draft

/-- Reads an object. -/
def ofEntries (record : Record Draft) (entries : List Entry) (ending : Option Fault) :
    Decoded Draft := do
  let draft ← entries.foldlM record.addEntry record.blank
  failOn ending
  match record.missing? draft with
  | some field => throw (.missingField field.name)
  | none => return draft

/-- Reads the items of a list into the given fields in order. -/
def addItems (record : Record Draft) (ending : Option Fault) (draft : Draft) :
    List (Field Draft) → List Node → Decoded Draft
  | [], [] => do
    failOn ending
    return draft
  | [], _ :: _ => throw (.fault .malformed)
  | field :: fields, item :: items => do
    let draft ← field.decode draft item
    record.addItems ending draft fields items
  | field :: fields, [] => do
    failOn ending
    if field.required then
      let count := record.fields.length
      throw (.wrongLength (count - (fields.length + 1))
        (record.expectation ++ " with " ++ toString count ++ " elements"))
    record.addItems ending draft fields []

end Record

/-- A record, as an object or as a list of its fields. -/
def decodeRecord {Draft : Type} (record : Record Draft) : Node → Decoded Draft
  | .object entries ending => record.ofEntries entries ending
  | .list items ending => record.addItems ending record.blank record.fields items
  | node => .error (mismatch node record.expectation)

/-- A whole text as a value of one shape. -/
def decodeDocument {α : Type} (decode : Node → Decoded α) (text : String) : Decoded α := do
  let document := Document.read text.toList
  let value ← decode document.root
  if document.hasMore then throw (.fault .malformed)
  return value

end NameDomains.Json
