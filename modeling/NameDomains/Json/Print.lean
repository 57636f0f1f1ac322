/-
**Writing JSON.**

Nothing is written between the parts of a document. Inside a quoted text the mark, the backslash and five
controls follow a backslash, and the other controls are written by four hexadecimal digits.

* `quote` — a quoted text.
* `writeList`, `writeObject`, `writeMap` — lists and objects, given the texts of their parts.
-/

import Std.Data.ExtTreeMap

namespace NameDomains.Json

/-- A character inside a quoted text. -/
def escape (c : Char) : List Char :=
  if c = '"' then ['\\', '"']
  else if c = '\\' then ['\\', '\\']
  else if c = '\x08' then ['\\', 'b']
  else if c = '\x0c' then ['\\', 'f']
  else if c = '\n' then ['\\', 'n']
  else if c = '\r' then ['\\', 'r']
  else if c = '\t' then ['\\', 't']
  else if c < ' ' then
    let digits := Nat.toDigits 16 c.toNat
    ['\\', 'u'] ++ List.replicate (4 - digits.length) '0' ++ digits
  else [c]

/-- A quoted text. -/
def quote (text : String) : String :=
  String.ofList ('"' :: text.toList.flatMap escape ++ ['"'])

/-- A quoted text, or null for none. -/
def quoteOptional : Option String → String
  | some text => quote text
  | none => "null"

/-- A list of items. -/
def writeList (items : List String) : String := "[" ++ ",".intercalate items ++ "]"

/-- An entry of an object. -/
def writeEntry (entry : String × String) : String := quote entry.1 ++ ":" ++ entry.2

/-- An object of keys and values. -/
def writeObject (entries : List (String × String)) : String :=
  "\x7b" ++ ",".intercalate (entries.map writeEntry) ++ "\x7d"

/-- A map, by the order of its keys. -/
def writeMap {α : Type} (write : α → String) (map : Std.ExtTreeMap String α) : String :=
  writeObject (map.toList.map fun entry => (entry.1, write entry.2))

end NameDomains.Json
