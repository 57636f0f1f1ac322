/-
**TOML documents.**

A document is a sequence of lines: pairs of a key and a value, headers of tables, comments. It is read
into pairs and sections first, and these are put together into one table.

Lists and tables written inside values may be nested `79` deep, and a dotted key has at most as many
parts. Every call of the readers that meet each other takes one unit of fuel; a text needs at most two
for each of its characters.

* `readValue` — a value and what follows it.
* `readDocument` — the pairs and sections of a text.
* `parse?` — the entries of the root table, if the text is TOML.
-/

import NameDomains.Toml.Scalar

namespace NameDomains.Toml

/-! ### Keys -/

/-- Whether a character may stand in a key without quotation marks. -/
def isKeyChar (c : Char) : Bool :=
  ('a' ≤ c && c ≤ 'z') || ('A' ≤ c && c ≤ 'Z') || c.isDigit || c = '_' || c = '-'

/-- One part of a key. A key in quotation marks stands on one line. -/
def readKeyPart? (text : List Char) : Option (String × List Char) :=
  match text with
  | '"' :: rest => (readBasic rest).map fun found => (String.ofList found.1, found.2)
  | '\'' :: rest => (readLiteral rest).map fun found => (String.ofList found.1, found.2)
  | _ =>
    match text.takeWhile isKeyChar with
    | [] => none
    | name => some (String.ofList name, text.dropWhile isKeyChar)

/-- The parts of a key, with the blanks around them. -/
def readKeyParts? : Nat → List Char → Option (List String × List Char)
  | 0, _ => none
  | fuel + 1, text => do
    let (name, rest) ← readKeyPart? (skipBlanks text)
    match skipBlanks rest with
    | '.' :: rest => do
      let (names, rest) ← readKeyParts? fuel rest
      return (name :: names, rest)
    | rest => return ([name], rest)

/-- The greatest depth of lists and tables, and the greatest number of parts of a key. -/
def depthLimit : Nat := 79

/-- A key: the path to its table, and its last part. -/
def readKey? (text : List Char) : Option ((List String × String) × List Char) := do
  let (names, rest) ← readKeyParts? depthLimit text
  return ((names.dropLast, names.getLast?.getD ""), rest)

/-! ### Values -/

/-- Skips blanks, ends of lines and comments; a comment must end with its line. -/
def skipSpace (inComment : Bool) : List Char → Option (List Char)
  | [] => if inComment then none else some []
  | '\r' :: '\n' :: rest => skipSpace false rest
  | c :: rest =>
    if c = '\n' then skipSpace false rest
    else if inComment then if isPlain c then skipSpace true rest else none
    else if c = '#' then skipSpace true rest
    else if isBlank c then skipSpace false rest
    else some (c :: rest)

/-- A scalar value other than a text. -/
def readScalar? (text : List Char) : Option (Value × List Char) :=
  match text with
  | 't' :: 'r' :: 'u' :: 'e' :: rest => some (.flag true, rest)
  | 'f' :: 'a' :: 'l' :: 's' :: 'e' :: rest => some (.flag false, rest)
  | _ =>
    match readDatetime? text with
    | some rest => some (.datetime, rest)
    | none => readNumber? text

mutual

/-- A value, inside which lists and tables may be nested so deep. -/
def readValue (room : Nat) : Nat → List Char → Option (Value × List Char)
  | 0, _ => none
  | fuel + 1, text =>
    match text with
    | '[' :: rest =>
      match room with
      | 0 => none
      | room + 1 => do
        let (items, rest) ← readList room fuel rest
        return (.list items, rest)
    | '\x7b' :: rest =>
      match room with
      | 0 => none
      | room + 1 => do
        let (pairs, rest) ← readInline room fuel rest
        return (.table .inline (← addPairs [] pairs), rest)
    | c :: rest =>
      if c = '"' || c = '\'' then
        (readQuoted? (c :: rest)).map fun found => (.text found.1, found.2)
      else readScalar? (c :: rest)
    | [] => none
termination_by structural fuel => fuel

/-- The items of a list after its opening bracket or after a comma. -/
def readList (room : Nat) : Nat → List Char → Option (List Value × List Char)
  | 0, _ => none
  | fuel + 1, text => do
    match ← skipSpace false text with
    | ']' :: rest => return ([], rest)
    | text => do
      let (item, rest) ← readValue room fuel text
      match ← skipSpace false rest with
      | ']' :: rest => return ([item], rest)
      | ',' :: rest => do
        let (items, rest) ← readList room fuel rest
        return (item :: items, rest)
      | _ => none
termination_by structural fuel => fuel

/-- The pairs of a table between braces after the opening one. -/
def readInline (room : Nat) : Nat → List Char → Option (List Pair × List Char)
  | 0, _ => none
  | fuel + 1, text =>
    match skipBlanks text with
    | '\x7d' :: rest => some ([], rest)
    | text => readInlinePairs room fuel text
termination_by structural fuel => fuel

/-- The pairs of a table between braces from one pair on. -/
def readInlinePairs (room : Nat) : Nat → List Char → Option (List Pair × List Char)
  | 0, _ => none
  | fuel + 1, text => do
    let ((path, key), rest) ← readKey? text
    let rest ← readChar? '=' rest
    let (value, rest) ← readValue room fuel (skipBlanks rest)
    match skipBlanks rest with
    | '\x7d' :: rest => return ([⟨path, key, value⟩], rest)
    | ',' :: rest => do
      let (pairs, rest) ← readInlinePairs room fuel rest
      return (⟨path, key, value⟩ :: pairs, rest)
    | _ => none
termination_by structural fuel => fuel

end

/-! ### Lines -/

/-- What follows the blanks, the comment and the end of a line. -/
def readLineEnd? (text : List Char) : Option (List Char) :=
  let rest :=
    match skipBlanks text with
    | '#' :: rest => rest.dropWhile isPlain
    | rest => rest
  match rest with
  | [] => some []
  | rest => readNewline? rest

/-- What a line says. -/
inductive Line
  | blank
  | pair (pair : Pair)
  | header (isRow : Bool) (path : List String) (key : String)

/-- The header of a table after its opening brackets. -/
def readHeader? (isRow : Bool) (text : List Char) : Option (Line × List Char) := do
  let ((path, key), rest) ← readKey? text
  let rest ← readChar? ']' rest
  let rest ← if isRow then readChar? ']' rest else some rest
  return (.header isRow path key, rest)

/-- A pair with its key and value. -/
def readPair? (text : List Char) : Option (Line × List Char) := do
  let ((path, key), rest) ← readKey? text
  let rest ← readChar? '=' rest
  let (value, rest) ← readValue depthLimit (2 * rest.length + 2) (skipBlanks rest)
  return (.pair ⟨path, key, value⟩, rest)

/-- What a line says, without its end. -/
def readLine? (text : List Char) : Option (Line × List Char) :=
  match skipBlanks text with
  | '[' :: '[' :: rest => readHeader? true rest
  | '[' :: rest => readHeader? false rest
  | rest => if (readLineEnd? rest).isSome then some (.blank, rest) else readPair? rest

/-- The lines of a text. -/
def readLines? : Nat → List Char → Option (List Line)
  | _, [] => some []
  | 0, _ => none
  | fuel + 1, text => do
    let (line, rest) ← readLine? text
    let lines ← readLines? fuel (← readLineEnd? rest)
    return line :: lines

/-- Lines as pairs and sections. -/
def Document.ofLines : List Line → Document
  | [] => ⟨[], []⟩
  | .blank :: lines => ofLines lines
  | .pair pair :: lines =>
    let document := ofLines lines
    ⟨pair :: document.pairs, document.sections⟩
  | .header isRow path key :: lines =>
    let document := ofLines lines
    ⟨[], ⟨isRow, path, key, document.pairs⟩ :: document.sections⟩

/-- The pairs and sections of a text; a mark of the byte order may stand before it. -/
def readDocument (text : List Char) : Option Document :=
  let text := if text.head? = some '\ufeff' then text.drop 1 else text
  (readLines? (text.length + 1) text).map Document.ofLines

/-- The entries of the root table, if the text is TOML. -/
def parse? (text : String) : Option (List Entry) := do
  (← readDocument text.toList).root

end NameDomains.Toml
