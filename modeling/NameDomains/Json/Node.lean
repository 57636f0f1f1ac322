/-
**JSON documents as trees, broken ones included.**

Reading a text gives a tree even where the text breaks off: the value that could not be read is a
broken leaf, and a list or an object that was not closed ends in a fault. Whoever walks the tree from
left to right so meets the first problem first.

Some leaves can be passed over but not decoded: a text with an unpaired surrogate and a number that is
not finite. A broken leaf has one fault for each way of reading it.

* `Node.read` — the value at the front of a text and, unless reading stopped, what follows it. Every
  call takes one unit of fuel, and every third one takes a character.
* `Document.read` — the tree of a whole text and whether anything follows it.
* `Node.faultWhenSkipped` — the first fault of a value that is passed over.
-/

import NameDomains.Json.Number

namespace NameDomains.Json

mutual

/-- A JSON value, or what could be read of it. -/
inductive Node
  | null
  | flag (value : Bool)
  /-- A number; none if it is not finite. -/
  | number (value : Option Number)
  /-- A text; none if a surrogate stands alone. -/
  | text (value : Option String)
  /-- The items of a list, and the fault in place of its end or of a comma. -/
  | list (items : List Node) (ending : Option Fault)
  /-- The entries of an object, and the fault in place of its end or of a comma. -/
  | object (entries : List Entry) (ending : Option Fault)
  /-- The fault met when decoding, and the one met when passing over. -/
  | broken (decoded skipped : Fault)

/-- A key and its value. -/
inductive Entry
  | mk (key value : Node)

end

namespace Node

/-! ### Reading -/

/-- Whether a character may stand between the parts of a document. -/
def isBlank (c : Char) : Bool := c = ' ' || c = '\n' || c = '\t' || c = '\r'

/-- A leaf with the same fault for both ways of reading. -/
def fault (kind : Fault) : Node := broken kind kind

/-- A value that a given word spells, after its first letter. -/
def readWord (value : Node) : List Char → List Char → Node × Option (List Char)
  | [], rest => (value, some rest)
  | _ :: _, [] => (fault .truncated, none)
  | c :: word, d :: rest => if c = d then readWord value word rest else (fault .malformed, none)

/-- A quoted text after its opening mark. -/
def readText (rest : List Char) : Node × Option (List Char) :=
  match readUnits rest with
  | (units, .ok rest) => (text ((decodeUnits units).map String.ofList), some rest)
  | (units, .error kind) => (broken (faultInText units kind) kind, none)

/-- A number. -/
def readNumberNode (start : List Char) : Node × Option (List Char) :=
  match readNumber start with
  | .ok (found, rest) => (number found.value?, some rest)
  | .error kind => (broken kind .malformed, none)

/-- A key, which is a quoted text. -/
def readKey (start : List Char) : Node × Option (List Char) :=
  match start.dropWhile isBlank with
  | [] => (fault .truncated, none)
  | '"' :: rest => readText rest
  | _ => (fault .malformed, none)

mutual

/-- The value at the front of a text, and what follows it unless reading stopped. -/
def read : Nat → List Char → Node × Option (List Char)
  | 0, _ => (fault .malformed, none)
  | fuel + 1, start =>
    match start.dropWhile isBlank with
    | [] => (fault .truncated, none)
    | '"' :: rest => readText rest
    | '[' :: rest =>
      let (items, ending, rest) := readList fuel rest
      (list items ending, rest)
    | '\x7b' :: rest =>
      let (entries, ending, rest) := readObject fuel rest
      (object entries ending, rest)
    | 'n' :: rest => readWord null ['u', 'l', 'l'] rest
    | 't' :: rest => readWord (flag true) ['r', 'u', 'e'] rest
    | 'f' :: rest => readWord (flag false) ['a', 'l', 's', 'e'] rest
    | c :: rest =>
      if c = '-' || c.isDigit then readNumberNode (c :: rest) else (fault .malformed, none)

/-- The items of a list after its opening bracket. -/
def readList : Nat → List Char → List Node × Option Fault × Option (List Char)
  | 0, _ => ([], some .malformed, none)
  | fuel + 1, start =>
    match start.dropWhile isBlank with
    | [] => ([], some .truncated, none)
    | ']' :: rest => ([], none, some rest)
    | rest => readItems fuel rest

/-- The items of a list from one item on. -/
def readItems : Nat → List Char → List Node × Option Fault × Option (List Char)
  | 0, _ => ([], some .malformed, none)
  | fuel + 1, start =>
    match read fuel start with
    | (item, none) => ([item], none, none)
    | (item, some rest) =>
      match rest.dropWhile isBlank with
      | [] => ([item], some .truncated, none)
      | ']' :: rest => ([item], none, some rest)
      | ',' :: rest =>
        let (items, ending, rest) := readItems fuel rest
        (item :: items, ending, rest)
      | _ => ([item], some .malformed, none)

/-- The entries of an object after its opening brace. -/
def readObject : Nat → List Char → List Entry × Option Fault × Option (List Char)
  | 0, _ => ([], some .malformed, none)
  | fuel + 1, start =>
    match start.dropWhile isBlank with
    | [] => ([], some .truncated, none)
    | '\x7d' :: rest => ([], none, some rest)
    | rest => readEntries fuel rest

/-- The entries of an object from one entry on. -/
def readEntries : Nat → List Char → List Entry × Option Fault × Option (List Char)
  | 0, _ => ([], some .malformed, none)
  | fuel + 1, start =>
    match readKey start with
    | (key, none) => ([.mk key null], none, none)
    | (key, some rest) =>
      match readEntryValue fuel rest with
      | (value, none) => ([.mk key value], none, none)
      | (value, some rest) =>
        match rest.dropWhile isBlank with
        | [] => ([.mk key value], some .truncated, none)
        | '\x7d' :: rest => ([.mk key value], none, some rest)
        | ',' :: rest =>
          let (entries, ending, rest) := readEntries fuel rest
          (.mk key value :: entries, ending, rest)
        | _ => ([.mk key value], some .malformed, none)

/-- The colon after a key and the value. -/
def readEntryValue : Nat → List Char → Node × Option (List Char)
  | 0, _ => (fault .malformed, none)
  | fuel + 1, start =>
    match start.dropWhile isBlank with
    | [] => (fault .truncated, none)
    | ':' :: rest => read fuel rest
    | _ => (fault .malformed, none)

end

/-! ### Passing over -/

mutual

/-- The first fault of a value that is passed over. -/
def faultWhenSkipped : Node → Option Fault
  | list items ending => (itemsFault items).or ending
  | object entries ending => (entriesFault entries).or ending
  | broken _ skipped => some skipped
  | _ => none

/-- The first fault of items that are passed over. -/
def itemsFault : List Node → Option Fault
  | [] => none
  | item :: items => item.faultWhenSkipped.or (itemsFault items)

/-- The first fault of entries that are passed over. -/
def entriesFault : List Entry → Option Fault
  | [] => none
  | .mk key value :: entries =>
    key.faultWhenSkipped.or (value.faultWhenSkipped.or (entriesFault entries))

end

end Node

/-- The tree of a text and whether anything but blanks follows the value. -/
structure Document where
  root : Node
  hasMore : Bool

/-- The tree of a whole text. -/
def Document.read (text : List Char) : Document :=
  match Node.read (3 * text.length + 3) text with
  | (root, some rest) => ⟨root, !(rest.all Node.isBlank)⟩
  | (root, none) => ⟨root, false⟩

end NameDomains.Json
