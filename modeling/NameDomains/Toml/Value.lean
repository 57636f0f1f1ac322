/-
**TOML values and tables.**

A table keeps its entries in the order in which their keys first came up. How a table came about decides
what may still be added to it: a table made by a header, or written between braces, is complete; one
that only lies on the path of a header or of a dotted key may grow.

* `Value.same_iff`, `Entry.same_iff` — whether two values are the same can be decided.
* `descend` — follows a path of keys into nested tables, making the ones that are missing. Inside an
  array of tables the last one is meant.
* `addPair` — adds a value under a dotted key.
* `openTable`, `openRow` — the table of a header, and the next table of an array.
* `Document.root` — the root table of a document, if its keys and headers agree.
-/

import NameDomains.Number.Decimal

namespace NameDomains.Toml

/-- How a table came about. -/
inductive Origin
  /-- By a header, or as the root. -/
  | header
  /-- On the path of a header. -/
  | path
  /-- On the path of a dotted key. -/
  | dotted
  /-- Between braces. -/
  | inline
  deriving DecidableEq, Repr

mutual

/-- A value. -/
inductive Value
  | text (value : String)
  | integer (value : Int)
  | real (value : Binary64)
  | flag (value : Bool)
  /-- A date, a time, or both. Which one is not kept. -/
  | datetime
  | list (items : List Value)
  | table (origin : Origin) (entries : List Entry)
  /-- An array of tables, made by headers. -/
  | tables (rows : List Value)

/-- A key and its value. -/
inductive Entry
  | mk (key : String) (value : Value)

end

namespace Entry

/-- The key of an entry. -/
def key : Entry → String
  | mk key _ => key

/-- The value of an entry. -/
def value : Entry → Value
  | mk _ value => value

end Entry

/-! ### Comparing values -/

mutual

/-- Whether a value is the same as another one. -/
def Value.same : Value → Value → Bool
  | .text value, .text other => value = other
  | .integer value, .integer other => value = other
  | .real value, .real other => value = other
  | .flag value, .flag other => value = other
  | .datetime, .datetime => true
  | .list items, .list others => Value.sameList items others
  | .table origin entries, .table other others => origin = other && Entry.sameList entries others
  | .tables rows, .tables others => Value.sameList rows others
  | _, _ => false

/-- Whether an entry is the same as another one. -/
def Entry.same : Entry → Entry → Bool
  | .mk key value, .mk other found => key = other && value.same found

/-- Whether values are the same as others, one by one. -/
def Value.sameList : List Value → List Value → Bool
  | [], [] => true
  | value :: values, other :: others => value.same other && Value.sameList values others
  | _, _ => false

/-- Whether entries are the same as others, one by one. -/
def Entry.sameList : List Entry → List Entry → Bool
  | [], [] => true
  | entry :: entries, other :: others => entry.same other && Entry.sameList entries others
  | _, _ => false

end

mutual

theorem Value.same_iff : (value other : Value) → (value.same other = true ↔ value = other)
  | .text _, other | .integer _, other | .real _, other | .flag _, other | .datetime, other => by
    cases other <;> simp [Value.same]
  | .list items, other => by cases other <;> simp [Value.same, Value.sameList_iff items]
  | .table origin entries, other => by cases other <;> simp [Value.same, Entry.sameList_iff entries]
  | .tables rows, other => by cases other <;> simp [Value.same, Value.sameList_iff rows]

theorem Entry.same_iff : (entry other : Entry) → (entry.same other = true ↔ entry = other)
  | .mk key value, .mk other found => by simp [Entry.same, Value.same_iff value]

theorem Value.sameList_iff : (values others : List Value) →
    (Value.sameList values others = true ↔ values = others)
  | [], others => by cases others <;> simp [Value.sameList]
  | value :: values, others => by
    cases others <;> simp [Value.sameList, Value.same_iff value, Value.sameList_iff values]

theorem Entry.sameList_iff : (entries others : List Entry) →
    (Entry.sameList entries others = true ↔ entries = others)
  | [], others => by cases others <;> simp [Entry.sameList]
  | entry :: entries, others => by
    cases others <;> simp [Entry.sameList, Entry.same_iff entry, Entry.sameList_iff entries]

end

instance : DecidableEq Value := fun value other => decidable_of_iff _ (value.same_iff other)

instance : DecidableEq Entry := fun entry other => decidable_of_iff _ (entry.same_iff other)

/-! ### Tables -/

/-- The value of a key. -/
def lookup? (entries : List Entry) (key : String) : Option Value :=
  (entries.find? fun entry => entry.key = key).map Entry.value

/-- Gives a key that is there another value, in its place. -/
def replace (entries : List Entry) (key : String) (value : Value) : List Entry :=
  entries.map fun entry => if entry.key = key then .mk key value else entry

/-- Takes a key out. -/
def erase (entries : List Entry) (key : String) : List Entry :=
  entries.filter fun entry => entry.key ≠ key

/-- Changes the table at the end of a path. Missing tables on the way are made, with the given origin. A
dotted key does not pass a complete table, and no path passes anything else. -/
def descend (made : Origin) (change : Origin → List Entry → Option (List Entry)) :
    List String → Origin → List Entry → Option (List Entry)
  | [], origin, entries => change origin entries
  | key :: path, _, entries =>
    match lookup? entries key with
    | none => do
      let inner ← descend made change path made []
      return entries ++ [.mk key (.table made inner)]
    | some (.table .inline _) => none
    | some (.table origin inner) =>
      if made = .dotted && origin = .header then none
      else do
        let inner ← descend made change path origin inner
        return replace entries key (.table origin inner)
    | some (.tables rows) =>
      match rows.getLast? with
      | some (.table origin inner) => do
        let inner ← descend made change path origin inner
        return replace entries key (.tables (rows.dropLast ++ [.table origin inner]))
      | _ => none
    | some _ => none

/-- Adds a value under a key of its own. A dotted key may only add to a table made by dotted keys, and a
plain key never does. -/
def addValue (isDotted : Bool) (key : String) (value : Value) (origin : Origin)
    (entries : List Entry) : Option (List Entry) :=
  if decide (origin = .dotted) ≠ isDotted then none
  else if (lookup? entries key).isSome then none
  else some (entries ++ [.mk key value])

/-- A dotted key and a value. -/
structure Pair where
  path : List String
  key : String
  value : Value
  deriving DecidableEq

/-- Adds a pair to a complete table. -/
def addPair (entries : List Entry) (pair : Pair) : Option (List Entry) :=
  descend .dotted (addValue (!pair.path.isEmpty) pair.key pair.value) pair.path .header entries

/-- The entries of a table that holds the given pairs, in order. -/
def addPairs (entries : List Entry) (pairs : List Pair) : Option (List Entry) :=
  pairs.foldlM addPair entries

/-! ### Headers -/

/-- Opens the table of a header and fills it. The key must be new, or a table that so far only lay on
the path of other headers; either way it comes last from now on. -/
def openTable (key : String) (pairs : List Pair) (_ : Origin) (entries : List Entry) :
    Option (List Entry) := do
  let start ←
    match lookup? entries key with
    | none => some []
    | some (.table .path inner) => some inner
    | some _ => none
  let inner ← addPairs start pairs
  return erase entries key ++ [.mk key (.table .header inner)]

/-- Adds a table to an array of tables and fills it. -/
def openRow (key : String) (pairs : List Pair) (_ : Origin) (entries : List Entry) :
    Option (List Entry) :=
  match lookup? entries key with
  | none => do
    let inner ← addPairs [] pairs
    return entries ++ [.mk key (.tables [.table .header inner])]
  | some (.tables rows) => do
    let inner ← addPairs [] pairs
    return replace entries key (.tables (rows ++ [.table .header inner]))
  | some _ => none

/-- A header and the pairs below it. -/
structure Section where
  /-- Whether the header adds to an array of tables. -/
  isRow : Bool
  path : List String
  key : String
  pairs : List Pair
  deriving DecidableEq

/-- Adds a section to the root table. -/
def addSection (entries : List Entry) (part : Section) : Option (List Entry) :=
  let fill := if part.isRow then openRow else openTable
  descend .path (fill part.key part.pairs) part.path .header entries

/-- The pairs before the first header, and the sections. -/
structure Document where
  pairs : List Pair
  sections : List Section
  deriving DecidableEq

/-- The entries of the root table, if keys and headers agree. -/
def Document.root (document : Document) : Option (List Entry) := do
  let entries ← addPairs [] document.pairs
  document.sections.foldlM addSection entries

end NameDomains.Toml
