/-
**The class table: human and runtime class names, one to one.**

A class table is built from pairs of a human and a runtime name. Pairs with an empty side are left
out. Names are kept in internal form, and every name remembers how it was first spelled. A name that
would get two counterparts is a conflict, and no table is built.

* `ClassTable.ofPairs` — the table of a list of pairs, or its first conflict.
* `ClassTable.counterpart?` — the counterpart of a name in either spelling, in internal form.
* `ClassTable.resolve` — the counterpart in the style of the query; an unknown name comes back as it
  is, with a warning.
* `ClassTable.directed` — the table as a renaming of the classes in a descriptor.
* `ClassTable.pairs` — the classes of the table as they were first spelled.
-/

import NameDomains.ClassName
import NameDomains.Descriptor.Renaming
import NameDomains.Log.Event
import Std.Data.ExtTreeMap

namespace NameDomains

/-- Names by name. -/
abbrev NameMap := Std.ExtTreeMap String String

/-- Human and runtime class names and their first spellings, all by internal form. -/
structure ClassTable where
  runtimeOf : NameMap
  humanOf : NameMap
  humanSpelling : NameMap
  runtimeSpelling : NameMap
  deriving DecidableEq

namespace ClassTable

/-- The table without classes. -/
def empty : ClassTable := ⟨∅, ∅, ∅, ∅⟩

/-- One name with two counterparts. -/
structure Conflict where
  name : String
  first : String
  second : String
  deriving DecidableEq, Repr

/-! ### Building -/

/-- Relates a name to its counterpart unless it has another one. -/
def relate (map : NameMap) (name counterpart : String) : Except Conflict NameMap :=
  match map[name]? with
  | none => .ok (map.insert name counterpart)
  | some first => if first = counterpart then .ok map else .error ⟨name, first, counterpart⟩

/-- Adds a pair of a human and a runtime name; a pair with an empty side adds nothing. -/
def add (table : ClassTable) (pair : String × String) : Except Conflict ClassTable := do
  let (human, runtime) := pair
  if human = "" || runtime = "" then return table
  let humanName := ClassName.internal human
  let runtimeName := ClassName.internal runtime
  let runtimeOf ← relate table.runtimeOf humanName runtimeName
  let humanOf ← relate table.humanOf runtimeName humanName
  return {
    runtimeOf
    humanOf
    humanSpelling := table.humanSpelling.insertIfNew humanName human
    runtimeSpelling := table.runtimeSpelling.insertIfNew runtimeName runtime }

/-- The table of a list of pairs, taken in order. -/
def ofPairs (pairs : List (String × String)) : Except Conflict ClassTable :=
  pairs.foldlM add empty

/-! ### Looking up -/

/-- The counterparts of internal names in a direction. -/
def counterparts (table : ClassTable) : Direction → NameMap
  | .toRuntime => table.runtimeOf
  | .toHuman => table.humanOf

/-- The first spellings of the names that a direction leads to. -/
def spellings (table : ClassTable) : Direction → NameMap
  | .toRuntime => table.runtimeSpelling
  | .toHuman => table.humanSpelling

/-- An internal name as it was first spelled. -/
def spelled (table : ClassTable) (direction : Direction) (name : String) : String :=
  (table.spellings direction)[name]?.getD name

/-- The counterpart of a name in either spelling, in internal form. -/
def counterpart? (table : ClassTable) (name : String) (direction : Direction) : Option String :=
  (table.counterparts direction)[ClassName.internal name]?

/-- The answer to a class query. A qualified query is answered in its own style, any other with the
first spelling; an unknown name comes back with a warning. -/
def resolve (table : ClassTable) (name : String) (direction : Direction) : Logged String :=
  match table.counterpart? name direction with
  | some found =>
    if ClassName.isQualified name then pure (ClassName.inStyleOf name found)
    else pure (table.spelled direction found)
  | none => do
    Logged.log (.classUnknown name direction)
    return name

/-- The renaming of internal class names in a direction. -/
def directed (table : ClassTable) (direction : Direction) : ClassRenaming :=
  fun name => (table.counterparts direction)[name]?

/-! ### Listing -/

/-- The number of classes. -/
def size (table : ClassTable) : Nat := table.runtimeOf.size

/-- Whether the table has no classes. -/
def isEmpty (table : ClassTable) : Bool := table.runtimeOf.isEmpty

/-- The human and runtime names of all classes as they were first spelled, ordered by the internal
form of the human name. -/
def pairs (table : ClassTable) : List (String × String) :=
  table.runtimeOf.toList.map fun entry =>
    (table.spelled .toHuman entry.1, table.spelled .toRuntime entry.2)

end ClassTable

end NameDomains
