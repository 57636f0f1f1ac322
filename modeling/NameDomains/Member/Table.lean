/-
**Member tables.**

A member table holds a record for each member that the mappings list for a class which the host
ships. A record is found under its intermediate key and, where the member has a human alias, under
its human key too. Later members and later groups replace what earlier ones left.

* `MemberTable.ofGroups` — the table of a list of groups; a group whose class has no runtime table is
  left out and logged.
* `MemberTable.get?` — the record of a class under a key.
-/

import NameDomains.Member.HostTable
import NameDomains.Member.Record

namespace NameDomains

/-- A member as the mappings list it. Fields have no descriptor. -/
structure Member where
  name : String
  descriptor : Option String
  deriving DecidableEq, Repr

/-- The members that the mappings list for one class. -/
structure MemberGroup where
  className : String
  members : List Member
  deriving DecidableEq, Repr

/-- The human alias of an intermediate member name; an empty one counts as none. -/
def alias? (aliases : NameMap) (name : String) : Option String :=
  aliases[name]?.filter (· ≠ "")

/-- Member records by key, for each class. -/
structure MemberTable where
  kind : MemberKind
  classes : Std.ExtTreeMap String (Std.ExtTreeMap String MemberRecord)
  deriving DecidableEq

namespace MemberTable

/-! ### Building -/

/-- The record of a listed member, given its class's runtime table. -/
def recordOf (aliases runtime : NameMap) (member : Member) : MemberRecord :=
  .ofNames (alias? aliases member.name) member.name runtime[member.name]?

/-- The keys of a listed member: the intermediate one, then the human one if it has an alias. -/
def keysOf (kind : MemberKind) (aliases : NameMap) (member : Member) : List String :=
  kind.key member.name member.descriptor ::
    ((alias? aliases member.name).map (kind.key · member.descriptor)).toList

/-- Stores the record of a listed member under its keys. -/
def store (kind : MemberKind) (aliases runtime : NameMap)
    (records : Std.ExtTreeMap String MemberRecord) (member : Member) :
    Std.ExtTreeMap String MemberRecord :=
  (keysOf kind aliases member).foldl
    (fun records key => records.insert key (recordOf aliases runtime member)) records

/-- The records of the members of one class, by key. -/
def recordsOf (kind : MemberKind) (aliases runtime : NameMap) (members : List Member) :
    Std.ExtTreeMap String MemberRecord :=
  members.foldl (store kind aliases runtime) ∅

/-- Adds the records of a group, if the host has a runtime table for its class. -/
def addGroup (aliases : NameMap) (runtime : MemberMaps) (table : MemberTable)
    (group : MemberGroup) : Logged MemberTable :=
  let className := ClassName.internal group.className
  match runtime[className]? with
  | some members =>
    let records := recordsOf table.kind aliases members group.members
    pure { table with classes := table.classes.insert className records }
  | none => do
    Logged.log (.hostTableMissing className)
    return table

/-- The table of a list of groups, taken in order. -/
def ofGroups (kind : MemberKind) (aliases : NameMap) (groups : List MemberGroup)
    (runtime : MemberMaps) : Logged MemberTable :=
  groups.foldlM (addGroup aliases runtime) ⟨kind, ∅⟩

/-! ### Looking up -/

/-- The records of a class, by its name in either spelling. -/
def classRecords? (table : MemberTable) (className : String) :
    Option (Std.ExtTreeMap String MemberRecord) :=
  table.classes[ClassName.internal className]?

/-- The record of a class under a key. -/
def get? (table : MemberTable) (className key : String) : Option MemberRecord :=
  (table.classRecords? className).bind fun records => records[key]?

/-- The number of classes. -/
def size (table : MemberTable) : Nat := table.classes.size

/-- Whether the table has no classes. -/
def isEmpty (table : MemberTable) : Bool := table.classes.isEmpty

end MemberTable

end NameDomains
