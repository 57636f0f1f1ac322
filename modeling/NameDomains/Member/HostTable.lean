/-
**The host's runtime tables.**

A host keeps, for each class under its runtime name, its members from runtime to intermediate name,
both with a suffix. Resolving needs them the other way around: by the human name of the class, from
intermediate to runtime name, without suffixes.

* `HostTables.runtimeTables` — the tables turned around. A class without a human name keeps its own
  name, in internal form, and is logged.
* `landing` — the name under which a host's class is found.
-/

import NameDomains.ClassTable

namespace NameDomains

/-- Runtime member by intermediate member, for each class; or the host's own tables, intermediate
member by runtime member. -/
abbrev MemberMaps := Std.ExtTreeMap String NameMap

namespace HostTables

/-- The name under which a host's class is found: its human name, or else its own. -/
def landing (classes : ClassTable) (runtimeClass : String) : String :=
  (classes.counterpart? runtimeClass .toHuman).getD (ClassName.internal runtimeClass)

/-- The members of one class from intermediate to runtime name, without suffixes. -/
def turnAround (kind : MemberKind) (members : NameMap) : NameMap :=
  members.foldl (fun turned runtime intermediate =>
    turned.insert (kind.stripSuffix intermediate) (kind.stripSuffix runtime)) ∅

/-- The events of turning one class around: one if it has no human name. -/
def landingEvents (classes : ClassTable) (runtimeClass : String) : List Event :=
  match classes.counterpart? runtimeClass .toHuman with
  | some _ => []
  | none => [.hostClassUnnamed runtimeClass]

/-- The host's tables by human class name, from intermediate to runtime member. -/
def runtimeTables (kind : MemberKind) (tables : MemberMaps) (classes : ClassTable) :
    Logged MemberMaps where
  value := tables.foldl (fun turned runtimeClass members =>
    turned.insert (landing classes runtimeClass) (turnAround kind members)) ∅
  events := tables.keys.flatMap (landingEvents classes)

end HostTables

end NameDomains
