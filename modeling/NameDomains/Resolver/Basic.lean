/-
**Resolvers: names and descriptors across the naming domains.**

A resolver of an obfuscated host looks names up in a class table and two member tables. The resolver of
any other host answers every query with the query. No query fails: what is not found comes back as it
is, with one warning.

* `Resolver.className`, `Resolver.memberName` — names of classes and members.
* `Resolver.renameMethod`, `Resolver.renameField` — the classes in a descriptor, renamed.
* `Resolver.renameMethodText`, `Resolver.renameFieldText` — the same for written descriptors;
  a text that is no descriptor comes back with a warning.
-/

import NameDomains.Member.Table

namespace NameDomains

/-- The tables of an obfuscated host. -/
structure ResolverTables where
  classes : ClassTable
  methods : MemberTable
  fields : MemberTable
  deriving DecidableEq

namespace ResolverTables

/-- The table that holds members with or without a descriptor. -/
def members (tables : ResolverTables) (descriptor : Option String) : MemberTable :=
  if descriptor.isSome then tables.methods else tables.fields

/-- The name of a member in a domain, if it is found. -/
def memberName? (tables : ResolverTables) (owner name : String) (descriptor : Option String)
    (domain : Domain) : Option String :=
  let table := tables.members descriptor
  (table.get? owner (table.kind.key name descriptor)).bind fun record => record.nameIn domain

/-- The answer to a member query. -/
def memberName (tables : ResolverTables) (owner name : String) (descriptor : Option String)
    (domain : Domain) : Logged String :=
  match tables.memberName? owner name descriptor domain with
  | some found => pure found
  | none => do
    let kind := (tables.members descriptor).kind
    Logged.log (.memberUnknown owner (kind.key name descriptor) kind domain)
    return name

/-- Renames the classes in a method type. -/
def renameMethod (tables : ResolverTables) (descriptor : Descriptor) (direction : Direction) :
    Descriptor :=
  descriptor.renameMethod (tables.classes.directed direction)

/-- Renames the classes in a field type. -/
def renameField (tables : ResolverTables) (descriptor : Descriptor) (direction : Direction) :
    Descriptor :=
  descriptor.renameField (tables.classes.directed direction)

/-- Renames the classes in a written method type. -/
def renameMethodText (tables : ResolverTables) (text : String) (direction : Direction) :
    Logged String :=
  match Descriptor.parseMethod text with
  | .ok descriptor => pure (tables.renameMethod descriptor direction).render
  | .error error => do
    Logged.log (.descriptorUnread .method error.message)
    return text

/-- Renames the classes in a written field type. -/
def renameFieldText (tables : ResolverTables) (text : String) (direction : Direction) :
    Logged String :=
  match Descriptor.parseField text with
  | .ok descriptor => pure (tables.renameField descriptor direction).render
  | .error error => do
    Logged.log (.descriptorUnread .field error.message)
    return text

end ResolverTables

/-- The resolver of a host. -/
inductive Resolver
  | obfuscated (tables : ResolverTables)
  | identity
  deriving DecidableEq

namespace Resolver

/-- The tables of the resolver of an obfuscated host. -/
def tables? : Resolver → Option ResolverTables
  | obfuscated tables => some tables
  | identity => none

/-- Whether the host is obfuscated. -/
def isObfuscated (resolver : Resolver) : Bool := resolver.tables?.isSome

/-- The counterpart of a class name. -/
def className (resolver : Resolver) (name : String) (direction : Direction) : Logged String :=
  match resolver with
  | obfuscated tables => tables.classes.resolve name direction
  | identity => pure name

/-- The name of a member in a domain. The given name may be the human or the intermediate one; a
descriptor tells a method from a field. -/
def memberName (resolver : Resolver) (owner name : String) (descriptor : Option String)
    (domain : Domain) : Logged String :=
  match resolver with
  | obfuscated tables => tables.memberName owner name descriptor domain
  | identity => pure name

/-- The name of a method in a domain. -/
def methodName (resolver : Resolver) (owner name descriptor : String) (domain : Domain) :
    Logged String :=
  resolver.memberName owner name (some descriptor) domain

/-- The name of a field in a domain. -/
def fieldName (resolver : Resolver) (owner name : String) (domain : Domain) : Logged String :=
  resolver.memberName owner name none domain

/-- Renames the classes in a method type. -/
def renameMethod (resolver : Resolver) (descriptor : Descriptor) (direction : Direction) :
    Descriptor :=
  match resolver with
  | obfuscated tables => tables.renameMethod descriptor direction
  | identity => descriptor

/-- Renames the classes in a field type. -/
def renameField (resolver : Resolver) (descriptor : Descriptor) (direction : Direction) :
    Descriptor :=
  match resolver with
  | obfuscated tables => tables.renameField descriptor direction
  | identity => descriptor

/-- Renames the classes in a written method type. -/
def renameMethodText (resolver : Resolver) (text : String) (direction : Direction) :
    Logged String :=
  match resolver with
  | obfuscated tables => tables.renameMethodText text direction
  | identity => pure text

/-- Renames the classes in a written field type. -/
def renameFieldText (resolver : Resolver) (text : String) (direction : Direction) :
    Logged String :=
  match resolver with
  | obfuscated tables => tables.renameFieldText text direction
  | identity => pure text

end Resolver

end NameDomains
