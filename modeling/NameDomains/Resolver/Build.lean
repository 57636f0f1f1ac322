/-
**Building resolvers.**

The tables of an obfuscated host are built from the parts of a source, which are asked for in a fixed
order; the first one that fails, or a class table with a conflict, ends the attempt. The resolver of
any other host needs no source.

* `ResolverTables.build` — the tables from a source.
* `Resolver.build` — the resolver of a host from a source.
* `Resolver.ofSettings` — the resolver that settings ask for, from the snapshot file they name.
-/

import NameDomains.Resolver.Attempt
import NameDomains.Resolver.Basic
import NameDomains.Settings.Basic

namespace NameDomains

namespace ResolverTables

/-- The table of one kind of members, from the host's tables, the aliases and the groups. -/
def buildMembers (kind : MemberKind) (classes : ClassTable) (host : MemberMaps)
    (aliases : NameMap) (groups : List MemberGroup) : Logged MemberTable := do
  let runtime ← HostTables.runtimeTables kind host classes
  MemberTable.ofGroups kind aliases groups runtime

/-- Builds the tables of an obfuscated host. -/
def build (source : MappingSource) : Attempt ResolverTables := do
  Attempt.log (.buildStarted true)
  let pairs ← Attempt.ask .classPairs source.classPairs
  let classes ← Attempt.ofExcept ((ClassTable.ofPairs pairs).mapError .notBijective)
  let hostMethods ← Attempt.ask .hostMethods source.hostMethods
  let methodAliases ← Attempt.ask .methodAliases source.methodAliases
  let methodGroups ← Attempt.ask .methodGroups source.methodGroups
  let methods ← Attempt.ofLogged
    (buildMembers .method classes hostMethods methodAliases methodGroups)
  let hostFields ← Attempt.ask .hostFields source.hostFields
  let fieldAliases ← Attempt.ask .fieldAliases source.fieldAliases
  let fieldGroups ← Attempt.ask .fieldGroups source.fieldGroups
  let fields ← Attempt.ofLogged (buildMembers .field classes hostFields fieldAliases fieldGroups)
  Attempt.log (.tablesBuilt classes.size methods.size fields.size)
  return ⟨classes, methods, fields⟩

end ResolverTables

namespace Resolver

/-- Builds the resolver of a host that is not obfuscated. -/
def buildIdentity : Attempt Resolver := do
  Attempt.log (.buildStarted false)
  return identity

/-- Builds the resolver of a host. -/
def build (isObfuscated : Bool) (source : MappingSource) : Attempt Resolver :=
  if isObfuscated then obfuscated <$> ResolverTables.build source else buildIdentity

/-- Reads a snapshot file. -/
def loadSnapshot (files : FileTree) (path : String) : Attempt Snapshot := do
  let text ← Attempt.readFile files path
  Attempt.ofExcept ((Snapshot.parse text).mapError .badSnapshot)

/-- Builds the resolver that settings ask for. -/
def ofSettings (files : FileTree) (settings : ResolverSettings) : Attempt Resolver :=
  if settings.obfuscated then
    match settings.mappings with
    | none => Attempt.ofExcept (.error .noMappings)
    | some path => do
      let snapshot ← loadSnapshot files path
      build true snapshot.source
  else buildIdentity

end Resolver

end NameDomains
