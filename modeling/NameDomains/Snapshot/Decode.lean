/-
**Reading snapshots from JSON.**

Every record of a snapshot has a draft with one optional value for each field. Only the names of
classes and members are required; whatever else is not given is empty.

* `Snapshot.parse` — the snapshot that a text denotes, or the first problem of the text.
-/

import NameDomains.Json.Decode
import NameDomains.Snapshot.Basic

namespace NameDomains

open Json

namespace ClassPair

/-- The fields of a class pair read so far. -/
structure Draft where
  human : Option String
  runtime : Option String

/-- How a class pair is written. -/
def record : Record Draft where
  name := "ClassPair"
  blank := ⟨none, none⟩
  fields := [
    { name := "human", required := true, isGiven := fun draft => draft.human.isSome
      decode := fun draft node => return { draft with human := some (← decodeText node) } },
    { name := "runtime", required := true, isGiven := fun draft => draft.runtime.isSome
      decode := fun draft node => return { draft with runtime := some (← decodeText node) } }]

/-- Reads a class pair. -/
def decode (node : Node) : Decoded ClassPair := do
  let draft ← decodeRecord record node
  return ⟨draft.human.getD "", draft.runtime.getD ""⟩

end ClassPair

namespace Member

/-- The fields of a listed member read so far. -/
structure Draft where
  name : Option String
  descriptor : Option (Option String)

/-- How a listed member is written. -/
def record : Record Draft where
  name := "MemberDescriptor"
  blank := ⟨none, none⟩
  fields := [
    { name := "name", required := true, isGiven := fun draft => draft.name.isSome
      decode := fun draft node => return { draft with name := some (← decodeText node) } },
    { name := "descriptor", required := false, isGiven := fun draft => draft.descriptor.isSome
      decode := fun draft node =>
        return { draft with descriptor := some (← decodeOptionalText node) } }]

/-- Reads a listed member. -/
def decode (node : Node) : Decoded Member := do
  let draft ← decodeRecord record node
  return ⟨draft.name.getD "", draft.descriptor.getD none⟩

end Member

namespace MemberGroup

/-- The fields of a member group read so far. -/
structure Draft where
  className : Option String
  members : Option (List Member)

/-- How a member group is written. -/
def record : Record Draft where
  name := "ClassMembers"
  blank := ⟨none, none⟩
  fields := [
    { name := "class_name", required := true, isGiven := fun draft => draft.className.isSome
      decode := fun draft node => return { draft with className := some (← decodeText node) } },
    { name := "members", required := false, isGiven := fun draft => draft.members.isSome
      decode := fun draft node =>
        return { draft with members := some (← decodeList Member.decode node) } }]

/-- Reads a member group. -/
def decode (node : Node) : Decoded MemberGroup := do
  let draft ← decodeRecord record node
  return ⟨draft.className.getD "", draft.members.getD []⟩

end MemberGroup

namespace Snapshot

/-- The fields of a snapshot read so far. -/
structure Draft where
  classes : Option (List ClassPair)
  methods : Option (List MemberGroup)
  fields : Option (List MemberGroup)
  methodAliases : Option NameMap
  fieldAliases : Option NameMap
  hostMethods : Option MemberMaps
  hostFields : Option MemberMaps

/-- Reads aliases. -/
def decodeAliases : Node → Decoded NameMap := decodeMap decodeText

/-- Reads the host's tables. -/
def decodeTables : Node → Decoded MemberMaps := decodeMap decodeAliases

/-- How a snapshot is written. -/
def record : Record Draft where
  name := "MappingSnapshot"
  blank := ⟨none, none, none, none, none, none, none⟩
  fields := [
    { name := "classes", required := false, isGiven := fun draft => draft.classes.isSome
      decode := fun draft node =>
        return { draft with classes := some (← decodeList ClassPair.decode node) } },
    { name := "methods", required := false, isGiven := fun draft => draft.methods.isSome
      decode := fun draft node =>
        return { draft with methods := some (← decodeList MemberGroup.decode node) } },
    { name := "fields", required := false, isGiven := fun draft => draft.fields.isSome
      decode := fun draft node =>
        return { draft with fields := some (← decodeList MemberGroup.decode node) } },
    { name := "method_aliases", required := false
      isGiven := fun draft => draft.methodAliases.isSome
      decode := fun draft node =>
        return { draft with methodAliases := some (← decodeAliases node) } },
    { name := "field_aliases", required := false, isGiven := fun draft => draft.fieldAliases.isSome
      decode := fun draft node =>
        return { draft with fieldAliases := some (← decodeAliases node) } },
    { name := "raw_methods", required := false, isGiven := fun draft => draft.hostMethods.isSome
      decode := fun draft node =>
        return { draft with hostMethods := some (← decodeTables node) } },
    { name := "raw_fields", required := false, isGiven := fun draft => draft.hostFields.isSome
      decode := fun draft node =>
        return { draft with hostFields := some (← decodeTables node) } }]

/-- Reads a snapshot. -/
def decode (node : Node) : Decoded Snapshot := do
  let draft ← decodeRecord record node
  return {
    classes := draft.classes.getD []
    methods := draft.methods.getD []
    fields := draft.fields.getD []
    methodAliases := draft.methodAliases.getD ∅
    fieldAliases := draft.fieldAliases.getD ∅
    hostMethods := draft.hostMethods.getD ∅
    hostFields := draft.hostFields.getD ∅ }

/-- The snapshot that a text denotes. -/
def parse (text : String) : Decoded Snapshot := decodeDocument decode text

end Snapshot

end NameDomains
