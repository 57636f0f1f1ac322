/-
**Writing snapshots as JSON.**

Every field of every record is written, in order; a member without a descriptor has null for it. The
entries of maps are written by the order of their keys.

* `Snapshot.encode` — a snapshot as a text.
-/

import NameDomains.Json.Print
import NameDomains.Snapshot.Basic

namespace NameDomains

open Json

/-- A class pair as a text. -/
def ClassPair.encode (pair : ClassPair) : String :=
  writeObject [("human", quote pair.human), ("runtime", quote pair.runtime)]

/-- A listed member as a text. -/
def Member.encode (member : Member) : String :=
  writeObject [("name", quote member.name), ("descriptor", quoteOptional member.descriptor)]

/-- A member group as a text. -/
def MemberGroup.encode (group : MemberGroup) : String :=
  writeObject [("class_name", quote group.className),
    ("members", writeList (group.members.map Member.encode))]

namespace Snapshot

/-- Aliases as a text. -/
def encodeAliases (aliases : NameMap) : String := writeMap quote aliases

/-- The host's tables as a text. -/
def encodeTables (tables : MemberMaps) : String := writeMap encodeAliases tables

/-- A snapshot as a text. -/
def encode (snapshot : Snapshot) : String :=
  writeObject [("classes", writeList (snapshot.classes.map ClassPair.encode)),
    ("methods", writeList (snapshot.methods.map MemberGroup.encode)),
    ("fields", writeList (snapshot.fields.map MemberGroup.encode)),
    ("method_aliases", encodeAliases snapshot.methodAliases),
    ("field_aliases", encodeAliases snapshot.fieldAliases),
    ("raw_methods", encodeTables snapshot.hostMethods),
    ("raw_fields", encodeTables snapshot.hostFields)]

end Snapshot

end NameDomains
