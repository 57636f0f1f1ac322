/-
**Mapping snapshots.**

A snapshot holds everything a resolver is built from: the class pairs, the listed methods and fields by
class, the human aliases of both, and the host's runtime tables of both.
-/

import NameDomains.Member.Table

namespace NameDomains

/-- A class by its human and its runtime name. -/
structure ClassPair where
  human : String
  runtime : String
  deriving DecidableEq, Repr

/-- Everything a resolver is built from. -/
structure Snapshot where
  classes : List ClassPair
  methods : List MemberGroup
  fields : List MemberGroup
  methodAliases : NameMap
  fieldAliases : NameMap
  hostMethods : MemberMaps
  hostFields : MemberMaps
  deriving DecidableEq

/-- The snapshot that lists nothing. -/
def Snapshot.empty : Snapshot := ⟨[], [], [], ∅, ∅, ∅, ∅⟩

end NameDomains
