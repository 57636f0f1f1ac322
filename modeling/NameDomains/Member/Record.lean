/-
**Member records.**

A record holds the names of one member in the three domains. The intermediate name is always there;
the others may be missing, and an empty name counts as missing.
-/

import NameDomains.Naming

namespace NameDomains

/-- The names of one class member. -/
structure MemberRecord where
  human : Option String
  intermediate : String
  runtime : Option String
  deriving DecidableEq, Repr

namespace MemberRecord

/-- The record of the given names, empty ones left out. -/
def ofNames (human : Option String) (intermediate : String) (runtime : Option String) :
    MemberRecord :=
  ⟨human.filter (· ≠ ""), intermediate, runtime.filter (· ≠ "")⟩

/-- The name of the member in a domain. -/
def nameIn (record : MemberRecord) : Domain → Option String
  | .human => record.human
  | .intermediate => some record.intermediate
  | .runtime => record.runtime

end MemberRecord

end NameDomains
