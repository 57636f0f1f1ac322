/-
**What can be wrong with a descriptor.**

A text is no descriptor, or a heading and a class name do not make one. A malformed descriptor is
reported by the text at which reading stopped, which may be less than the whole.
-/

import NameDomains.Text.Quoted

namespace NameDomains

/-- Why a descriptor could not be read or put together. -/
inductive DescriptorError
  /-- Reading stopped at this text. -/
  | malformed (text : String)
  /-- The heading does not open a class, or the name cannot stand in a descriptor. -/
  | unfitHeading (heading name : String)
  deriving DecidableEq, Repr

/-- The error in words. -/
def DescriptorError.message : DescriptorError → String
  | .malformed text => "invalid descriptor: " ++ text
  | .unfitHeading heading name =>
    "invalid descriptor heading " ++ Text.quote heading ++ " for class name " ++ Text.quote name

end NameDomains
