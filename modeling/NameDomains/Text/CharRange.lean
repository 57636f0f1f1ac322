/-
**Sets of characters given by ranges of code points.**

A property of characters is listed as closed ranges of code points, and `CharRange.covers` decides
membership.
-/

namespace NameDomains.Text

/-- A closed range of code points, first and last included. -/
structure CharRange where
  first : Nat
  last : Nat
  deriving DecidableEq, Repr

namespace CharRange

/-- The ranges with the given pairs of first and last code points. -/
def ofPairs (pairs : List (Nat × Nat)) : List CharRange :=
  pairs.map fun pair => ⟨pair.1, pair.2⟩

/-- Whether a character lies in one of the ranges. -/
def covers (ranges : List CharRange) (c : Char) : Bool :=
  ranges.any fun range => decide (range.first ≤ c.toNat) && decide (c.toNat ≤ range.last)

end CharRange

end NameDomains.Text
