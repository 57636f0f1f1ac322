/-
**Numbers written by digits.**

A digit is a decimal one or, in the bases up to sixteen, a letter of either case.

* `Digits.digit?` — the value of a digit.
* `Digits.value` — the number that digits denote in a base.
* `Digits.splitSign` — the sign in front of a number.
-/

namespace NameDomains.Digits

/-- The value of a digit, decimal or hexadecimal. -/
def digit? (c : Char) : Option Nat :=
  if '0' ≤ c ∧ c ≤ '9' then some (c.toNat - '0'.toNat)
  else if 'a' ≤ c ∧ c ≤ 'f' then some (c.toNat - 'a'.toNat + 10)
  else if 'A' ≤ c ∧ c ≤ 'F' then some (c.toNat - 'A'.toNat + 10)
  else none

/-- A number with one digit more. -/
def extend (base value : Nat) (c : Char) : Nat := value * base + (digit? c).getD 0

/-- The number that digits denote in a base. -/
def value (base : Nat) (digits : List Char) : Nat := digits.foldl (extend base) 0

/-- The number that a text of decimal digits denotes. -/
def decimal? (text : List Char) : Option Nat :=
  if text ≠ [] ∧ text.all Char.isDigit then some (value 10 text) else none

/-- Whether a text has a minus sign in front, and what follows its sign. -/
def splitSign : List Char → Bool × List Char
  | '-' :: rest => (true, rest)
  | '+' :: rest => (false, rest)
  | text => (false, text)

end NameDomains.Digits
