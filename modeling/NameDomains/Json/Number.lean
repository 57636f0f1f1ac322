/-
**Numbers in JSON.**

A number is an integer part without needless zeros, perhaps a fraction and perhaps a power of ten. A
number without either that fits 64 bits is an integer. Any other is a binary number made from the
digits that fit 64 bits and a power of ten, by one rounded product or quotient; digits that do not fit
are dropped. A number too great to be finite has no value.

* `readNumber` — the parts of a number and what follows it.
* `NumberText.value?` — the value of a number.
-/

import NameDomains.Json.Text
import NameDomains.Number.Decimal

namespace NameDomains.Json

/-- A number as it is written. -/
structure NumberText where
  negative : Bool
  whole : List Char
  /-- The digits after the point, if there is one. -/
  fraction : Option (List Char)
  /-- The sign and the digits of the power of ten, if there is one. -/
  power : Option (Bool × List Char)
  deriving DecidableEq, Repr

/-- The value of a number. -/
inductive Number
  | integer (value : Int)
  | real (value : Binary64)
  deriving DecidableEq, Repr

/-! ### Reading -/

/-- The decimal digits at the front of a text, at least one, and what follows them. -/
def readDigits (text : List Char) : Except Fault (List Char × List Char) :=
  match text.takeWhile Char.isDigit, text with
  | [], [] => .error .truncated
  | [], _ :: _ => .error .malformed
  | digits, text => .ok (digits, text.dropWhile Char.isDigit)

/-- The integer part of a number: zero alone, or digits that do not start with zero. -/
def readWhole (text : List Char) : Except Fault (List Char × List Char) := do
  let (digits, rest) ← readDigits text
  if digits.length > 1 && digits.head? = some '0' then throw .malformed
  return (digits, rest)

/-- The fraction of a number, if a point follows. -/
def readFraction : List Char → Except Fault (Option (List Char) × List Char)
  | '.' :: rest => do
    let (digits, rest) ← readDigits rest
    return (some digits, rest)
  | text => return (none, text)

/-- The power of ten of a number, if its mark follows. -/
def readPower : List Char → Except Fault (Option (Bool × List Char) × List Char)
  | [] => return (none, [])
  | mark :: rest => do
    if mark ≠ 'e' && mark ≠ 'E' then return (none, mark :: rest)
    let (negative, rest) :=
      match rest with
      | '-' :: rest => (true, rest)
      | '+' :: rest => (false, rest)
      | rest => (false, rest)
    let (digits, rest) ← readDigits rest
    return (some (negative, digits), rest)

/-- The number at the front of a text that starts with a digit or a minus sign. -/
def readNumber (text : List Char) : Except Fault (NumberText × List Char) := do
  let (negative, text) :=
    match text with
    | '-' :: rest => (true, rest)
    | text => (false, text)
  let (whole, text) ← readWhole text
  let (fraction, text) ← readFraction text
  let (power, text) ← readPower text
  return (⟨negative, whole, fraction, power⟩, text)

/-! ### Value -/

/-- Adds digits to a number as long as it fits 64 bits, and returns the digits left over. -/
def significand (start : Nat) : List Char → Nat × List Char
  | [] => (start, [])
  | c :: rest =>
    let next := Digits.extend 10 start c
    if next < Nat.pow 2 64 then significand next rest else (start, c :: rest)

/-- A binary number times a power of ten, rounded after each step of at most `308` places; none if it
is not finite. -/
def scaled? (value : Binary64) (power : Int) : Option Binary64 :=
  if power.natAbs ≤ 308 then
    if power ≥ 0 then
      match value.times (.ofNat (Nat.pow 10 power.natAbs)) with
      | .finite negative mantissa exponent => some (.finite negative mantissa exponent)
      | _ => none
    else some (value.dividedBy (.ofNat (Nat.pow 10 power.natAbs)))
  else if value.isZero then some value
  else if power ≥ 0 then none
  else scaled? (value.dividedBy (.ofNat (Nat.pow 10 308))) (power + 308)
termination_by (-power).toNat

namespace NumberText

/-- The digits that fit 64 bits and the power of ten that goes with them. -/
def parts (number : NumberText) : Nat × Int :=
  let (whole, dropped) := significand 0 number.whole
  let (digits, unread) := significand whole (number.fraction.getD [])
  let places := (number.fraction.getD []).length - unread.length
  (digits, (dropped.length : Int) - places)

/-- The written power of ten; none if it does not fit 32 bits. -/
def power? (number : NumberText) : Option Int :=
  match number.power with
  | none => some 0
  | some (negative, digits) =>
    let value := Digits.value 10 digits
    if value < Nat.pow 2 31 then some (if negative then -value else value) else none

/-- The binary number without its sign; none if it is not finite. -/
def magnitude? (number : NumberText) : Option Binary64 :=
  let (digits, power) := number.parts
  match number.power? with
  | some written =>
    scaled? (.ofNat digits) (max (-Int.pow 2 31) (min (Int.pow 2 31 - 1) (power + written)))
  | none =>
    if digits = 0 || number.power.any fun power => power.1 then some (.ofNat 0) else none

/-- The value of a number; none if it is too great to be finite. -/
def value? (number : NumberText) : Option Number :=
  let whole := Digits.value 10 number.whole
  if number.fraction.isNone && number.power.isNone && whole < Nat.pow 2 64 then
    if !number.negative then some (.integer whole)
    else if whole = 0 || whole > Nat.pow 2 63 then some (.real (Binary64.ofNat whole).negated)
    else some (.integer (-whole))
  else
    number.magnitude?.map fun value => .real (if number.negative then value.negated else value)

end NumberText

end NameDomains.Json
