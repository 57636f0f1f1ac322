/-
**The fewest decimal digits of a binary number.**

The reals that round to a finite binary number form an interval, which holds its ends exactly when
the mantissa is even. Among the decimal numbers in it with the fewest digits the nearest one stands
for the binary number.

* `Decimal.readsBack` — whether a decimal number lies in the interval of a binary number.
* `Decimal.shortest` — the fewest digits that read back. Each grid of one digit more is tried by its
  two points around the number; seventeen digits always suffice.
* `Decimal.plain`, `Decimal.positional`, `Decimal.scientific` — the layouts.
-/

import NameDomains.Number.Binary64

namespace NameDomains

/-- A natural times a power of ten. -/
structure Decimal where
  digits : Nat
  exponent : Int
  deriving DecidableEq, Repr

/-- Which of two equally near numbers is taken. -/
inductive Tie
  | upward
  | even
  deriving DecidableEq, Repr

namespace Decimal

/-! ### Choosing the digits -/

/-- Compares a decimal number with `mantissa * 2 ^ exponent`. -/
def compareBinary (number : Decimal) (mantissa : Nat) (exponent : Int) : Ordering :=
  compare (number.digits * Nat.pow 10 number.exponent.toNat * Nat.pow 2 (-exponent).toNat)
    (mantissa * Nat.pow 2 exponent.toNat * Nat.pow 10 (-number.exponent).toNat)

/-- Whether a decimal number rounds to `mantissa * 2 ^ exponent`. The gap below a power of two is
half the gap above it. -/
def readsBack (mantissa : Nat) (exponent : Int) (number : Decimal) : Bool :=
  let isNarrow := mantissa = Nat.pow 2 52 && exponent > -1074
  let low := if isNarrow then 4 * mantissa - 1 else 4 * mantissa - 2
  let closed := mantissa % 2 = 0
  let fromLow := number.compareBinary low (exponent - 2)
  let fromHigh := number.compareBinary (4 * mantissa + 2) (exponent - 2)
  (fromLow = .gt || (closed && fromLow = .eq)) && (fromHigh = .lt || (closed && fromHigh = .eq))

/-- The least power of ten above a positive binary number. -/
def scale (mantissa : Nat) (exponent : Int) : Int :=
  let guess := ((mantissa.log2 : Int) + exponent) * 30103 / 100000
  let isAbove (power : Int) : Bool := compareBinary ⟨1, power⟩ mantissa exponent = .gt
  if isAbove guess then guess else if isAbove (guess + 1) then guess + 1 else guess + 2

/-- The point of a decimal grid that stands for a binary number, if one of the two around it does. -/
def onGrid? (tie : Tie) (mantissa : Nat) (exponent grid : Int) : Option Decimal :=
  let below := mantissa * Nat.pow 2 exponent.toNat * Nat.pow 10 (-grid).toNat
    / (Nat.pow 10 grid.toNat * Nat.pow 2 (-exponent).toNat)
  let low : Decimal := ⟨below, grid⟩
  let high : Decimal := ⟨below + 1, grid⟩
  match readsBack mantissa exponent low, readsBack mantissa exponent high with
  | true, false => some low
  | false, true => some high
  | false, false => none
  | true, true =>
    match compareBinary ⟨2 * below + 1, grid⟩ mantissa (exponent + 1) with
    | .gt => some low
    | .lt => some high
    | .eq => if tie = .even && below % 2 = 0 then some low else some high

/-- Moves trailing zeros of the digits into the exponent, a given number of them at most. -/
def stripZeros : Nat → Decimal → Decimal
  | 0, number => number
  | count + 1, number =>
    if number.digits ≠ 0 && number.digits % 10 = 0 then
      stripZeros count ⟨number.digits / 10, number.exponent + 1⟩
    else number

/-- The fewest digits that read back to `mantissa * 2 ^ exponent`. -/
def shortest (tie : Tie) (mantissa : Nat) (exponent : Int) : Decimal :=
  if mantissa = 0 then ⟨0, 0⟩
  else
    let power := scale mantissa exponent
    let grids := (List.range 17).map fun n : Nat => power - (n + 1 : Nat)
    match grids.findSome? (onGrid? tie mantissa exponent) with
    | some found => stripZeros 17 found
    | none => ⟨mantissa * Nat.pow 2 exponent.toNat * Nat.pow 5 (-exponent).toNat, min exponent 0⟩

/-! ### Layouts -/

/-- The digits as characters. -/
def digitChars (number : Decimal) : List Char := Nat.toDigits 10 number.digits

/-- All digits by their places, with a point only where digits follow it. -/
def plain (number : Decimal) : String :=
  let digits := number.digitChars
  let places := (-number.exponent).toNat
  if number.exponent ≥ 0 then
    String.ofList (digits ++ List.replicate number.exponent.toNat '0')
  else if digits.length > places then
    let whole := digits.length - places
    String.ofList (digits.take whole ++ '.' :: digits.drop whole)
  else String.ofList ('0' :: '.' :: List.replicate (places - digits.length) '0' ++ digits)

/-- All digits by their places, with one digit at least after the point. -/
def positional (number : Decimal) : String :=
  if number.exponent ≥ 0 then number.plain ++ ".0" else number.plain

/-- The power of ten of the first digit. -/
def leadingPower (number : Decimal) : Int := number.exponent + number.digitChars.length - 1

/-- The first digit, the others after a point, and the power of the first with its sign. -/
def scientific (number : Decimal) : String :=
  let power := number.leadingPower
  let mantissa :=
    match number.digitChars with
    | first :: second :: rest => first :: '.' :: second :: rest
    | digits => digits
  String.ofList (mantissa ++ ['e', if power < 0 then '-' else '+']
    ++ Nat.toDigits 10 power.natAbs)

end Decimal

/-- The sign and the digits of a finite binary number, laid out; the other numbers have names. -/
def Binary64.render (layout : Decimal → String) (tie : Tie) : Binary64 → String
  | .finite negative mantissa exponent =>
    (if negative then "-" else "") ++ layout (.shortest tie mantissa exponent)
  | .infinite negative => if negative then "-inf" else "inf"
  | .nan => "NaN"

end NameDomains
