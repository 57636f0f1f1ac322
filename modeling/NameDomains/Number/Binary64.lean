/-
**Double-width binary numbers.**

A finite number is a mantissa below `2 ^ 53` times a power of two that is at least `2 ^ -1074`; a
mantissa below `2 ^ 52` occurs only with the least power. A ratio of naturals is rounded to the
nearest such number, a tie to the even mantissa; from `2 ^ 1024 - 2 ^ 970` on it is infinite.

* `Binary64.ofRatio` — rounding a ratio.
* `Binary64.ofDecimal` — rounding a decimal number, exactly, whatever its exponent.
* `Binary64.times`, `Binary64.dividedBy` — the rounded product and quotient.
* `Binary64.order` — the order by value.
-/

namespace NameDomains

/-- A binary number of double width. -/
inductive Binary64
  /-- The mantissa times two to the exponent. -/
  | finite (negative : Bool) (mantissa : Nat) (exponent : Int)
  | infinite (negative : Bool)
  | nan
  deriving DecidableEq, Repr

namespace Binary64

/-- The quotient of two naturals rounded to the nearest one, a tie to the even one. -/
def roundedQuotient (num den : Nat) : Nat :=
  let quotient := num / den
  let remainder := num % den
  if 2 * remainder > den || (2 * remainder = den && quotient % 2 = 1) then quotient + 1
  else quotient

/-- Whether `num / den` is below two to the given power. -/
def isBelowPower (num den : Nat) (power : Int) : Bool :=
  num * Nat.pow 2 (-power).toNat < den * Nat.pow 2 power.toNat

/-- The greatest power of two that a positive ratio reaches. -/
def floorLog2 (num den : Nat) : Int :=
  let guess : Int := num.log2 - den.log2
  if isBelowPower num den guess then guess - 1 else guess

/-- The number nearest to a ratio. -/
def ofRatio (negative : Bool) (num den : Nat) : Binary64 :=
  if num = 0 then finite negative 0 (-1074)
  else
    let exponent := max (floorLog2 num den - 52) (-1074)
    let mantissa :=
      roundedQuotient (num * Nat.pow 2 (-exponent).toNat) (den * Nat.pow 2 exponent.toNat)
    let (mantissa, exponent) :=
      if mantissa = Nat.pow 2 53 then (Nat.pow 2 52, exponent + 1) else (mantissa, exponent)
    if exponent > 971 then infinite negative else finite negative mantissa exponent

/-- The number nearest to a natural. -/
def ofNat (number : Nat) : Binary64 := ofRatio false number 1

/-- The number nearest to a natural times a power of ten. Beyond four hundred places either way the
result is infinite or zero, so no greater power of ten is formed. -/
def ofDecimal (negative : Bool) (digits : Nat) (exponent : Int) : Binary64 :=
  let places : Int := (Nat.toDigits 10 digits).length + exponent
  if digits = 0 || places < -400 then ofRatio negative 0 1
  else if places > 400 then infinite negative
  else ofRatio negative (digits * Nat.pow 10 exponent.toNat) (Nat.pow 10 (-exponent).toNat)

/-- The number with the other sign. -/
def negated : Binary64 → Binary64
  | finite negative mantissa exponent => finite (!negative) mantissa exponent
  | infinite negative => infinite (!negative)
  | nan => nan

/-- Whether the number is zero, of either sign. -/
def isZero : Binary64 → Bool
  | finite _ mantissa _ => mantissa = 0
  | _ => false

/-- The rounded product of two finite numbers; anything else gives no number. -/
def times : Binary64 → Binary64 → Binary64
  | finite s m e, finite t n f =>
    ofRatio (s != t) (m * n * Nat.pow 2 (e + f).toNat) (Nat.pow 2 (-(e + f)).toNat)
  | _, _ => nan

/-- The rounded quotient of a finite number by a finite one other than zero; anything else gives no
number. -/
def dividedBy : Binary64 → Binary64 → Binary64
  | finite s m e, finite t n f =>
    if n = 0 then nan
    else ofRatio (s != t) (m * Nat.pow 2 (e - f).toNat) (n * Nat.pow 2 (f - e).toNat)
  | _, _ => nan

/-- The order of two numbers by their values, in which no number comes last. -/
def order : Binary64 → Binary64 → Ordering
  | nan, nan => .eq
  | nan, _ => .gt
  | _, nan => .lt
  | infinite s, infinite t => compare t s
  | infinite s, finite .. => if s then .lt else .gt
  | finite .., infinite t => if t then .gt else .lt
  | finite s m e, finite t n f =>
    let least := min e f
    let scaled (negative : Bool) (mantissa : Nat) (exponent : Int) : Int :=
      (if negative then -1 else 1) * mantissa * Int.pow 2 (exponent - least).toNat
    compare (scaled s m e) (scaled t n f)

end Binary64

end NameDomains
