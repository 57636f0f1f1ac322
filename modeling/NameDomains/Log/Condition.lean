/-
**Conditions on fields.**

A condition names a field that must be there and may say which value it must have: a truth value, a
number, or else a text that a pattern matches.

* `FieldValue.parse?`, `FieldCondition.parse?` — the value and the condition that a text denotes.
* `FieldCondition.render` — the condition as it is written; a number is written anew.
* `FieldCondition.order` — conditions with a value are greater than those without.
-/

import NameDomains.Log.Pattern
import NameDomains.Number.Decimal

namespace NameDomains

/-- A value that a field must have. -/
inductive FieldValue
  | flag (value : Bool)
  | real (value : Binary64)
  | natural (value : Nat)
  | negative (value : Int)
  | pattern (text : String)
  deriving DecidableEq, Repr

namespace FieldValue

/-! ### Reading -/

/-- A whole number that fits 64 bits, without a sign if it is not negative. -/
def wholeNumber? (text : List Char) : Option FieldValue :=
  match Digits.splitSign text with
  | (false, digits) => (Digits.decimal? digits).bind fun value =>
    if value < Nat.pow 2 64 then some (natural value) else none
  | (true, digits) => (Digits.decimal? digits).bind fun value =>
    if value ≤ Nat.pow 2 63 then some (negative (-value)) else none

/-- The power of ten that follows the digits of a number; zero where nothing does. -/
def power? : List Char → Option Int
  | [] => some 0
  | mark :: rest =>
    if mark = 'e' ∨ mark = 'E' then
      match Digits.splitSign rest with
      | (isNegative, digits) => (Digits.decimal? digits).map fun value =>
        if isNegative then -(value : Int) else value
    else none

/-- The number nearest to digits, which may have a point among them, and a power of ten. -/
def decimal? (isNegative : Bool) (text : List Char) : Option Binary64 :=
  let whole := text.takeWhile Char.isDigit
  let (fraction, rest) :=
    match text.dropWhile Char.isDigit with
    | '.' :: rest => (rest.takeWhile Char.isDigit, rest.dropWhile Char.isDigit)
    | rest => ([], rest)
  if whole = [] ∧ fraction = [] then none
  else (power? rest).map fun power =>
    .ofDecimal isNegative (Digits.value 10 (whole ++ fraction)) (power - fraction.length)

/-- A number with a point or a power of ten, or one with a name in any case. -/
def realNumber? (text : List Char) : Option Binary64 :=
  let (isNegative, unsigned) := Digits.splitSign text
  match String.ofList (unsigned.map Char.toLower) with
  | "inf" => some (.infinite isNegative)
  | "infinity" => some (.infinite isNegative)
  | "nan" => some .nan
  | _ => decimal? isNegative unsigned

/-- The value that a text denotes; none if it can only be a pattern and is not one. -/
def parse? (text : List Char) : Option FieldValue :=
  match String.ofList text, wholeNumber? text, realNumber? text with
  | "true", _, _ => some (flag true)
  | "false", _, _ => some (flag false)
  | _, some number, _ => some number
  | _, none, some value => some (real value)
  | written, none, none => if Pattern.isWellFormed text then some (pattern written) else none

/-! ### Writing and order -/

/-- The value as it is written. -/
def render : FieldValue → String
  | flag true => "true"
  | flag false => "false"
  | real value => value.render Decimal.plain .upward
  | natural value => toString value
  | negative value => toString value
  | pattern text => text

/-- The place of each kind of value in the order. -/
def rank : FieldValue → Nat
  | flag _ => 0
  | real _ => 1
  | natural _ => 2
  | negative _ => 3
  | pattern _ => 4

/-- The order of values: by kind, and by value within each kind. -/
def order (first second : FieldValue) : Ordering :=
  match first, second with
  | flag a, flag b => compare a b
  | real a, real b => a.order b
  | natural a, natural b => compare a b
  | negative a, negative b => compare a b
  | pattern a, pattern b => compare a b
  | a, b => compare a.rank b.rank

end FieldValue

/-- A field that must be there, with a certain value if one is given. -/
structure FieldCondition where
  name : String
  value : Option FieldValue
  deriving DecidableEq, Repr

namespace FieldCondition

/-- The condition that a text denotes. The value follows an equals sign, and what follows another one
is left out. -/
def parse? (text : List Char) : Option FieldCondition :=
  let name := String.ofList (text.takeWhile (· ≠ '='))
  match text.dropWhile (· ≠ '=') with
  | [] => some ⟨name, none⟩
  | _ :: rest => (FieldValue.parse? (rest.takeWhile (· ≠ '='))).map fun value => ⟨name, some value⟩

/-- The condition as it is written. -/
def render (condition : FieldCondition) : String :=
  match condition.value with
  | none => condition.name
  | some value => condition.name ++ "=" ++ value.render

/-- The order of conditions: those without a value first, then by name and by value. -/
def order (first second : FieldCondition) : Ordering :=
  match first.value, second.value with
  | none, none => compare first.name second.name
  | none, some _ => .lt
  | some _, none => .gt
  | some a, some b => (compare first.name second.name).then (a.order b)

end FieldCondition

end NameDomains
