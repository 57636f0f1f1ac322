/-
**Numbers, dates and times in TOML.**

Digits may be separated by single underscores. A decimal number has no needless zeros; with a fraction
or a power of ten it is a binary number, and otherwise an integer of 64 bits. Integers may also be
written by hexadecimal, octal or binary digits. Dates and times are only checked.

* `readNumber?` — a number.
* `readDatetime?` — what follows a date, a time, or both.
-/

import NameDomains.Toml.Text
import NameDomains.Toml.Value

namespace NameDomains.Toml

/-! ### Digits -/

/-- The digits at the front of a text, after a first one was read, without their underscores. -/
def readMoreDigits (isDigit : Char → Bool) : List Char → List Char × List Char
  | '_' :: c :: rest =>
    if isDigit c then
      let (digits, left) := readMoreDigits isDigit rest
      (c :: digits, left)
    else ([], '_' :: c :: rest)
  | c :: rest =>
    if isDigit c then
      let (digits, left) := readMoreDigits isDigit rest
      (c :: digits, left)
    else ([], c :: rest)
  | [] => ([], [])

/-- The digits at the front of a text, at least one, without their underscores. -/
def readDigits? (isDigit : Char → Bool) : List Char → Option (List Char × List Char)
  | c :: rest =>
    if isDigit c then
      let (digits, left) := readMoreDigits isDigit rest
      some (c :: digits, left)
    else none
  | [] => none

/-! ### Numbers -/

/-- An integer, if it fits 64 bits. -/
def integer? (value : Int) : Option Value :=
  if -Int.pow 2 63 ≤ value ∧ value < Int.pow 2 63 then some (.integer value) else none

/-- An integer in a given base after its mark. -/
def readInBase? (base : Nat) (text : List Char) : Option (Value × List Char) := do
  let isDigit (c : Char) : Bool := (Digits.digit? c).any (· < base)
  let (digits, rest) ← readDigits? isDigit text
  return (← integer? (Digits.value base digits), rest)

/-- The integer part of a decimal number: zero alone, or digits that do not start with zero. -/
def readWhole? : List Char → Option (List Char × List Char)
  | '0' :: rest => some (['0'], rest)
  | text => readDigits? Char.isDigit text

/-- The digits after a point, none where there is no point. -/
def readFraction? : List Char → Option (List Char × List Char)
  | '.' :: rest => readDigits? Char.isDigit rest
  | text => some ([], text)

/-- The power of ten after its mark, zero where there is no mark. -/
def readPower? : List Char → Option (Int × List Char)
  | [] => some (0, [])
  | mark :: rest =>
    if mark = 'e' ∨ mark = 'E' then do
      let (negative, rest) := Digits.splitSign rest
      let (digits, rest) ← readDigits? Char.isDigit rest
      let value := Digits.value 10 digits
      return (if negative then -value else value, rest)
    else some (0, mark :: rest)

/-- A binary number; one too great to be finite is only allowed below zero. -/
def real? (value : Binary64) : Option Value :=
  if value = .infinite false then none else some (.real value)

/-- A decimal number. It is an integer if neither a point nor a power of ten follows its integer
part. -/
def readDecimal? (text : List Char) : Option (Value × List Char) := do
  let (negative, text) := Digits.splitSign text
  let (whole, afterWhole) ← readWhole? text
  let (fraction, afterFraction) ← readFraction? afterWhole
  let (power, rest) ← readPower? afterFraction
  if rest.length = afterWhole.length then
    let value := Digits.value 10 whole
    return (← integer? (if negative then -value else value), rest)
  else
    let digits := Digits.value 10 (whole ++ fraction)
    return (← real? (.ofDecimal negative digits (power - fraction.length)), rest)

/-- Infinity or no number, by name. -/
def readNamedNumber? (text : List Char) : Option (Value × List Char) :=
  let (negative, text) := Digits.splitSign text
  match text with
  | 'i' :: 'n' :: 'f' :: rest => some (.real (.infinite negative), rest)
  | 'n' :: 'a' :: 'n' :: rest => some (.real .nan, rest)
  | _ => none

/-- A number. -/
def readNumber? : List Char → Option (Value × List Char)
  | '0' :: 'x' :: rest => readInBase? 16 rest
  | '0' :: 'o' :: rest => readInBase? 8 rest
  | '0' :: 'b' :: rest => readInBase? 2 rest
  | text => (readNamedNumber? text).or (readDecimal? text)

/-! ### Dates and times -/

/-- A number of exactly so many digits, in a range. -/
def readField? (count low high : Nat) (text : List Char) : Option (Nat × List Char) :=
  let digits := text.take count
  if digits.length = count ∧ digits.all Char.isDigit then
    let value := Digits.value 10 digits
    if low ≤ value ∧ value ≤ high then some (value, text.drop count) else none
  else none

/-- What follows a given character. -/
def readChar? (c : Char) : List Char → Option (List Char)
  | d :: rest => if d = c then some rest else none
  | [] => none

/-- The number of days in a month. -/
def daysIn (year month : Nat) : Nat :=
  if month = 2 then if year % 4 = 0 ∧ (year % 100 ≠ 0 ∨ year % 400 = 0) then 29 else 28
  else if month = 4 ∨ month = 6 ∨ month = 9 ∨ month = 11 then 30
  else 31

/-- What follows a date. -/
def readDate? (text : List Char) : Option (List Char) := do
  let (year, text) ← readField? 4 0 9999 text
  let text ← readChar? '-' text
  let (month, text) ← readField? 2 1 12 text
  let text ← readChar? '-' text
  let (_, text) ← readField? 2 1 (daysIn year month) text
  return text

/-- What follows the fraction of a second, if there is one. -/
def skipSecondFraction : List Char → List Char
  | '.' :: c :: rest => if c.isDigit then rest.dropWhile Char.isDigit else '.' :: c :: rest
  | text => text

/-- What follows a time of day. -/
def readTime? (text : List Char) : Option (List Char) := do
  let (_, text) ← readField? 2 0 23 text
  let text ← readChar? ':' text
  let (_, text) ← readField? 2 0 59 text
  let text ← readChar? ':' text
  let (_, text) ← readField? 2 0 60 text
  return skipSecondFraction text

/-- What follows a distance from universal time, where one is written as it should be. -/
def readOffset? (text : List Char) : Option (List Char) :=
  match text with
  | 'Z' :: rest => some rest
  | 'z' :: rest => some rest
  | sign :: rest => do
    if sign ≠ '+' && sign ≠ '-' then none
    let (_, rest) ← readField? 2 0 23 rest
    let rest ← readChar? ':' rest
    let (_, rest) ← readField? 2 0 59 rest
    return rest
  | [] => none

/-- What follows a time of day and perhaps an offset, after the character that joins them to a date. -/
def readJoinedTime? : List Char → Option (List Char)
  | c :: rest => do
    if c ≠ 'T' && c ≠ 't' && c ≠ ' ' then none
    let rest ← readTime? rest
    return (readOffset? rest).getD rest
  | [] => none

/-- What follows a date, a time of day, or both. -/
def readDatetime? (text : List Char) : Option (List Char) :=
  match readDate? text with
  | some rest => some ((readJoinedTime? rest).getD rest)
  | none => readTime? text

end NameDomains.Toml
