/-
**Quoted texts in JSON.**

The inside of a quoted text is read into units: characters, written as themselves or by a short
escape, and 16-bit units written by four hexadecimal digits. A leading surrogate followed by a trailing
one makes one character; any other surrogate makes no text.

* `readUnits` — the units up to the closing mark and what follows it. It recurs on the text.
* `decodeUnits` — the text that units make, if every surrogate is paired.
* `faultInText` — how decoding fails when the closing mark is not reached: a surrogate that is
  already known to be unpaired comes first.
-/

import NameDomains.Number.Digits

namespace NameDomains.Json

/-- How a text fails to be JSON. -/
inductive Fault
  /-- A character stands where it may not. -/
  | malformed
  /-- The text ends too early. -/
  | truncated
  deriving DecidableEq, Repr

/-- A piece of a quoted text. -/
inductive TextUnit
  | char (c : Char)
  /-- A 16-bit unit written by its code. -/
  | code (value : Nat)
  deriving DecidableEq, Repr

/-- The value of four hexadecimal digits. -/
def hexCode? (a b c d : Char) : Option Nat := do
  let digits ← [a, b, c, d].mapM Digits.digit?
  return digits.foldl (fun value digit => value * 16 + digit) 0

/-- The character that a letter after a backslash stands for. -/
def shortEscape? (c : Char) : Option Char :=
  if c = '"' ∨ c = '\\' ∨ c = '/' then some c
  else if c = 'b' then some '\x08'
  else if c = 'f' then some '\x0c'
  else if c = 'n' then some '\n'
  else if c = 'r' then some '\r'
  else if c = 't' then some '\t'
  else none

/-- The fault of an escape by code that four digits do not follow: the text ends within four bytes,
or something else stands there. -/
def shortCodeFault (rest : List Char) : Fault :=
  if (rest.map Char.utf8Size).foldr (· + ·) 0 < 4 then .truncated else .malformed

/-- The units of a quoted text after its opening mark, and what follows the closing mark. -/
def readUnits : List Char → List TextUnit × Except Fault (List Char)
  | [] => ([], .error .truncated)
  | '"' :: rest => ([], .ok rest)
  | ['\\'] => ([], .error .truncated)
  | '\\' :: 'u' :: a :: b :: c :: d :: rest =>
    match hexCode? a b c d with
    | some value =>
      let (units, ending) := readUnits rest
      (.code value :: units, ending)
    | none => ([], .error (shortCodeFault (a :: b :: c :: d :: rest)))
  | '\\' :: 'u' :: rest => ([], .error (shortCodeFault rest))
  | '\\' :: c :: rest =>
    match shortEscape? c with
    | some meant =>
      let (units, ending) := readUnits rest
      (.char meant :: units, ending)
    | none => ([], .error .malformed)
  | c :: rest =>
    if c < ' ' then ([], .error .malformed)
    else
      let (units, ending) := readUnits rest
      (.char c :: units, ending)

/-- Whether a unit leads a pair of surrogates. -/
def isLeading (value : Nat) : Bool := 0xD800 ≤ value && value ≤ 0xDBFF

/-- Whether a unit ends a pair of surrogates. -/
def isTrailing (value : Nat) : Bool := 0xDC00 ≤ value && value ≤ 0xDFFF

/-- The characters that units make; none if a surrogate stands alone. -/
def decodeUnits : List TextUnit → Option (List Char)
  | [] => some []
  | .char c :: rest => (decodeUnits rest).map (c :: ·)
  | .code high :: .code low :: rest =>
    if isLeading high then
      if isTrailing low then
        let value := 0x10000 + (high - 0xD800) * 0x400 + (low - 0xDC00)
        (decodeUnits rest).map (Char.ofNat value :: ·)
      else none
    else if isTrailing high then none
    else (decodeUnits (.code low :: rest)).map (Char.ofNat high :: ·)
  | .code value :: rest =>
    if isLeading value || isTrailing value then none
    else (decodeUnits rest).map (Char.ofNat value :: ·)

/-- The units without a leading surrogate at their end, which may still be paired. -/
def dropPending (units : List TextUnit) : List TextUnit :=
  match units.getLast? with
  | some (.code value) => if isLeading value then units.dropLast else units
  | _ => units

/-- How decoding fails on units that end in a fault. -/
def faultInText (units : List TextUnit) (fault : Fault) : Fault :=
  if (decodeUnits (dropPending units)).isSome then fault else .malformed

end NameDomains.Json
