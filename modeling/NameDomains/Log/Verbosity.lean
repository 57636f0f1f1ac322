/-
**How much is logged.**

A verbosity lets the levels from the most severe one down to a given one pass, or none at all. It is
written as the name of that level in any case, as `off`, or as a number from `0` to `5`.

* `Verbosity.allows` — whether a level passes.
* `Verbosity.parse?` — the verbosity that a text denotes.
-/

import NameDomains.Log.Event
import NameDomains.Number.Digits

namespace NameDomains

/-- How many of the levels pass, from the most severe on. -/
def Level.rank : Level → Nat
  | error => 1
  | warn => 2
  | info => 3
  | debug => 4
  | trace => 5

/-- The least severe level that passes, if any does. -/
inductive Verbosity
  | off
  | upTo (level : Level)
  deriving DecidableEq, Repr

namespace Verbosity

/-- How many of the levels pass. -/
def rank : Verbosity → Nat
  | off => 0
  | upTo level => level.rank

/-- Whether a level passes. -/
def allows (verbosity : Verbosity) (level : Level) : Bool := level.rank ≤ verbosity.rank

/-- The greater of two verbosities. -/
def max (first second : Verbosity) : Verbosity :=
  if first.rank < second.rank then second else first

/-- The name of a verbosity. -/
def label : Verbosity → String
  | off => "off"
  | upTo .error => "error"
  | upTo .warn => "warn"
  | upTo .info => "info"
  | upTo .debug => "debug"
  | upTo .trace => "trace"

/-- All verbosities in order. -/
def all : List Verbosity :=
  [off, upTo .error, upTo .warn, upTo .info, upTo .debug, upTo .trace]

/-- The verbosity of a number, which may have a plus sign. -/
def ofNumber? (text : List Char) : Option Verbosity :=
  let digits :=
    match text with
    | '+' :: rest => rest
    | text => text
  (Digits.decimal? digits).bind fun number => all[number]?

/-- The verbosity with a name, in any case. -/
def ofName? (text : List Char) : Option Verbosity :=
  all.find? fun verbosity => verbosity.label.toList = text.map Char.toLower

/-- The verbosity that a text denotes. -/
def parse? (text : List Char) : Option Verbosity := (ofNumber? text).or (ofName? text)

end Verbosity

end NameDomains
