/-
**Text in quotation marks.**

A quoted text stands between two quotation marks. Inside, the mark and the backslash follow a
backslash, four controls have a letter or digit of their own, and every other unprintable character
is written as its code point in hexadecimal between braces.

* `escape` — the written form of one character.
* `quoteChars`, `quote` — the written form of a text.
-/

import NameDomains.Text.Unprintable

namespace NameDomains.Text

/-- A character as a quoted text writes it. -/
def escape (c : Char) : List Char :=
  if c = '\x00' then ['\\', '0']
  else if c = '\t' then ['\\', 't']
  else if c = '\r' then ['\\', 'r']
  else if c = '\n' then ['\\', 'n']
  else if c = '\\' then ['\\', '\\']
  else if c = '"' then ['\\', '"']
  else if isUnprintable c then ['\\', 'u', '\x7b'] ++ Nat.toDigits 16 c.toNat ++ ['\x7d']
  else [c]

/-- A text between quotation marks, as characters. -/
def quoteChars (text : List Char) : List Char :=
  '"' :: text.flatMap escape ++ ['"']

/-- A text between quotation marks. -/
def quote (text : String) : String := String.ofList (quoteChars text.toList)

end NameDomains.Text
