/-
**White space, and texts without it at their ends.**

White space is the space, the tabs and ends of lines, and the other characters with the Unicode property
of that name.

* `isBlank` — the membership test.
* `trim` — a text without the white space at its ends.
-/

import NameDomains.Text.CharRange

namespace NameDomains.Text

/-- The ranges of white space, in order. -/
def blankRanges : List CharRange := CharRange.ofPairs
  [ (0x9, 0xD), (0x20, 0x20), (0x85, 0x85), (0xA0, 0xA0), (0x1680, 0x1680), (0x2000, 0x200A),
    (0x2028, 0x2029), (0x202F, 0x202F), (0x205F, 0x205F), (0x3000, 0x3000)]

/-- Whether a character is white space. -/
def isBlank (c : Char) : Bool := CharRange.covers blankRanges c

/-- The characters of a text without the white space at its ends. -/
def trimChars (text : List Char) : List Char :=
  ((text.dropWhile isBlank).reverse.dropWhile isBlank).reverse

/-- A text without the white space at its ends. -/
def trim (text : String) : String := String.ofList (trimChars text.toList)

end NameDomains.Text
