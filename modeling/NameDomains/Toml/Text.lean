/-
**Quoted texts in TOML.**

A text stands between two quotation marks or two apostrophes, or between three of either, where it may
span lines. Only quotation marks admit escapes. Every reader takes what follows the opening and returns
the text and what follows the closing.

* `readBasic`, `readLiteral` — on one line.
* `readLongBasic`, `readLongLiteral` — over lines. Up to two marks may stand before the closing three.
* `readQuoted?` — any of the four.
-/

import NameDomains.Number.Digits

namespace NameDomains.Toml

/-! ### Blanks and ends of lines -/

/-- Whether a character may stand between the parts of a line. -/
def isBlank (c : Char) : Bool := c = ' ' || c = '\t'

/-- The text without the blanks at its front. -/
def skipBlanks (text : List Char) : List Char := text.dropWhile isBlank

/-- Whether a character may stand in a comment or a text: a tab, or no control. -/
def isPlain (c : Char) : Bool := c = '\t' || (' ' ≤ c && c ≠ '\x7f')

/-- What follows an end of line. -/
def readNewline? : List Char → Option (List Char)
  | '\n' :: rest => some rest
  | '\r' :: '\n' :: rest => some rest
  | _ => none

/-- The text without the blanks and ends of lines at its front. -/
def skipLines : List Char → List Char
  | '\r' :: '\n' :: rest => skipLines rest
  | c :: rest => if isBlank c || c = '\n' then skipLines rest else c :: rest
  | [] => []

/-- Skipping does not add text. -/
theorem length_skipLines_le (text : List Char) : (skipLines text).length ≤ text.length := by
  fun_induction skipLines text with
  | case1 rest shorter => exact Nat.le_succ_of_le (Nat.le_succ_of_le shorter)
  | case2 c rest _ _ shorter => exact Nat.le_succ_of_le shorter
  | case3 => exact Nat.le_refl _
  | case4 => exact Nat.le_refl _

/-! ### Escapes -/

/-- The character of a code point given by hexadecimal digits. -/
def hexChar? (digits : List Char) : Option Char := do
  let values ← digits.mapM Digits.digit?
  let value := values.foldl (fun value digit => value * 16 + digit) 0
  if value.isValidChar then some (Char.ofNat value) else none

/-- The character that a letter after a backslash stands for. -/
def shortEscape? (c : Char) : Option Char :=
  if c = 'b' then some '\x08'
  else if c = 't' then some '\t'
  else if c = 'n' then some '\n'
  else if c = 'f' then some '\x0c'
  else if c = 'r' then some '\r'
  else if c = '"' then some '"'
  else if c = '\\' then some '\\'
  else none

/-- The character of an escape after its backslash. -/
def readEscape? : List Char → Option (Char × List Char)
  | 'u' :: a :: b :: c :: d :: rest => (hexChar? [a, b, c, d]).map (·, rest)
  | 'U' :: a :: b :: c :: d :: e :: f :: g :: h :: rest =>
    (hexChar? [a, b, c, d, e, f, g, h]).map (·, rest)
  | c :: rest => (shortEscape? c).map (·, rest)
  | [] => none

/-- An escape takes some text. -/
theorem length_of_readEscape {text rest : List Char} {c : Char}
    (found : readEscape? text = some (c, rest)) : rest.length < text.length := by
  fun_cases readEscape? text with
  | case4 => simp [readEscape?] at found
  | _ =>
    simp only [readEscape?, Option.map_eq_some_iff, Prod.mk.injEq] at found
    obtain ⟨_, _, _, rfl⟩ := found
    simp only [List.length_cons]
    omega

/-! ### Texts -/

/-- A text in quotation marks. -/
def readBasic (text : List Char) : Option (List Char × List Char) :=
  match text with
  | '"' :: rest => some ([], rest)
  | '\\' :: rest =>
    match found : readEscape? rest with
    | some (c, left) => do
      have _shorter := length_of_readEscape found
      let (value, left) ← readBasic left
      return (c :: value, left)
    | none => none
  | c :: rest =>
    if isPlain c then do
      let (value, rest) ← readBasic rest
      return (c :: value, rest)
    else none
  | [] => none
termination_by text.length

/-- A text in apostrophes. -/
def readLiteral : List Char → Option (List Char × List Char)
  | '\'' :: rest => some ([], rest)
  | c :: rest =>
    if isPlain c then do
      let (value, rest) ← readLiteral rest
      return (c :: value, rest)
    else none
  | [] => none

/-- The marks of a text that stand before its closing three, two at most, given what follows the first
three of them. -/
def readClosing (mark : Char) : List Char → List Char × List Char
  | c :: d :: rest =>
    if c = mark then if d = mark then ([mark, mark], rest) else ([mark], d :: rest)
    else ([], c :: d :: rest)
  | [c] => if c = mark then ([mark], []) else ([], [c])
  | [] => ([], [])

/-- A text in three quotation marks, without the end of line that may follow them. A backslash at the
end of a line takes away all blanks and ends of lines up to the next character. -/
def readLongBasic (text : List Char) : Option (List Char × List Char) :=
  match text with
  | '"' :: '"' :: '"' :: rest => some (readClosing '"' rest)
  | '\r' :: '\n' :: rest => do
    let (value, rest) ← readLongBasic rest
    return ('\n' :: value, rest)
  | '\\' :: rest =>
    if (readNewline? (skipBlanks rest)).isSome then
      have _shorter := length_skipLines_le rest
      readLongBasic (skipLines rest)
    else
      match found : readEscape? rest with
      | some (c, left) => do
        have _shorter := length_of_readEscape found
        let (value, left) ← readLongBasic left
        return (c :: value, left)
      | none => none
  | c :: rest =>
    if isPlain c || c = '\n' then do
      let (value, rest) ← readLongBasic rest
      return (c :: value, rest)
    else none
  | [] => none
termination_by text.length

/-- A text in three apostrophes, without the end of line that may follow them. -/
def readLongLiteral : List Char → Option (List Char × List Char)
  | '\'' :: '\'' :: '\'' :: rest => some (readClosing '\'' rest)
  | '\r' :: '\n' :: rest => do
    let (value, rest) ← readLongLiteral rest
    return ('\n' :: value, rest)
  | c :: rest =>
    if isPlain c || c = '\n' then do
      let (value, rest) ← readLongLiteral rest
      return (c :: value, rest)
    else none
  | [] => none

/-- What follows an end of line, or the text itself where there is none. -/
def dropNewline (text : List Char) : List Char := (readNewline? text).getD text

/-- A quoted text with its opening. -/
def readQuoted? : List Char → Option (String × List Char)
  | '"' :: '"' :: '"' :: rest =>
    (readLongBasic (dropNewline rest)).map fun found => (String.ofList found.1, found.2)
  | '\'' :: '\'' :: '\'' :: rest =>
    (readLongLiteral (dropNewline rest)).map fun found => (String.ofList found.1, found.2)
  | '"' :: rest => (readBasic rest).map fun found => (String.ofList found.1, found.2)
  | '\'' :: rest => (readLiteral rest).map fun found => (String.ofList found.1, found.2)
  | _ => none

end NameDomains.Toml
