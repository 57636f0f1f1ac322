/-
**Patterns that the text of a value may match.**

A pattern is made of characters that stand for themselves, of points, anchors, escapes, groups and
classes, of repetitions, and of alternatives. A pattern matches whole characters, even where it is read
by bytes, and it is run without looking back. So parts that match a byte of a longer character are
refused, and so are the boundaries of words other than those between bytes. Parts may be nested to a
certain depth.

* `isWellFormed` — whether a text is a pattern. Every step of the reading takes a character and one unit
  of fuel.
-/

import NameDomains.Number.Digits
import NameDomains.Text.Alphanumeric
import NameDomains.Text.Blank

namespace NameDomains.Pattern

/-! ### Modes -/

/-- How the parts of a pattern are read. -/
structure Mode where
  /-- Whether sets hold characters; otherwise they hold bytes. -/
  unicode : Bool
  ignoresCase : Bool
  /-- Whether white space and comments stand between the parts. -/
  spaced : Bool
  deriving DecidableEq, Repr

namespace Mode

/-- How a pattern is read from its start. -/
def start : Mode := ⟨true, false, false⟩

/-- Turns a flag on or off. -/
def set (mode : Mode) (flag : Char) (isOn : Bool) : Mode :=
  if flag = 'u' then { mode with unicode := isOn }
  else if flag = 'i' then { mode with ignoresCase := isOn }
  else if flag = 'x' then { mode with spaced := isOn }
  else mode

/-- A text without white space and comments at its front. A comment ends with the line. -/
def dropSpace (inComment : Bool) : List Char → List Char
  | [] => []
  | c :: rest =>
    if inComment then dropSpace (c ≠ '\n') rest
    else if c = '#' then dropSpace true rest
    else if Text.isBlank c then dropSpace false rest
    else c :: rest

/-- What stands at a place of a pattern, once everything between the parts is passed over. -/
def next (mode : Mode) (text : List Char) : List Char :=
  if mode.spaced then dropSpace false text else text

end Mode

/-! ### Escapes -/

/-- A character of a pattern, or what an escape stands for. -/
inductive Atom
  | char (c : Char)
  /-- A byte, given by two digits. -/
  | byte (c : Char)
  /-- Digits, blanks or the characters of words, or all others. -/
  | set (isNegated : Bool)
  /-- The characters of a general category. -/
  | category
  /-- An end of the text. -/
  | textEnd
  | wordEnd
  deriving DecidableEq, Repr

/-- Whether a part may stand by itself. -/
def Mode.allows (mode : Mode) : Atom → Bool
  | .char c => mode.unicode || !mode.ignoresCase || c.toNat < 0x80
  | .byte c => mode.unicode || c.toNat < 0x80
  | .set isNegated => mode.unicode || !isNegated
  | .category => mode.unicode
  | .textEnd => true
  | .wordEnd => !mode.unicode

/-- Whether a part may stand in a class. -/
def Mode.allowsInClass (mode : Mode) : Atom → Bool
  | .char c => mode.unicode || c.toNat < 0x80
  | .byte c => mode.unicode || c.toNat < 0x80
  | .set isNegated => mode.unicode || !isNegated
  | .category => mode.unicode
  | .textEnd => false
  | .wordEnd => false

/-- The character that a part of a class stands for, if it is only one. -/
def Atom.char? : Atom → Option Char
  | char c => some c
  | byte c => some c
  | _ => none

/-- So many digits, and what follows them. They may stand apart as the parts of a pattern may. -/
def readDigits? (mode : Mode) : Nat → List Char → Option (List Char × List Char)
  | 0, text => some ([], text)
  | count + 1, text =>
    match mode.next text with
    | c :: rest =>
      if (Digits.digit? c).isSome then
        (readDigits? mode count rest).map fun found => (c :: found.1, found.2)
      else none
    | [] => none

/-- The character whose code point is written in so many digits, and what follows them. -/
def readCodePoint? (mode : Mode) (count : Nat) (text : List Char) : Option (Char × List Char) := do
  let (digits, rest) ← readDigits? mode count text
  let point := Digits.value 16 digits
  if point.isValidChar then some (Char.ofNat point, rest) else none

/-- A general category by its letter, and what follows it. -/
def readCategory? (mode : Mode) (text : List Char) : Option (Atom × List Char) :=
  match mode.next text with
  | c :: rest => if "clmnpsz".toList.contains c.toLower then some (.category, rest) else none
  | [] => none

/-- Whether a character stands for itself after a backslash. -/
def isEscapable (c : Char) : Bool :=
  c.toNat < 0x80 && !c.isAlphanum && c ≠ '<' && c ≠ '>'

/-- What a letter after a backslash stands for, if it says so alone. -/
def ofLetter? (c : Char) : Option Atom :=
  if c = 'a' then some (.char '\x07')
  else if c = 'f' then some (.char '\x0C')
  else if c = 't' then some (.char '\t')
  else if c = 'n' then some (.char '\n')
  else if c = 'r' then some (.char '\r')
  else if c = 'v' then some (.char '\x0B')
  else if "dsw".toList.contains c then some (.set false)
  else if "DSW".toList.contains c then some (.set true)
  else if c = 'A' ∨ c = 'z' then some .textEnd
  else if c = 'b' ∨ c = 'B' ∨ c = '<' ∨ c = '>' then some .wordEnd
  else if isEscapable c then some (.char c)
  else none

/-- What an escape stands for, after the backslash, and what follows it. -/
def readEscape? (mode : Mode) : List Char → Option (Atom × List Char)
  | 'x' :: rest => (readCodePoint? mode 2 rest).map fun found => (.byte found.1, found.2)
  | 'u' :: rest => (readCodePoint? mode 4 rest).map fun found => (.char found.1, found.2)
  | 'U' :: rest => (readCodePoint? mode 8 rest).map fun found => (.char found.1, found.2)
  | 'p' :: rest => readCategory? mode rest
  | 'P' :: rest => readCategory? mode rest
  | c :: rest => (ofLetter? c).map fun found => (found, rest)
  | [] => none

/-- A character or an escape, and what follows it. -/
def readAtom? (mode : Mode) : List Char → Option (Atom × List Char)
  | '\\' :: rest => readEscape? mode rest
  | c :: rest => some (.char c, rest)
  | [] => none

/-! ### Depth -/

/-- The greatest depth to which parts may be nested. -/
def deepest : Nat := 250

/-- The depth of a list of parts. Two or more are one deeper than the deepest of them. -/
def depthOf : List Nat → Nat
  | [] => 0
  | [depth] => depth
  | depths => depths.foldl max 0 + 1

/-! ### Classes -/

/-- The sets that a class may name between colons. -/
def setNames : List String :=
  ["alnum", "alpha", "ascii", "blank", "cntrl", "digit", "graph", "lower", "print", "punct", "space",
    "upper", "word", "xdigit"]

/-- Whether a named set in a class is negated, after its bracket, and what follows it. -/
def readNamedSet? : List Char → Option (Bool × List Char)
  | ':' :: rest =>
    let (isNegated, rest) :=
      match rest with
      | '^' :: rest => (true, rest)
      | rest => (false, rest)
    match rest.dropWhile (· ≠ ':') with
    | ':' :: ']' :: after =>
      if setNames.contains (String.ofList (rest.takeWhile (· ≠ ':'))) then some (isNegated, after)
      else none
    | _ => none
  | _ => none

/-- What follows a character, a set or a range in a class. A hyphen before the end of the class or before
another hyphen makes no range. -/
def skipRange? (mode : Mode) (text : List Char) : Option (List Char) := do
  let (first, rest) ← readAtom? mode text
  if !mode.allowsInClass first then none
  match mode.next rest with
  | '-' :: more =>
    match mode.next more with
    | '-' :: _ => some ('-' :: more)
    | ']' :: _ => some ('-' :: more)
    | more => do
      let (last, rest) ← readAtom? mode more
      if mode.allowsInClass last && (← first.char?) ≤ (← last.char?) then some rest else none
  | rest => some rest

/-- The part of a class that is being read. -/
structure ClassLevel where
  /-- The depths of the members since the last operator. -/
  members : List Nat
  /-- The depth of what stands before that operator, if there was one. -/
  before : Option Nat
  deriving DecidableEq, Repr

namespace ClassLevel

/-- The depth of what was read. -/
def depth (level : ClassLevel) : Nat :=
  match level.before with
  | none => depthOf level.members
  | some before => max before (depthOf level.members) + 1

/-- A class with one member more. -/
def push (level : ClassLevel) (depth : Nat) : ClassLevel :=
  { level with members := depth :: level.members }

end ClassLevel

/-- The number of hyphens at the front of a text, and what follows them. They may stand apart. -/
def dropHyphens (mode : Mode) (inComment : Bool) : List Char → Nat × List Char
  | [] => (0, [])
  | c :: rest =>
    if inComment then dropHyphens mode (c ≠ '\n') rest
    else if c = '-' then
      let (more, rest) := dropHyphens mode false rest
      (more + 1, rest)
    else if mode.spaced && c = '#' then dropHyphens mode true rest
    else if mode.spaced && Text.isBlank c then dropHyphens mode false rest
    else (0, c :: rest)

/-- A class after its bracket: its first members, which are hyphens or a closing bracket that stand for
themselves, and what follows them. It may be negated if it holds characters. -/
def openClass? (mode : Mode) (text : List Char) : Option (ClassLevel × List Char) :=
  let text := mode.next text
  let (isNegated, text) :=
    match text with
    | '^' :: rest => (true, mode.next rest)
    | text => (false, text)
  if isNegated && !mode.unicode then none
  else
    match dropHyphens mode false text with
    | (0, ']' :: rest) => some (⟨[0], none⟩, rest)
    | (hyphens, rest) => some (⟨List.replicate hyphens 0, none⟩, rest)

/-- The depth of a class and what follows it, from a place inside it and the classes around that. -/
def readClass? (mode : Mode) :
    Nat → ClassLevel → List ClassLevel → List Char → Option (Nat × List Char)
  | 0, _, _, _ => none
  | fuel + 1, level, outer, text =>
    match mode.next text with
    | [] => none
    | '[' :: rest =>
      match readNamedSet? rest with
      | some (isNegated, rest) =>
        if isNegated && !mode.unicode then none
        else readClass? mode fuel (level.push 0) outer rest
      | none =>
        (openClass? mode rest).bind fun opened => readClass? mode fuel opened.1 (level :: outer) opened.2
    | ']' :: rest =>
      match outer with
      | [] => some (level.depth + 1, rest)
      | around :: outer => readClass? mode fuel (around.push (level.depth + 1)) outer rest
    | '&' :: '&' :: rest => readClass? mode fuel ⟨[], some level.depth⟩ outer rest
    | '-' :: '-' :: rest => readClass? mode fuel ⟨[], some level.depth⟩ outer rest
    | '~' :: '~' :: rest => readClass? mode fuel ⟨[], some level.depth⟩ outer rest
    | rest => (skipRange? mode rest).bind fun rest => readClass? mode fuel (level.push 0) outer rest

/-! ### Groups -/

/-- What the opening of a group says. -/
inductive Opening
  /-- A group follows, which has a name or none. -/
  | group (name : Option (List Char)) (mode : Mode)
  /-- The rest of the group around is read in another mode. -/
  | setting (mode : Mode)
  deriving DecidableEq, Repr

/-- The flags of a group up to a colon or a closing parenthesis: the mode that they make, the mark that
ends them, and what follows it. -/
def readFlags? (seen : List Char) (isOn : Bool) (mode : Mode) :
    List Char → Option (Mode × Char × List Char)
  | [] => none
  | c :: rest =>
    if c = ':' ∨ c = ')' then
      if seen.head? = some '-' then none else some (mode, c, rest)
    else if seen.contains c ∨ !("imsUuRx-".toList.contains c) then none
    else readFlags? (c :: seen) (isOn && c ≠ '-') (mode.set c isOn) rest

/-- Whether a text may name a group. -/
def isGroupName : List Char → Bool
  | [] => false
  | first :: rest =>
    (first = '_' || Text.isAlphabetic first) &&
      rest.all fun c => "_.[]".toList.contains c || Text.isAlphanumeric c

/-- A named group, after the mark in front of its name. -/
def readNamed? (mode : Mode) (text : List Char) : Option (Opening × List Char) :=
  let name := text.takeWhile (· ≠ '>')
  match text.dropWhile (· ≠ '>') with
  | _ :: rest => if isGroupName name then some (.group (some name) mode, rest) else none
  | [] => none

/-- The opening of a group, after its parenthesis. -/
def readOpening? (mode : Mode) (text : List Char) : Option (Opening × List Char) :=
  match mode.next text with
  | '?' :: 'P' :: '<' :: rest => readNamed? mode rest
  | '?' :: '<' :: rest => readNamed? mode rest
  | '?' :: rest =>
    match readFlags? [] true mode rest with
    | some (inner, ':', after) => some (.group none inner, after)
    | some (inner, _, after) =>
      if rest.head? = some ')' then none else some (.setting inner, after)
    | none => none
  | rest => some (.group none mode, rest)

/-! ### Patterns -/

/-- The group that is being read, or the whole pattern. -/
structure Level where
  mode : Mode
  /-- The depths of the alternatives before this one. -/
  alternatives : List Nat
  /-- The depths of the parts of this alternative, the last one first. -/
  parts : List Nat
  /-- Whether the last part can be repeated. -/
  canRepeat : Bool
  deriving DecidableEq, Repr

namespace Level

/-- A group of which nothing was read. -/
def start (mode : Mode) : Level := ⟨mode, [], [], false⟩

/-- The depth of what was read. -/
def depth (level : Level) : Nat := depthOf (depthOf level.parts :: level.alternatives)

/-- A group with one part more. -/
def push (level : Level) (depth : Nat) : Level :=
  { level with parts := depth :: level.parts, canRepeat := true }

/-- A group in which the rest is read in another mode. -/
def change (level : Level) (mode : Mode) : Level :=
  { level with mode, parts := 0 :: level.parts, canRepeat := false }

/-- A group with a further alternative. -/
def branch (level : Level) : Level :=
  { level with alternatives := depthOf level.parts :: level.alternatives, parts := [], canRepeat := false }

/-- A group whose last part is repeated; none if there is nothing to repeat. -/
def repeat? (level : Level) : Option Level :=
  match level.parts with
  | last :: parts => if level.canRepeat then some { level with parts := (last + 1) :: parts } else none
  | [] => none

end Level

/-- The depth of a pattern, from a place in it and the groups around that place, none if it is
malformed. The names are those of the groups so far. -/
def depth? : Nat → Level → List Level → List (List Char) → List Char → Option Nat
  | 0, _, _, _, _ => none
  | fuel + 1, level, outer, names, text =>
    match level.mode.next text with
    | [] => if outer.isEmpty then some level.depth else none
    | '(' :: rest =>
      match readOpening? level.mode rest with
      | some (.group name mode, rest) =>
        if name.any names.contains then none
        else depth? fuel (.start mode) (level :: outer) (name.toList ++ names) rest
      | some (.setting mode, rest) => depth? fuel (level.change mode) outer names rest
      | none => none
    | ')' :: rest =>
      match outer with
      | around :: outer => depth? fuel (around.push (level.depth + 1)) outer names rest
      | [] => none
    | '|' :: rest => depth? fuel level.branch outer names rest
    | '[' :: rest => do
      let (opened, rest) ← openClass? level.mode rest
      let (depth, rest) ← readClass? level.mode fuel opened [] rest
      depth? fuel (level.push depth) outer names rest
    | '{' :: _ => none
    | '.' :: rest => if level.mode.unicode then depth? fuel (level.push 0) outer names rest else none
    | c :: rest =>
      if c = '*' ∨ c = '+' ∨ c = '?' then
        level.repeat?.bind fun level =>
          depth? fuel level outer names (if rest.head? = some '?' then rest.tail else rest)
      else if c = '^' ∨ c = '$' then depth? fuel (level.push 0) outer names rest
      else
        (readAtom? level.mode (c :: rest)).bind fun (found, rest) =>
          if level.mode.allows found then depth? fuel (level.push 0) outer names rest else none

/-- Whether a text is a pattern. -/
def isWellFormed (text : List Char) : Bool :=
  (depth? (text.length + 1) (.start .start) [] [] text).any fun depth => depth ≤ deepest

end NameDomains.Pattern
