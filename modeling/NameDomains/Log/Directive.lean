/-
**Directives of a log filter.**

A directive says how severe events must be to be logged: those of a target, or of all targets, and
perhaps only those with a certain field, or those inside a certain span of work.

A directive is a level, for all targets; a target, for all its events; or a target, a scope in
brackets or both, with an equals sign and a level after it, where no level means all events. A scope
names a span, a field in braces, or both.

* `Directive.parse?` — the directive that a text denotes.
* `Directive.render` — the directive as it is written.
* `Directive.order` — more specific directives come first.
* `Directive.covers` — whether a directive is about an event.
-/

import NameDomains.Log.Condition
import NameDomains.Log.Verbosity
import NameDomains.Text.Blank

namespace NameDomains

/-- How severe events of a target, or of all targets, must be, where a span or a field may have to be
there. -/
structure Directive where
  target : Option String
  span : Option String
  field : Option FieldCondition
  verbosity : Verbosity
  deriving DecidableEq, Repr

namespace Directive

/-- The directive about all events of all targets. -/
def forAll (verbosity : Verbosity) : Directive := ⟨none, none, none, verbosity⟩

/-- The directive that lets all events of a target pass. -/
def allOf (target : String) : Directive := ⟨some target, none, none, .upTo .trace⟩

/-! ### Parts of a text -/

/-- The number of bytes that characters take. -/
def byteLength (text : List Char) : Nat := (text.map Char.utf8Size).foldr (· + ·) 0

/-- A text without so many bytes at its front; none where that would cut a character. -/
def dropBytes? : Nat → List Char → Option (List Char)
  | 0, text => some text
  | _ + 1, [] => none
  | count + 1, c :: rest =>
    if c.utf8Size ≤ count + 1 then dropBytes? (count + 1 - c.utf8Size) rest else none

/-- So many bytes at the front of a text; none where that would cut a character. -/
def takeBytes? : Nat → List Char → Option (List Char)
  | 0, _ => some []
  | _ + 1, [] => none
  | count + 1, c :: rest =>
    if c.utf8Size ≤ count + 1 then (takeBytes? (count + 1 - c.utf8Size) rest).map (c :: ·) else none

/-- The part of a text as long as a given one, at the distance of what goes before that. -/
def cut? (text before part : List Char) : Option (List Char) :=
  (dropBytes? (byteLength before) text).bind (takeBytes? (byteLength part))

/-! ### Reading -/

/-- Whether a target may start with a character. -/
def isStart (c : Char) : Bool :=
  c = '-' || c = ':' || c = '_' || Text.isAlphanumeric c

/-- A directive without an equals sign and a scope: a level, or else a target. -/
def ofWord (text : List Char) : Directive :=
  match Verbosity.parse? text with
  | some verbosity => forAll verbosity
  | none => allOf (String.ofList text)

/-- The level after the equals sign at a distance, where nothing means all events. -/
def levelAfter? (text before : List Char) : Option Verbosity := do
  let level ← dropBytes? (byteLength before + 1) text
  if level = [] then some (.upTo .trace) else Verbosity.parse? level

/-- What follows a scope: nothing, or an equals sign and a level. -/
def ending? (text before : List Char) : List Char → Option Verbosity
  | [] => some (.upTo .trace)
  | '=' :: _ => levelAfter? text before
  | _ => none

/-- A directive with a scope, given its target and what follows the opening bracket. -/
def ofScope? (text before : List Char) (target : Option String) (scope : List Char) :
    Option Directive := do
  let span := scope.takeWhile fun c => c ≠ ']' && c ≠ '\x7b'
  let name ← cut? text before span
  let before := before ++ span
  match scope.dropWhile fun c => c ≠ ']' && c ≠ '\x7b' with
  | ']' :: rest =>
    return ⟨target, some (String.ofList name), none, ← ending? text (before ++ [']']) rest⟩
  | '\x7b' :: rest =>
    let field := rest.takeWhile (· ≠ '\x7d')
    match rest.dropWhile (· ≠ '\x7d') with
    | '\x7d' :: ']' :: rest =>
      if field = [] then none
      let condition ← FieldCondition.parse? (← cut? text (before ++ ['\x7b']) field)
      let verbosity ← ending? text (before ++ ['\x7b'] ++ field ++ ['\x7d', ']']) rest
      return ⟨target, if name = [] then none else some (String.ofList name), condition, verbosity⟩
    | _ => none
  | _ => none

/-- The directive that a text denotes. Its parts are found in the text without the white space at its
ends and then taken at the same places of the text itself, so that white space in front displaces them.
A directive without an equals sign and a scope is the text itself. -/
def parse? (text : List Char) : Option Directive := do
  let inner := Text.trimChars text
  let head := inner.takeWhile fun c => c ≠ '=' && c ≠ '['
  if !(head.head?.all isStart) then none
  match inner.dropWhile fun c => c ≠ '=' && c ≠ '[' with
  | [] => if inner = [] then none else some (ofWord text)
  | '[' :: scope =>
    let target ← cut? text [] head
    ofScope? text (head ++ ['[']) (if head = [] then none else some (String.ofList target)) scope
  | _ =>
    if head = [] then none
    let target ← cut? text [] head
    return ⟨some (String.ofList target), none, none, ← levelAfter? text head⟩

/-! ### Writing -/

/-- The scope as it is written, with its brackets. -/
def renderScope (directive : Directive) : String :=
  match directive.span, directive.field with
  | none, none => ""
  | span, none => "[" ++ span.getD "" ++ "]"
  | span, some condition => "[" ++ span.getD "" ++ "\x7b" ++ condition.render ++ "\x7d]"

/-- The directive as it is written. -/
def render (directive : Directive) : String :=
  match directive.target, directive.renderScope with
  | none, "" => directive.verbosity.label
  | target, scope => target.getD "" ++ scope ++ "=" ++ directive.verbosity.label

/-! ### Order -/

/-- The order of optional values, in which none is least. -/
def orderOption {α : Type} (order : α → α → Ordering) : Option α → Option α → Ordering
  | none, none => .eq
  | none, some _ => .lt
  | some _, none => .gt
  | some a, some b => order a b

/-- The order of directives, the most specific one first: the one with the longer target, then the one
with a span, then the one with a field; between equally specific ones the later by target, span and
field. Directives that differ in the level alone are equal. -/
def order (first second : Directive) : Ordering :=
  let size (directive : Directive) : Option Nat := directive.target.map String.utf8ByteSize
  (orderOption compare (size second) (size first)).then
    ((compare second.span.isSome first.span.isSome).then
      ((compare second.field.isSome first.field.isSome).then
        ((orderOption compare second.target first.target).then
          ((orderOption compare second.span first.span).then
            (orderOption FieldCondition.order second.field first.field)))))

/-! ### What a directive is about -/

/-- Whether a directive decides about events by themselves: it names no span and no value. -/
def isForEvents (directive : Directive) : Bool :=
  directive.span.isNone && (directive.field.bind FieldCondition.value).isNone

/-- Whether a directive decides about spans of work. -/
def isForSpans (directive : Directive) : Bool := directive.span.isSome || directive.field.isSome

/-- The most verbose level that a directive can let pass. One with a value for a field may let any level
pass. -/
def reach (directive : Directive) : Verbosity :=
  if (directive.field.bind FieldCondition.value).isSome then .upTo .trace else directive.verbosity

/-- Whether an event has a field; each has its message. -/
def hasField (event : Event) (name : String) : Bool :=
  name = "message" || event.values.any fun value => value.1 = name

/-- Whether a directive about events is about an event. -/
def covers (directive : Directive) (event : Event) : Bool :=
  (directive.target.all fun start => start.toList.isPrefixOf event.target.toList) &&
    directive.field.all fun condition => hasField event condition.name

end Directive

end NameDomains
