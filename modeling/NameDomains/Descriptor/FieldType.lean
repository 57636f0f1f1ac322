/-
**Field types.**

A field type is a base type, a class, or an array of a field type. It is written as one letter, as
`L`, the class name and `;`, or as `[` and the component.

* `FieldType.render` — the written form.
* `FieldType.read` — one field type off the front of a text, or the text at which reading stopped.
* `FieldType.WellFormed` — the types that have a written form of their own.
* `length_of_read` — reading leaves less text than it was given.
-/

import NameDomains.Descriptor.Error

namespace NameDomains

/-- The base types. -/
inductive BaseType
  | boolean | char | byte | short | int | float | long | double
  deriving DecidableEq, Repr

namespace BaseType

/-- The letter that stands for a base type. -/
def letter : BaseType → Char
  | boolean => 'Z'
  | char => 'C'
  | byte => 'B'
  | short => 'S'
  | int => 'I'
  | float => 'F'
  | long => 'J'
  | double => 'D'

/-- The base type that a letter stands for. -/
def ofLetter? (c : Char) : Option BaseType :=
  if c = 'Z' then some boolean
  else if c = 'C' then some char
  else if c = 'B' then some byte
  else if c = 'S' then some short
  else if c = 'I' then some int
  else if c = 'F' then some float
  else if c = 'J' then some long
  else if c = 'D' then some double
  else none

@[simp] theorem ofLetter?_letter (type : BaseType) : ofLetter? type.letter = some type := by
  cases type <;> rfl

/-- A letter stands for a base type exactly when it is that type's letter. -/
theorem ofLetter?_eq_some_iff {c : Char} {type : BaseType} :
    ofLetter? c = some type ↔ c = type.letter := by
  refine ⟨fun found => ?_, fun same => same ▸ ofLetter?_letter type⟩
  unfold ofLetter? at found
  repeat' split at found
  all_goals cases found
  all_goals assumption

end BaseType

/-- The type of a field or of a parameter. -/
inductive FieldType
  | base (type : BaseType)
  /-- A class, by its name in internal form. -/
  | object (name : String)
  | array (component : FieldType)
  deriving DecidableEq, Repr

namespace FieldType

/-! ### Shape -/

/-- The innermost component of an array, and any other type itself. -/
def element : FieldType → FieldType
  | array component => component.element
  | other => other

/-- The number of array brackets around the element. -/
def dimensions : FieldType → Nat
  | array component => component.dimensions + 1
  | _ => 0

/-- A type inside a given number of arrays. -/
def inArrays : Nat → FieldType → FieldType
  | 0, type => type
  | depth + 1, type => array (inArrays depth type)

/-- Every type is its element inside as many arrays as it has dimensions. -/
theorem inArrays_dimensions_element (type : FieldType) :
    inArrays type.dimensions type.element = type := by
  induction type with
  | base | object => rfl
  | array component same => exact congrArg array same

/-- The element of a type is no array. -/
theorem element_ne_array (type component : FieldType) : type.element ≠ array component := by
  induction type with
  | base | object => exact nofun
  | array _ other => exact other

/-- Types whose class names are not empty and do not hold the character that ends a name. -/
def WellFormed : FieldType → Prop
  | base _ => True
  | object name => name ≠ "" ∧ ';' ∉ name.toList
  | array component => component.WellFormed

/-! ### Written form -/

/-- The characters of the written form. -/
def chars : FieldType → List Char
  | base type => [type.letter]
  | object name => 'L' :: name.toList ++ [';']
  | array component => '[' :: component.chars

/-- The written form. -/
def render (type : FieldType) : String := String.ofList type.chars

/-- Reads one field type off the front of a text and returns what is left. A failure carries the
text, opening brackets left off, that does not start a field type. -/
def read : List Char → Except (List Char) (FieldType × List Char)
  | [] => .error []
  | '[' :: rest => (read rest).map fun found => (array found.1, found.2)
  | 'L' :: rest =>
    match rest.takeWhile (· ≠ ';'), rest.dropWhile (· ≠ ';') with
    | first :: name, _ :: rest => .ok (object (String.ofList (first :: name)), rest)
    | _, _ => .error ('L' :: rest)
  | letter :: rest =>
    match BaseType.ofLetter? letter with
    | some type => .ok (base type, rest)
    | none => .error (letter :: rest)

/-- Reading a field type leaves less text than it was given. -/
theorem length_of_read {text rest : List Char} {type : FieldType}
    (found : read text = .ok (type, rest)) : rest.length < text.length := by
  fun_induction read text generalizing type rest with
  | case1 => exact nomatch found
  | case2 text shorter =>
    match inner : read text with
    | .error _ => simp [inner, Except.map] at found
    | .ok (component, left) =>
      simp only [inner, Except.map, Except.ok.injEq, Prod.mk.injEq] at found
      obtain ⟨_, rfl⟩ := found
      exact Nat.lt_succ_of_lt (shorter inner)
  | case3 text first name mark left ending named =>
    simp only [Except.ok.injEq, Prod.mk.injEq] at found
    obtain ⟨_, rfl⟩ := found
    have bound := (List.dropWhile_sublist (l := text) (· ≠ ';')).length_le
    rw [ending] at bound
    simp only [List.length_cons] at bound ⊢
    omega
  | case4 => exact nomatch found
  | case5 =>
    simp only [Except.ok.injEq, Prod.mk.injEq] at found
    obtain ⟨_, rfl⟩ := found
    exact Nat.lt_succ_self _
  | case6 => exact nomatch found

end FieldType

end NameDomains
