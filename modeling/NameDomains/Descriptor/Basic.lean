/-
**Descriptors.**

A descriptor describes no value, a field or a method. Texts are read by their first characters: an
opening parenthesis starts a method, `V` alone is no value, and anything else is a field.

* `Descriptor.parse`, `parseField`, `parseMethod` — reading a whole text.
* `Descriptor.render` — the written form.
* `Descriptor.ofHeading` — a class, or arrays of one, from the text before its name.
* `Descriptor.ofParts` — a method from its result and parameters, which `returnType?` and
  `argumentTypes` give back.
-/

import NameDomains.Descriptor.MethodType

namespace NameDomains

/-- No value, a field type, or a method type. -/
inductive Descriptor
  | void
  | field (type : FieldType)
  | method (type : MethodType)
  deriving DecidableEq, Repr

namespace Descriptor

/-- A class by its internal name, which is not looked at. -/
def object (name : String) : Descriptor := field (.object name)

/-- Descriptors all of whose class names can be read back. -/
def WellFormed : Descriptor → Prop
  | void => True
  | field type => type.WellFormed
  | method type => type.WellFormed

/-! ### Written form -/

/-- The characters of the written form. -/
def chars : Descriptor → List Char
  | void => ['V']
  | field type => type.chars
  | method type => type.chars

/-- The written form. -/
def render (descriptor : Descriptor) : String := String.ofList descriptor.chars

/-- Reads a field type that fills the whole text. -/
def parseField (text : String) : Except DescriptorError Descriptor :=
  match FieldType.read text.toList with
  | .ok (type, []) => .ok (field type)
  | .ok (_, _ :: _) => .error (.malformed text)
  | .error stopped => .error (.malformed (String.ofList stopped))

/-- Reads a method type that fills the whole text. -/
def parseMethod (text : String) : Except DescriptorError Descriptor :=
  match MethodType.read text.toList with
  | .ok type => .ok (method type)
  | .error stopped => .error (.malformed (String.ofList stopped))

/-- Reads any descriptor that fills the whole text. -/
def parse (text : String) : Except DescriptorError Descriptor :=
  if text.toList.head? = some '(' then parseMethod text
  else if text = "V" then .ok void
  else parseField text

/-! ### Headings -/

/-- Class names that a heading may precede: not empty, and free of the characters that delimit
types and packages. -/
def isPlainName (name : String) : Bool :=
  name ≠ "" && name.toList.all fun c => !";[().".toList.contains c

/-- The number of array brackets in a heading, if it is brackets followed by `L`. -/
def headingDepth? (heading : String) : Option Nat :=
  let brackets := heading.toList.takeWhile (· = '[')
  if heading.toList.dropWhile (· = '[') = ['L'] then some brackets.length else none

/-- The class, or array of a class, whose written form is the heading, the name and `;`. -/
def ofHeading (heading name : String) : Except DescriptorError Descriptor :=
  match headingDepth? heading with
  | some depth =>
    if isPlainName name then .ok (field (.inArrays depth (.object name)))
    else .error (.unfitHeading heading name)
  | none => .error (.unfitHeading heading name)

/-! ### Parts of a method -/

/-- A field type among the arguments of a method. -/
def asArgument : Descriptor → Except DescriptorError FieldType
  | field type => .ok type
  | other => .error (.malformed other.render)

/-- A result: no value or a field type. -/
def asResult : Descriptor → Except DescriptorError ReturnType
  | void => .ok .void
  | field type => .ok (.field type)
  | method type => .error (.malformed type.render)

/-- The method with the given result and arguments. The result is looked at first, then the
arguments in order. -/
def ofParts (result : Descriptor) (arguments : List Descriptor) :
    Except DescriptorError Descriptor := do
  let result ← result.asResult
  let parameters ← arguments.mapM asArgument
  return method ⟨parameters, result⟩

/-- The result of a method. -/
def returnType? : Descriptor → Option Descriptor
  | method ⟨_, .void⟩ => some void
  | method ⟨_, .field type⟩ => some (field type)
  | _ => none

/-- The parameters of a method, in order; nothing else has any. -/
def argumentTypes : Descriptor → List Descriptor
  | method type => type.parameters.map field
  | _ => []

/-! ### Classification -/

/-- What kind of thing a descriptor describes. -/
inductive Kind
  | void
  | base (type : BaseType)
  | object
  | array
  | method
  deriving DecidableEq, Repr

/-- The kind of thing that a descriptor describes. -/
def kind : Descriptor → Kind
  | void => .void
  | field (.base type) => .base type
  | field (.object _) => .object
  | field (.array _) => .array
  | method _ => .method

/-- No field type is a method. -/
theorem kind_field_ne_method (type : FieldType) : (field type).kind ≠ .method := by
  cases type <;> exact nofun

/-- What has no result is no method. -/
theorem kind_ne_method_of_returnType?_eq_none {descriptor : Descriptor}
    (resultless : descriptor.returnType? = none) : descriptor.kind ≠ .method := by
  cases descriptor with
  | void => exact nofun
  | field type => exact kind_field_ne_method type
  | method type =>
    obtain ⟨_, result⟩ := type
    cases result <;> cases resultless

/-- The result of a method is no method. -/
theorem kind_ne_method_of_returnType?_eq_some {descriptor result : Descriptor}
    (found : descriptor.returnType? = some result) : result.kind ≠ .method := by
  unfold returnType? at found
  split at found
  · obtain rfl := Option.some.inj found
    exact nofun
  · obtain rfl := Option.some.inj found
    exact kind_field_ne_method _
  · cases found

/-- The parameters of a method are no methods. -/
theorem kind_ne_method_of_mem_argumentTypes {descriptor argument : Descriptor}
    (listed : argument ∈ descriptor.argumentTypes) : argument.kind ≠ .method := by
  unfold argumentTypes at listed
  split at listed
  · obtain ⟨type, -, rfl⟩ := List.mem_map.mp listed
    exact kind_field_ne_method type
  · cases listed

/-- The innermost component of an array; nothing else has one. -/
def elementType? : Descriptor → Option Descriptor
  | field (.array component) => some (field component.element)
  | _ => none

/-- The number of array brackets around the element. -/
def dimensions : Descriptor → Nat
  | field type => type.dimensions
  | _ => 0

end Descriptor

end NameDomains
