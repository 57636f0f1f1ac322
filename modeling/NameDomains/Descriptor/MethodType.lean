/-
**Method types.**

A method type is a list of parameters and a result. It is written as the parameters in parentheses
followed by the result, `V` where there is none.

* `MethodType.render` — the written form.
* `MethodType.readParameters` — field types up to the closing parenthesis. Each one leaves less
  text (`FieldType.length_of_read`), so reading ends.
* `MethodType.read` — a whole method type, or the text at which reading stopped.
-/

import NameDomains.Descriptor.FieldType

namespace NameDomains

/-- What a method returns. -/
inductive ReturnType
  | void
  | field (type : FieldType)
  deriving DecidableEq, Repr

/-- The parameters and the result of a method. -/
structure MethodType where
  parameters : List FieldType
  result : ReturnType
  deriving DecidableEq, Repr

namespace ReturnType

/-- Results whose class names can be read back. -/
def WellFormed : ReturnType → Prop
  | void => True
  | field type => type.WellFormed

/-- The characters of the written form. -/
def chars : ReturnType → List Char
  | void => ['V']
  | field type => type.chars

/-- The written form. -/
def render (result : ReturnType) : String := String.ofList result.chars

/-- Reads a result off the front of a text. -/
def read : List Char → Except (List Char) (ReturnType × List Char)
  | 'V' :: rest => .ok (void, rest)
  | text => (FieldType.read text).map fun found => (field found.1, found.2)

end ReturnType

namespace MethodType

/-- Methods all of whose class names can be read back. -/
def WellFormed (method : MethodType) : Prop :=
  (∀ parameter ∈ method.parameters, parameter.WellFormed) ∧ method.result.WellFormed

/-- The characters of the written form. -/
def chars (method : MethodType) : List Char :=
  '(' :: method.parameters.flatMap FieldType.chars ++ ')' :: method.result.chars

/-- The written form. -/
def render (method : MethodType) : String := String.ofList method.chars

/-- Reads field types up to the closing parenthesis and returns what follows it. A text that ends
before is reported as `whole`. -/
def readParameters (whole text : List Char) : Except (List Char) (List FieldType × List Char) :=
  match text with
  | [] => .error whole
  | ')' :: rest => .ok ([], rest)
  | text =>
    match found : FieldType.read text with
    | .error stopped => .error stopped
    | .ok (parameter, rest) =>
      have _shorter := FieldType.length_of_read found
      (readParameters whole rest).map fun later => (parameter :: later.1, later.2)
termination_by text.length

/-- Reads a method type that fills the whole text. -/
def read (text : List Char) : Except (List Char) MethodType :=
  match text with
  | '(' :: rest => do
    let (parameters, rest) ← readParameters text rest
    if rest.isEmpty then throw text
    let (result, rest) ← ReturnType.read rest
    if rest.isEmpty then return ⟨parameters, result⟩ else throw text
  | _ => throw text

end MethodType

end NameDomains
