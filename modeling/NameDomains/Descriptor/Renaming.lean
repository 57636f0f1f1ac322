/-
**Renaming the classes in a descriptor.**

A renaming gives some class names a new name. A descriptor is renamed on its written form: the text
up to and including the first `L` is the heading, the rest without its `;` is the class name, and the
new name is put behind the same heading. A new name that cannot stand there changes nothing. Methods
are renamed part by part.

* `Descriptor.renameField`, `Descriptor.renameMethod` — the two entries. Each leaves to the other what is
  not its own, and no part of a method is a method, so both come to an end.
* `FieldType.rename`, `MethodType.rename`, `Descriptor.rename` — the same on the tree: every class
  name is replaced where its new name is plain, and nothing else changes.
-/

import NameDomains.Descriptor.Basic

namespace NameDomains

/-- New names for some class names, in internal form. -/
abbrev ClassRenaming := String → Option String

namespace Descriptor

/-- Splits a written class or array of a class into its heading and its class name. -/
def splitHeading? (text : List Char) : Option (List Char × List Char) :=
  match text.dropWhile (· ≠ 'L') with
  | [] => none
  | mark :: rest =>
    let name := if rest.getLast? = some ';' then rest.dropLast else rest
    some (text.takeWhile (· ≠ 'L') ++ [mark], name)

/-- Puts the new name of its class behind the heading of a descriptor. -/
def renameBehindHeading (newName : ClassRenaming) (descriptor : Descriptor) : Descriptor :=
  match splitHeading? descriptor.chars with
  | none => descriptor
  | some (heading, name) =>
    match newName (String.ofList name) with
    | none => descriptor
    | some renamed =>
      match ofHeading (String.ofList heading) renamed with
      | .ok result => result
      | .error _ => descriptor

mutual

/-- Renames a class or an array of one. A method is left to `renameMethod`. -/
def renameField (newName : ClassRenaming) (descriptor : Descriptor) : Descriptor :=
  match _sort : descriptor.kind with
  | .object => renameBehindHeading newName descriptor
  | .array =>
    if descriptor.elementType?.map kind = some .object then renameBehindHeading newName descriptor
    else descriptor
  | .method => renameMethod newName descriptor
  | _ => descriptor
termination_by if descriptor.kind = .method then 2 else 0
decreasing_by
  rw [if_pos _sort]
  decide

/-- Renames the parts of a method and puts them together again. Anything else is left to
`renameField`. -/
def renameMethod (newName : ClassRenaming) (descriptor : Descriptor) : Descriptor :=
  match _found : descriptor.returnType? with
  | none => renameField newName descriptor
  | some result =>
    match ofParts (renameField newName result)
      (descriptor.argumentTypes.attach.map fun argument => renameField newName argument.1) with
    | .ok renamed => renamed
    | .error _ => descriptor
termination_by 1
-- None of what is handed on is a method, so it does not come back.
decreasing_by
  · rw [if_neg (kind_ne_method_of_returnType?_eq_none _found)]
    decide
  · rw [if_neg (kind_ne_method_of_returnType?_eq_some _found)]
    decide
  · rw [if_neg (kind_ne_method_of_mem_argumentTypes argument.2)]
    decide

end

/-- A method whose renamed parts make a method is that method, renamed. -/
theorem renameMethod_eq_of_ofParts {newName : ClassRenaming} {descriptor result renamed : Descriptor}
    (found : descriptor.returnType? = some result)
    (made : ofParts (renameField newName result)
      (descriptor.argumentTypes.map (renameField newName)) = .ok renamed) :
    descriptor.renameMethod newName = renamed := by
  rw [renameMethod, List.attach_map_val]
  split
  · next resultless => rw [found] at resultless; cases resultless
  · next other same =>
    obtain rfl := Option.some.inj (found.symm.trans same)
    rw [made]

end Descriptor

/-! ### The same on the tree -/

/-- A class name under a renaming: its new name where that is plain, and otherwise the name. -/
def ClassRenaming.apply (newName : ClassRenaming) (name : String) : String :=
  match newName name with
  | some renamed => if Descriptor.isPlainName renamed then renamed else name
  | none => name

/-- Replaces the class name in a field type. -/
def FieldType.rename (newName : ClassRenaming) : FieldType → FieldType
  | base type => base type
  | object name => object (newName.apply name)
  | array component => array (component.rename newName)

/-- Replaces the class name in a result. -/
def ReturnType.rename (newName : ClassRenaming) : ReturnType → ReturnType
  | void => void
  | field type => field (type.rename newName)

/-- Replaces every class name in a method type. -/
def MethodType.rename (newName : ClassRenaming) (method : MethodType) : MethodType :=
  ⟨method.parameters.map (·.rename newName), method.result.rename newName⟩

/-- Replaces every class name in a descriptor. -/
def Descriptor.rename (newName : ClassRenaming) : Descriptor → Descriptor
  | void => void
  | field type => field (type.rename newName)
  | method type => method (type.rename newName)

end NameDomains
