/-
**Methods taken apart and put together.**

The parts of a method are its result and its parameters. They make that method again, and whatever makes a
method comes out as its parts. What makes none is a method where there should be a result, or else the first
argument that is no field type; it is reported by its written form.

* `Descriptor.asArgument_eq_ok_iff`, `Descriptor.asResult_eq_ok_iff` — what may stand in a method.
* `Descriptor.ofParts_eq_ok_iff` — what is made of parts.
* `Descriptor.Blamed`, `Descriptor.ofParts_eq_error_iff` — the part for which nothing is made.
* `Descriptor.ofParts_and_back` — both ways together.
-/

import NameDomains.Proofs.Descriptor.Renaming
import NameDomains.Proofs.Outcome

namespace NameDomains.Descriptor

/-- A descriptor of a field. -/
def IsField (descriptor : Descriptor) : Prop := ∃ type, descriptor = field type

/-! ### What may stand in a method -/

theorem asArgument_eq_ok_iff {descriptor : Descriptor} {type : FieldType} :
    descriptor.asArgument = .ok type ↔ descriptor = field type := by
  cases descriptor <;> simp [asArgument]

/-- An argument is a field type, or else it is refused by its written form. -/
theorem asArgument_eq_error_iff {descriptor : Descriptor} {error : DescriptorError} :
    descriptor.asArgument = .error error ↔ ¬ descriptor.IsField ∧ error = .malformed descriptor.render := by
  cases descriptor <;> simp [asArgument, IsField, eq_comm]

theorem asResult_eq_ok_iff {descriptor : Descriptor} {result : ReturnType} :
    descriptor.asResult = .ok result ↔ descriptor = result.descriptor := by
  cases descriptor <;> cases result <;> simp [asResult, ReturnType.descriptor]

/-- A result is no method, or else it is refused by its written form. -/
theorem asResult_eq_error_iff {descriptor : Descriptor} {error : DescriptorError} :
    descriptor.asResult = .error error ↔
      (∃ type, descriptor = method type) ∧ error = .malformed descriptor.render := by
  cases descriptor <;> simp [asResult, eq_comm, render, MethodType.render, chars]

/-- Whatever is no method may be a result. -/
theorem exists_asResult_iff {descriptor : Descriptor} :
    (∃ result, descriptor.asResult = .ok result) ↔ ∀ type, descriptor ≠ method type := by
  cases descriptor <;> simp [asResult]

/-! ### What is made of parts -/

/-- Arguments are taken as parameters exactly if they are these. -/
theorem mapM_asArgument_eq_ok_iff {arguments : List Descriptor} {parameters : List FieldType} :
    arguments.mapM asArgument = .ok parameters ↔ arguments = parameters.map field := by
  constructor
  · intro listed
    have each := Outcome.forall₂_of_mapM listed
    clear listed
    induction each with
    | nil => rfl
    | cons here _ same => rw [asArgument_eq_ok_iff.mp here, same, List.map_cons]
  · rintro rfl
    exact mapM_asArgument_map_field parameters

/-- **A method is made of its result and its parameters**, and of nothing else. -/
theorem ofParts_eq_ok_iff {result made : Descriptor} {arguments : List Descriptor} :
    ofParts result arguments = .ok made ↔
      ∃ type : MethodType, made = method type ∧ result = type.result.descriptor ∧
        arguments = type.parameters.map field := by
  constructor
  · intro found
    obtain ⟨own, asked, found⟩ := Outcome.bind_eq_ok_iff.mp found
    obtain ⟨parameters, listed, found⟩ := Outcome.bind_eq_ok_iff.mp found
    obtain rfl := Except.ok.inj found
    exact ⟨⟨parameters, own⟩, rfl, asResult_eq_ok_iff.mp asked, mapM_asArgument_eq_ok_iff.mp listed⟩
  · rintro ⟨type, rfl, rfl, rfl⟩
    exact ofParts_descriptor type.result type.parameters

/-- Descriptors are the fields of some types exactly if each of them is a field. -/
theorem exists_eq_map_field_iff {arguments : List Descriptor} :
    (∃ parameters, arguments = List.map field parameters) ↔ ∀ argument ∈ arguments, argument.IsField := by
  constructor
  · rintro ⟨parameters, rfl⟩ argument listed
    obtain ⟨type, -, rfl⟩ := List.mem_map.mp listed
    exact ⟨type, rfl⟩
  · intro fields
    induction arguments with
    | nil => exact ⟨[], rfl⟩
    | cons argument arguments others =>
      obtain ⟨⟨type, rfl⟩, later⟩ := List.forall_mem_cons.mp fields
      obtain ⟨parameters, rfl⟩ := others later
      exact ⟨type :: parameters, rfl⟩

/-- Parts make a method exactly if the result is no method and the arguments are fields. -/
theorem exists_ofParts_iff {result : Descriptor} {arguments : List Descriptor} :
    (∃ made, ofParts result arguments = .ok made) ↔
      (result = void ∨ result.IsField) ∧ ∀ argument ∈ arguments, argument.IsField := by
  have admitted : (∃ own : ReturnType, result = own.descriptor) ↔ result = void ∨ result.IsField := by
    constructor
    · rintro ⟨_ | type, rfl⟩
      · exact .inl rfl
      · exact .inr ⟨type, rfl⟩
    · rintro (rfl | ⟨type, rfl⟩)
      · exact ⟨.void, rfl⟩
      · exact ⟨.field type, rfl⟩
  rw [← admitted, ← exists_eq_map_field_iff]
  simp only [ofParts_eq_ok_iff]
  constructor
  · rintro ⟨made, type, -, asked, listed⟩
    exact ⟨⟨type.result, asked⟩, type.parameters, listed⟩
  · rintro ⟨⟨own, asked⟩, parameters, listed⟩
    exact ⟨_, ⟨parameters, own⟩, rfl, asked, listed⟩

/-! ### Parts of which nothing is made -/

/-- The part for which no method is made: a result that is a method, whatever the arguments are, or else the
first argument that is no field. -/
inductive Blamed : Descriptor → List Descriptor → Descriptor → Prop
  | result (type : MethodType) (arguments : List Descriptor) :
      Blamed (method type) arguments (method type)
  | argument {result first : Descriptor} {before : List Descriptor} (after : List Descriptor)
      (admitted : ∀ type, result ≠ method type) (fields : ∀ argument ∈ before, argument.IsField)
      (other : ¬ first.IsField) : Blamed result (before ++ first :: after) first

/-- **Nothing is made exactly if a part is to blame**, and the error is its written form. -/
theorem ofParts_eq_error_iff {result : Descriptor} {arguments : List Descriptor} {error : DescriptorError} :
    ofParts result arguments = .error error ↔
      ∃ part, Blamed result arguments part ∧ error = .malformed part.render := by
  have parts : ofParts result arguments =
      result.asResult >>= fun own => arguments.mapM asArgument >>= fun parameters =>
        return method ⟨parameters, own⟩ := rfl
  rw [parts, Outcome.bind_eq_error_iff, asResult_eq_error_iff]
  constructor
  · rintro (⟨⟨type, rfl⟩, rfl⟩ | ⟨own, asked, failed⟩)
    · exact ⟨_, .result type arguments, rfl⟩
    · obtain ⟨before, first, after, rfl, fields, refused⟩ :=
        Outcome.mapM_eq_error_iff.mp (Outcome.bind_return_eq_error_iff.mp failed)
      obtain ⟨other, rfl⟩ := asArgument_eq_error_iff.mp refused
      refine ⟨first, .argument after (exists_asResult_iff.mp ⟨own, asked⟩) ?_ other, rfl⟩
      intro argument listed
      obtain ⟨type, found⟩ := fields argument listed
      exact ⟨type, asArgument_eq_ok_iff.mp found⟩
  · rintro ⟨part, blamed, rfl⟩
    cases blamed with
    | result type => exact .inl ⟨⟨type, rfl⟩, rfl⟩
    | argument after admitted fields other =>
      obtain ⟨own, asked⟩ := exists_asResult_iff.mpr admitted
      refine .inr ⟨own, asked, Outcome.bind_return_eq_error_iff.mpr (Outcome.mapM_eq_error_iff.mpr
        ⟨_, part, after, rfl, ?_, asArgument_eq_error_iff.mpr ⟨other, rfl⟩⟩)⟩
      intro argument listed
      obtain ⟨type, same⟩ := fields argument listed
      exact ⟨type, asArgument_eq_ok_iff.mpr same⟩

/-! ### Both ways -/

/-- **Taking a method apart and putting it together undo each other.** The parts of a method make that method.
A result and arguments make one exactly if the result is no value or a field and every argument is a field, and
then they are its parts, in order. Otherwise the error is the written form of the result, if that is a method,
and else of the first argument that is no field. -/
theorem ofParts_and_back :
    (∀ type : MethodType, ∃ result, (method type).returnType? = some result ∧
      ofParts result (method type).argumentTypes = .ok (method type)) ∧
    ∀ result arguments,
      ((∃ made, ofParts result arguments = .ok made) ↔
        (result = void ∨ result.IsField) ∧ ∀ argument ∈ arguments, argument.IsField) ∧
      (∀ made, ofParts result arguments = .ok made →
        (∃ type, made = method type) ∧ made.returnType? = some result ∧ made.argumentTypes = arguments) ∧
      ∀ error, ofParts result arguments = .error error ↔
        ∃ part, Blamed result arguments part ∧ error = .malformed part.render := by
  refine ⟨fun type => ⟨_, returnType?_method type, ofParts_descriptor type.result type.parameters⟩,
    fun result arguments => ⟨exists_ofParts_iff, fun made found => ?_, fun _ => ofParts_eq_error_iff⟩⟩
  obtain ⟨type, rfl, rfl, rfl⟩ := ofParts_eq_ok_iff.mp found
  exact ⟨⟨type, rfl⟩, returnType?_method type, rfl⟩

/-- A method with an array among its parameters, and two bad arguments behind a good one. -/
theorem ofParts_and_back_two_bad :
    let foo := field (.array (.object "net/Foo"))
    let method := method ⟨[.array (.object "net/Foo"), .base .int], .void⟩
    ofParts void [foo, field (.base .int)] = .ok method ∧ method.returnType? = some void ∧
      method.argumentTypes = [foo, field (.base .int)] ∧
      ofParts foo [foo, void, method] = .error (.malformed "V") ∧
      ofParts method [void] = .error (.malformed "([Lnet/Foo;I)V") := by
  intro foo method
  obtain ⟨-, parts⟩ := ofParts_and_back
  have made : ofParts void [foo, field (.base .int)] = .ok method := rfl
  obtain ⟨-, back, -⟩ := parts void [foo, field (.base .int)]
  obtain ⟨-, result, arguments⟩ := back method made
  obtain ⟨-, -, blamed⟩ := parts foo [foo, void, method]
  obtain ⟨-, -, whole⟩ := parts method [void]
  refine ⟨made, result, arguments, (blamed _).mpr ⟨void, ?_, by decide⟩,
    (whole _).mpr ⟨method, ?_, by decide⟩⟩
  · show Blamed foo ([foo] ++ void :: [method]) void
    exact .argument [method] nofun (List.forall_mem_singleton.mpr ⟨_, rfl⟩) nofun
  · exact .result _ _

end NameDomains.Descriptor
