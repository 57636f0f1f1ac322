/-
**Array types taken apart and put together.**

A field type is as many arrays as it has dimensions around its element, in the type itself and in its written
form. A class inside arrays is also put together from its heading and its name. That admits fewer names than
reading a descriptor does, and what it makes is what reading the heading, the name and `;` gives.

* `Descriptor.FitsHeading`, `Descriptor.isPlainName_iff` — the names that may follow a heading.
* `Descriptor.ofHeading_eq_error_iff` — when a heading and a name are refused, and how.
* `Descriptor.shape_of_ofHeading` — what is made of a heading and a name.
* `Descriptor.render_field_eq` — the written form of a field type, taken apart.
* `Descriptor.ofHeading_rebuilds` — both ways together.
-/

import NameDomains.Proofs.Descriptor.Grammar
import NameDomains.Proofs.Descriptor.Heading

namespace NameDomains

/-! ### Arrays around an element -/

namespace FieldType

theorem dimensions_inArrays (depth : Nat) (type : FieldType) :
    (inArrays depth type).dimensions = depth + type.dimensions := by
  induction depth with
  | zero => exact (Nat.zero_add _).symm
  | succ depth counted =>
    show (inArrays depth type).dimensions + 1 = _
    rw [counted, Nat.succ_add]

/-- The brackets of a written field type are as many as its dimensions, and its element follows them. -/
theorem chars_eq_brackets_append (type : FieldType) :
    type.chars = List.replicate type.dimensions '[' ++ type.element.chars := by
  rw [← chars_inArrays, inArrays_dimensions_element]

end FieldType

namespace Descriptor

/-- A name that may follow a heading: it is not empty and holds none of the characters that delimit types and
packages. -/
def FitsHeading (name : String) : Prop :=
  name ≠ "" ∧ ∀ c ∈ name.toList, c ∉ [';', '[', '(', ')', '.']

theorem isPlainName_iff {name : String} : isPlainName name = true ↔ FitsHeading name := by
  have delimiters : ";[().".toList = [';', '[', '(', ')', '.'] := rfl
  rw [isPlainName, Bool.and_eq_true, decide_eq_true_eq, List.all_eq_true, delimiters, FitsHeading]
  simp only [Bool.not_eq_true', List.contains_eq_mem, decide_eq_false_iff_not]

/-! ### Putting together -/

/-- **A heading and a name are refused exactly if the one is no brackets before an `L` or the other does not
fit**, and the refusal names both. -/
theorem ofHeading_eq_error_iff {text name : String} {error : DescriptorError} :
    ofHeading text name = .error error ↔
      ¬ ((∃ depth, text.toList = heading depth) ∧ FitsHeading name) ∧ error = .unfitHeading text name := by
  simp only [← headingDepth?_eq_some_iff, ← isPlainName_iff, eq_comm (a := error)]
  unfold ofHeading
  cases headingDepth? text with
  | none => simp
  | some depth =>
    by_cases plain : isPlainName name = true
    · simp [plain]
    · simp [plain]

/-- A heading and a name make something exactly if the one is brackets before an `L` and the other fits. -/
theorem exists_ofHeading_iff {text name : String} :
    (∃ result, ofHeading text name = .ok result) ↔
      (∃ depth, text.toList = heading depth) ∧ FitsHeading name := by
  simp only [ofHeading_eq_ok_iff, isPlainName_iff]
  constructor
  · rintro ⟨result, depth, opened, fits, rfl⟩
    exact ⟨⟨depth, opened⟩, fits⟩
  · rintro ⟨⟨depth, opened⟩, fits⟩
    exact ⟨_, depth, opened, fits, rfl⟩

/-- A class inside arrays is its heading, its name and `;`, written one after the other. -/
theorem render_inArrays_object {text : String} {depth : Nat} (opened : text.toList = heading depth)
    (name : String) : (field (.inArrays depth (.object name))).render = text ++ name ++ ";" := by
  rw [render_eq_iff, chars_inArrays_object, String.toList_append, String.toList_append, opened,
    List.append_assoc]
  rfl

/-- **What is made of a heading and a name**: the named class inside as many arrays as the heading has brackets,
which is also what is read off the heading, the name and `;`. -/
theorem shape_of_ofHeading {text name : String} {depth : Nat} {result : Descriptor}
    (opened : text.toList = heading depth) (made : ofHeading text name = .ok result) :
    result.dimensions = depth ∧ result.elementType? = (if depth = 0 then none else some (object name)) ∧
      (depth = 0 → result = object name) ∧ result.render = text ++ name ++ ";" ∧
      parse (text ++ name ++ ";") = .ok result := by
  obtain ⟨other, same, plain, rfl⟩ := ofHeading_eq_ok_iff.mp made
  obtain rfl : other = depth := by
    have length := congrArg List.length (same.symm.trans opened)
    simpa only [heading, List.length_append, List.length_replicate, Nat.add_right_cancel_iff] using length
  have written := render_inArrays_object opened name
  have wellFormed : (field (.inArrays other (.object name))).WellFormed := by
    clear * - plain
    induction other with
    | zero => exact wellFormed_of_isPlainName plain
    | succ depth inside => exact inside
  refine ⟨FieldType.dimensions_inArrays other _, ?_, ?_, written, parse_eq_ok_iff.mpr ⟨wellFormed, written⟩⟩
  · cases other with
    | zero => rfl
    | succ depth => exact congrArg (some ∘ field) (FieldType.element_inArrays depth (.object name))
  · rintro rfl
    rfl

/-! ### Taking apart -/

/-- **A written field type is as many brackets as it has dimensions, and its written element.** -/
theorem render_field_eq (type : FieldType) :
    (field type).render =
      String.ofList (List.replicate (field type).dimensions '[') ++ (field type.element).render := by
  rw [render_eq_iff, String.toList_append, String.toList_ofList, render, String.toList_ofList]
  exact type.chars_eq_brackets_append

/-- Arrays have an element, and nothing else has one. -/
theorem elementType?_field (type : FieldType) :
    (field type).elementType? = if 0 < (field type).dimensions then some (field type.element) else none := by
  cases type with
  | base | object => rfl
  | array component => rfl

/-- **A field type around a class is put together from its brackets and the name of the class.** -/
theorem ofHeading_of_element {type : FieldType} {name : String} (inside : type.element = .object name)
    (fits : FitsHeading name) :
    ofHeading (String.ofList (heading (field type).dimensions)) name = .ok (field type) := by
  refine ofHeading_eq_ok_iff.mpr ⟨_, String.toList_ofList, isPlainName_iff.mpr fits, ?_⟩
  rw [← inside]
  exact congrArg field type.inArrays_dimensions_element

/-- **Headings and names are put together as they are read, and come out as they were taken apart.** A heading
and a name make a type exactly if the one is brackets before an `L` and the other fits; the type has the name
inside as many arrays, and reading gives it as well. A field type is its brackets and its element, which is no
array, and is put together from them again if the element is a class whose name fits. -/
theorem ofHeading_rebuilds (text name : String) (type : FieldType) :
    ((∃ result, ofHeading text name = .ok result) ↔
      (∃ depth, text.toList = heading depth) ∧ FitsHeading name) ∧
    (∀ depth result, text.toList = heading depth → ofHeading text name = .ok result →
      result.dimensions = depth ∧ result.elementType? = (if depth = 0 then none else some (object name)) ∧
        (depth = 0 → result = object name) ∧ result.render = text ++ name ++ ";" ∧
        parse (text ++ name ++ ";") = .ok result) ∧
    (∀ error, ofHeading text name = .error error → error = .unfitHeading text name) ∧
    (field type).render =
      String.ofList (List.replicate (field type).dimensions '[') ++ (field type.element).render ∧
    (∀ component, type.element ≠ .array component) ∧
    (field type).elementType? = (if 0 < (field type).dimensions then some (field type.element) else none) ∧
    ∀ inside, type.element = .object inside → FitsHeading inside →
      ofHeading (String.ofList (heading (field type).dimensions)) inside = .ok (field type) :=
  ⟨exists_ofHeading_iff, fun _ _ => shape_of_ofHeading, fun _ failed => (ofHeading_eq_error_iff.mp failed).2,
    render_field_eq type, type.element_ne_array, elementType?_field type, fun _ => ofHeading_of_element⟩

/-- A name with a slash inside two arrays. -/
theorem ofHeading_rebuilds_two_arrays :
    let type := FieldType.array (.array (.object "net/Foo"))
    (FitsHeading "net/Foo" ∧ "[[L".toList = heading 2 ∧ type.element = .object "net/Foo") ∧
      ofHeading "[[L" "net/Foo" = .ok (field type) ∧ parse "[[Lnet/Foo;" = .ok (field type) ∧
      (field type).elementType? = some (object "net/Foo") := by
  intro type
  have fits : FitsHeading "net/Foo" := isPlainName_iff.mp (by decide)
  obtain ⟨-, shape, -, -, -, element, rebuilt⟩ := ofHeading_rebuilds "[[L" "net/Foo" type
  have made : ofHeading "[[L" "net/Foo" = .ok (field type) := rebuilt "net/Foo" rfl fits
  obtain ⟨-, -, -, -, read⟩ := shape 2 _ rfl made
  exact ⟨⟨fits, rfl, rfl⟩, made, read, element⟩

end Descriptor

end NameDomains
