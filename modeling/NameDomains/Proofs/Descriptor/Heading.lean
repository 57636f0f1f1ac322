/-
**The heading of a class in a descriptor.**

A class inside some arrays is written as a heading, the class name and `;`. The heading holds no other
`L` than its last character, so a written class is split where it was put together, whatever its name
holds:

* `FieldType.eq_inArrays` — a field type is a base type or a class inside some arrays.
* `Descriptor.headingDepth?_eq_some_iff` — which texts are headings.
* `Descriptor.ofHeading_eq_ok_iff` — what is made of a heading and a class name.
* `Descriptor.splitHeading?_chars` — how a written class is split.
-/

import NameDomains.Descriptor.Renaming
import NameDomains.Proofs.Text.Offset

namespace NameDomains

/-! ### Arrays around an element -/

namespace FieldType

/-- **A field type is a base type or a class inside some arrays.** -/
theorem eq_inArrays (type : FieldType) :
    (∃ depth letter, type = inArrays depth (base letter)) ∨
      ∃ depth name, type = inArrays depth (object name) := by
  have whole := inArrays_dimensions_element type
  cases inside : type.element with
  | base letter => exact .inl ⟨type.dimensions, letter, by rw [← inside, whole]⟩
  | object name => exact .inr ⟨type.dimensions, name, by rw [← inside, whole]⟩
  | array component => exact absurd inside (element_ne_array type component)

/-- Each array puts a bracket in front. -/
theorem chars_inArrays (depth : Nat) (type : FieldType) :
    (inArrays depth type).chars = List.replicate depth '[' ++ type.chars := by
  induction depth with
  | zero => rfl
  | succ depth written => exact congrArg ('[' :: ·) written

/-- Arrays do not change the element. -/
theorem element_inArrays (depth : Nat) (type : FieldType) :
    (inArrays depth type).element = type.element := by
  induction depth with
  | zero => rfl
  | succ depth same => exact same

end FieldType

namespace Descriptor

/-! ### Headings -/

/-- The text before the name of a class inside some arrays. -/
def heading (depth : Nat) : List Char := List.replicate depth '[' ++ ['L']

/-- A class inside some arrays is written as its heading, its name and `;`. -/
theorem chars_inArrays_object (depth : Nat) (name : String) :
    (field (.inArrays depth (.object name))).chars = heading depth ++ (name.toList ++ [';']) := by
  rw [heading, List.append_assoc]
  exact FieldType.chars_inArrays depth (.object name)

theorem brackets_of_mem_replicate {depth : Nat} :
    ∀ c ∈ List.replicate depth '[', decide (c = '[') = true := fun _ member =>
  decide_eq_true (List.eq_of_mem_replicate member)

/-- **The headings are the texts of brackets before an `L`.** -/
theorem headingDepth?_eq_some_iff {text : String} {depth : Nat} :
    headingDepth? text = some depth ↔ text.toList = heading depth := by
  unfold headingDepth?
  dsimp only
  constructor
  · intro found
    split at found
    · next marked =>
      have brackets : text.toList.takeWhile (· = '[') = List.replicate depth '[' := by
        rw [← Option.some.inj found]
        exact List.eq_replicate_of_mem fun c member =>
          of_decide_eq_true (List.all_eq_true.mp List.all_takeWhile c member)
      rw [heading, ← brackets, ← marked, List.takeWhile_append_dropWhile]
    · cases found
  · intro same
    rw [same, heading, List.takeWhile_append_of_pos brackets_of_mem_replicate,
      List.dropWhile_append_of_pos brackets_of_mem_replicate]
    simp

/-- **A class is made of a heading and a plain name**, and of nothing else. -/
theorem ofHeading_eq_ok_iff {text name : String} {result : Descriptor} :
    ofHeading text name = .ok result ↔
      ∃ depth, text.toList = heading depth ∧ isPlainName name = true ∧
        field (.inArrays depth (.object name)) = result := by
  simp only [← headingDepth?_eq_some_iff]
  unfold ofHeading
  cases headingDepth? text with
  | none => simp
  | some depth =>
    by_cases plain : isPlainName name = true
    · simp [plain]
    · simp [plain]

/-- A name that is not plain makes nothing. -/
theorem ofHeading_of_not_plain {name : String} (plain : ¬ isPlainName name = true) (text : String) :
    ∃ error, ofHeading text name = .error error := by
  cases made : ofHeading text name with
  | error error => exact ⟨error, rfl⟩
  | ok result =>
    obtain ⟨_, _, accepted, _⟩ := ofHeading_eq_ok_iff.mp made
    exact absurd accepted plain

/-- A plain name is not empty and does not hold the character that ends a name. -/
theorem wellFormed_of_isPlainName {name : String} (plain : isPlainName name = true) :
    name ≠ "" ∧ ';' ∉ name.toList := by
  rw [isPlainName, Bool.and_eq_true, decide_eq_true_eq, List.all_eq_true] at plain
  refine ⟨plain.1, fun member => ?_⟩
  exact absurd (plain.2 ';' member) (by decide)

/-- **A written class is split behind its heading**, whatever its name holds. -/
theorem splitHeading?_chars (depth : Nat) (name : String) :
    splitHeading? (field (.inArrays depth (.object name))).chars =
      some (heading depth, name.toList) := by
  have free : 'L' ∉ List.replicate depth '[' := fun member =>
    absurd (List.eq_of_mem_replicate member) (by decide)
  have written : (field (.inArrays depth (.object name))).chars =
      List.replicate depth '[' ++ 'L' :: (name.toList ++ [';']) := by
    rw [chars_inArrays_object, heading, List.append_assoc, List.singleton_append]
  obtain ⟨taken, dropped⟩ := Text.takeWhile_dropWhile_append free (name.toList ++ [';'])
  rw [← written] at taken dropped
  rw [splitHeading?, dropped, taken]
  simp only [List.getLast?_concat, if_true, List.dropLast_concat]
  rfl

end Descriptor

end NameDomains
