/-
**What the spellings of a class name have in common.**

A name in internal form has no dots, a dotted one no slashes, and each is got back from the other:

* `ClassName.internal_dotted`, `ClassName.dotted_internal` — a name survives the way to the other form
  and back if it had only the one separator.
* `ClassName.isQualified_iff_of_internal_eq` — all spellings of a class name are qualified, or none is.
* `ClassName.internal_inStyleOf` — the style of an answer does not change the class it names.
* `ClassName.inStyleOf_internal_eq_iff` — a name is its own internal form in its own style, unless it
  mixes both separators.
-/

import NameDomains.ClassName

namespace NameDomains.ClassName

/-! ### One character for another -/

/-- What stands in the new name: the new character in both places, and the others but the old one. -/
theorem mem_replace {old new c : Char} {name : String} :
    c ∈ (replace old new name).toList ↔
      old ∈ name.toList ∧ c = new ∨ c ∈ name.toList ∧ c ≠ old := by
  rw [replace, String.toList_ofList, List.mem_map]
  constructor
  · rintro ⟨first, member, rfl⟩
    by_cases same : first = old
    · rw [if_pos same]
      exact .inl ⟨same ▸ member, rfl⟩
    · rw [if_neg same]
      exact .inr ⟨member, same⟩
  · rintro (⟨member, rfl⟩ | ⟨member, other⟩)
    · exact ⟨old, member, if_pos rfl⟩
    · exact ⟨c, member, if_neg other⟩

/-- **A replacement is undone by the opposite one**, if the new character is new to the name. -/
theorem replace_replace {old new : Char} {name : String} (absent : new ∉ name.toList) :
    replace new old (replace old new name) = name := by
  have same : (name.toList.map fun c => if c = old then new else c).map
      (fun c => if c = new then old else c) = name.toList.map id := by
    rw [List.map_map]
    refine List.map_congr_left fun c member => ?_
    rw [Function.comp_apply, id]
    by_cases found : c = old
    · rw [if_pos found, if_pos rfl, found]
    · have other : c ≠ new := fun same => absent (same ▸ member)
      rw [if_neg found, if_neg other]
  rw [replace, replace, String.toList_ofList, same, List.map_id, String.ofList_toList]

/-- Only the empty name has an empty internal form. -/
theorem internal_eq_empty_iff {name : String} : internal name = "" ↔ name = "" := by
  rw [internal, replace, String.ofList_eq_empty_iff, List.map_eq_nil_iff, String.toList_eq_nil_iff]

/-! ### Separators -/

theorem isQualified_iff {name : String} :
    isQualified name = true ↔ '.' ∈ name.toList ∨ '/' ∈ name.toList := by
  simp only [isQualified, List.any_eq_true, Bool.or_eq_true, decide_eq_true_eq]
  constructor
  · rintro ⟨c, member, rfl | rfl⟩
    · exact .inl member
    · exact .inr member
  · rintro (member | member)
    · exact ⟨'.', member, .inl rfl⟩
    · exact ⟨'/', member, .inr rfl⟩

theorem isQualified_eq_false_iff {name : String} :
    isQualified name = false ↔ '.' ∉ name.toList ∧ '/' ∉ name.toList := by
  rw [← Bool.not_eq_true, isQualified_iff, not_or]

/-- The internal form has a slash if the name has any separator. -/
theorem slash_mem_internal {name : String} :
    '/' ∈ (internal name).toList ↔ isQualified name = true := by
  rw [isQualified_iff, internal, mem_replace]
  simp

/-- **All spellings of a class name are qualified, or none is.** -/
theorem isQualified_iff_of_internal_eq {first second : String}
    (same : internal first = internal second) :
    isQualified first = true ↔ isQualified second = true := by
  rw [← slash_mem_internal, same, slash_mem_internal]

/-- An unqualified name has no other spelling. -/
theorem eq_of_internal_eq {name spelling : String} (unqualified : isQualified name = false)
    (same : internal spelling = internal name) : spelling = name := by
  have spelled : isQualified spelling = false := by
    rw [← Bool.not_eq_true] at unqualified ⊢
    rwa [isQualified_iff_of_internal_eq same]
  rw [← internal_eq_self (isQualified_eq_false_iff.mp spelled).1, same,
    internal_eq_self (isQualified_eq_false_iff.mp unqualified).1]

/-- The dotted form has no slashes. -/
theorem dotted_noSlash (name : String) : '/' ∉ (dotted name).toList := by
  rw [dotted, mem_replace]
  simp

/-- The dotted form of a name without dots has a dot if the name has a slash. -/
theorem dot_mem_dotted {name : String} (noDot : '.' ∉ name.toList) :
    '.' ∈ (dotted name).toList ↔ '/' ∈ name.toList := by
  rw [dotted, mem_replace]
  simp [noDot]

/-- A name without dots is the internal form of its dotted form. -/
theorem internal_dotted {name : String} (noDot : '.' ∉ name.toList) :
    internal (dotted name) = name :=
  replace_replace noDot

/-- A name without slashes is the dotted form of its internal form. -/
theorem dotted_internal {name : String} (noSlash : '/' ∉ name.toList) :
    dotted (internal name) = name :=
  replace_replace noSlash

/-- A name without slashes is in dotted form already. -/
theorem dotted_eq_self {name : String} (noSlash : '/' ∉ name.toList) : dotted name = name :=
  replace_eq_self noSlash

/-! ### Answers in the style of a query -/

/-- **The style of an answer does not change the class it names.** -/
theorem internal_inStyleOf (query : String) {answer : String} (noDot : '.' ∉ answer.toList) :
    internal (inStyleOf query answer) = answer := by
  unfold inStyleOf
  split
  · exact internal_dotted noDot
  · exact internal_eq_self noDot

/-- An answer without slashes is the same in every style. -/
theorem inStyleOf_eq_self (query : String) {answer : String} (noSlash : '/' ∉ answer.toList) :
    inStyleOf query answer = answer := by
  unfold inStyleOf
  split
  · exact dotted_eq_self noSlash
  · rfl

/-- A qualified answer has the style of its query. -/
theorem inStyleOf_inStyleOf {query answer : String} (noDot : '.' ∉ answer.toList)
    (slash : '/' ∈ answer.toList) (other : String) :
    inStyleOf (inStyleOf query answer) other = inStyleOf query other := by
  by_cases dotStyle : '.' ∈ query.toList ∧ '/' ∉ query.toList
  · have answered : inStyleOf query answer = dotted answer := if_pos dotStyle
    rw [answered, inStyleOf, inStyleOf, if_pos dotStyle,
      if_pos ⟨(dot_mem_dotted noDot).mpr slash, dotted_noSlash answer⟩]
  · have answered : inStyleOf query answer = answer := if_neg dotStyle
    rw [answered, inStyleOf, inStyleOf, if_neg dotStyle, if_neg fun both => noDot both.1]

/-- **A name is its internal form in its own style, unless it mixes both separators.** -/
theorem inStyleOf_internal_eq_iff {name : String} :
    inStyleOf name (internal name) = name ↔ ¬ ('.' ∈ name.toList ∧ '/' ∈ name.toList) := by
  by_cases dot : '.' ∈ name.toList
  · by_cases slash : '/' ∈ name.toList
    · rw [inStyleOf, if_neg fun both => both.2 slash]
      refine ⟨fun same => ?_, fun unmixed => absurd ⟨dot, slash⟩ unmixed⟩
      rw [← same] at dot
      exact absurd dot (internal_noDot name)
    · rw [inStyleOf, if_pos ⟨dot, slash⟩, dotted_internal slash]
      exact ⟨fun _ both => slash both.2, fun _ => rfl⟩
  · rw [inStyleOf, if_neg fun both => dot both.1, internal_eq_self dot]
    exact ⟨fun _ both => dot both.1, fun _ => rfl⟩

end NameDomains.ClassName
