/-
**Spelling of class names.**

A class name separates its packages by slashes in internal form and by dots in binary form. Tables
hold internal forms; an answer follows the separators of its query.

* `ClassName.replace` — a name with one character in the place of another.
* `ClassName.internal` — the internal form of a name in either spelling.
* `ClassName.inStyleOf` — an internal name with the separators of a query.
* `internal_internal`, `internal_noDot` — the internal form has no dots, and taking it again
  changes nothing.
-/

namespace NameDomains.ClassName

/-- The name with one character in the place of another. -/
def replace (old new : Char) (name : String) : String :=
  String.ofList (name.toList.map fun c => if c = old then new else c)

/-- The name with slashes for dots. -/
def internal (name : String) : String := replace '.' '/' name

/-- The name with dots for slashes. -/
def dotted (name : String) : String := replace '/' '.' name

/-- Whether a name separates packages, in either spelling. -/
def isQualified (name : String) : Bool := name.toList.any fun c => c = '.' || c = '/'

/-- An internal name as an answer to a query: dotted where the query has dots and no slash. -/
def inStyleOf (query answer : String) : String :=
  if '.' ∈ query.toList ∧ '/' ∉ query.toList then dotted answer else answer

/-- Replacing a character that the name does not hold changes nothing. -/
theorem replace_eq_self {old new : Char} {name : String} (absent : old ∉ name.toList) :
    replace old new name = name := by
  have same : name.toList.map (fun c => if c = old then new else c) = name.toList.map id :=
    List.map_congr_left fun c member => if_neg fun (found : c = old) => absent (found ▸ member)
  rw [replace, same, List.map_id, String.ofList_toList]

/-- The internal form of a name holds no dot. -/
theorem internal_noDot (name : String) : '.' ∉ (internal name).toList := by
  simp only [internal, replace, String.toList_ofList, List.mem_map, not_exists, not_and]
  intro c _ same
  split at same
  · exact absurd same (by decide)
  · contradiction

/-- A name without dots is in internal form already. -/
theorem internal_eq_self {name : String} (noDot : '.' ∉ name.toList) : internal name = name :=
  replace_eq_self noDot

/-- Taking the internal form again changes nothing. -/
@[simp] theorem internal_internal (name : String) : internal (internal name) = internal name :=
  internal_eq_self (internal_noDot name)

end NameDomains.ClassName
