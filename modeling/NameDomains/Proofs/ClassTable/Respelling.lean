/-
**Class tables of respelled pairs.**

Two spellings of a class name differ in separators only, so they have one internal form, and a class table
holds internal forms. Pairs in other spellings make a table with the same names, or none for the same
conflict; only the first spellings may differ, and they still name the same classes:

* `ClassTable.ofPairs_respelled` — the tables of respelled pairs are alike.
* `ClassTable.SameNames.counterpart?_eq`, `ClassTable.SameNames.directed_eq` — tables with the same names
  know and rename classes alike.
* `ClassTable.SameNames.resolve_eq_of_qualified`, `ClassTable.SameNames.internal_resolve` — how they answer
  to a query.
-/

import NameDomains.Proofs.ClassTable.RoundTrip

namespace NameDomains.ClassTable

/-- Both names of one pair are spellings of those of the other. -/
def Respelled (pair other : String × String) : Prop :=
  ClassName.internal pair.1 = ClassName.internal other.1 ∧
    ClassName.internal pair.2 = ClassName.internal other.2

theorem ne_empty_iff_of_internal_eq {name spelling : String}
    (same : ClassName.internal name = ClassName.internal spelling) : name ≠ "" ↔ spelling ≠ "" := by
  rw [ne_eq, ne_eq, ← ClassName.internal_eq_empty_iff, same, ClassName.internal_eq_empty_iff]

/-- A respelled pair counts if the pair does. -/
theorem Respelled.isKept_iff {pair other : String × String} (respelled : Respelled pair other) :
    IsKept pair ↔ IsKept other :=
  and_congr (ne_empty_iff_of_internal_eq respelled.1) (ne_empty_iff_of_internal_eq respelled.2)

/-- Tables that relate the same names, in whatever spelling they came. -/
structure SameNames (table other : ClassTable) : Prop where
  runtimeOf : table.runtimeOf = other.runtimeOf
  humanOf : table.humanOf = other.humanOf

/-- **A respelled pair makes the same names or the same conflict.** -/
theorem add_respelled {table other : ClassTable} (same : SameNames table other)
    {pair otherPair : String × String} (respelled : Respelled pair otherPair) :
    Outcome.Alike SameNames (add table pair) (add other otherPair) := by
  by_cases counts : IsKept pair
  · rw [add_of_kept table counts, add_of_kept other (respelled.isKept_iff.mp counts), same.runtimeOf,
      same.humanOf, respelled.1, respelled.2]
    cases relate other.runtimeOf (ClassName.internal otherPair.1) (ClassName.internal otherPair.2) with
    | error conflict => exact .failed conflict
    | ok runtimeOf =>
      cases relate other.humanOf (ClassName.internal otherPair.2)
          (ClassName.internal otherPair.1) with
      | error conflict => exact .failed conflict
      | ok humanOf => exact .done ⟨rfl, rfl⟩
  · rw [add_of_skipped table counts, add_of_skipped other (respelled.isKept_iff.not.mp counts)]
    exact .done same

/-- **The tables of respelled pairs are alike.** -/
theorem ofPairs_respelled {pairs others : List (String × String)}
    (respelled : List.Forall₂ Respelled pairs others) :
    Outcome.Alike SameNames (ofPairs pairs) (ofPairs others) := by
  have each : ∀ table other, SameNames table other → ∀ pair otherPair, Respelled pair otherPair →
      Outcome.Alike SameNames (add table pair) (add other otherPair) :=
    fun _ _ same _ _ spelled => add_respelled same spelled
  exact Outcome.Alike.foldlM each respelled ⟨rfl, rfl⟩

/-! ### Queries -/

/-- A query about an unknown class comes back with one warning. -/
theorem resolve_of_unknown {table : ClassTable} {query : String} {direction : Direction}
    (unknown : table.counterpart? query direction = none) :
    table.resolve query direction = ⟨query, [.classUnknown query direction]⟩ := by
  rw [resolve, unknown]
  rfl

namespace SameNames

variable {table other : ClassTable}

theorem counterparts_eq (same : SameNames table other) (direction : Direction) :
    table.counterparts direction = other.counterparts direction := by
  cases direction with
  | toRuntime => exact same.runtimeOf
  | toHuman => exact same.humanOf

/-- Tables with the same names know each class by the same counterpart, whichever way it is spelled. -/
theorem counterpart?_eq (same : SameNames table other) {name spelling : String}
    (spelled : ClassName.internal name = ClassName.internal spelling) (direction : Direction) :
    table.counterpart? name direction = other.counterpart? spelling direction := by
  rw [counterpart?, counterpart?, same.counterparts_eq, spelled]

/-- Tables with the same names rename classes alike. -/
theorem directed_eq (same : SameNames table other) (direction : Direction) :
    table.directed direction = other.directed direction := by
  funext name
  rw [directed, directed, same.counterparts_eq]

/-- **A qualified query is answered alike.** -/
theorem resolve_eq_of_qualified (same : SameNames table other) {query : String}
    (qualified : ClassName.isQualified query = true) (direction : Direction) :
    table.resolve query direction = other.resolve query direction := by
  have sameFound := same.counterpart?_eq (Eq.refl (ClassName.internal query)) direction
  cases known : other.counterpart? query direction with
  | none => rw [resolve_of_unknown (sameFound.trans known), resolve_of_unknown known]
  | some found =>
    rw [resolve_of_known (sameFound.trans known), resolve_of_known known, answer, answer,
      if_pos qualified, if_pos qualified]

/-- **Every query is answered with names of one class.** -/
theorem internal_resolve (same : SameNames table other) {pairs others : List (String × String)}
    (built : ofPairs pairs = .ok table) (otherBuilt : ofPairs others = .ok other) (query : String)
    (direction : Direction) :
    ClassName.internal (table.resolve query direction).value =
      ClassName.internal (other.resolve query direction).value := by
  have sameFound := same.counterpart?_eq (Eq.refl (ClassName.internal query)) direction
  cases known : other.counterpart? query direction with
  | none => rw [resolve_of_unknown (sameFound.trans known), resolve_of_unknown known]
  | some found =>
    rw [resolve_of_known (sameFound.trans known), resolve_of_known known, Logged.value_pure,
      Logged.value_pure, (holds_of_ofPairs built).internal_answer (sameFound.trans known),
      (holds_of_ofPairs otherBuilt).internal_answer known]

end SameNames

end NameDomains.ClassTable
