/-
**In which style a class query is answered.**

The answer names the counterpart of the class that is asked for, whatever the spelling. Its separators are
those of the query; a query without separators shows none to follow, and it is answered with the very name
that came with the class when the class was first supplied.

* `ClassTable.Holds.answer_of_slash`, `ClassTable.Holds.answer_of_dots`,
  `ClassTable.Holds.answer_of_unqualified` — the three styles.
* `ClassTable.Holds.resolve_of_internal_eq` — two spellings of one name.
* `ClassTable.resolve_follows_query` — all of it.
-/

import NameDomains.Proofs.ClassTable.Listing
import NameDomains.Proofs.ClassTable.Respelling

namespace NameDomains.ClassTable

namespace Holds

variable {table : ClassTable} {pairs : List (String × String)} {direction : Direction}
  {query other found : String}

/-- **A query with slashes is answered in internal form.** -/
theorem answer_of_slash (holds : Holds table pairs)
    (known : table.counterpart? query direction = some found) (slash : '/' ∈ query.toList) :
    table.answer direction query found = found ∧ '.' ∉ found.toList := by
  have qualified : ClassName.isQualified query = true := ClassName.isQualified_iff.mpr (.inr slash)
  have noDot := (isInternal_of_mem_links (holds.linked_of_known known)).2.2
  rw [answer, if_pos qualified, ClassName.inStyleOf, if_neg fun both => both.2 slash]
  exact ⟨rfl, noDot⟩

/-- **A query with dots only is answered in dotted form.** -/
theorem answer_of_dots (dot : '.' ∈ query.toList) (noSlash : '/' ∉ query.toList) :
    table.answer direction query found = ClassName.dotted found := by
  have qualified : ClassName.isQualified query = true := ClassName.isQualified_iff.mpr (.inl dot)
  rw [answer, if_pos qualified, ClassName.inStyleOf, if_pos ⟨dot, noSlash⟩]

/-- **An unqualified query is answered as the first pair of the class says.** -/
theorem answer_of_unqualified (holds : Holds table pairs)
    (known : table.counterpart? query direction = some found)
    (unqualified : ClassName.isQualified query = false) :
    ∃ pair, firstPair? direction pairs (ClassName.internal query) = some pair ∧
      table.answer direction query found = direction.reverse.side pair := by
  have linked := holds.linked_of_known known
  obtain ⟨pair, first, -⟩ := holds.functional.exists_firstPair?_iff.mpr linked
  have spelled := holds.spelled_eq ((holds.functional.firstPair?_reverse linked).trans first)
  refine ⟨pair, first, ?_⟩
  rw [answer, unqualified, if_neg Bool.false_ne_true, spelled]

/-- **All spellings of a name are unknown and come back, or all lead to names of one class.** -/
theorem resolve_of_internal_eq (holds : Holds table pairs)
    (same : ClassName.internal query = ClassName.internal other) :
    (table.counterpart? query direction = none ∧ table.counterpart? other direction = none ∧
      (table.resolve query direction).value = query ∧ (table.resolve other direction).value = other) ∨
    ((table.counterpart? query direction).isSome ∧ (table.counterpart? other direction).isSome ∧
      ClassName.internal (table.resolve query direction).value =
        ClassName.internal (table.resolve other direction).value) := by
  have sameFound : table.counterpart? other direction = table.counterpart? query direction := by
    rw [counterpart?, counterpart?, same]
  cases known : table.counterpart? query direction with
  | none =>
    rw [known] at sameFound
    rw [resolve_of_unknown known, resolve_of_unknown sameFound]
    exact .inl ⟨rfl, sameFound, rfl, rfl⟩
  | some found =>
    rw [known] at sameFound
    rw [resolve_of_known known, resolve_of_known sameFound, Logged.value_pure, Logged.value_pure,
      holds.internal_answer known, holds.internal_answer sameFound, sameFound]
    exact .inr ⟨rfl, rfl, rfl⟩

end Holds

/-- **The answer to a class query follows the query.** It names the counterpart of the class. With a slash
in the query it is the counterpart itself, which has no dots; with dots only it is the counterpart with
dots for slashes; with neither it is the other name of the first pair of the class. Of two spellings of one
name both are unknown, and come back as they are, or both are known, and are answered with names of one
class. -/
theorem resolve_follows_query {pairs : List (String × String)} {table : ClassTable}
    (built : ofPairs pairs = .ok table) (direction : Direction) (query other : String) :
    (∀ found, table.counterpart? query direction = some found →
      ∃ answer, table.resolve query direction = pure answer ∧ ClassName.internal answer = found ∧
        ('/' ∈ query.toList → answer = found ∧ '.' ∉ answer.toList) ∧
        ('.' ∈ query.toList → '/' ∉ query.toList →
          answer = ClassName.dotted found ∧ '/' ∉ answer.toList) ∧
        ('.' ∉ query.toList → '/' ∉ query.toList →
          ∃ pair, firstPair? direction pairs (ClassName.internal query) = some pair ∧
            answer = direction.reverse.side pair)) ∧
    (ClassName.internal query = ClassName.internal other →
      (table.counterpart? query direction = none ∧ table.counterpart? other direction = none ∧
        (table.resolve query direction).value = query ∧
        (table.resolve other direction).value = other) ∨
      ((table.counterpart? query direction).isSome ∧ (table.counterpart? other direction).isSome ∧
        ClassName.internal (table.resolve query direction).value =
          ClassName.internal (table.resolve other direction).value)) := by
  have holds := holds_of_ofPairs built
  refine ⟨fun found known => ?_, holds.resolve_of_internal_eq⟩
  refine ⟨_, resolve_of_known known, holds.internal_answer known, fun slash => ?_,
    fun dot noSlash => ?_, fun noDot noSlash => ?_⟩
  · obtain ⟨same, noDot⟩ := holds.answer_of_slash known slash
    rw [same]
    exact ⟨rfl, noDot⟩
  · rw [Holds.answer_of_dots dot noSlash]
    exact ⟨rfl, ClassName.dotted_noSlash found⟩
  · exact holds.answer_of_unqualified known (ClassName.isQualified_eq_false_iff.mpr ⟨noDot, noSlash⟩)

/-- A class that was spelled twice, asked for by its unqualified name, is answered as it was spelled
first. -/
theorem resolve_follows_query_unqualified :
    ∃ table, ofPairs [("net.Foo/Bar", "a"), ("net/Foo/Bar", "a")] = .ok table ∧
      table.counterpart? "a" .toHuman = some "net/Foo/Bar" ∧
      table.resolve "a" .toHuman = pure "net.Foo/Bar" := by
  obtain ⟨table, built⟩ : ∃ table, ofPairs [("net.Foo/Bar", "a"), ("net/Foo/Bar", "a")] = .ok table :=
    exists_ofPairs_iff.mpr (by decide)
  have known : table.counterpart? "a" .toHuman = some "net/Foo/Bar" :=
    ((holds_of_ofPairs built).counterparts .toHuman _ _).mpr (by decide)
  obtain ⟨answer, resolved, -, -, -, unqualified⟩ :=
    (resolve_follows_query built .toHuman "a" "a").1 _ known
  obtain ⟨pair, first, same⟩ := unqualified (by decide) (by decide)
  have firstOne : firstPair? .toHuman [("net.Foo/Bar", "a"), ("net/Foo/Bar", "a")]
      (ClassName.internal "a") = some ("net.Foo/Bar", "a") := by decide
  obtain rfl := Option.some.inj (firstOne.symm.trans first)
  rw [same] at resolved
  exact ⟨table, built, known, resolved⟩

end NameDomains.ClassTable
