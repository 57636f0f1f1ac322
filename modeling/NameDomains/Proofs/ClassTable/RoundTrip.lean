/-
**There and back again through a class table.**

A known class is asked for by one name, and the answer is asked for the other way around. Both queries
are answered without a warning, and what comes back is a name of the class that was asked for. It is
the very name exactly in three cases, by what the answer on the way had to be:

* an unqualified name has no other spelling;
* a qualified counterpart asks in the style of the query, so an unmixed query is spelled as it was;
* an unqualified counterpart asks for the first spelling.

* `ClassTable.resolve_of_known` — the answer to a query about a known class.
* `ClassTable.Holds.internal_answer`, `ClassTable.Holds.counterpart?_of_internal_eq` — the answer names
  the counterpart, and all names of the counterpart lead back to the class.
* `ClassTable.resolve_resolve_eq_iff` — when the name itself comes back.
-/

import NameDomains.Proofs.ClassTable.Bijection

namespace NameDomains.ClassTable

/-- The answer to a query about a class with the given counterpart. -/
def answer (table : ClassTable) (direction : Direction) (query counterpart : String) : String :=
  if ClassName.isQualified query then ClassName.inStyleOf query counterpart
  else table.spelled direction counterpart

/-- What comes back for a query about a class with the given counterpart. -/
def wayBack (table : ClassTable) (direction : Direction) (query counterpart : String) : String :=
  table.answer direction.reverse (table.answer direction query counterpart)
    (ClassName.internal query)

/-- **A query about a known class is answered without a warning.** -/
theorem resolve_of_known {table : ClassTable} {direction : Direction} {query counterpart : String}
    (known : table.counterpart? query direction = some counterpart) :
    table.resolve query direction = pure (table.answer direction query counterpart) := by
  rw [resolve, known, answer]
  exact (apply_ite pure ..).symm

namespace Holds

variable {table : ClassTable} {pairs : List (String × String)} {direction : Direction}
  {query counterpart : String}

/-- The names of a known class and of its counterpart are linked. -/
theorem linked_of_known (holds : Holds table pairs)
    (known : table.counterpart? query direction = some counterpart) :
    (ClassName.internal query, counterpart) ∈ links direction pairs :=
  (holds.counterparts direction _ counterpart).mp known

/-- A known counterpart is spelled as it first was. -/
theorem firstSpelling?_of_known (holds : Holds table pairs)
    (known : table.counterpart? query direction = some counterpart) :
    firstSpelling? direction.reverse pairs counterpart =
      some (table.spelled direction counterpart) := by
  have spelled : (firstSpelling? direction.reverse pairs counterpart).isSome :=
    isSome_firstSpelling?_iff.mpr ⟨_, (mem_links_reverse direction).mpr (holds.linked_of_known known)⟩
  obtain ⟨spelling, first⟩ := Option.isSome_iff_exists.mp spelled
  rw [ClassTable.spelled, holds.spellings, first, Option.getD_some]

/-- **The answer names the counterpart**, in whatever style. -/
theorem internal_answer (holds : Holds table pairs)
    (known : table.counterpart? query direction = some counterpart) :
    ClassName.internal (table.answer direction query counterpart) = counterpart := by
  unfold answer
  split
  · have kept := (isInternal_of_mem_links (holds.linked_of_known known)).2
    exact ClassName.internal_inStyleOf query kept.2
  · exact internal_firstSpelling? (holds.firstSpelling?_of_known known)

/-- **Every name of the counterpart leads back to the class.** -/
theorem counterpart?_of_internal_eq (holds : Holds table pairs)
    (known : table.counterpart? query direction = some counterpart) {there : String}
    (names : ClassName.internal there = counterpart) :
    table.counterpart? there direction.reverse = some (ClassName.internal query) := by
  rw [counterpart?, names, holds.counterparts, mem_links_reverse]
  exact holds.linked_of_known known

/-- What comes back names the class that was asked for. -/
theorem internal_wayBack (holds : Holds table pairs)
    (known : table.counterpart? query direction = some counterpart) :
    ClassName.internal (table.wayBack direction query counterpart) = ClassName.internal query :=
  holds.internal_answer (holds.counterpart?_of_internal_eq known (holds.internal_answer known))

/-- Asked for by a qualified name, a qualified counterpart brings the class back in the style of the
query. -/
theorem wayBack_of_slash (holds : Holds table pairs)
    (known : table.counterpart? query direction = some counterpart)
    (qualified : ClassName.isQualified query = true) (slash : '/' ∈ counterpart.toList) :
    table.wayBack direction query counterpart =
      ClassName.inStyleOf query (ClassName.internal query) := by
  have noDot := (isInternal_of_mem_links (holds.linked_of_known known)).2.2
  have there : table.answer direction query counterpart = ClassName.inStyleOf query counterpart :=
    if_pos qualified
  have qualifiedThere : ClassName.isQualified (ClassName.inStyleOf query counterpart) = true := by
    rwa [← ClassName.slash_mem_internal, ClassName.internal_inStyleOf query noDot]
  rw [wayBack, there, answer, if_pos qualifiedThere]
  exact ClassName.inStyleOf_inStyleOf noDot slash _

/-- Asked for by a qualified name, an unqualified counterpart brings the class back as it was first
spelled. -/
theorem wayBack_of_noSlash (holds : Holds table pairs)
    (known : table.counterpart? query direction = some counterpart)
    (qualified : ClassName.isQualified query = true) (noSlash : '/' ∉ counterpart.toList) :
    firstSpelling? direction pairs (ClassName.internal query) =
      some (table.wayBack direction query counterpart) := by
  have noDot := (isInternal_of_mem_links (holds.linked_of_known known)).2.2
  have there : table.answer direction query counterpart = counterpart :=
    (if_pos qualified).trans (ClassName.inStyleOf_eq_self query noSlash)
  have unqualifiedThere : ClassName.isQualified counterpart = false :=
    ClassName.isQualified_eq_false_iff.mpr ⟨noDot, noSlash⟩
  have returns := holds.counterpart?_of_internal_eq known (ClassName.internal_eq_self noDot)
  have first := holds.firstSpelling?_of_known returns
  rw [Direction.reverse_reverse] at first
  rw [first, wayBack, there, answer, unqualifiedThere, if_neg Bool.false_ne_true]

end Holds

/-- **There and back.** Both queries are answered without a warning, and what comes back names the
class that was asked for. It is the query itself exactly if the query is unqualified, or the
counterpart is qualified and the query does not mix separators, or the query is qualified, the
counterpart is not, and the query is the first spelling of the class. -/
theorem resolve_resolve_eq_iff {pairs : List (String × String)} {table : ClassTable}
    (built : ofPairs pairs = .ok table) {direction : Direction} {query counterpart : String}
    (known : table.counterpart? query direction = some counterpart) :
    ∃ there back, table.resolve query direction = pure there ∧
      table.resolve there direction.reverse = pure back ∧
      ClassName.internal back = ClassName.internal query ∧
      (back = query ↔
        ('.' ∉ query.toList ∧ '/' ∉ query.toList) ∨
        ('/' ∈ counterpart.toList ∧ ¬ ('.' ∈ query.toList ∧ '/' ∈ query.toList)) ∨
        (('.' ∈ query.toList ∨ '/' ∈ query.toList) ∧ '/' ∉ counterpart.toList ∧
          firstSpelling? direction pairs (ClassName.internal query) = some query)) := by
  have holds := holds_of_ofPairs built
  have returns := holds.counterpart?_of_internal_eq known (holds.internal_answer known)
  have same := holds.internal_wayBack known
  refine ⟨_, table.wayBack direction query counterpart, resolve_of_known known,
    resolve_of_known returns, same, ?_⟩
  rw [← ClassName.isQualified_eq_false_iff, ← ClassName.isQualified_iff]
  by_cases qualified : ClassName.isQualified query = true
  · by_cases slash : '/' ∈ counterpart.toList
    · rw [holds.wayBack_of_slash known qualified slash, ClassName.inStyleOf_internal_eq_iff]
      simp [qualified, slash]
    · rw [holds.wayBack_of_noSlash known qualified slash, Option.some.injEq]
      simp [qualified, slash]
  · have unqualified : ClassName.isQualified query = false := eq_false_of_ne_true qualified
    simp [unqualified, ClassName.eq_of_internal_eq unqualified same]

/-- A supplied name that is not the first spelling of its class may come back in the first one. -/
theorem resolve_resolve_second_spelling :
    ∃ table there back, ofPairs [("net.Foo", "a"), ("net/Foo", "a")] = .ok table ∧
      table.counterpart? "net/Foo" .toRuntime = some "a" ∧
      table.resolve "net/Foo" .toRuntime = pure there ∧
      table.resolve there .toHuman = pure back ∧
      ClassName.internal back = "net/Foo" ∧ back ≠ "net/Foo" := by
  obtain ⟨table, built⟩ : ∃ table, ofPairs [("net.Foo", "a"), ("net/Foo", "a")] = .ok table :=
    exists_ofPairs_iff.mpr (by decide)
  have known : table.counterpart? "net/Foo" .toRuntime = some "a" :=
    ((holds_of_ofPairs built).counterparts .toRuntime _ _).mpr (by decide)
  obtain ⟨there, back, asked, returned, same, exactly⟩ := resolve_resolve_eq_iff built known
  refine ⟨table, there, back, built, known, asked, returned, same.trans (by decide), ?_⟩
  exact fun unchanged => absurd (exactly.mp unchanged) (by decide)

end NameDomains.ClassTable
