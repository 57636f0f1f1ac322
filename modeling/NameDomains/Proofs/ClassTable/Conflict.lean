/-
**The conflict that a list of pairs fails with.**

A list of pairs makes no table if its relation is not one to one. What it fails with is found at the
first pair by which the relation breaks, and it names a clash that is really there: the human name of that
pair has another runtime name, or else the runtime name has another human name. What came before is one to
one, so there is one such name only.

* `ClassTable.Clash` — how a pair clashes with the pairs before it.
* `ClassTable.Holds.add_eq_error_iff` — one pair that a table refuses.
* `ClassTable.ofPairs_eq_error_iff` — the pair that a whole list fails at.
* `ClassTable.ofPairs_error_at_first_clash` — the conflict, in terms of the relation.
-/

import Mathlib.Order.Bounds.Defs
import NameDomains.Proofs.ClassTable.Bijection

namespace NameDomains.ClassTable

/-! ### One pair -/

/-- A name is not related to a counterpart exactly if it has another one. -/
theorem relate_eq_error_iff {map : NameMap} {name counterpart : String} {conflict : Conflict} :
    relate map name counterpart = .error conflict ↔
      ∃ first, map[name]? = some first ∧ first ≠ counterpart ∧ ⟨name, first, counterpart⟩ = conflict := by
  unfold relate
  split
  · next absent => simp [absent]
  · next first found =>
    by_cases same : first = counterpart
    · simp [found, same]
    · simp [found, same]

/-- How a pair of names clashes with related ones. Where both names do, the conflict is about the human
one. -/
inductive Clash (earlier : List (String × String)) (human runtime : String) : Conflict → Prop
  | ofHuman {other : String} : (human, other) ∈ earlier → other ≠ runtime →
      Clash earlier human runtime ⟨human, other, runtime⟩
  | ofRuntime {other : String} : (∀ found, (human, found) ∈ earlier → found = runtime) →
      (other, runtime) ∈ earlier → other ≠ human → Clash earlier human runtime ⟨runtime, other, human⟩

/-- **A table refuses a pair exactly for its clash** with the pairs that it holds. -/
theorem Holds.add_eq_error_iff {table : ClassTable} {pairs : List (String × String)}
    (holds : Holds table pairs) {pair : String × String} (counts : IsKept pair) {conflict : Conflict} :
    ClassTable.add table pair = .error conflict ↔
      Clash (related pairs) (ClassName.internal pair.1) (ClassName.internal pair.2) conflict := by
  have forth : ∀ human runtime : String,
      table.runtimeOf[human]? = some runtime ↔ (human, runtime) ∈ related pairs :=
    holds.counterparts .toRuntime
  have back : ∀ runtime human : String,
      table.humanOf[runtime]? = some human ↔ (human, runtime) ∈ related pairs :=
    fun runtime human => (holds.counterparts .toHuman runtime human).trans mem_links_toHuman
  rw [add_of_kept table counts]
  simp only [Outcome.bind_eq_error_iff, relate_eq_error_iff, relate_eq_ok_iff, forth, back]
  constructor
  · rintro (⟨other, linked, different, rfl⟩ | ⟨_, ⟨agrees, _⟩, refused⟩)
    · exact .ofHuman linked different
    · obtain ⟨other, linked, different, rfl⟩ | ⟨_, _, failed⟩ := refused
      · exact .ofRuntime agrees linked different
      · cases failed
  · rintro (⟨linked, different⟩ | ⟨agrees, linked, different⟩)
    · exact .inl ⟨_, linked, different, rfl⟩
    · exact .inr ⟨_, ⟨agrees, rfl⟩, .inl ⟨_, linked, different, rfl⟩⟩

namespace Clash

variable {earlier : List (String × String)} {human runtime other : String} {conflict : Conflict}

/-- The two counterparts of a conflict are different. -/
theorem first_ne_second (clash : Clash earlier human runtime conflict) :
    conflict.first ≠ conflict.second := by
  cases clash with
  | ofHuman _ different => exact different
  | ofRuntime _ _ different => exact different

/-- Where the human name has another runtime name, the conflict is about that. -/
theorem eq_of_human (clash : Clash earlier human runtime conflict) (oneToOne : OneToOne earlier)
    (linked : (human, other) ∈ earlier) (different : other ≠ runtime) :
    conflict = ⟨human, other, runtime⟩ := by
  cases clash with
  | @ofHuman first found _ =>
    obtain rfl : first = other := (oneToOne _ found _ linked).mp rfl
    rfl
  | ofRuntime agrees _ _ => exact absurd (agrees other linked) different

/-- Where the human name has no other runtime name, the conflict is about the runtime name. -/
theorem eq_of_runtime (clash : Clash earlier human runtime conflict)
    (agrees : ∀ found, (human, found) ∈ earlier → found = runtime) :
    ∃ other, (other, runtime) ∈ earlier ∧ other ≠ human ∧ conflict = ⟨runtime, other, human⟩ := by
  cases clash with
  | ofHuman linked different => exact absurd (agrees _ linked) different
  | ofRuntime _ linked different => exact ⟨_, linked, different, rfl⟩

/-- Both counterparts of a conflict are linked to its name by the pairs before and the pair itself. -/
theorem linked {before : List (String × String)} {pair : String × String} (counts : IsKept pair)
    (clash : Clash (related before) (ClassName.internal pair.1) (ClassName.internal pair.2) conflict) :
    ∃ direction, (conflict.name, conflict.first) ∈ links direction (before ++ [pair]) ∧
      (conflict.name, conflict.second) ∈ links direction (before ++ [pair]) := by
  have own : ∀ direction, link direction pair ∈ links direction [pair] := fun direction => by
    rw [links, kept_singleton counts]
    exact List.mem_cons_self
  simp only [links_append, List.mem_append]
  cases clash with
  | ofHuman linked _ => exact ⟨.toRuntime, .inl linked, .inr (own .toRuntime)⟩
  | ofRuntime _ linked _ => exact ⟨.toHuman, .inl (mem_links_toHuman.mpr linked), .inr (own .toHuman)⟩

end Clash

/-! ### All pairs -/

/-- **A list of pairs fails exactly at a pair that clashes with a one-to-one relation before it.** -/
theorem ofPairs_eq_error_iff {pairs : List (String × String)} {conflict : Conflict} :
    ofPairs pairs = .error conflict ↔
      ∃ before pair after, pairs = before ++ pair :: after ∧ OneToOne (related before) ∧ IsKept pair ∧
        Clash (related before) (ClassName.internal pair.1) (ClassName.internal pair.2) conflict := by
  rw [ofPairs, Outcome.foldlM_eq_error_iff]
  constructor
  · rintro ⟨before, pair, after, table, divided, built, refused⟩
    have counts : IsKept pair := by
      by_contra skipped
      rw [add_of_skipped table skipped] at refused
      cases refused
    exact ⟨before, pair, after, divided, exists_ofPairs_iff.mp ⟨table, built⟩, counts,
      ((holds_of_ofPairs built).add_eq_error_iff counts).mp refused⟩
  · rintro ⟨before, pair, after, divided, oneToOne, counts, clash⟩
    obtain ⟨table, built⟩ := exists_ofPairs_iff.mpr oneToOne
    exact ⟨before, pair, after, table, divided, built,
      ((holds_of_ofPairs built).add_eq_error_iff counts).mpr clash⟩

/-- The front of a list that makes a one-to-one relation makes one. -/
theorem OneToOne.of_front {pairs front : List (String × String)} (fits : front <+: pairs)
    (oneToOne : OneToOne (related pairs)) : OneToOne (related front) := by
  obtain ⟨rest, rfl⟩ := fits
  rw [← functional_iff_oneToOne] at oneToOne ⊢
  exact oneToOne.of_append

/-- The place of a pair by which a relation breaks is the first place where it is broken. -/
theorem isLeast_broken {before after : List (String × String)} {pair : String × String}
    (oneToOne : OneToOne (related before)) (broken : ¬ OneToOne (related (before ++ [pair]))) :
    IsLeast {place | ¬ OneToOne (related ((before ++ pair :: after).take (place + 1)))}
      before.length := by
  refine ⟨?_, fun place brokenThere => ?_⟩
  · show ¬ OneToOne (related ((before ++ pair :: after).take (before.length + 1)))
    rwa [List.append_cons, List.take_left' (by simp)]
  · by_contra earlier
    have within : place + 1 ≤ before.length := Nat.lt_of_not_le earlier
    have front : (before ++ pair :: after).take (place + 1) = before.take (place + 1) :=
      List.take_append_of_le_length within
    refine brokenThere ?_
    rw [front]
    exact oneToOne.of_front ⟨before.drop (place + 1), List.take_append_drop ..⟩

/-- **What a list of pairs fails with is its first conflict.** The place is the first one where the
relation is not one to one. If the human name of the pair there has another runtime name already, the
conflict is about that, and otherwise about the other human name that the runtime name has. Both of its
counterparts are real, and they differ. -/
theorem ofPairs_error_at_first_clash {pairs : List (String × String)} {conflict : Conflict}
    (failed : ofPairs pairs = .error conflict) :
    ∃ place human runtime,
      IsLeast {place | ¬ OneToOne (related (pairs.take (place + 1)))} place ∧
      (∃ pair, pairs[place]? = some pair ∧ IsKept pair ∧ link .toRuntime pair = (human, runtime)) ∧
      (∀ other, (human, other) ∈ related (pairs.take place) → other ≠ runtime →
        conflict = ⟨human, other, runtime⟩) ∧
      ((∀ other, (human, other) ∈ related (pairs.take place) → other = runtime) →
        ∃ other, (other, runtime) ∈ related (pairs.take place) ∧ other ≠ human ∧
          conflict = ⟨runtime, other, human⟩) ∧
      conflict.first ≠ conflict.second ∧
      ∃ direction, (conflict.name, conflict.first) ∈ links direction (pairs.take (place + 1)) ∧
        (conflict.name, conflict.second) ∈ links direction (pairs.take (place + 1)) := by
  obtain ⟨before, pair, after, rfl, oneToOne, counts, clash⟩ := ofPairs_eq_error_iff.mp failed
  have broken : ¬ OneToOne (related (before ++ [pair])) := fun whole => by
    obtain ⟨table, built⟩ := exists_ofPairs_iff.mpr whole
    rw [ofPairs_eq_error_iff.mpr ⟨before, pair, [], rfl, oneToOne, counts, clash⟩] at built
    cases built
  have here : (before ++ pair :: after)[before.length]? = some pair := by simp
  have upTo : (before ++ pair :: after).take (before.length + 1) = before ++ [pair] := by
    rw [List.append_cons, List.take_left' (by simp)]
  refine ⟨before.length, _, _, isLeast_broken oneToOne broken, ⟨pair, here, counts, rfl⟩, ?_⟩
  rw [List.take_left, upTo]
  exact ⟨fun other => clash.eq_of_human oneToOne, clash.eq_of_runtime, clash.first_ne_second,
    clash.linked counts⟩

/-- A pair that is spelled again is no conflict; a pair that clashes on both sides is one about its human
name. -/
theorem ofPairs_error_at_first_clash_both_sides :
    ∃ pairs place, pairs = [("net.Foo", "a"), ("net/Foo", "a"), ("net/Bar", "b"), ("net.Foo", "b")] ∧
      ofPairs pairs = .error ⟨"net/Foo", "a", "b"⟩ ∧
      IsLeast {place | ¬ OneToOne (related (pairs.take (place + 1)))} place ∧
      ∃ direction, ("net/Foo", "a") ∈ links direction (pairs.take (place + 1)) ∧
        ("net/Foo", "b") ∈ links direction (pairs.take (place + 1)) := by
  have failed : ofPairs [("net.Foo", "a"), ("net/Foo", "a"), ("net/Bar", "b"), ("net.Foo", "b")] =
      .error ⟨"net/Foo", "a", "b"⟩ :=
    ofPairs_eq_error_iff.mpr ⟨[("net.Foo", "a"), ("net/Foo", "a"), ("net/Bar", "b")],
      ("net.Foo", "b"), [], rfl, by decide, by decide, .ofHuman (by decide) (by decide)⟩
  obtain ⟨place, _, _, least, _, _, _, _, linked⟩ := ofPairs_error_at_first_clash failed
  exact ⟨_, place, rfl, failed, least, linked⟩

end NameDomains.ClassTable
