/-
**A class table is the one-to-one relation of its pairs.**

The pairs without an empty side, their names taken in internal form, relate human to runtime names. A
table holds this relation, both ways, and the first spelling of each name; a list of pairs makes a table
exactly when the relation is one to one.

* `ClassTable.Holds` — what a table holds of the pairs that were added: in each direction, the names
  that the pairs link, and the spelling that came first.
* `ClassTable.add_eq_ok_iff` — a pair is added exactly when it agrees with what the table holds.
* `ClassTable.Holds.add`, `ClassTable.Holds.foldlM_add` — one pair, and then all of them, keep `Holds`.
* `ClassTable.exists_ofPairs_iff` — when there is a table.
* `ClassTable.ofPairs_oneToOne` — all of it, in terms of the relation.
-/

import Mathlib.Data.List.Dedup
import NameDomains.ClassTable
import NameDomains.Proofs.ClassName
import NameDomains.Proofs.Entries
import NameDomains.Proofs.Outcome

namespace NameDomains

/-- The name of a pair that a direction starts from. -/
def Direction.side : Direction → String × String → String
  | .toRuntime, pair => pair.1
  | .toHuman, pair => pair.2

namespace ClassTable

/-! ### What the pairs say -/

/-- A pair that counts: neither side is empty. -/
def IsKept (pair : String × String) : Prop := pair.1 ≠ "" ∧ pair.2 ≠ ""

instance (pair : String × String) : Decidable (IsKept pair) := inferInstanceAs (Decidable (_ ∧ _))

/-- The pairs that count. -/
def kept (pairs : List (String × String)) : List (String × String) :=
  pairs.filter fun pair => decide (IsKept pair)

/-- The two names of a pair in internal form, from where a direction starts to where it leads. -/
def link (direction : Direction) (pair : String × String) : String × String :=
  (ClassName.internal (direction.side pair), ClassName.internal (direction.reverse.side pair))

/-- The names that the pairs link in a direction. -/
def links (direction : Direction) (pairs : List (String × String)) : List (String × String) :=
  (kept pairs).map (link direction)

/-- The human and runtime names that the pairs relate, in internal form. -/
def related (pairs : List (String × String)) : List (String × String) := links .toRuntime pairs

/-- No name has two counterparts, on either side. -/
def OneToOne (names : List (String × String)) : Prop :=
  ∀ first ∈ names, ∀ second ∈ names, first.1 = second.1 ↔ first.2 = second.2

instance (names : List (String × String)) : Decidable (OneToOne names) :=
  inferInstanceAs (Decidable (∀ first ∈ names, ∀ second ∈ names, _ ↔ _))

/-- The first of the spellings of a class on the side where a direction starts. -/
def firstSpelling? (direction : Direction) (pairs : List (String × String)) (name : String) :
    Option String :=
  ((kept pairs).map direction.side).find? fun spelling => decide (ClassName.internal spelling = name)

theorem kept_append (first second : List (String × String)) :
    kept (first ++ second) = kept first ++ kept second :=
  List.filter_append ..

theorem kept_singleton {pair : String × String} (counts : IsKept pair) : kept [pair] = [pair] :=
  List.filter_eq_self.mpr fun _ member => List.mem_singleton.mp member ▸ decide_eq_true counts

theorem kept_singleton_of_skipped {pair : String × String} (skipped : ¬ IsKept pair) :
    kept [pair] = [] :=
  List.filter_eq_nil_iff.mpr fun _ member => List.mem_singleton.mp member ▸ by simpa using skipped

theorem links_append (direction : Direction) (first second : List (String × String)) :
    links direction (first ++ second) = links direction first ++ links direction second := by
  rw [links, kept_append, List.map_append, links, links]

/-- The pairs link names both ways. -/
theorem mem_links_reverse (direction : Direction) {pairs : List (String × String)}
    {name counterpart : String} :
    (counterpart, name) ∈ links direction.reverse pairs ↔
      (name, counterpart) ∈ links direction pairs := by
  simp only [links, List.mem_map, link, Prod.mk.injEq, Direction.reverse_reverse]
  exact exists_congr fun pair => and_congr_right fun _ => and_comm

/-- Towards the human names the pairs link the names that they relate, the other way around. -/
theorem mem_links_toHuman {pairs : List (String × String)} {human runtime : String} :
    (runtime, human) ∈ links .toHuman pairs ↔ (human, runtime) ∈ related pairs :=
  mem_links_reverse .toRuntime

/-- A class has a first spelling exactly when the pairs link its name to another. -/
theorem isSome_firstSpelling?_iff {direction : Direction} {pairs : List (String × String)}
    {name : String} :
    (firstSpelling? direction pairs name).isSome ↔
      ∃ counterpart, (name, counterpart) ∈ links direction pairs := by
  rw [firstSpelling?, List.find?_isSome]
  simp only [links, List.mem_map, link, Prod.mk.injEq, decide_eq_true_eq]
  constructor
  · rintro ⟨_, ⟨pair, counts, rfl⟩, same⟩
    exact ⟨_, pair, counts, same, rfl⟩
  · rintro ⟨_, pair, counts, same, _⟩
    exact ⟨_, ⟨pair, counts, rfl⟩, same⟩

/-- A further pair spells a class that has no spelling yet, and no other. -/
theorem firstSpelling?_append {direction : Direction} {pair : String × String}
    (counts : IsKept pair) (pairs : List (String × String)) (name : String) :
    firstSpelling? direction (pairs ++ [pair]) name =
      (firstSpelling? direction pairs name).or
        (if ClassName.internal (direction.side pair) = name then some (direction.side pair)
          else none) := by
  rw [firstSpelling?, kept_append, kept_singleton counts, List.map_append, List.find?_append,
    List.map_singleton, List.find?_singleton, firstSpelling?]
  simp only [decide_eq_true_eq]

/-- A first spelling is one of the class. -/
theorem internal_firstSpelling? {direction : Direction} {pairs : List (String × String)}
    {name spelling : String} (first : firstSpelling? direction pairs name = some spelling) :
    ClassName.internal spelling = name := by
  have spelled := List.find?_some first
  exact of_decide_eq_true spelled

/-! ### One pair -/

/-- Each direction leads from a name to one counterpart only. -/
def Functional (pairs : List (String × String)) : Prop :=
  ∀ direction, Entries.Consistent (links direction pairs)

theorem Functional.of_append {first second : List (String × String)}
    (functional : Functional (first ++ second)) : Functional first := fun direction => by
  have whole := functional direction
  rw [links_append] at whole
  exact whole.of_append

/-- What a table holds of the pairs that were added to it. -/
structure Holds (table : ClassTable) (pairs : List (String × String)) : Prop where
  counterparts : ∀ direction name counterpart,
    (table.counterparts direction)[name]? = some counterpart ↔
      (name, counterpart) ∈ links direction pairs
  spellings : ∀ direction name,
    (table.spellings direction)[name]? = firstSpelling? direction.reverse pairs name

/-- The table holds no other counterpart for either name of a pair. -/
def Agrees (table : ClassTable) (pair : String × String) : Prop :=
  ∀ direction first, (table.counterparts direction)[(link direction pair).1]? = some first →
    first = (link direction pair).2

/-- The table with a pair added to all its maps. -/
def extend (table : ClassTable) (pair : String × String) : ClassTable where
  runtimeOf := table.runtimeOf.insert (ClassName.internal pair.1) (ClassName.internal pair.2)
  humanOf := table.humanOf.insert (ClassName.internal pair.2) (ClassName.internal pair.1)
  humanSpelling := table.humanSpelling.insertIfNew (ClassName.internal pair.1) pair.1
  runtimeSpelling := table.runtimeSpelling.insertIfNew (ClassName.internal pair.2) pair.2

theorem counterparts_extend (table : ClassTable) (pair : String × String) (direction : Direction) :
    (table.extend pair).counterparts direction =
      (table.counterparts direction).insert (link direction pair).1 (link direction pair).2 := by
  cases direction <;> rfl

theorem spellings_extend (table : ClassTable) (pair : String × String) (direction : Direction) :
    (table.extend pair).spellings direction =
      (table.spellings direction).insertIfNew (link direction pair).2
        (direction.reverse.side pair) := by
  cases direction <;> rfl

/-- A name that has its counterpart already is related to it again without a change. -/
theorem insert_eq_self {map : NameMap} {name counterpart : String}
    (found : map[name]? = some counterpart) : map.insert name counterpart = map := by
  refine Std.ExtTreeMap.ext_getElem? fun other => ?_
  rw [Std.ExtTreeMap.getElem?_insert]
  split
  · next same => rw [← Std.LawfulEqCmp.eq_of_compare same, found]
  · rfl

/-- A name is related to a counterpart exactly when it has no other one. -/
theorem relate_eq_ok_iff {map next : NameMap} {name counterpart : String} :
    relate map name counterpart = .ok next ↔
      (∀ first, map[name]? = some first → first = counterpart) ∧
        map.insert name counterpart = next := by
  unfold relate
  split
  · next absent => simp [absent]
  · next first found =>
    by_cases same : first = counterpart
    · subst same
      simp [found, insert_eq_self found]
    · simp [found, same]

theorem agrees_iff {table : ClassTable} {pair : String × String} :
    table.Agrees pair ↔
      (∀ first, table.runtimeOf[ClassName.internal pair.1]? = some first →
        first = ClassName.internal pair.2) ∧
      ∀ first, table.humanOf[ClassName.internal pair.2]? = some first →
        first = ClassName.internal pair.1 := by
  refine ⟨fun agrees => ⟨agrees .toRuntime, agrees .toHuman⟩, fun both direction => ?_⟩
  cases direction with
  | toRuntime => exact both.1
  | toHuman => exact both.2

/-- A pair with an empty side adds nothing. -/
theorem add_of_skipped (table : ClassTable) {pair : String × String} (skipped : ¬ IsKept pair) :
    add table pair = .ok table := by
  have empty : (decide (pair.1 = "") || decide (pair.2 = "")) = true := by
    rw [Bool.or_eq_true, decide_eq_true_eq, decide_eq_true_eq]
    by_contra neither
    exact skipped (not_or.mp neither)
  rw [add]
  exact if_pos empty

/-- A pair that counts is added by relating its names both ways. -/
theorem add_of_kept (table : ClassTable) {pair : String × String} (counts : IsKept pair) :
    add table pair = do
      let runtimeOf ← relate table.runtimeOf (ClassName.internal pair.1) (ClassName.internal pair.2)
      let humanOf ← relate table.humanOf (ClassName.internal pair.2) (ClassName.internal pair.1)
      return { table.extend pair with runtimeOf, humanOf } := by
  have nonempty : (decide (pair.1 = "") || decide (pair.2 = "")) = false := by
    rw [decide_eq_false counts.1, decide_eq_false counts.2, Bool.or_false]
  rw [add]
  simp only [nonempty, Bool.false_eq_true, if_false]
  rfl

/-- **A pair that counts is added exactly when it agrees with what the table holds.** -/
theorem add_eq_ok_iff {table next : ClassTable} {pair : String × String} (counts : IsKept pair) :
    add table pair = .ok next ↔ table.Agrees pair ∧ table.extend pair = next := by
  rw [add_of_kept table counts, agrees_iff]
  simp only [Outcome.bind_eq_ok_iff, relate_eq_ok_iff]
  constructor
  · rintro ⟨_, ⟨agreesForth, rfl⟩, _, ⟨agreesBack, rfl⟩, same⟩
    exact ⟨⟨agreesForth, agreesBack⟩, Except.ok.inj same⟩
  · rintro ⟨⟨agreesForth, agreesBack⟩, rfl⟩
    exact ⟨_, ⟨agreesForth, rfl⟩, _, ⟨agreesBack, rfl⟩, rfl⟩

namespace Holds

variable {table next : ClassTable} {pair : String × String} {pairs prior : List (String × String)}

/-- The table without classes holds no pairs. -/
theorem empty : Holds ClassTable.empty [] where
  counterparts direction name counterpart := by
    cases direction <;> simp [ClassTable.empty, ClassTable.counterparts, links, kept]
  spellings direction name := by
    cases direction <;> simp [ClassTable.empty, ClassTable.spellings, firstSpelling?, kept]

/-- A name in a table leads to one counterpart only. -/
theorem functional (holds : Holds table pairs) : Functional pairs := by
  intro direction name first second firstLinked secondLinked
  have found := (holds.counterparts direction name first).mpr firstLinked
  rw [(holds.counterparts direction name second).mpr secondLinked] at found
  exact (Option.some.inj found).symm

/-- A pair agrees with what a table holds if no name gets two counterparts by it. -/
theorem agrees (holds : Holds table pairs) (counts : IsKept pair)
    (functional : Functional (pairs ++ [pair])) : table.Agrees pair := by
  intro direction first found
  have earlier := (holds.counterparts direction _ first).mp found
  refine functional direction (link direction pair).1 first _ ?_ ?_
  · rw [links_append]
    exact List.mem_append_left _ earlier
  · rw [links_append, links.eq_1 _ [pair], kept_singleton counts]
    exact List.mem_append_right _ List.mem_cons_self

/-- Pairs that do not count make no difference. -/
theorem of_kept_eq {others : List (String × String)} (holds : Holds table pairs)
    (same : kept others = kept pairs) : Holds table others where
  counterparts direction name counterpart := by
    rw [holds.counterparts, links, links, same]
  spellings direction name := by
    rw [holds.spellings, firstSpelling?, firstSpelling?, same]

/-- A pair by which no name gets two counterparts can be added. -/
theorem exists_add (holds : Holds table pairs) (functional : Functional (pairs ++ [pair])) :
    ∃ next, ClassTable.add table pair = .ok next := by
  by_cases counts : IsKept pair
  · exact ⟨_, (add_eq_ok_iff counts).mpr ⟨holds.agrees counts functional, rfl⟩⟩
  · exact ⟨table, add_of_skipped table counts⟩

/-- A name has a spelling in a table exactly when it has a counterpart there. -/
theorem mem_spellings_iff (holds : Holds table pairs) (direction : Direction) (name : String) :
    name ∈ table.spellings direction ↔ name ∈ table.counterparts direction.reverse := by
  rw [Std.ExtTreeMap.mem_iff_isSome_getElem?, Std.ExtTreeMap.mem_iff_isSome_getElem?,
    holds.spellings, isSome_firstSpelling?_iff, Option.isSome_iff_exists]
  exact exists_congr fun counterpart => (holds.counterparts ..).symm

/-- **Adding a pair that agrees keeps what the table holds.** -/
theorem extend (holds : Holds table pairs) (counts : IsKept pair) (agrees : table.Agrees pair) :
    Holds (table.extend pair) (pairs ++ [pair]) where
  counterparts direction name counterpart := by
    rw [counterparts_extend, Std.ExtTreeMap.getElem?_insert, links_append, List.mem_append,
      ← holds.counterparts, links, kept_singleton counts, List.map_singleton, List.mem_singleton]
    simp only [Std.LawfulEqCmp.compare_eq_iff_eq]
    by_cases same : (link direction pair).1 = name
    · subst same
      rw [if_pos rfl, Option.some.injEq]
      constructor
      · rintro rfl
        exact .inr rfl
      · rintro (earlier | own)
        · exact (agrees direction counterpart earlier).symm
        · exact (congrArg Prod.snd own).symm
    · rw [if_neg same]
      refine ⟨.inl, ?_⟩
      rintro (earlier | own)
      · exact earlier
      · exact absurd (congrArg Prod.fst own).symm same
  spellings direction name := by
    rw [spellings_extend, Std.ExtTreeMap.getElem?_insertIfNew, firstSpelling?_append counts,
      ← holds.spellings]
    simp only [Std.LawfulEqCmp.compare_eq_iff_eq]
    by_cases same : (link direction pair).2 = name
    · subst same
      by_cases spelled : (link direction pair).2 ∈ table.spellings direction
      · rw [if_neg fun both => both.2 spelled]
        obtain ⟨spelling, found⟩ := Option.isSome_iff_exists.mp
          (Std.ExtTreeMap.mem_iff_isSome_getElem?.mp spelled)
        rw [found, Option.some_or]
      · rw [if_pos ⟨rfl, spelled⟩, Std.ExtTreeMap.getElem?_eq_none spelled, Option.none_or]
        exact (if_pos rfl).symm
    · have other : ClassName.internal (direction.reverse.side pair) ≠ name := same
      rw [if_neg fun both => same both.1, if_neg other, Option.or_none]

/-- **One step keeps what the table holds.** -/
theorem add (holds : Holds table pairs) (added : ClassTable.add table pair = .ok next) :
    Holds next (pairs ++ [pair]) := by
  by_cases counts : IsKept pair
  · obtain ⟨agrees, rfl⟩ := (add_eq_ok_iff counts).mp added
    exact holds.extend counts agrees
  · rw [add_of_skipped table counts] at added
    obtain rfl := Except.ok.inj added
    exact holds.of_kept_eq (by rw [kept_append, kept_singleton_of_skipped counts, List.append_nil])

/-- **A whole list keeps what the table holds.** -/
theorem foldlM_add (holds : Holds table prior)
    (added : pairs.foldlM ClassTable.add table = .ok next) : Holds next (prior ++ pairs) := by
  induction pairs generalizing table prior with
  | nil =>
    obtain rfl := Except.ok.inj added
    rwa [List.append_nil]
  | cons pair pairs later =>
    rw [List.foldlM_cons] at added
    obtain ⟨between, first, added⟩ := Outcome.bind_eq_ok_iff.mp added
    rw [List.append_cons]
    exact later (holds.add first) added

/-- **A list by which no name gets two counterparts is added to its end.** -/
theorem exists_foldlM_add (holds : Holds table prior) (functional : Functional (prior ++ pairs)) :
    ∃ built, pairs.foldlM ClassTable.add table = .ok built := by
  induction pairs generalizing table prior with
  | nil => exact ⟨table, rfl⟩
  | cons pair pairs later =>
    rw [List.append_cons] at functional
    obtain ⟨between, added⟩ := holds.exists_add (functional.of_append)
    obtain ⟨built, rest⟩ := later (holds.add added) functional
    exact ⟨built, by rw [List.foldlM_cons, added]; exact rest⟩

end Holds

/-! ### All pairs -/

/-- Each direction leads to one counterpart only exactly when the relation is one to one. -/
theorem functional_iff_oneToOne {pairs : List (String × String)} :
    Functional pairs ↔ OneToOne (related pairs) := by
  constructor
  · rintro functional ⟨human, runtime⟩ first ⟨otherHuman, otherRuntime⟩ second
    constructor
    · intro (same : human = otherHuman)
      subst same
      exact functional .toRuntime human runtime otherRuntime first second
    · intro (same : runtime = otherRuntime)
      subst same
      exact functional .toHuman runtime human otherHuman (mem_links_toHuman.mpr first)
        (mem_links_toHuman.mpr second)
  · intro oneToOne direction name first second firstLinked secondLinked
    cases direction with
    | toRuntime => exact (oneToOne _ firstLinked _ secondLinked).mp rfl
    | toHuman =>
      exact (oneToOne _ (mem_links_toHuman.mp firstLinked) _ (mem_links_toHuman.mp secondLinked)).mpr rfl

/-- **A table holds the pairs that it was built from.** -/
theorem holds_of_ofPairs {pairs : List (String × String)} {table : ClassTable}
    (built : ofPairs pairs = .ok table) : Holds table pairs :=
  Holds.empty.foldlM_add built

/-- **There is a table exactly of the lists of pairs whose relation is one to one.** -/
theorem exists_ofPairs_iff {pairs : List (String × String)} :
    (∃ table, ofPairs pairs = .ok table) ↔ OneToOne (related pairs) := by
  rw [← functional_iff_oneToOne]
  constructor
  · rintro ⟨table, built⟩
    exact (holds_of_ofPairs built).functional
  · exact Holds.empty.exists_foldlM_add

/-- The order of the pairs does not matter to their relation. -/
theorem oneToOne_related_perm {pairs reordered : List (String × String)}
    (permuted : reordered.Perm pairs) : OneToOne (related reordered) ↔ OneToOne (related pairs) := by
  have sameNames : ∀ names, names ∈ related reordered ↔ names ∈ related pairs := fun names =>
    ((permuted.filter _).map _).mem_iff
  simp only [OneToOne, sameNames]

/-- A name as tables keep it: not empty, and without dots. -/
def IsInternal (name : String) : Prop := name ≠ "" ∧ '.' ∉ name.toList

/-- The names that pairs link are in internal form. -/
theorem isInternal_of_mem_links {direction : Direction} {pairs : List (String × String)}
    {name counterpart : String} (linked : (name, counterpart) ∈ links direction pairs) :
    IsInternal name ∧ IsInternal counterpart := by
  obtain ⟨pair, counts, same⟩ := List.mem_map.mp linked
  obtain ⟨rfl, rfl⟩ := Prod.mk.inj same
  have sides : ∀ direction : Direction, IsInternal (ClassName.internal (direction.side pair)) := by
    intro direction
    have nonempty := of_decide_eq_true (List.mem_filter.mp counts).2
    refine ⟨fun empty => ?_, ClassName.internal_noDot _⟩
    rw [ClassName.internal_eq_empty_iff] at empty
    cases direction with
    | toRuntime => exact nonempty.1 empty
    | toHuman => exact nonempty.2 empty
  exact ⟨sides direction, sides direction.reverse⟩

/-- **The size of a table is the number of different pairs of names.** -/
theorem Holds.size_eq {table : ClassTable} {pairs : List (String × String)}
    (holds : Holds table pairs) : table.size = (related pairs).dedup.length := by
  have different : table.runtimeOf.toList.Nodup :=
    Std.ExtTreeMap.distinct_keys_toList.imp fun distinct same => distinct (by simp [same])
  have permuted : table.runtimeOf.toList.Perm (related pairs).dedup := by
    refine (List.perm_ext_iff_of_nodup different (List.nodup_dedup _)).mpr ?_
    rintro ⟨human, runtime⟩
    rw [List.mem_dedup, Std.ExtTreeMap.mem_toList_iff_getElem?_eq_some]
    exact holds.counterparts .toRuntime human runtime
  rw [size, ← Std.ExtTreeMap.length_toList, permuted.length_eq]

/-- A table that is a relation between human and runtime names in internal form, and one to one. -/
structure Represents (table : ClassTable) (names : List (String × String)) : Prop where
  toRuntime : ∀ query runtime, table.counterpart? query .toRuntime = some runtime ↔
    (ClassName.internal query, runtime) ∈ names
  toHuman : ∀ query human, table.counterpart? query .toHuman = some human ↔
    (human, ClassName.internal query) ∈ names
  inverse : ∀ human runtime : String,
    table.runtimeOf[human]? = some runtime ↔ table.humanOf[runtime]? = some human
  internalNames : ∀ direction (name counterpart : String),
    (table.counterparts direction)[name]? = some counterpart →
      IsInternal name ∧ IsInternal counterpart
  humanSpellings : ∀ name, name ∈ table.humanSpelling ↔ name ∈ table.runtimeOf
  runtimeSpellings : ∀ name, name ∈ table.runtimeSpelling ↔ name ∈ table.humanOf
  spelled : ∀ direction (name spelling : String), (table.spellings direction)[name]? = some spelling →
    ClassName.internal spelling = name
  sizeOf : table.size = names.dedup.length

/-- What a table holds is the relation of its pairs. -/
theorem Holds.represents {table : ClassTable} {pairs : List (String × String)}
    (holds : Holds table pairs) : table.Represents (related pairs) where
  toRuntime query runtime := holds.counterparts .toRuntime _ runtime
  toHuman query human := (holds.counterparts .toHuman _ human).trans mem_links_toHuman
  inverse human runtime := by
    have forth := holds.counterparts .toRuntime human runtime
    have back := (holds.counterparts .toHuman runtime human).trans mem_links_toHuman
    exact forth.trans back.symm
  internalNames direction name counterpart found :=
    isInternal_of_mem_links ((holds.counterparts direction name counterpart).mp found)
  humanSpellings := holds.mem_spellings_iff .toHuman
  runtimeSpellings := holds.mem_spellings_iff .toRuntime
  spelled direction name spelling found :=
    internal_firstSpelling? ((holds.spellings direction name).symm.trans found)
  sizeOf := holds.size_eq

/-- **A list of pairs makes a table exactly when its relation is one to one**, whatever its order; and
the table is that relation. -/
theorem ofPairs_oneToOne (pairs : List (String × String)) :
    ((∃ table, ofPairs pairs = .ok table) ↔ OneToOne (related pairs)) ∧
    (∀ reordered, reordered.Perm pairs →
      ((∃ table, ofPairs reordered = .ok table) ↔ ∃ table, ofPairs pairs = .ok table)) ∧
    ∀ table, ofPairs pairs = .ok table → table.Represents (related pairs) := by
  refine ⟨exists_ofPairs_iff, fun reordered permuted => ?_, fun table built => ?_⟩
  · rw [exists_ofPairs_iff, exists_ofPairs_iff, oneToOne_related_perm permuted]
  · exact (holds_of_ofPairs built).represents

/-- Pairs that spell a class again or have an empty side make a table. -/
theorem ofPairs_oneToOne_respelled :
    ∃ table, ofPairs [("net.Foo", "a"), ("net/Foo", "a"), ("", "b"), ("net/Bar", "x.b")] = .ok table ∧
      table.Represents [("net/Foo", "a"), ("net/Foo", "a"), ("net/Bar", "x/b")] := by
  have main :=
    ofPairs_oneToOne [("net.Foo", "a"), ("net/Foo", "a"), ("", "b"), ("net/Bar", "x.b")]
  obtain ⟨table, built⟩ := main.1.mpr (by decide)
  exact ⟨table, built, main.2.2 table built⟩

end ClassTable

end NameDomains
