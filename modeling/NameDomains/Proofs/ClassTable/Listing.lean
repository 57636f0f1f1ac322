/-
**A class table and its own listing.**

The listing of a table spells each class as the first pair of that class does, both names from that one
pair: as the relation is one to one, the first pair with the human name is the first one with the runtime
name. So the listing says all that the table holds, and builds the table again in whatever order.

* `ClassTable.firstPair?` — the first pair of a class.
* `ClassTable.ofPairs_eq_ok_iff` — a table is the one of some pairs exactly if it holds what they say.
* `ClassTable.Holds.mem_pairs_iff` — the listing consists of the first pairs of the classes.
* `ClassTable.Holds.of_perm_pairs` — the table holds what its listing says.
* `ClassTable.pairs_rebuild` — all of it.
-/

import Mathlib.Data.List.Find
import NameDomains.Proofs.ClassTable.Bijection

namespace NameDomains.ClassTable

/-! ### The first pair of a class -/

/-- The first pair with a name on the side where a direction starts. -/
def firstPair? (direction : Direction) (pairs : List (String × String)) (name : String) :
    Option (String × String) :=
  (kept pairs).find? fun pair => decide ((link direction pair).1 = name)

theorem mem_kept_of_firstPair? {direction : Direction} {pairs : List (String × String)}
    {name : String} {pair : String × String} (first : firstPair? direction pairs name = some pair) :
    pair ∈ kept pairs ∧ (link direction pair).1 = name := by
  have named := List.find?_some first
  exact ⟨List.mem_of_find?_eq_some first, of_decide_eq_true named⟩

/-- A pair that counts links its names. -/
theorem link_mem_links {pairs : List (String × String)} {pair : String × String}
    (counted : pair ∈ kept pairs) (direction : Direction) : link direction pair ∈ links direction pairs :=
  List.mem_map_of_mem counted

/-- A class is first spelled by its first pair. -/
theorem firstSpelling?_eq (direction : Direction) (pairs : List (String × String)) (name : String) :
    firstSpelling? direction pairs name = (firstPair? direction pairs name).map direction.side :=
  List.find?_map

/-- A class has a first pair exactly when the pairs link its name to another. -/
theorem isSome_firstPair?_iff {direction : Direction} {pairs : List (String × String)} {name : String} :
    (firstPair? direction pairs name).isSome ↔
      ∃ counterpart, (name, counterpart) ∈ links direction pairs := by
  rw [← isSome_firstSpelling?_iff, firstSpelling?_eq, Option.isSome_map]

/-- **What a name is linked to is what the first pair with it says.** -/
theorem Functional.exists_firstPair?_iff {pairs : List (String × String)}
    (functional : Functional pairs) {direction : Direction} {name counterpart : String} :
    (∃ pair, firstPair? direction pairs name = some pair ∧ link direction pair = (name, counterpart)) ↔
      (name, counterpart) ∈ links direction pairs := by
  constructor
  · rintro ⟨pair, first, same⟩
    exact same ▸ link_mem_links (mem_kept_of_firstPair? first).1 direction
  · intro linked
    obtain ⟨pair, first⟩ := Option.isSome_iff_exists.mp (isSome_firstPair?_iff.mpr ⟨_, linked⟩)
    obtain ⟨counted, rfl⟩ := mem_kept_of_firstPair? first
    exact ⟨pair, first, Prod.ext rfl (functional direction _ _ _ (link_mem_links counted _) linked)⟩

/-- **The first pair with a name is the first one with its counterpart.** -/
theorem Functional.firstPair?_reverse {pairs : List (String × String)} (functional : Functional pairs)
    {direction : Direction} {name counterpart : String}
    (linked : (name, counterpart) ∈ links direction pairs) :
    firstPair? direction.reverse pairs counterpart = firstPair? direction pairs name := by
  have linkedBack := (mem_links_reverse direction).mpr linked
  refine List.find?_congr fun pair counted => decide_eq_decide.mpr ⟨?_, ?_⟩
  · intro (same : (link direction.reverse pair).1 = counterpart)
    subst same
    have back := functional direction.reverse _ _ _ (link_mem_links counted _) linkedBack
    rw [← back]
    show _ = ClassName.internal (direction.reverse.reverse.side pair)
    rw [Direction.reverse_reverse, link]
  · intro (same : (link direction pair).1 = name)
    subst same
    exact functional direction _ _ _ (link_mem_links counted _) linked

/-- Where each class has one pair only, that is its first one. -/
theorem firstPair?_eq_some_iff {direction : Direction} {pairs : List (String × String)}
    (apart : ∀ one ∈ kept pairs, ∀ other ∈ kept pairs,
      (link direction one).1 = (link direction other).1 → one = other)
    {name : String} {pair : String × String} :
    firstPair? direction pairs name = some pair ↔ pair ∈ kept pairs ∧ (link direction pair).1 = name := by
  refine ⟨mem_kept_of_firstPair?, ?_⟩
  rintro ⟨counted, rfl⟩
  have linked : ∃ counterpart, ((link direction pair).1, counterpart) ∈ links direction pairs :=
    ⟨_, link_mem_links counted direction⟩
  obtain ⟨first, found⟩ := Option.isSome_iff_exists.mp (isSome_firstPair?_iff.mpr linked)
  obtain ⟨firstCounted, same⟩ := mem_kept_of_firstPair? found
  rw [found, apart first firstCounted pair counted same]

/-! ### What a table holds makes it -/

namespace Holds

variable {table other : ClassTable} {pairs others : List (String × String)}

/-- Tables that hold what the same pairs say are the same. -/
theorem unique (holds : Holds table pairs) (otherHolds : Holds other pairs) : table = other := by
  have sameCounterparts : ∀ direction, table.counterparts direction = other.counterparts direction :=
    fun direction => Std.ExtTreeMap.ext_getElem? fun name => Option.ext fun counterpart =>
      (holds.counterparts direction name counterpart).trans
        (otherHolds.counterparts direction name counterpart).symm
  have sameSpellings : ∀ direction, table.spellings direction = other.spellings direction :=
    fun direction => Std.ExtTreeMap.ext_getElem? fun name =>
      (holds.spellings direction name).trans (otherHolds.spellings direction name).symm
  obtain ⟨runtimeOf, humanOf, humanSpelling, runtimeSpelling⟩ := table
  obtain ⟨_, _, _, _⟩ := other
  obtain rfl : runtimeOf = _ := sameCounterparts .toRuntime
  obtain rfl : humanOf = _ := sameCounterparts .toHuman
  obtain rfl : humanSpelling = _ := sameSpellings .toHuman
  obtain rfl : runtimeSpelling = _ := sameSpellings .toRuntime
  rfl

/-- A table holds what other pairs say if they have the same links and the same first pairs. -/
theorem of_same (holds : Holds table pairs)
    (sameLinks : ∀ direction names, names ∈ links direction others ↔ names ∈ links direction pairs)
    (sameFirst : ∀ direction name, firstPair? direction others name = firstPair? direction pairs name) :
    Holds table others where
  counterparts direction name counterpart := by rw [holds.counterparts, sameLinks]
  spellings direction name := by
    rw [holds.spellings, firstSpelling?_eq, firstSpelling?_eq, sameFirst]

end Holds

/-- **A table is the one of some pairs exactly if it holds what they say.** -/
theorem ofPairs_eq_ok_iff {pairs : List (String × String)} {table : ClassTable} :
    ofPairs pairs = .ok table ↔ Holds table pairs := by
  refine ⟨holds_of_ofPairs, fun holds => ?_⟩
  obtain ⟨built, made⟩ := exists_ofPairs_iff.mpr (functional_iff_oneToOne.mp holds.functional)
  rw [made, (holds_of_ofPairs made).unique holds]

/-! ### The listing -/

namespace Holds

variable {table : ClassTable} {pairs listing : List (String × String)}

/-- A name is spelled as in the first pair of its class. -/
theorem spelled_eq (holds : Holds table pairs) {direction : Direction} {name : String}
    {pair : String × String} (first : firstPair? direction.reverse pairs name = some pair) :
    table.spelled direction name = direction.reverse.side pair := by
  rw [spelled, holds.spellings, firstSpelling?_eq, first, Option.map_some, Option.getD_some]

/-- **The names of a class are spelled by one pair**, the first one of the class. -/
theorem firstPair?_of_related (holds : Holds table pairs) {human runtime : String}
    (linked : (human, runtime) ∈ related pairs) :
    firstPair? .toRuntime pairs human =
      some (table.spelled .toHuman human, table.spelled .toRuntime runtime) := by
  obtain ⟨pair, first, -⟩ := holds.functional.exists_firstPair?_iff.mpr linked
  have firstBack : firstPair? .toHuman pairs runtime = some pair :=
    (holds.functional.firstPair?_reverse linked).trans first
  have spelledHuman : table.spelled .toHuman human = pair.1 := holds.spelled_eq first
  have spelledRuntime : table.spelled .toRuntime runtime = pair.2 := holds.spelled_eq firstBack
  rw [spelledHuman, spelledRuntime]
  exact first

/-- The listing consists of the first pairs of the human names. -/
theorem mem_pairs_iff_human (holds : Holds table pairs) {entry : String × String} :
    entry ∈ table.pairs ↔ firstPair? .toRuntime pairs (link .toRuntime entry).1 = some entry := by
  rw [ClassTable.pairs, List.mem_map]
  constructor
  · rintro ⟨⟨human, runtime⟩, listed, rfl⟩
    rw [Std.ExtTreeMap.mem_toList_iff_getElem?_eq_some] at listed
    have first := holds.firstPair?_of_related ((holds.counterparts .toRuntime human runtime).mp listed)
    rw [(mem_kept_of_firstPair? first).2]
    exact first
  · intro first
    have linked := link_mem_links (mem_kept_of_firstPair? first).1 .toRuntime
    refine ⟨link .toRuntime entry, ?_,
      Option.some.inj ((holds.firstPair?_of_related linked).symm.trans first)⟩
    rw [Std.ExtTreeMap.mem_toList_iff_getElem?_eq_some]
    exact (holds.counterparts .toRuntime _ _).mpr linked

/-- **The listing consists of the first pairs of the classes**, by either name. -/
theorem mem_pairs_iff (holds : Holds table pairs) (direction : Direction) {entry : String × String} :
    entry ∈ table.pairs ↔ firstPair? direction pairs (link direction entry).1 = some entry := by
  cases direction with
  | toRuntime => exact holds.mem_pairs_iff_human
  | toHuman =>
    have sameFirst := fun counted : entry ∈ kept pairs =>
      holds.functional.firstPair?_reverse (link_mem_links counted .toRuntime)
    rw [holds.mem_pairs_iff_human]
    exact ⟨fun first => (sameFirst (mem_kept_of_firstPair? first).1).trans first,
      fun first => (sameFirst (mem_kept_of_firstPair? first).1).symm.trans first⟩

/-- The entries of the listing are among the pairs that count. -/
theorem mem_kept_of_mem_pairs (holds : Holds table pairs) {entry : String × String}
    (listed : entry ∈ table.pairs) : entry ∈ kept pairs :=
  (mem_kept_of_firstPair? ((holds.mem_pairs_iff .toRuntime).mp listed)).1

/-- All entries of the listing count. -/
theorem kept_of_perm_pairs (holds : Holds table pairs) (permuted : listing.Perm table.pairs) :
    kept listing = listing :=
  List.filter_eq_self.mpr fun _ listed =>
    (List.mem_filter.mp (holds.mem_kept_of_mem_pairs (permuted.mem_iff.mp listed))).2

/-- **The listing has the first pairs of the pairs that it stands for.** -/
theorem firstPair?_of_perm_pairs (holds : Holds table pairs) (permuted : listing.Perm table.pairs)
    (direction : Direction) (name : String) :
    firstPair? direction listing name = firstPair? direction pairs name := by
  refine Option.ext fun entry => ?_
  rw [firstPair?_eq_some_iff, holds.kept_of_perm_pairs permuted, permuted.mem_iff,
    holds.mem_pairs_iff direction]
  · constructor
    · rintro ⟨first, rfl⟩
      exact first
    · intro first
      obtain ⟨-, rfl⟩ := mem_kept_of_firstPair? first
      exact ⟨first, rfl⟩
  · rw [holds.kept_of_perm_pairs permuted]
    intro one oneListed other otherListed same
    have first := (holds.mem_pairs_iff direction).mp (permuted.mem_iff.mp oneListed)
    rw [same, (holds.mem_pairs_iff direction).mp (permuted.mem_iff.mp otherListed)] at first
    exact (Option.some.inj first).symm

/-- **A table holds what its listing says**, in whatever order. -/
theorem of_perm_pairs (holds : Holds table pairs) (permuted : listing.Perm table.pairs) :
    Holds table listing := by
  have sameFirst := holds.firstPair?_of_perm_pairs permuted
  refine holds.of_same ?_ sameFirst
  rintro direction ⟨name, counterpart⟩
  constructor
  · intro linked
    obtain ⟨entry, listed, same⟩ := List.mem_map.mp linked
    rw [holds.kept_of_perm_pairs permuted, permuted.mem_iff] at listed
    exact same ▸ link_mem_links (holds.mem_kept_of_mem_pairs listed) direction
  · intro linked
    obtain ⟨pair, first, same⟩ := holds.functional.exists_firstPair?_iff.mpr linked
    rw [← sameFirst] at first
    exact same ▸ link_mem_links (mem_kept_of_firstPair? first).1 direction

/-- **The listing has one entry for each class.** -/
theorem existsUnique_mem_pairs_iff (holds : Holds table pairs) {human runtime : String} :
    (∃! entry, entry ∈ table.pairs ∧ link .toRuntime entry = (human, runtime)) ↔
      table.runtimeOf[human]? = some runtime := by
  have found : table.runtimeOf[human]? = some runtime ↔ (human, runtime) ∈ related pairs :=
    holds.counterparts .toRuntime human runtime
  rw [found]
  constructor
  · rintro ⟨entry, ⟨listed, same⟩, -⟩
    exact same ▸ link_mem_links (holds.mem_kept_of_mem_pairs listed) .toRuntime
  · intro linked
    obtain ⟨pair, first, same⟩ := holds.functional.exists_firstPair?_iff.mpr linked
    refine ⟨pair, ⟨?_, same⟩, ?_⟩
    · rw [holds.mem_pairs_iff .toRuntime, same]
      exact first
    · rintro other ⟨listed, otherSame⟩
      have otherFirst := (holds.mem_pairs_iff .toRuntime).mp listed
      rw [otherSame, first] at otherFirst
      exact (Option.some.inj otherFirst).symm

end Holds

theorem length_pairs (table : ClassTable) : table.pairs.length = table.size := by
  rw [pairs, List.length_map, Std.ExtTreeMap.length_toList, size]

/-- **A table can be built again from its listing.** The listing has one entry for each class, and that is
the first pair of the class that counts, by its human and by its runtime name. In whatever order, the
entries build the very table. -/
theorem pairs_rebuild {pairs : List (String × String)} {table : ClassTable}
    (built : ofPairs pairs = .ok table) :
    table.pairs.length = table.size ∧
    (∀ human runtime : String,
      (∃! entry, entry ∈ table.pairs ∧ link .toRuntime entry = (human, runtime)) ↔
        table.runtimeOf[human]? = some runtime) ∧
    (∀ entry ∈ table.pairs, entry ∈ pairs ∧ ∀ direction,
      firstPair? direction pairs (link direction entry).1 = some entry) ∧
    ∀ listing, listing.Perm table.pairs → ofPairs listing = .ok table := by
  have holds := holds_of_ofPairs built
  refine ⟨length_pairs table, fun human runtime => holds.existsUnique_mem_pairs_iff,
    fun entry listed => ⟨?_, fun direction => (holds.mem_pairs_iff direction).mp listed⟩,
    fun listing permuted => ofPairs_eq_ok_iff.mpr (holds.of_perm_pairs permuted)⟩
  exact (List.mem_filter.mp (holds.mem_kept_of_mem_pairs listed)).1

/-- Backwards, a listing builds the table again in which a class was spelled twice. -/
theorem pairs_rebuild_backwards :
    ∃ table, ofPairs [("net.Foo", "a"), ("net/Foo", "a"), ("", "b"), ("net/Bar", "x.b")] = .ok table ∧
      ofPairs table.pairs.reverse = .ok table ∧ table.pairs.length = table.size ∧
      ("net.Foo", "a") ∈ table.pairs := by
  obtain ⟨table, built⟩ : ∃ table, ofPairs [("net.Foo", "a"), ("net/Foo", "a"), ("", "b"),
      ("net/Bar", "x.b")] = .ok table := exists_ofPairs_iff.mpr (by decide)
  obtain ⟨length, each, first, again⟩ := pairs_rebuild built
  refine ⟨table, built, again _ (List.reverse_perm _), length, ?_⟩
  have known : table.runtimeOf["net/Foo"]? = some "a" :=
    ((holds_of_ofPairs built).counterparts .toRuntime _ _).mpr (by decide)
  obtain ⟨entry, ⟨listed, same⟩, -⟩ := (each "net/Foo" "a").mpr known
  have found := (first entry listed).2 .toRuntime
  rw [same] at found
  have firstOne : firstPair? .toRuntime [("net.Foo", "a"), ("net/Foo", "a"), ("", "b"),
      ("net/Bar", "x.b")] "net/Foo" = some ("net.Foo", "a") := by decide
  exact Option.some.inj (firstOne.symm.trans found) ▸ listed

end NameDomains.ClassTable
