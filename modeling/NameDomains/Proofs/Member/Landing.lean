/-
**Where the host's classes land.**

The host's tables may be gone through in any order. Every class of the host lands somewhere, under its human
name or under its own, so none is lost; two of them meet only in few ways. A class that meets no other one is
turned around exactly, in whatever order its entries come.

* `HostTables.landing_eq_landing_iff` — when two classes of a host meet.
* `HostTables.Lists`, `HostTables.turnListing` — the tables in some order, and turned around in that order.
* `HostTables.mem_turnListing_iff` — what the turned tables are filed under.
* `HostTables.getElem?_turnListing` — what a class that lands alone is turned into.
* `HostTables.runtimeTables_of_listing` — all of it.
-/

import NameDomains.Proofs.ClassTable.Renaming
import NameDomains.Proofs.Member.HostTable

namespace NameDomains.HostTables

/-! ### Landing -/

section Landing

variable {classes : ClassTable} {pairs : List (String × String)}

theorem landing_noDot (holds : classes.Holds pairs) (hostClass : String) :
    '.' ∉ (landing classes hostClass).toList := by
  unfold landing
  cases known : classes.counterpart? hostClass .toHuman with
  | none => exact ClassName.internal_noDot hostClass
  | some human =>
    have linked := (holds.counterparts .toHuman _ human).mp known
    exact (ClassTable.isInternal_of_mem_links linked).2.2

/-- Classes with one human name are one class, perhaps in two spellings. -/
theorem internal_eq_of_counterpart? (holds : classes.Holds pairs) {first second human : String}
    (firstKnown : classes.counterpart? first .toHuman = some human)
    (secondKnown : classes.counterpart? second .toHuman = some human) :
    ClassName.internal first = ClassName.internal second := by
  have firstBack : classes.directed .toRuntime human = some (ClassName.internal first) :=
    holds.directed_reverse_eq_some_iff.mp firstKnown
  have secondBack : classes.directed .toRuntime human = some (ClassName.internal second) :=
    holds.directed_reverse_eq_some_iff.mp secondKnown
  rw [firstBack] at secondBack
  exact Option.some.inj secondBack

/-- **Two classes of a host meet** if they are one class in two spellings, or if one has no human name and is
spelled like the human name of the other. -/
theorem landing_eq_landing_iff (holds : classes.Holds pairs) {first second : String} :
    landing classes first = landing classes second ↔
      ClassName.internal first = ClassName.internal second ∨
      (classes.counterpart? first .toHuman = none ∧
        classes.counterpart? second .toHuman = some (ClassName.internal first)) ∨
      (classes.counterpart? second .toHuman = none ∧
        classes.counterpart? first .toHuman = some (ClassName.internal second)) := by
  constructor
  · intro meet
    unfold landing at meet
    cases firstKnown : classes.counterpart? first .toHuman with
    | none =>
      rw [firstKnown, Option.getD_none] at meet
      cases secondKnown : classes.counterpart? second .toHuman with
      | none =>
        rw [secondKnown, Option.getD_none] at meet
        exact .inl meet
      | some human =>
        rw [secondKnown, Option.getD_some] at meet
        exact .inr (.inl ⟨rfl, by rw [meet]⟩)
    | some human =>
      rw [firstKnown, Option.getD_some] at meet
      cases secondKnown : classes.counterpart? second .toHuman with
      | none =>
        rw [secondKnown, Option.getD_none] at meet
        exact .inr (.inr ⟨rfl, by rw [meet]⟩)
      | some other =>
        rw [secondKnown, Option.getD_some] at meet
        exact .inl (internal_eq_of_counterpart? holds firstKnown (meet ▸ secondKnown))
  · rintro (spelled | ⟨unknown, known⟩ | ⟨unknown, known⟩)
    · rw [landing, landing, ClassTable.counterpart?, ClassTable.counterpart?, spelled]
    · rw [landing, landing, unknown, known, Option.getD_none, Option.getD_some]
    · rw [landing, landing, unknown, known, Option.getD_none, Option.getD_some]

end Landing

/-! ### In whatever order -/

/-- The tables of a host as a list: every class with all its entries, and nothing else. -/
structure Lists (listing : List (String × List (String × String))) (tables : MemberMaps) : Prop where
  each : ∀ hostClass entries, (hostClass, entries) ∈ listing →
    ∃ members, tables[hostClass]? = some members ∧
      ∀ entry listed, (entry, listed) ∈ entries ↔ members[entry]? = some listed
  all : ∀ hostClass ∈ tables, ∃ entries, (hostClass, entries) ∈ listing

/-- The tables of a host as a list, by the order of the names. -/
def sorted (tables : MemberMaps) : List (String × List (String × String)) :=
  tables.toList.map fun entry => (entry.1, entry.2.toList)

theorem lists_sorted (tables : MemberMaps) : Lists (sorted tables) tables where
  each hostClass entries listed := by
    obtain ⟨⟨_, members⟩, stored, same⟩ := List.mem_map.mp listed
    obtain ⟨rfl, rfl⟩ := Prod.mk.inj same
    exact ⟨members, Std.ExtTreeMap.mem_toList_iff_getElem?_eq_some.mp stored, fun entry listed =>
      Std.ExtTreeMap.mem_toList_iff_getElem?_eq_some⟩
  all hostClass shipped := by
    have stored := Std.ExtTreeMap.mem_toList_iff_getElem?_eq_some.mpr
      (Std.ExtTreeMap.getElem?_eq_some_getElem shipped)
    exact ⟨_, List.mem_map.mpr ⟨_, stored, rfl⟩⟩

/-- The classes may come in another order. -/
theorem Lists.perm {tables : MemberMaps} {listing reordered : List (String × List (String × String))}
    (lists : Lists listing tables) (permuted : reordered.Perm listing) : Lists reordered tables where
  each hostClass entries listed := lists.each hostClass entries (permuted.mem_iff.mp listed)
  all hostClass shipped := by
    obtain ⟨entries, listed⟩ := lists.all hostClass shipped
    exact ⟨entries, permuted.mem_iff.mpr listed⟩

/-- So may the entries of each class. -/
theorem Lists.map {tables : MemberMaps} {listing : List (String × List (String × String))}
    (lists : Lists listing tables) {reorder : List (String × String) → List (String × String)}
    (permuted : ∀ entries, (reorder entries).Perm entries) :
    Lists (listing.map fun entry => (entry.1, reorder entry.2)) tables where
  each hostClass entries listed := by
    obtain ⟨⟨_, own⟩, ownListed, same⟩ := List.mem_map.mp listed
    obtain ⟨rfl, rfl⟩ := Prod.mk.inj same
    obtain ⟨members, shipped, whole⟩ := lists.each _ own ownListed
    exact ⟨members, shipped, fun entry listed => (permuted own).mem_iff.trans (whole entry listed)⟩
  all hostClass shipped := by
    obtain ⟨entries, listed⟩ := lists.all hostClass shipped
    exact ⟨reorder entries, List.mem_map_of_mem listed⟩

variable {kind : MemberKind} {classes : ClassTable} {tables : MemberMaps}
  {listing : List (String × List (String × String))}

/-- The entries of a class turned around in some order. -/
def turnEntries (kind : MemberKind) (entries : List (String × String)) : NameMap :=
  entries.foldl (fun turned entry =>
    turned.insert (kind.stripSuffix entry.2) (kind.stripSuffix entry.1)) ∅

/-- The tables of a host turned around in some order. -/
def turnListing (kind : MemberKind) (classes : ClassTable)
    (listing : List (String × List (String × String))) : MemberMaps :=
  listing.foldl (fun turned entry =>
    turned.insert (landing classes entry.1) (turnEntries kind entry.2)) ∅

/-- **The host's tables are turned around by the order of the names.** -/
theorem runtimeTables_eq_turnListing :
    (runtimeTables kind tables classes).value = turnListing kind classes (sorted tables) := by
  have inner : ∀ members : NameMap, turnAround kind members = turnEntries kind members.toList := by
    intro members
    rw [turnAround, turnEntries, Std.ExtTreeMap.foldl_eq_foldl_toList]
  rw [turnListing, sorted, List.foldl_map]
  simp only [← inner]
  exact Std.ExtTreeMap.foldl_eq_foldl_toList

theorem turnListing_eq_insertMany :
    turnListing kind classes listing = (∅ : MemberMaps).insertMany
      (listing.map fun entry => (landing classes entry.1, turnEntries kind entry.2)) := by
  rw [turnListing, Std.ExtTreeMap.insertMany_list_eq_foldl, List.foldl_map]

theorem turnEntries_eq_insertMany (entries : List (String × String)) :
    turnEntries kind entries = (∅ : NameMap).insertMany
      (entries.map fun entry => (kind.stripSuffix entry.2, kind.stripSuffix entry.1)) := by
  rw [turnEntries, Std.ExtTreeMap.insertMany_list_eq_foldl, List.foldl_map]

/-- **The turned tables are filed under the names on which the host's classes land**, and each class lands
on one of them. -/
theorem mem_turnListing_iff (lists : Lists listing tables) {className : String} :
    className ∈ turnListing kind classes listing ↔
      ∃ hostClass ∈ tables, landing classes hostClass = className := by
  rw [turnListing_eq_insertMany, Std.ExtTreeMap.mem_insertMany_list, List.contains_iff_mem]
  simp only [Std.ExtTreeMap.not_mem_empty, false_or, List.map_map, List.mem_map, Function.comp_apply,
    Prod.exists]
  constructor
  · rintro ⟨hostClass, entries, listed, lands⟩
    obtain ⟨members, shipped, -⟩ := lists.each hostClass entries listed
    exact ⟨hostClass, (Std.ExtTreeMap.getElem?_eq_some_iff.mp shipped).1, lands⟩
  · rintro ⟨hostClass, shipped, lands⟩
    obtain ⟨entries, listed⟩ := lists.all hostClass shipped
    exact ⟨hostClass, entries, listed, lands⟩

/-- **Unambiguous entries are turned around exactly**, whatever their order. -/
theorem getElem?_turnEntries_eq_some_iff {members : NameMap} {entries : List (String × String)}
    (whole : ∀ entry listed, (entry, listed) ∈ entries ↔ members[entry]? = some listed)
    (unambiguous : Unambiguous kind members) {name runtime : String} :
    (turnEntries kind entries)[name]? = some runtime ↔
      ∃ entry listed, members[entry]? = some listed ∧ kind.stripSuffix listed = name ∧
        kind.stripSuffix entry = runtime := by
  have same : ∀ entry, entry ∈ turned kind members ↔
      entry ∈ entries.map fun entry => (kind.stripSuffix entry.2, kind.stripSuffix entry.1) := by
    rintro ⟨name, runtime⟩
    rw [mem_turned_iff, List.mem_map]
    simp only [Prod.exists, Prod.mk.injEq, whole]
  rw [turnEntries_eq_insertMany, ← Entries.insertMany_congr unambiguous.consistent same,
    ← turnAround_eq_insertMany, getElem?_turnAround_eq_some_iff unambiguous]

/-- No other class of the host lands where a class lands. -/
def LandsAlone (tables : MemberMaps) (classes : ClassTable) (hostClass : String) : Prop :=
  ∀ other ∈ tables, landing classes other = landing classes hostClass → other = hostClass

instance {hostClass : String} : Decidable (LandsAlone tables classes hostClass) :=
  decidable_of_iff
    (∀ other ∈ tables.keys, landing classes other = landing classes hostClass → other = hostClass)
    (by simp only [LandsAlone, Std.ExtTreeMap.mem_keys])

/-- **A class that lands alone is found where it lands**, turned around in the order of its entries. -/
theorem exists_getElem?_turnListing (lists : Lists listing tables) {hostClass : String}
    {members : NameMap} (shipped : tables[hostClass]? = some members)
    (alone : LandsAlone tables classes hostClass) :
    ∃ entries, (∀ entry listed, (entry, listed) ∈ entries ↔ members[entry]? = some listed) ∧
      (turnListing kind classes listing)[landing classes hostClass]? =
        some (turnEntries kind entries) := by
  have hosted : hostClass ∈ tables := (Std.ExtTreeMap.getElem?_eq_some_iff.mp shipped).1
  have filed : landing classes hostClass ∈ turnListing kind classes listing :=
    (mem_turnListing_iff lists).mpr ⟨hostClass, hosted, rfl⟩
  obtain ⟨runtime, found⟩ :=
    Option.isSome_iff_exists.mp (Std.ExtTreeMap.mem_iff_isSome_getElem?.mp filed)
  -- Whatever is stored there was put there by a class that lands there, and there is one only.
  have stored := found
  rw [turnListing_eq_insertMany] at stored
  obtain ⟨⟨other, entries⟩, listed, same⟩ :=
    List.mem_map.mp (Entries.mem_of_getElem?_insertMany stored)
  obtain ⟨lands, turned⟩ := Prod.mk.inj same
  obtain ⟨own, otherShipped, whole⟩ := lists.each other entries listed
  obtain rfl := alone other (Std.ExtTreeMap.getElem?_eq_some_iff.mp otherShipped).1 lands
  rw [shipped] at otherShipped
  obtain rfl := Option.some.inj otherShipped
  exact ⟨entries, whole, by rw [found, ← turned]⟩

/-- **The host's tables are filed anew and nothing is lost**, in whatever order they are gone through. They
are filed under the names on which the host's classes land, which have no dots. Two classes meet exactly if
they are one class in two spellings or one has no human name and is spelled like that of the other. A class
that meets no other and whose entries give no member two runtime names is found where it lands, with exactly
the members that its entries name. -/
theorem runtimeTables_of_listing {pairs : List (String × String)}
    (built : ClassTable.ofPairs pairs = .ok classes) (kind : MemberKind) (tables : MemberMaps) :
    ((runtimeTables kind tables classes).value = turnListing kind classes (sorted tables) ∧
      Lists (sorted tables) tables) ∧
    (∀ first second, landing classes first = landing classes second ↔
      ClassName.internal first = ClassName.internal second ∨
      (classes.counterpart? first .toHuman = none ∧
        classes.counterpart? second .toHuman = some (ClassName.internal first)) ∨
      (classes.counterpart? second .toHuman = none ∧
        classes.counterpart? first .toHuman = some (ClassName.internal second))) ∧
    ∀ listing, Lists listing tables →
      (∀ className, className ∈ turnListing kind classes listing ↔
        ∃ hostClass ∈ tables, landing classes hostClass = className) ∧
      (∀ className ∈ turnListing kind classes listing, '.' ∉ className.toList) ∧
      ∀ (hostClass : String) (members : NameMap), tables[hostClass]? = some members →
        LandsAlone tables classes hostClass → Unambiguous kind members →
          ∃ runtime, (turnListing kind classes listing)[landing classes hostClass]? = some runtime ∧
            ∀ name runtimeName : String, runtime[name]? = some runtimeName ↔
              ∃ entry listed, members[entry]? = some listed ∧ kind.stripSuffix listed = name ∧
                kind.stripSuffix entry = runtimeName := by
  have holds := ClassTable.holds_of_ofPairs built
  refine ⟨⟨runtimeTables_eq_turnListing, lists_sorted tables⟩,
    fun first second => landing_eq_landing_iff holds, fun listing lists => ?_⟩
  refine ⟨fun className => mem_turnListing_iff lists, fun className filed => ?_,
    fun hostClass members shipped alone unambiguous => ?_⟩
  · obtain ⟨hostClass, -, rfl⟩ := (mem_turnListing_iff lists).mp filed
    exact landing_noDot holds hostClass
  · obtain ⟨entries, whole, found⟩ := exists_getElem?_turnListing lists shipped alone
    exact ⟨_, found, fun name runtimeName => getElem?_turnEntries_eq_some_iff whole unambiguous⟩

/-- A host with two overloads of one method and a class that it has in two spellings. -/
def doorHost : MemberMaps :=
  (∅ : MemberMaps).insertMany
    [("a", (∅ : NameMap).insertMany [("b(I)V", "m_1(I)V"), ("b(J)V", "m_1(J)V"), ("c()V", "m_2()V")]),
      ("x.y", ∅), ("x/y", (∅ : NameMap).insert "d()V" "m_3()V")]

/-- A class is found under its human name beside two that meet, when all is gone through backwards. -/
theorem runtimeTables_of_listing_backwards :
    ∃ classes runtime, ClassTable.ofPairs [("net.Door", "a")] = .ok classes ∧
      LandsAlone doorHost classes "a" ∧ landing classes "x.y" = landing classes "x/y" ∧
      (turnListing .method classes
        ((sorted doorHost).map fun entry => (entry.1, entry.2.reverse)).reverse)["net/Door"]? =
          some runtime ∧
      runtime["m_1"]? = some "b" ∧ runtime["m_2"]? = some "c" := by
  obtain ⟨classes, built⟩ : ∃ classes, ClassTable.ofPairs [("net.Door", "a")] = .ok classes := ⟨_, rfl⟩
  have made : classes = _ := Except.ok.inj (built.symm.trans rfl)
  have alone : LandsAlone doorHost classes "a" := by rw [made]; decide
  have lands : landing classes "a" = "net/Door" := by rw [made]; decide
  obtain ⟨members, shipped⟩ : ∃ members, doorHost["a"]? = some members := ⟨_, rfl⟩
  have own : members = _ := Option.some.inj (shipped.symm.trans rfl)
  have backwards : Lists ((sorted doorHost).map fun entry => (entry.1, entry.2.reverse)).reverse doorHost :=
    ((lists_sorted doorHost).map List.reverse_perm).perm (List.reverse_perm _)
  obtain ⟨-, meet, turned⟩ := runtimeTables_of_listing built .method doorHost
  obtain ⟨-, -, content⟩ := turned _ backwards
  obtain ⟨runtime, found, names⟩ := content "a" members shipped alone (by rw [own]; decide)
  rw [lands] at found
  refine ⟨classes, runtime, built, alone, (meet "x.y" "x/y").mpr (.inl (by decide)), found, ?_, ?_⟩
  · exact (names "m_1" "b").mpr ⟨"b(I)V", "m_1(I)V", by rw [own]; decide, by decide, by decide⟩
  · exact (names "m_2" "c").mpr ⟨"c()V", "m_2()V", by rw [own]; decide, by decide, by decide⟩

end NameDomains.HostTables
