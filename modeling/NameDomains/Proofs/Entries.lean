/-
**Maps filled from lists of entries.**

A map that is filled entry by entry keeps the last value of each key. Where entries with one key have
one value, nothing is ever replaced, and the map is the list of entries in whatever order.

* `Entries.exists_mem_of_forall₂`, `Entries.exists_forall₂` — lists that are related item by item.
* `Entries.IsLast`, `Entries.findRev?_eq_some_iff`, `Entries.isLast_append_iff` — the last item of a list
  with a property.
* `Entries.getElem?_foldl` — a map filled step by step holds what the last step left.
* `Entries.getElem?_insertMany_eq_some_iff_isLast` — a map filled from entries holds the last value of each key.
* `Entries.Consistent` — entries with one key have one value.
* `Entries.getElem?_insertMany_eq_some_iff` — a map filled from consistent entries holds exactly them.
-/

import Mathlib.Data.List.Forall2
import Std.Data.ExtTreeMap

namespace NameDomains.Entries

variable {β : Type}

/-! ### Lists item by item -/

theorem exists_mem_of_forall₂ {α : Type} {related : α → β → Prop} {values : List α} {others : List β}
    (all : List.Forall₂ related values others) {value : α} (listed : value ∈ values) :
    ∃ other ∈ others, related value other := by
  induction all with
  | nil => cases listed
  | cons here _ rest =>
    rcases List.mem_cons.mp listed with rfl | later
    · exact ⟨_, List.mem_cons_self, here⟩
    · obtain ⟨other, found, same⟩ := rest later
      exact ⟨other, List.mem_cons_of_mem _ found, same⟩

/-- Items that are each related to something are related to a list, item by item. -/
theorem exists_forall₂ {α : Type} {related : α → β → Prop} {values : List α}
    (each : ∀ value ∈ values, ∃ other, related value other) : ∃ others, List.Forall₂ related values others := by
  induction values with
  | nil => exact ⟨[], .nil⟩
  | cons value values rest =>
    obtain ⟨⟨other, here⟩, later⟩ := List.forall_mem_cons.mp each
    obtain ⟨others, all⟩ := rest later
    exact ⟨other :: others, .cons here all⟩

theorem map_eq_of_forall₂ {α γ : Type} {image : α → γ} {otherImage : β → γ} {values : List α}
    {others : List β} (all : List.Forall₂ (fun value other => image value = otherImage other) values others) :
    values.map image = others.map otherImage := by
  rw [← List.forall₂_eq_eq_eq, List.forall₂_map_left_iff, List.forall₂_map_right_iff]
  exact all

/-! ### Last items -/

/-- The last item that passes a test is among the items and passes it. -/
theorem mem_of_findRev? {α : Type} {test : α → Bool} {items : List α} {last : α}
    (found : items.findRev? test = some last) : last ∈ items ∧ test last = true := by
  rw [List.findRev?_eq_find?_reverse] at found
  exact ⟨List.mem_reverse.mp (List.mem_of_find?_eq_some found), List.find?_some found⟩

/-- There is a last item that passes a test if any does. -/
theorem isSome_findRev?_iff {α : Type} {test : α → Bool} {items : List α} :
    (items.findRev? test).isSome ↔ ∃ item ∈ items, test item = true := by
  rw [List.findRev?_eq_find?_reverse, List.find?_isSome]
  simp only [List.mem_reverse]

/-- An item of a list has a property that no later one has. -/
def IsLast {α : Type} (property : α → Prop) (items : List α) (item : α) : Prop :=
  ∃ before after, items = before ++ item :: after ∧ property item ∧ ∀ other ∈ after, ¬ property other

/-- **The last item that passes a test** is the one that no later one is like. -/
theorem findRev?_eq_some_iff {α : Type} {property : α → Prop} [DecidablePred property]
    {items : List α} {item : α} :
    items.findRev? (fun item => decide (property item)) = some item ↔ IsLast property items item := by
  rw [List.findRev?_eq_find?_reverse, List.find?_eq_some_iff_append, decide_eq_true_eq]
  simp only [List.reverse_eq_append_iff, List.reverse_cons, List.append_assoc, List.singleton_append,
    Bool.not_eq_true', decide_eq_false_iff_not]
  constructor
  · rintro ⟨has, later, earlier, divided, none⟩
    exact ⟨earlier.reverse, later.reverse, divided, has, fun other listed =>
      none other (List.mem_reverse.mp listed)⟩
  · rintro ⟨before, after, divided, has, none⟩
    refine ⟨has, after.reverse, before.reverse, ?_, fun other listed =>
      none other (List.mem_reverse.mp listed)⟩
    rw [List.reverse_reverse, List.reverse_reverse, divided]

/-- An item is the last one with a property if it is so in the rest, or heads a rest without any. -/
theorem isLast_cons_iff {α : Type} {property : α → Prop} {first item : α} {items : List α} :
    IsLast property (first :: items) item ↔
      IsLast property items item ∨
        first = item ∧ property item ∧ ∀ other ∈ items, ¬ property other := by
  constructor
  · rintro ⟨before, after, divided, has, none⟩
    cases before with
    | nil =>
      obtain ⟨rfl, rfl⟩ := List.cons.inj divided
      exact .inr ⟨rfl, has, none⟩
    | cons _ before =>
      obtain ⟨-, rfl⟩ := List.cons.inj divided
      exact .inl ⟨before, after, rfl, has, none⟩
  · rintro (⟨before, after, rfl, has, none⟩ | ⟨rfl, has, none⟩)
    · exact ⟨first :: before, after, rfl, has, none⟩
    · exact ⟨[], items, rfl, has, none⟩

/-- **Of two lists the later one decides which item is the last**, if it has any. -/
theorem isLast_append_iff {α : Type} {property : α → Prop} {item : α} {first second : List α} :
    IsLast property (first ++ second) item ↔
      IsLast property second item ∨
        IsLast property first item ∧ ∀ other ∈ second, ¬ property other := by
  induction first with
  | nil =>
    have none : ¬ IsLast property [] item := fun ⟨before, after, divided, _⟩ => by simp at divided
    simp [none]
  | cons first items rest =>
    rw [List.cons_append, isLast_cons_iff, rest, isLast_cons_iff]
    simp only [List.mem_append, or_imp, forall_and]
    constructor
    · rintro ((last | ⟨last, none⟩) | ⟨same, has, none, noneLater⟩)
      · exact .inl last
      · exact .inr ⟨.inl last, none⟩
      · exact .inr ⟨.inr ⟨same, has, none⟩, noneLater⟩
    · rintro (last | ⟨last | ⟨same, has, none⟩, noneLater⟩)
      · exact .inl (.inl last)
      · exact .inl (.inr ⟨last, noneLater⟩)
      · exact .inr ⟨same, has, none, noneLater⟩

/-- There is a last item with a property if there is any. -/
theorem exists_isLast {α : Type} {property : α → Prop} {items : List α}
    (some : ∃ item ∈ items, property item) : ∃ item, IsLast property items item := by
  classical
  obtain ⟨item, listed, has⟩ := some
  have isFound : (items.findRev? fun item => decide (property item)).isSome :=
    isSome_findRev?_iff.mpr ⟨item, listed, decide_eq_true has⟩
  obtain ⟨last, found⟩ := Option.isSome_iff_exists.mp isFound
  exact ⟨last, findRev?_eq_some_iff.mp found⟩

/-- Items without the property make no difference. -/
theorem isLast_filter_iff {α : Type} {property : α → Prop} {test : α → Bool} {items : List α} {item : α}
    (passes : ∀ other, property other → test other = true) :
    IsLast property (items.filter test) item ↔ IsLast property items item := by
  induction items with
  | nil => exact Iff.rfl
  | cons first items later =>
    have none_iff : (∀ other ∈ items.filter test, ¬ property other) ↔ ∀ other ∈ items, ¬ property other :=
      ⟨fun none other listed has => none other (List.mem_filter.mpr ⟨listed, passes other has⟩) has,
        fun none other listed => none other (List.mem_filter.mp listed).1⟩
    by_cases kept : test first = true
    · rw [List.filter_cons_of_pos kept, isLast_cons_iff, isLast_cons_iff, later, none_iff]
    · rw [List.filter_cons_of_neg kept, isLast_cons_iff, later]
      refine ⟨.inl, ?_⟩
      rintro (last | ⟨rfl, has, -⟩)
      · exact last
      · exact absurd (passes _ has) kept

/-! ### Maps -/

/-- **What is found under a key is what the last step that fills it left there**, or else what was there
before. -/
theorem getElem?_foldl {α : Type} {key : String} (fills : α → Bool) (value : α → β)
    {step : Std.ExtTreeMap String β → α → Std.ExtTreeMap String β}
    (stepped : ∀ map item, (step map item)[key]? = if fills item then some (value item) else map[key]?)
    (start : Std.ExtTreeMap String β) (items : List α) :
    (items.foldl step start)[key]? = ((items.findRev? fills).map value).or start[key]? := by
  induction items generalizing start with
  | nil => exact Option.none_or.symm
  | cons item items rest =>
    rw [List.foldl_cons, rest, stepped, List.findRev?]
    cases items.findRev? fills with
    | some last => rfl
    | none => cases fills item <;> rfl

/-- Entries with one key have one value. -/
def Consistent (entries : List (String × β)) : Prop :=
  ∀ key first second, (key, first) ∈ entries → (key, second) ∈ entries → first = second

theorem Consistent.of_append {first second : List (String × β)}
    (consistent : Consistent (first ++ second)) : Consistent first :=
  fun key one other oneListed otherListed =>
    consistent key one other (List.mem_append_left _ oneListed) (List.mem_append_left _ otherListed)

/-- What a filled map holds was among the entries. -/
theorem mem_of_getElem?_insertMany {entries : List (String × β)} {key : String} {value : β}
    (found : ((∅ : Std.ExtTreeMap String β).insertMany entries)[key]? = some value) :
    (key, value) ∈ entries := by
  rw [Std.ExtTreeMap.getElem?_insertMany_list, Std.ExtTreeMap.getElem?_empty, Option.or_none,
    List.findSomeRev?_eq_findSome?_reverse] at found
  obtain ⟨⟨other, stored⟩, listed, kept⟩ := List.exists_of_findSome?_eq_some found
  simp only [Std.LawfulEqCmp.compare_eq_iff_eq] at kept
  split at kept
  · next same =>
    rw [← same, ← Option.some.inj kept]
    exact List.mem_reverse.mp listed
  · cases kept

/-- A filled map holds a value of every key among the entries. -/
theorem exists_getElem?_insertMany {entries : List (String × β)} {key : String} {value : β}
    (listed : (key, value) ∈ entries) :
    ∃ last, ((∅ : Std.ExtTreeMap String β).insertMany entries)[key]? = some last := by
  rw [← Option.isSome_iff_exists, ← Std.ExtTreeMap.mem_iff_isSome_getElem?,
    Std.ExtTreeMap.mem_insertMany_list, List.contains_iff_mem]
  exact .inr (List.mem_map_of_mem listed)

/-- **A map that entries are added to holds the last one of each key**, or what was there before. -/
theorem getElem?_insertMany_eq_some_iff_isLast {start : Std.ExtTreeMap String β}
    {entries : List (String × β)} {key : String} {value : β} :
    (start.insertMany entries)[key]? = some value ↔
      IsLast (fun entry => entry.1 = key) entries (key, value) ∨
        (∀ entry ∈ entries, entry.1 ≠ key) ∧ start[key]? = some value := by
  induction entries generalizing start with
  | nil =>
    have none : ¬ IsLast (fun entry : String × β => entry.1 = key) [] (key, value) :=
      fun ⟨before, after, divided, _⟩ => by simp at divided
    rw [Std.ExtTreeMap.insertMany_nil]
    simp [none]
  | cons entry entries rest =>
    rw [Std.ExtTreeMap.insertMany_cons, rest, isLast_cons_iff, Std.ExtTreeMap.getElem?_insert,
      List.forall_mem_cons]
    simp only [Std.LawfulEqCmp.compare_eq_iff_eq]
    obtain ⟨other, stored⟩ := entry
    by_cases same : other = key
    · subst same
      simp [and_comm]
    · simp [same]

/-- **A map filled from consistent entries holds exactly them.** -/
theorem getElem?_insertMany_eq_some_iff {entries : List (String × β)}
    (consistent : Consistent entries) {key : String} {value : β} :
    ((∅ : Std.ExtTreeMap String β).insertMany entries)[key]? = some value ↔
      (key, value) ∈ entries := by
  refine ⟨mem_of_getElem?_insertMany, fun listed => ?_⟩
  obtain ⟨last, found⟩ := exists_getElem?_insertMany listed
  rw [found, consistent key last value (mem_of_getElem?_insertMany found) listed]

/-- Maps filled from the same consistent entries are the same, whatever the order of the entries. -/
theorem insertMany_congr {entries others : List (String × β)} (consistent : Consistent entries)
    (same : ∀ entry, entry ∈ entries ↔ entry ∈ others) :
    (∅ : Std.ExtTreeMap String β).insertMany entries =
      (∅ : Std.ExtTreeMap String β).insertMany others := by
  have othersConsistent : Consistent others := fun key one other oneListed otherListed =>
    consistent key one other ((same _).mpr oneListed) ((same _).mpr otherListed)
  refine Std.ExtTreeMap.ext_getElem? fun key => Option.ext fun value => ?_
  rw [getElem?_insertMany_eq_some_iff consistent, getElem?_insertMany_eq_some_iff othersConsistent, same]

end NameDomains.Entries
