/-
**What does not offend says something.**

A map may give a key more than once, and then the last value counts. With that, every tree that is written and
does not offend where it is decoded is a tree of some value: nothing is left between what is refused and what
is understood.

* `LastMapForm`, `decodeMap_of_lastForm` — the trees of a map whose keys may come up again.
* `Spellable` — trees that are written.
* `Covers`, `covers_list`, `covers_map` — a tree that does not offend is a tree of some value.
* `Choice`, `exists_recordForm` — the same for records, field by field.
-/

import NameDomains.Proofs.Json.Offence

namespace NameDomains.Json

open Entries (exists_mem_of_forall₂ exists_forall₂ map_eq_of_forall₂)

variable {α : Type}

/-! ### Maps -/

/-- The trees of a map, given those of its values. Keys may come up again; the last value of a key counts. -/
def LastMapForm (form : α → Node → Prop) (map : Std.ExtTreeMap String α) (node : Node) : Prop :=
  ∃ pairs entries, List.Forall₂ (EntryForm form) pairs entries ∧
    (∀ key value, map[key]? = some value ↔ Entries.IsLast (fun pair => pair.1 = key) pairs (key, value)) ∧
    node = .object entries none

theorem getElem?_insertMany_empty_iff {pairs : List (String × α)} {key : String} {value : α} :
    ((∅ : Std.ExtTreeMap String α).insertMany pairs)[key]? = some value ↔
      Entries.IsLast (fun pair => pair.1 = key) pairs (key, value) := by
  rw [Entries.getElem?_insertMany_eq_some_iff_isLast, Std.ExtTreeMap.getElem?_empty]
  simp

theorem decodeMap_of_lastForm {form : α → Node → Prop} {decode : Node → Decoded α}
    (each : ∀ value node, form value node → decode node = .ok value) {map : Std.ExtTreeMap String α}
    {node : Node} (written : LastMapForm form map node) : decodeMap decode node = .ok map := by
  obtain ⟨pairs, entries, forms, last, rfl⟩ := written
  have same : (∅ : Std.ExtTreeMap String α).insertMany pairs = map := by
    refine Std.ExtTreeMap.ext_getElem? fun key => Option.ext fun value => ?_
    rw [getElem?_insertMany_empty_iff, last]
  rw [decodeMap, foldlM_addEntry_of_forms each forms, same]
  rfl

/-! ### Written trees -/

/-- A tree that some text spells. -/
def Spellable (node : Node) : Prop := ∃ chars, Spelled (.value node) chars

theorem Spelled.spellable_of_padded {node : Node} {chars : List Char}
    (spelled : Spelled (.padded node) chars) : Spellable node := by
  cases spelled with
  | padded _ inside _ => exact ⟨_, inside⟩

theorem Spelled.spellable_of_items {items : List Node} {chars : List Char}
    (spelled : Spelled (.items items) chars) : ∀ item ∈ items, Spellable item := by
  generalize same : Piece.items items = piece at spelled
  induction spelled generalizing items with
  | lastItem only =>
    obtain rfl := Piece.items.inj same
    exact List.forall_mem_singleton.mpr only.spellable_of_padded
  | item first _ _ later =>
    obtain rfl := Piece.items.inj same
    exact List.forall_mem_cons.mpr ⟨first.spellable_of_padded, later rfl⟩
  | _ => cases same

theorem Spelled.spellable_of_entry {entry : Entry} {chars : List Char}
    (spelled : Spelled (.entry entry) chars) : ∃ key value, entry = .mk (.text key) value ∧ Spellable value := by
  cases spelled with
  | entry _ _ _ value => exact ⟨_, _, rfl, value.spellable_of_padded⟩

theorem Spelled.spellable_of_entries {entries : List Entry} {chars : List Char}
    (spelled : Spelled (.entries entries) chars) :
    ∀ entry ∈ entries, ∃ key value, entry = .mk (.text key) value ∧ Spellable value := by
  generalize same : Piece.entries entries = piece at spelled
  induction spelled generalizing entries with
  | lastEntry only =>
    obtain rfl := Piece.entries.inj same
    exact List.forall_mem_singleton.mpr only.spellable_of_entry
  | entries first _ _ later =>
    obtain rfl := Piece.entries.inj same
    exact List.forall_mem_cons.mpr ⟨first.spellable_of_entry, later rfl⟩
  | _ => cases same

/-- A list that is written ends, and its items are written. -/
theorem Spellable.of_list {items : List Node} {ending : Option Fault}
    (spellable : Spellable (.list items ending)) : ending = none ∧ ∀ item ∈ items, Spellable item := by
  obtain ⟨chars, spelled⟩ := spellable
  cases spelled with
  | emptyList => exact ⟨rfl, nofun⟩
  | list inside => exact ⟨rfl, inside.spellable_of_items⟩

/-- An object that is written ends, its keys are texts, perhaps with a surrogate that stands alone, and its
values are written. -/
theorem Spellable.of_object {entries : List Entry} {ending : Option Fault}
    (spellable : Spellable (.object entries ending)) :
    ending = none ∧ ∀ entry ∈ entries, ∃ key value, entry = .mk (.text key) value ∧ Spellable value := by
  obtain ⟨chars, spelled⟩ := spellable
  cases spelled with
  | emptyObject => exact ⟨rfl, nofun⟩
  | object inside => exact ⟨rfl, inside.spellable_of_entries⟩

/-- Entries whose keys are texts are pairs of a key and a written value. -/
theorem exists_pairs {entries : List Entry}
    (written : ∀ entry ∈ entries, ∃ key value, entry = .mk (.text key) value ∧ Spellable value)
    (readable : ∀ key value, .mk key value ∈ entries → ¬ TextOffends key) :
    ∃ pairs : List (String × Node), entries = (pairs.map fun pair => .mk (.text (some pair.1)) pair.2) ∧
      ∀ pair ∈ pairs, Spellable pair.2 := by
  induction entries with
  | nil => exact ⟨[], rfl, nofun⟩
  | cons entry entries rest =>
    obtain ⟨here, later⟩ := List.forall_mem_cons.mp written
    obtain ⟨key, value, rfl, spellable⟩ := here
    obtain ⟨pairs, rfl, all⟩ := rest later fun key value listed =>
      readable key value (List.mem_cons_of_mem _ listed)
    cases key with
    | none => exact absurd (fun value same => nomatch same) (readable _ _ List.mem_cons_self)
    | some name => exact ⟨(name, value) :: pairs, rfl, List.forall_mem_cons.mpr ⟨spellable, all⟩⟩

/-! ### Values -/

/-- Every written tree that does not offend is a tree of some value. -/
def Covers (form : α → Node → Prop) (Offends : Node → Prop) : Prop :=
  ∀ node, Spellable node → ¬ Offends node → ∃ value, form value node

theorem exists_textForm {node : Node} (fine : ¬ TextOffends node) : ∃ value, TextForm value node :=
  Classical.not_forall_not.mp fine

theorem covers_text : Covers TextForm TextOffends := fun _ _ => exists_textForm

theorem covers_optionalText : Covers OptionalTextForm OptionalTextOffends := by
  intro node spellable fine
  by_cases null : node = .null
  · exact ⟨none, null⟩
  · obtain ⟨value, text⟩ := exists_textForm fun offends => fine ⟨null, offends⟩
    exact ⟨some value, text⟩

theorem covers_list {form : α → Node → Prop} {Offends : Node → Prop} (covers : Covers form Offends) :
    Covers (ListForm form) (ListOffends Offends) := by
  intro node spellable fine
  cases node with
  | list items ending =>
    obtain ⟨rfl, written⟩ := spellable.of_list
    have each : ∀ item ∈ items, ∃ value, form value item := fun item listed =>
      covers item (written item listed) fun offends => fine (.item listed offends)
    obtain ⟨values, forms⟩ := exists_forall₂ each
    exact ⟨values, items, forms.flip, rfl⟩
  | null | flag | number | text | object | broken => exact absurd (.kind nofun) fine

theorem covers_map {form : α → Node → Prop} {Offends : Node → Prop} (covers : Covers form Offends) :
    Covers (LastMapForm form) (MapOffends Offends) := by
  intro node spellable fine
  cases node with
  | object entries ending =>
    obtain ⟨rfl, written⟩ := spellable.of_object
    have each : ∀ entry ∈ entries, ∃ pair, EntryForm form pair entry := by
      intro entry listed
      obtain ⟨key, node, rfl, spellable⟩ := written entry listed
      obtain ⟨name, named⟩ := exists_textForm fun offends => fine (.key listed offends)
      obtain ⟨value, valued⟩ := covers node spellable fun offends => fine (.value listed offends)
      exact ⟨(name, value), node, valued, by rw [named]⟩
    obtain ⟨pairs, forms⟩ := exists_forall₂ each
    exact ⟨_, pairs, entries, forms.flip, fun _ _ => getElem?_insertMany_empty_iff, rfl⟩
  | null | flag | number | text | list | broken => exact absurd (.kind nofun) fine

/-! ### Records -/

/-- The values that a field may have, as the fields that it may be written as: one for every tree that does not
offend, and one that may be left out if the field is not required. -/
structure Choice (rule : FieldRule) (candidate : FieldForm → Prop) : Prop where
  name : ∀ form, candidate form → form.name = rule.name
  covers : Covers (fun form node => candidate form ∧ form.Form node) rule.Offends
  optional : rule.required = false → ∃ form, candidate form ∧ form.MayOmit

section Choices

variable {β : Type} {name : String} {form : β → Node → Prop} {Offends : Node → Prop}

/-- A field that is required may be written as any of its values. -/
theorem choice_required (covers : Covers form Offends) :
    Choice ⟨name, true, Offends⟩ fun chosen => ∃ value, chosen = ⟨name, form value, False⟩ where
  name := by
    rintro _ ⟨value, rfl⟩
    rfl
  covers := fun node spellable fine => by
    obtain ⟨value, formed⟩ := covers node spellable fine
    exact ⟨_, ⟨value, rfl⟩, formed⟩
  optional := nofun

/-- A field with a default may be written as any of its values, or left out. -/
theorem choice_default {default : β} (covers : Covers form Offends) :
    Choice ⟨name, false, Offends⟩ fun chosen => ∃ value, chosen = ⟨name, form value, value = default⟩ where
  name := by
    rintro _ ⟨value, rfl⟩
    rfl
  covers := fun node spellable fine => by
    obtain ⟨value, formed⟩ := covers node spellable fine
    exact ⟨_, ⟨value, rfl⟩, formed⟩
  optional := fun _ => ⟨_, ⟨default, rfl⟩, rfl⟩

end Choices

section Records

variable {rules : List FieldRule} {candidates : List (FieldForm → Prop)}

/-- No key that a rule is about comes up twice. -/
def Once (rules : List FieldRule) (pairs : List (String × Node)) : Prop :=
  ∀ rule ∈ rules, ∀ before second after, pairs = before ++ second :: after → second.1 = rule.name →
    ∀ first ∈ before, first.1 ≠ rule.name

theorem Once.of_cons {first : String × Node} {pairs : List (String × Node)} (once : Once rules (first :: pairs)) :
    Once rules pairs := fun rule listed before second after divided named other earlier =>
  once rule listed (first :: before) second after (congrArg (first :: ·) divided) named other
    (List.mem_cons_of_mem _ earlier)

theorem Once.not_mem {first : String × Node} {pairs : List (String × Node)} (once : Once rules (first :: pairs))
    (known : first.1 ∈ rules.map FieldRule.name) : first.1 ∉ pairs.map Prod.fst := by
  intro again
  obtain ⟨second, listed, same⟩ := List.mem_map.mp again
  obtain ⟨before, after, divided⟩ := List.append_of_mem listed
  obtain ⟨rule, ruleListed, named⟩ := List.mem_map.mp known
  exact once rule ruleListed (first :: before) second after (congrArg (first :: ·) divided)
    (same.trans named.symm) first List.mem_cons_self named.symm

/-- A key that comes up once has one value. -/
theorem Once.eq {pairs : List (String × Node)} (once : Once rules pairs) {name : String}
    (known : name ∈ rules.map FieldRule.name) {value other : Node} (listed : (name, value) ∈ pairs)
    (otherListed : (name, other) ∈ pairs) : value = other := by
  induction pairs with
  | nil => cases listed
  | cons first pairs rest =>
    rcases List.mem_cons.mp listed with here | later <;> rcases List.mem_cons.mp otherListed with same | otherLater
    · exact (Prod.mk.inj (here.trans same.symm)).2
    · subst here
      exact absurd (List.mem_map_of_mem otherLater) (once.not_mem known)
    · subst same
      exact absurd (List.mem_map_of_mem later) (once.not_mem known)
    · exact rest once.of_cons later otherLater

theorem Once.nodup_knownKeys {forms : List FieldForm} {pairs : List (String × Node)} (once : Once rules pairs)
    (names : forms.map FieldForm.name = rules.map FieldRule.name) : (knownKeys forms pairs).Nodup := by
  induction pairs with
  | nil => exact List.nodup_nil
  | cons first pairs rest =>
    by_cases known : first.1 ∈ forms.map FieldForm.name
    · have keys : knownKeys forms (first :: pairs) = first.1 :: knownKeys forms pairs :=
        List.filter_cons_of_pos (decide_eq_true known)
      rw [keys, List.nodup_cons]
      exact ⟨fun again => once.not_mem (names ▸ known) (List.mem_filter.mp again).1, rest once.of_cons⟩
    · have keys : knownKeys forms (first :: pairs) = knownKeys forms pairs :=
        List.filter_cons_of_neg (by rwa [decide_eq_true_eq])
      rw [keys]
      exact rest once.of_cons

/-- Fields that can each be chosen with some property are chosen together. -/
theorem exists_forms {property : FieldRule → FieldForm → Prop}
    (choices : List.Forall₂ Choice rules candidates)
    (each : ∀ rule ∈ rules, ∀ candidate, Choice rule candidate → ∃ form, candidate form ∧ property rule form) :
    ∃ forms, List.Forall₂ (fun candidate form => candidate form) candidates forms ∧
      List.Forall₂ property rules forms := by
  induction choices with
  | nil => exact ⟨[], .nil, .nil⟩
  | @cons rule candidate rules candidates choice _ rest =>
    obtain ⟨here, later⟩ := List.forall_mem_cons.mp each
    obtain ⟨form, chosen, fits⟩ := here candidate choice
    obtain ⟨forms, allChosen, allFit⟩ := rest later
    exact ⟨form :: forms, .cons chosen allChosen, .cons fits allFit⟩

/-- An object that does not offend is a tree of a record. -/
theorem exists_recordForm_object (choices : List.Forall₂ Choice rules candidates)
    {pairs : List (String × Node)} (spellable : ∀ pair ∈ pairs, Spellable pair.2)
    (fine : ¬ RecordOffends rules (.object (pairs.map fun pair => .mk (.text (some pair.1)) pair.2) none)) :
    ∃ forms, List.Forall₂ (fun candidate form => candidate form) candidates forms ∧
      RecordForm forms (.object (pairs.map fun pair => .mk (.text (some pair.1)) pair.2) none) := by
  have once : Once rules pairs := by
    rintro rule listed before second after rfl named first earlier same
    refine fine ?_
    rw [List.map_append, List.map_cons]
    exact .repeated listed (List.mem_map_of_mem earlier) ⟨first.2, same ▸ rfl⟩ ⟨second.2, named ▸ rfl⟩
  have each : ∀ rule ∈ rules, ∀ candidate, Choice rule candidate → ∃ form, candidate form ∧
      form.name = rule.name ∧ (∀ value, (rule.name, value) ∈ pairs → form.Form value) ∧
      (rule.name ∉ pairs.map Prod.fst → form.MayOmit) := by
    intro rule listed candidate choice
    by_cases given : rule.name ∈ pairs.map Prod.fst
    · obtain ⟨⟨name, value⟩, found, rfl⟩ := List.mem_map.mp given
      have written := List.mem_map_of_mem (f := fun pair => Entry.mk (.text (some pair.1)) pair.2) found
      obtain ⟨form, chosen, formed⟩ := choice.covers value (spellable _ found) fun offends =>
        fine (.value listed written offends)
      refine ⟨form, chosen, choice.name form chosen, fun other otherFound => ?_, fun missed => absurd given missed⟩
      exact once.eq (List.mem_map_of_mem listed) found otherFound ▸ formed
    · have optional : rule.required = false := Bool.eq_false_iff.mpr fun required => by
        refine fine (.missing listed required fun entry found => ?_)
        rintro ⟨value, rfl⟩
        obtain ⟨pair, pairListed, same⟩ := List.mem_map.mp found
        injection same with key
        exact given (Option.some.inj (Node.text.inj key) ▸ List.mem_map_of_mem pairListed)
      obtain ⟨form, chosen, omitted⟩ := choice.optional optional
      exact ⟨form, chosen, choice.name form chosen,
        fun value found => absurd (List.mem_map_of_mem found) given, fun _ => omitted⟩
  obtain ⟨forms, chosen, fits⟩ := exists_forms choices each
  have names : forms.map FieldForm.name = rules.map FieldRule.name :=
    (map_eq_of_forall₂ (fits.imp fun _ _ fits => fits.1.symm)).symm
  refine ⟨forms, chosen, .object (once.nodup_knownKeys names) (fun form listed value found => ?_)
    (fun form listed missed => ?_) (fun key value found _ => spellable _ found)⟩
  · obtain ⟨rule, -, same, formed, -⟩ := exists_mem_of_forall₂ fits.flip listed
    exact formed value (same ▸ found)
  · obtain ⟨rule, -, same, -, omitted⟩ := exists_mem_of_forall₂ fits.flip listed
    exact omitted (same ▸ missed)

/-- Items that do not offend are the fields of a record. -/
theorem exists_itemsForm (choices : List.Forall₂ Choice rules candidates) {items : List Node}
    (spellable : ∀ item ∈ items, Spellable item) (few : items.length ≤ rules.length)
    (enough : ∀ (index : Nat) (rule : FieldRule), rules[index]? = some rule → rule.required = true →
      index < items.length)
    (fit : ∀ (index : Nat) (rule : FieldRule) (item : Node), rules[index]? = some rule →
      items[index]? = some item → ¬ rule.Offends item) :
    ∃ forms, List.Forall₂ (fun candidate form => candidate form) candidates forms ∧ ItemsForm forms items := by
  induction choices generalizing items with
  | nil =>
    obtain rfl := List.length_eq_zero_iff.mp (Nat.le_zero.mp few)
    exact ⟨[], .nil, .dropped nofun⟩
  | @cons rule candidate rules candidates choice choices rest =>
    cases items with
    | nil =>
      -- No item is left, so that every field from here on keeps its default.
      have each : ∀ other ∈ rule :: rules, ∀ candidate, Choice other candidate →
          ∃ form, candidate form ∧ form.MayOmit := by
        intro other listed candidate choice
        obtain ⟨index, found⟩ := List.mem_iff_getElem?.mp listed
        refine choice.optional (Bool.eq_false_iff.mpr fun required => ?_)
        exact absurd (enough index other found required) (Nat.not_lt_zero _)
      obtain ⟨forms, chosen, omitted⟩ := exists_forms (.cons choice choices) each
      refine ⟨forms, chosen, .dropped fun form listed => ?_⟩
      obtain ⟨_, -, may⟩ := exists_mem_of_forall₂ omitted.flip listed
      exact may
    | cons item items =>
      obtain ⟨here, later⟩ := List.forall_mem_cons.mp spellable
      obtain ⟨form, chosen, formed⟩ := choice.covers item here (fit 0 rule item rfl rfl)
      obtain ⟨forms, allChosen, written⟩ := rest later (Nat.le_of_succ_le_succ few)
        (fun index other found required => Nat.lt_of_succ_lt_succ (enough (index + 1) other found required))
        fun index other part found place => fit (index + 1) other part found place
      exact ⟨form :: forms, .cons chosen allChosen, .item formed written⟩

/-- **A written tree that does not offend as a record is a tree of some record.** -/
theorem exists_recordForm (choices : List.Forall₂ Choice rules candidates) {node : Node}
    (spellable : Spellable node) (fine : ¬ RecordOffends rules node) :
    ∃ forms, List.Forall₂ (fun candidate form => candidate form) candidates forms ∧ RecordForm forms node := by
  cases node with
  | object entries ending =>
    obtain ⟨rfl, written⟩ := spellable.of_object
    obtain ⟨pairs, rfl, all⟩ := exists_pairs written fun key value listed offends => fine (.key listed offends)
    exact exists_recordForm_object choices all fine
  | list items ending =>
    obtain ⟨rfl, written⟩ := spellable.of_list
    obtain ⟨forms, chosen, formed⟩ := exists_itemsForm choices written
      (Nat.le_of_not_lt fun many => fine (.surplus many))
      (fun index rule found required => Nat.lt_of_not_le fun ended => fine (.short found required ended))
      fun index rule item found place offends => fine (.item found place offends)
    exact ⟨forms, chosen, .list formed⟩
  | null | flag | number | text | broken => exact absurd (.kind nofun nofun) fine

end Records

end NameDomains.Json
