/-
**What a tree may not hold where it is decoded.**

A tree offends where it holds no value of the shape that is expected there: another kind of value, a text that
no characters make, a record that gives a known field twice or lacks one that it needs, a list with too few or
too many items for the record that it stands for, and whatever holds such a thing in a place that is decoded.
What stands under a key that no record knows is not decoded, and a map may give a key more than once.

* `TextOffends`, `OptionalTextOffends`, `ListOffends`, `MapOffends`, `RecordOffends` — offences by shape.
* `Refuses`, `refuses_list`, `refuses_map`, `refuses_record` — what offends is not decoded.
* `Obeys`, `Obeys.of_store` — what a field decodes and stores keeps to its rule.
-/

import Mathlib.Data.List.Nodup
import NameDomains.Proofs.Json.Form
import NameDomains.Proofs.Outcome

namespace NameDomains.Json

open Entries (exists_mem_of_forall₂ map_eq_of_forall₂)

variable {α : Type}

/-! ### Offences -/

/-- Not a text. One with a surrogate that stands alone is none. -/
def TextOffends (node : Node) : Prop := ∀ value, node ≠ .text (some value)

/-- Neither a text nor null. -/
def OptionalTextOffends (node : Node) : Prop := node ≠ .null ∧ TextOffends node

/-- Not a list, or one with an item that offends. -/
inductive ListOffends (Offends : Node → Prop) : Node → Prop
  | kind {node : Node} : (∀ items ending, node ≠ .list items ending) → ListOffends Offends node
  | item {items : List Node} {ending : Option Fault} {item : Node} :
      item ∈ items → Offends item → ListOffends Offends (.list items ending)

/-- Not an object, or one with a key that is no text or a value that offends. -/
inductive MapOffends (Offends : Node → Prop) : Node → Prop
  | kind {node : Node} : (∀ entries ending, node ≠ .object entries ending) → MapOffends Offends node
  | key {entries : List Entry} {ending : Option Fault} {key value : Node} :
      .mk key value ∈ entries → TextOffends key → MapOffends Offends (.object entries ending)
  | value {entries : List Entry} {ending : Option Fault} {key value : Node} :
      .mk key value ∈ entries → Offends value → MapOffends Offends (.object entries ending)

/-- What is asked of a field of a record. -/
structure FieldRule where
  name : String
  required : Bool
  Offends : Node → Prop

/-- An entry with a given key. -/
def Named (name : String) (entry : Entry) : Prop := ∃ value, entry = .mk (.text (some name)) value

/-- How a record with the given fields offends. -/
inductive RecordOffends (rules : List FieldRule) : Node → Prop
  /-- Neither an object nor a list. -/
  | kind {node : Node} :
      (∀ entries ending, node ≠ .object entries ending) → (∀ items ending, node ≠ .list items ending) →
      RecordOffends rules node
  /-- A key is no text. -/
  | key {entries : List Entry} {ending : Option Fault} {key value : Node} :
      .mk key value ∈ entries → TextOffends key → RecordOffends rules (.object entries ending)
  /-- A field is given a second time. -/
  | repeated {before after : List Entry} {first second : Entry} {ending : Option Fault} {rule : FieldRule} :
      rule ∈ rules → first ∈ before → Named rule.name first → Named rule.name second →
      RecordOffends rules (.object (before ++ second :: after) ending)
  /-- A field that is required is not given. -/
  | missing {entries : List Entry} {ending : Option Fault} {rule : FieldRule} :
      rule ∈ rules → rule.required = true → (∀ entry ∈ entries, ¬ Named rule.name entry) →
      RecordOffends rules (.object entries ending)
  /-- The value of a field offends. -/
  | value {entries : List Entry} {ending : Option Fault} {rule : FieldRule} {value : Node} :
      rule ∈ rules → .mk (.text (some rule.name)) value ∈ entries → rule.Offends value →
      RecordOffends rules (.object entries ending)
  /-- The list ends before a field that is required. -/
  | short {items : List Node} {ending : Option Fault} {index : Nat} {rule : FieldRule} :
      rules[index]? = some rule → rule.required = true → items.length ≤ index →
      RecordOffends rules (.list items ending)
  /-- The item of a field offends. -/
  | item {items : List Node} {ending : Option Fault} {index : Nat} {rule : FieldRule} {item : Node} :
      rules[index]? = some rule → items[index]? = some item → rule.Offends item →
      RecordOffends rules (.list items ending)
  /-- The list has more items than the record has fields. -/
  | surplus {items : List Node} {ending : Option Fault} :
      rules.length < items.length → RecordOffends rules (.list items ending)

/-! ### What offends is not decoded -/

/-- Nothing that offends is decoded. -/
def Refuses (decode : Node → Decoded α) (Offends : Node → Prop) : Prop :=
  ∀ node value, decode node = .ok value → ¬ Offends node

/-- What is made of a decoded value in the end does not matter. -/
theorem Refuses.map {β : Type} {decode : Node → Decoded α} {Offends : Node → Prop}
    (refuses : Refuses decode Offends) (finish : α → β) :
    Refuses (fun node => decode node >>= fun value => return finish value) Offends := by
  intro node last decoded
  obtain ⟨value, read, -⟩ := Outcome.bind_eq_ok_iff.mp decoded
  exact refuses node value read

theorem decodeText_eq_ok_iff {node : Node} {value : String} :
    decodeText node = .ok value ↔ node = .text (some value) := by
  unfold decodeText
  split
  · simp
  · next other => exact ⟨nofun, fun same => absurd same (other value)⟩

theorem refuses_text : Refuses decodeText TextOffends :=
  fun _ value decoded offends => offends value (decodeText_eq_ok_iff.mp decoded)

theorem refuses_optionalText : Refuses decodeOptionalText OptionalTextOffends := by
  intro node value decoded offends
  unfold decodeOptionalText at decoded
  split at decoded
  · exact offends.1 rfl
  · obtain ⟨found, text, -⟩ := Outcome.map_eq_ok_iff.mp decoded
    exact offends.2 found (decodeText_eq_ok_iff.mp text)

theorem refuses_list {decode : Node → Decoded α} {Offends : Node → Prop} (refuses : Refuses decode Offends) :
    Refuses (decodeList decode) (ListOffends Offends) := by
  intro node values decoded offends
  unfold decodeList at decoded
  split at decoded
  · next items ending =>
    obtain ⟨found, each, -⟩ := Outcome.bind_eq_ok_iff.mp decoded
    cases offends with
    | kind other => exact other items ending rfl
    | item listed offends =>
      obtain ⟨value, -, here⟩ := exists_mem_of_forall₂ (Outcome.forall₂_of_mapM each) listed
      exact refuses _ value here offends
  · cases decoded

theorem refuses_map {decode : Node → Decoded α} {Offends : Node → Prop} (refuses : Refuses decode Offends) :
    Refuses (decodeMap decode) (MapOffends Offends) := by
  intro node map decoded offends
  unfold decodeMap at decoded
  split at decoded
  · next entries ending =>
    obtain ⟨last, each, -⟩ := Outcome.bind_eq_ok_iff.mp decoded
    have read : ∀ key value, .mk key value ∈ entries →
        (∃ name, decodeText key = .ok name) ∧ ∃ found, decode value = .ok found := by
      intro key value listed
      obtain ⟨state, next, here⟩ := Outcome.exists_ok_of_foldlM each listed
      obtain ⟨name, named, here⟩ := Outcome.bind_eq_ok_iff.mp here
      obtain ⟨found, valued, -⟩ := Outcome.bind_eq_ok_iff.mp here
      exact ⟨⟨name, named⟩, found, valued⟩
    cases offends with
    | kind other => exact other entries ending rfl
    | key listed offends =>
      obtain ⟨⟨name, named⟩, -⟩ := read _ _ listed
      exact refuses_text _ name named offends
    | value listed offends =>
      obtain ⟨-, found, valued⟩ := read _ _ listed
      exact refuses _ found valued offends
  · cases decoded

/-- A field obeys its rule: it refuses what offends, and once it is read it is given, and no other field is. -/
structure Obeys {Draft : Type} (record : Record Draft) (field : Field Draft) (rule : FieldRule) : Prop where
  name : field.name = rule.name
  required : field.required = rule.required
  refuses : ∀ draft, Refuses (field.decode draft) rule.Offends
  marks : ∀ draft item next, field.decode draft item = .ok next → ∀ other ∈ record.fields,
    other.isGiven next = (other.isGiven draft || decide (other.name = field.name))

/-- A field that is stored in a place of its own obeys its rule. -/
theorem Obeys.of_store {Draft β : Type} {record : Record Draft} {field : Field Draft} {rule : FieldRule}
    {decode : Node → Decoded β} (store : Draft → β → Draft) (name : field.name = rule.name)
    (required : field.required = rule.required)
    (reads : field.decode = fun draft node => decode node >>= fun value => return store draft value)
    (refuses : Refuses decode rule.Offends)
    (marks : ∀ draft value, ∀ other ∈ record.fields,
      other.isGiven (store draft value) = (other.isGiven draft || decide (other.name = field.name))) :
    Obeys record field rule := by
  refine ⟨name, required, fun draft node next decoded => ?_, fun draft node next decoded => ?_⟩
  · rw [reads] at decoded
    obtain ⟨value, read, -⟩ := Outcome.bind_eq_ok_iff.mp decoded
    exact refuses node value read
  · rw [reads] at decoded
    obtain ⟨value, -, same⟩ := Outcome.bind_eq_ok_iff.mp decoded
    obtain rfl := Except.ok.inj same
    exact marks draft value

section Records

variable {Draft : Type} {record : Record Draft} {rules : List FieldRule}

/-- What an entry that is read tells: its key is a text, and a field of that name was not given yet, is given
now and has a value that does not offend. -/
theorem addEntry_eq_ok (obeys : List.Forall₂ (Obeys record) record.fields rules)
    (distinct : (rules.map FieldRule.name).Nodup) {draft next : Draft} {key value : Node}
    (read : record.addEntry draft (.mk key value) = .ok next) :
    ∃ name, key = .text (some name) ∧
      (∀ field ∈ record.fields, field.name = name → field.isGiven draft = false) ∧
      (∀ rule ∈ rules, rule.name = name → ¬ rule.Offends value) ∧
      ∀ field ∈ record.fields, field.isGiven next = (field.isGiven draft || decide (field.name = name)) := by
  obtain ⟨name, named, found⟩ := Outcome.bind_eq_ok_iff.mp read
  obtain rfl := decodeText_eq_ok_iff.mp named
  refine ⟨name, rfl, ?_⟩
  have names : record.fields.map Field.name = rules.map FieldRule.name :=
    map_eq_of_forall₂ (obeys.imp fun _ _ obeys => obeys.name)
  have fieldsDistinct : (record.fields.map Field.name).Nodup := names ▸ distinct
  rw [addEntry_text] at read
  cases first : record.fields.find? fun field => field.name = name with
  | none =>
    have unknown : ∀ field ∈ record.fields, field.name ≠ name := fun field listed same =>
      List.find?_eq_none.mp first field listed (decide_eq_true same)
    rw [first] at read
    obtain ⟨-, -, same⟩ := Outcome.bind_eq_ok_iff.mp read
    obtain rfl := Except.ok.inj same
    refine ⟨fun field listed same => absurd same (unknown field listed), fun rule listed same => ?_,
      fun field listed => ?_⟩
    · obtain ⟨field, fieldListed, obeys⟩ := exists_mem_of_forall₂ obeys.flip listed
      exact absurd (obeys.name.trans same) (unknown field fieldListed)
    · rw [decide_eq_false (unknown field listed), Bool.or_false]
  | some field =>
    have listed := List.mem_of_find?_eq_some first
    have same : field.name = name := by simpa only [decide_eq_true_eq] using List.find?_some first
    have only : ∀ other ∈ record.fields, other.name = name → other = field := fun other otherListed named =>
      List.inj_on_of_nodup_map fieldsDistinct otherListed listed (named.trans same.symm)
    rw [first] at read
    dsimp only at read
    split at read
    · cases read
    · next fresh =>
      refine ⟨fun other otherListed named => ?_, fun rule ruleListed named => ?_, fun other otherListed => ?_⟩
      · rw [only other otherListed named]
        exact Bool.eq_false_iff.mpr fresh
      · obtain ⟨other, otherListed, obeys⟩ := exists_mem_of_forall₂ obeys.flip ruleListed
        obtain rfl := only other otherListed (obeys.name.trans named)
        exact obeys.refuses draft value next read
      · obtain ⟨rule, -, obeys⟩ := exists_mem_of_forall₂ obeys listed
        rw [obeys.marks draft value next read other otherListed, same]

/-- After entries that are read, the fields are given that were given before or have an entry. -/
theorem isGiven_of_foldlM (obeys : List.Forall₂ (Obeys record) record.fields rules)
    (distinct : (rules.map FieldRule.name).Nodup) {entries : List Entry} {draft last : Draft}
    (read : entries.foldlM record.addEntry draft = .ok last) {field : Field Draft}
    (listed : field ∈ record.fields) :
    field.isGiven last = true ↔ field.isGiven draft = true ∨ ∃ entry ∈ entries, Named field.name entry := by
  induction entries generalizing draft with
  | nil =>
    obtain rfl := Except.ok.inj read
    simp
  | cons entry entries rest =>
    rw [List.foldlM_cons] at read
    obtain ⟨next, first, later⟩ := Outcome.bind_eq_ok_iff.mp read
    obtain ⟨key, value⟩ := entry
    obtain ⟨name, rfl, -, -, given⟩ := addEntry_eq_ok obeys distinct first
    have named : Named field.name (.mk (.text (some name)) value) ↔ field.name = name := by
      simp [Named, eq_comm]
    rw [rest later, given field listed, Bool.or_eq_true, decide_eq_true_eq, List.exists_mem_cons_iff, named,
      or_assoc]

/-- What items that are read tell: none is left over or offends, and no field that is required lacks one. -/
theorem addItems_eq_ok {fields : List (Field Draft)} (obeys : List.Forall₂ (Obeys record) fields rules)
    {ending : Option Fault} {items : List Node} {draft last : Draft}
    (read : record.addItems ending draft fields items = .ok last) :
    items.length ≤ rules.length ∧
      (∀ (index : Nat) (rule : FieldRule), rules[index]? = some rule → rule.required = true →
        index < items.length) ∧
      ∀ (index : Nat) (rule : FieldRule) (item : Node), rules[index]? = some rule → items[index]? = some item →
        ¬ rule.Offends item := by
  induction obeys generalizing items draft with
  | nil =>
    cases items with
    | nil => exact ⟨Nat.le_refl _, by simp, by simp⟩
    | cons => cases read
  | @cons field rule fields rules obeys _ rest =>
    cases items with
    | nil =>
      rw [Record.addItems] at read
      obtain ⟨-, -, read⟩ := Outcome.bind_eq_ok_iff.mp read
      split at read
      · cases read
      · next optional =>
        obtain ⟨-, enough, -⟩ := rest read
        refine ⟨Nat.zero_le _, fun index other found needed => ?_, by simp⟩
        cases index with
        | zero =>
          obtain rfl := Option.some.inj found
          exact absurd (obeys.required.trans needed) optional
        | succ index => exact absurd (enough index other found needed) (Nat.not_lt_zero _)
    | cons item items =>
      rw [Record.addItems] at read
      obtain ⟨next, first, later⟩ := Outcome.bind_eq_ok_iff.mp read
      obtain ⟨few, enough, fit⟩ := rest later
      refine ⟨Nat.succ_le_succ few, fun index other found needed => ?_, fun index other part found place => ?_⟩
      · cases index with
        | zero => exact Nat.succ_pos _
        | succ index => exact Nat.succ_lt_succ (enough index other found needed)
      · cases index with
        | zero =>
          obtain rfl := Option.some.inj found
          obtain rfl := Option.some.inj place
          exact obeys.refuses draft item next first
        | succ index => exact fit index other part found place

/-- **No record that offends is decoded.** -/
theorem refuses_record (obeys : List.Forall₂ (Obeys record) record.fields rules)
    (distinct : (rules.map FieldRule.name).Nodup)
    (blank : ∀ field ∈ record.fields, field.isGiven record.blank = false) :
    Refuses (decodeRecord record) (RecordOffends rules) := by
  intro node last decoded offends
  unfold decodeRecord at decoded
  split at decoded
  · next entries ending =>
    obtain ⟨draft, read, decoded⟩ := Outcome.bind_eq_ok_iff.mp decoded
    have each : ∀ key value, .mk key value ∈ entries →
        ∃ name, key = .text (some name) ∧ ∀ rule ∈ rules, rule.name = name → ¬ rule.Offends value := by
      intro key value listed
      obtain ⟨state, next, here⟩ := Outcome.exists_ok_of_foldlM read listed
      obtain ⟨name, named, -, fits, -⟩ := addEntry_eq_ok obeys distinct here
      exact ⟨name, named, fits⟩
    cases offends with
    | kind other => exact other entries ending rfl
    | key listed offends =>
      obtain ⟨name, named, -⟩ := each _ _ listed
      exact offends name named
    | @value _ _ rule value listed found offends =>
      obtain ⟨name, named, fits⟩ := each _ _ found
      obtain rfl : rule.name = name := Option.some.inj (Node.text.inj named)
      exact fits rule listed rfl offends
    | @repeated before after first second _ rule listed earlier named again =>
      obtain ⟨field, fieldListed, same⟩ := exists_mem_of_forall₂ obeys.flip listed
      rw [List.foldlM_append] at read
      obtain ⟨middle, front, rest⟩ := Outcome.bind_eq_ok_iff.mp read
      have given : field.isGiven middle = true :=
        (isGiven_of_foldlM obeys distinct front fieldListed).mpr (.inr ⟨first, earlier, same.name ▸ named⟩)
      obtain ⟨value, rfl⟩ := again
      rw [List.foldlM_cons] at rest
      obtain ⟨next, here, -⟩ := Outcome.bind_eq_ok_iff.mp rest
      obtain ⟨name, named, fresh, -⟩ := addEntry_eq_ok obeys distinct here
      obtain rfl : rule.name = name := Option.some.inj (Node.text.inj named)
      rw [fresh field fieldListed same.name] at given
      cases given
    | @missing _ _ rule listed needed none =>
      obtain ⟨field, fieldListed, same⟩ := exists_mem_of_forall₂ obeys.flip listed
      obtain ⟨-, -, decoded⟩ := Outcome.bind_eq_ok_iff.mp decoded
      have lacks : field.isGiven draft = false := Bool.eq_false_iff.mpr fun given => by
        rcases (isGiven_of_foldlM obeys distinct read fieldListed).mp given with before | ⟨entry, found, named⟩
        · rw [blank field fieldListed] at before
          cases before
        · exact none entry found (same.name ▸ named)
      split at decoded
      · cases decoded
      · next complete =>
        refine List.find?_eq_none.mp complete field fieldListed ?_
        rw [same.required, needed, lacks]
        rfl
  · next items ending =>
    obtain ⟨few, enough, fit⟩ := addItems_eq_ok obeys decoded
    cases offends with
    | kind _ other => exact other items ending rfl
    | short found needed ended => exact absurd (enough _ _ found needed) (Nat.not_lt.mpr ended)
    | item found place offends => exact fit _ _ _ found place offends
    | surplus many => exact absurd few (Nat.not_le.mpr many)
  · cases decoded

end Records

end NameDomains.Json
