/-
**Trees that stand for values.**

One value may be written as many trees. The entries of a map stand in any order. A record is an object whose
known keys come up at most once, in any order and among whatever other keys, or the list of its fields, of
which the last ones may be dropped; a field may be left out if its value is the one that it has then anyway.
Decoding any of these trees gives the value.

* `TextForm`, `OptionalTextForm`, `ListForm`, `MapForm`, `RecordForm` — the trees of a value.
* `decodeList_of_form`, `decodeMap_of_form` — a list and a map are decoded.
* `FieldFits` — a field of a record takes the trees of its value.
* `decodeRecord_of_form` — a record is decoded.
-/

import Mathlib.Data.List.Forall2
import NameDomains.Json.Decode
import NameDomains.Proofs.Entries
import NameDomains.Proofs.Json.Spelling

namespace NameDomains.Json

open Entries (exists_mem_of_forall₂ map_eq_of_forall₂)

variable {α : Type}

/-! ### Texts and lists -/

/-- The tree of a text. -/
def TextForm (value : String) (node : Node) : Prop := node = .text (some value)

/-- The tree of a text, or of none. -/
def OptionalTextForm : Option String → Node → Prop
  | some value, node => TextForm value node
  | none, node => node = .null

/-- The trees of a list, given those of its items. -/
def ListForm (form : α → Node → Prop) (values : List α) (node : Node) : Prop :=
  ∃ items, List.Forall₂ form values items ∧ node = .list items none

theorem decodeText_of_form {value : String} {node : Node} (form : TextForm value node) :
    decodeText node = .ok value := by
  rw [form, decodeText]

theorem decodeOptionalText_of_form {value : Option String} {node : Node}
    (form : OptionalTextForm value node) : decodeOptionalText node = .ok value := by
  cases value with
  | none => rw [form, decodeOptionalText]
  | some value =>
    rw [form]
    rfl

theorem decodeList_of_form {form : α → Node → Prop} {decode : Node → Decoded α}
    (each : ∀ value node, form value node → decode node = .ok value) {values : List α} {node : Node}
    (written : ListForm form values node) : decodeList decode node = .ok values := by
  obtain ⟨items, forms, rfl⟩ := written
  have decoded : items.mapM decode = .ok values := by
    induction forms with
    | nil => rfl
    | cons here _ rest =>
      rw [List.mapM_cons, each _ _ here, rest]
      rfl
  rw [decodeList, decoded]
  rfl

/-! ### Maps -/

/-- The trees of an entry, given those of its value. -/
def EntryForm (form : α → Node → Prop) (pair : String × α) (entry : Entry) : Prop :=
  ∃ value, form pair.2 value ∧ entry = .mk (.text (some pair.1)) value

/-- The trees of a map, given those of its values. The entries may stand in any order. -/
def MapForm (form : α → Node → Prop) (map : Std.ExtTreeMap String α) (node : Node) : Prop :=
  ∃ order entries, List.Perm order map.toList ∧ List.Forall₂ (EntryForm form) order entries ∧
    node = .object entries none

/-- A map filled from its own entries, in whatever order, is the map. -/
theorem insertMany_of_perm {map : Std.ExtTreeMap String α} {order : List (String × α)}
    (same : order.Perm map.toList) : (∅ : Std.ExtTreeMap String α).insertMany order = map := by
  have listed : ∀ key value, (key, value) ∈ order ↔ map[key]? = some value := fun key value => by
    rw [same.mem_iff, Std.ExtTreeMap.mem_toList_iff_getElem?_eq_some]
  have consistent : Entries.Consistent order := fun key first second one other =>
    Option.some.inj (((listed key first).mp one).symm.trans ((listed key second).mp other))
  refine Std.ExtTreeMap.ext_getElem? fun key => Option.ext fun value => ?_
  rw [Entries.getElem?_insertMany_eq_some_iff consistent, listed]

/-- The entries of a map are added to it one after the other. -/
theorem foldlM_addEntry_of_forms {form : α → Node → Prop} {decode : Node → Decoded α}
    (each : ∀ value node, form value node → decode node = .ok value) {pairs : List (String × α)}
    {entries : List Entry} (forms : List.Forall₂ (EntryForm form) pairs entries)
    (start : Std.ExtTreeMap String α) :
    entries.foldlM (addEntry decode) start = .ok (start.insertMany pairs) := by
  induction forms generalizing start with
  | nil => exact congrArg Except.ok Std.ExtTreeMap.insertMany_nil.symm
  | @cons pair entry pairs entries here _ rest =>
    obtain ⟨value, form, rfl⟩ := here
    have added : addEntry decode start (.mk (.text (some pair.1)) value) =
        .ok (start.insert pair.1 pair.2) := by
      rw [addEntry, each _ _ form]
      rfl
    rw [List.foldlM_cons, added, Std.ExtTreeMap.insertMany_cons]
    exact rest _

theorem decodeMap_of_form {form : α → Node → Prop} {decode : Node → Decoded α}
    (each : ∀ value node, form value node → decode node = .ok value) {map : Std.ExtTreeMap String α}
    {node : Node} (written : MapForm form map node) : decodeMap decode node = .ok map := by
  obtain ⟨order, entries, same, forms, rfl⟩ := written
  rw [decodeMap, foldlM_addEntry_of_forms each forms, insertMany_of_perm same]
  rfl

/-! ### Records -/

/-- A field of a record as it is written: the trees of its value, and whether it may be left out. -/
structure FieldForm where
  name : String
  Form : Node → Prop
  MayOmit : Prop

/-- The items of a record that is written as a list; the last ones may be dropped. -/
inductive ItemsForm : List FieldForm → List Node → Prop
  | dropped {fields : List FieldForm} : (∀ field ∈ fields, field.MayOmit) → ItemsForm fields []
  | item {field : FieldForm} {fields : List FieldForm} {item : Node} {items : List Node} :
      field.Form item → ItemsForm fields items → ItemsForm (field :: fields) (item :: items)

/-- The keys that name fields. -/
def knownKeys (fields : List FieldForm) (entries : List (String × Node)) : List String :=
  (entries.map Prod.fst).filter (· ∈ fields.map FieldForm.name)

/-- The trees of a record with the given fields. -/
inductive RecordForm (fields : List FieldForm) : Node → Prop
  | object {entries : List (String × Node)} :
      (knownKeys fields entries).Nodup →
      (∀ field ∈ fields, ∀ value, (field.name, value) ∈ entries → field.Form value) →
      (∀ field ∈ fields, field.name ∉ entries.map Prod.fst → field.MayOmit) →
      (∀ key value, (key, value) ∈ entries → key ∉ fields.map FieldForm.name →
        ∃ chars, Spelled (.value value) chars) →
      RecordForm fields (.object (entries.map fun entry => .mk (.text (some entry.1)) entry.2) none)
  | list {items : List Node} : ItemsForm fields items → RecordForm fields (.list items none)

/-- A field takes the trees of its value. The draft is given for the names of the fields read so far. -/
structure FieldFits {Draft : Type} (draft : List String → Draft) (field : Field Draft) (form : FieldForm) :
    Prop where
  name : field.name = form.name
  isGiven : ∀ given, field.isGiven (draft given) = decide (form.name ∈ given)
  decode : ∀ given node, form.Form node →
    field.decode (draft given) node = .ok (draft (form.name :: given))
  required : form.MayOmit → field.required = false

variable {Draft : Type} {draft : List String → Draft} {record : Record Draft} {forms : List FieldForm}

theorem names_eq {fields : List (Field Draft)} (fits : List.Forall₂ (FieldFits draft) fields forms) :
    fields.map Field.name = forms.map FieldForm.name :=
  map_eq_of_forall₂ (fits.imp fun _ _ fits => fits.name)

theorem addEntry_text (record : Record Draft) (last : Draft) (key : String) (value : Node) :
    record.addEntry last (.mk (.text (some key)) value) =
      match record.fields.find? fun field => field.name = key with
      | some field =>
        if field.isGiven last then .error (.duplicateField key) else field.decode last value
      | none => failOn value.faultWhenSkipped >>= fun _ => .ok last := rfl

/-- A known key that was not given yet is read into the draft. -/
theorem addEntry_known (fits : List.Forall₂ (FieldFits draft) record.fields forms) {given : List String}
    {key : String} {value : Node} (listed : key ∈ forms.map FieldForm.name) (fresh : key ∉ given)
    (known : ∀ form ∈ forms, form.name = key → form.Form value) :
    record.addEntry (draft given) (.mk (.text (some key)) value) = .ok (draft (key :: given)) := by
  rw [← names_eq fits] at listed
  obtain ⟨first, member, same⟩ := List.mem_map.mp listed
  rw [addEntry_text]
  cases found : record.fields.find? fun field => field.name = key with
  | none => exact absurd (decide_eq_true same) (List.find?_eq_none.mp found first member)
  | some field =>
    obtain ⟨form, formListed, fieldFits⟩ := exists_mem_of_forall₂ fits (List.mem_of_find?_eq_some found)
    have named : field.name = key := by simpa only [decide_eq_true_eq] using List.find?_some found
    obtain rfl : form.name = key := fieldFits.name.symm.trans named
    have notGiven : ¬ field.isGiven (draft given) = true := by
      rw [fieldFits.isGiven, decide_eq_true_eq]
      exact fresh
    show (if field.isGiven (draft given) then _ else _) = _
    rw [if_neg notGiven, fieldFits.decode given value (known form formListed rfl)]

/-- An unknown key is passed over together with its value. -/
theorem addEntry_unknown (fits : List.Forall₂ (FieldFits draft) record.fields forms) (last : Draft)
    {key : String} (unknown : key ∉ forms.map FieldForm.name) {value : Node} {chars : List Char}
    (spelled : Spelled (.value value) chars) :
    record.addEntry last (.mk (.text (some key)) value) = .ok last := by
  have missed : (record.fields.find? fun field => field.name = key) = none := by
    refine List.find?_eq_none.mpr fun field listed same => unknown ?_
    rw [← names_eq fits, ← of_decide_eq_true same]
    exact List.mem_map_of_mem listed
  have free : value.faultWhenSkipped = none := spelled.faultWhenSkipped
  rw [addEntry_text, missed, free]
  rfl

/-- Entries of an object are read into a draft: the known ones, each once, and any others. -/
theorem foldlM_addEntry (fits : List.Forall₂ (FieldFits draft) record.fields forms)
    {entries : List (String × Node)} {given : List String}
    (once : (knownKeys forms entries).Nodup) (fresh : ∀ key ∈ knownKeys forms entries, key ∉ given)
    (known : ∀ form ∈ forms, ∀ value, (form.name, value) ∈ entries → form.Form value)
    (unknown : ∀ key value, (key, value) ∈ entries → key ∉ forms.map FieldForm.name →
      ∃ chars, Spelled (.value value) chars) :
    ∃ last, (entries.map fun entry => Entry.mk (.text (some entry.1)) entry.2).foldlM record.addEntry
        (draft given) = .ok (draft last) ∧
      ∀ name ∈ forms.map FieldForm.name, name ∈ given ∨ name ∈ entries.map Prod.fst → name ∈ last := by
  -- Each known key is given after its entry, so that the known keys of the rest are still fresh.
  induction entries generalizing given with
  | nil => exact ⟨given, rfl, fun name _ found => found.resolve_right List.not_mem_nil⟩
  | cons entry entries rest =>
    obtain ⟨key, value⟩ := entry
    have knownLater : ∀ form ∈ forms, ∀ value, (form.name, value) ∈ entries → form.Form value :=
      fun form listed value found => known form listed value (List.mem_cons_of_mem _ found)
    have unknownLater : ∀ key value, (key, value) ∈ entries → key ∉ forms.map FieldForm.name →
        ∃ chars, Spelled (.value value) chars :=
      fun key value found => unknown key value (List.mem_cons_of_mem _ found)
    rw [List.map_cons, List.foldlM_cons]
    by_cases listed : key ∈ forms.map FieldForm.name
    · have keys : knownKeys forms ((key, value) :: entries) = key :: knownKeys forms entries :=
        List.filter_cons_of_pos (decide_eq_true listed)
      rw [keys] at once fresh
      obtain ⟨new, onceLater⟩ := List.nodup_cons.mp once
      obtain ⟨keyFresh, freshLater⟩ := List.forall_mem_cons.mp fresh
      have added := addEntry_known fits listed keyFresh fun form formListed same =>
        known form formListed value (same ▸ List.mem_cons_self)
      have stillFresh : ∀ other ∈ knownKeys forms entries, other ∉ key :: given := by
        intro other found again
        rcases List.mem_cons.mp again with rfl | before
        · exact new found
        · exact freshLater other found before
      obtain ⟨last, read, complete⟩ := rest onceLater stillFresh knownLater unknownLater
      refine ⟨last, by rw [added]; exact read, fun name nameListed found => complete name nameListed ?_⟩
      rcases found with before | found
      · exact .inl (List.mem_cons_of_mem _ before)
      · rcases List.mem_cons.mp found with rfl | later
        · exact .inl List.mem_cons_self
        · exact .inr later
    · have keys : knownKeys forms ((key, value) :: entries) = knownKeys forms entries :=
        List.filter_cons_of_neg (by rwa [decide_eq_true_eq])
      rw [keys] at once fresh
      obtain ⟨chars, spelled⟩ := unknown key value List.mem_cons_self listed
      have passed := addEntry_unknown fits (draft given) listed spelled
      obtain ⟨last, read, complete⟩ := rest once fresh knownLater unknownLater
      refine ⟨last, by rw [passed]; exact read, fun name nameListed found => complete name nameListed ?_⟩
      refine found.imp_right fun found => (List.mem_cons.mp found).resolve_left ?_
      rintro rfl
      exact listed nameListed

theorem addItems_of_form {fields : List (Field Draft)} (fits : List.Forall₂ (FieldFits draft) fields forms)
    {items : List Node} (written : ItemsForm forms items) (given : List String) :
    ∃ last, record.addItems none (draft given) fields items = .ok (draft last) ∧
      (∀ name ∈ given, name ∈ last) ∧ ∀ form ∈ forms, form.name ∉ last → form.MayOmit := by
  induction written generalizing given fields with
  | @dropped forms mayOmit =>
    -- The items have ended; each field that is left keeps its default.
    refine ⟨given, ?_, fun name listed => listed, fun form listed _ => mayOmit form listed⟩
    induction fits with
    | nil => rfl
    | @cons field form fields forms here _ rest =>
      have optional : field.required = false := here.required (mayOmit form List.mem_cons_self)
      have later := rest fun form listed => mayOmit form (List.mem_cons_of_mem _ listed)
      rw [Record.addItems, optional]
      exact later
  | @item form forms item items here _ rest =>
    cases fits with
    | @cons field _ fields _ fieldFits laterFits =>
      obtain ⟨last, read, kept, complete⟩ := rest laterFits (form.name :: given)
      refine ⟨last, ?_, fun name listed => kept name (List.mem_cons_of_mem _ listed), ?_⟩
      · rw [Record.addItems, fieldFits.decode given item here]
        exact read
      · refine List.forall_mem_cons.mpr ⟨fun missed => ?_, complete⟩
        exact absurd (kept form.name List.mem_cons_self) missed

/-- **A record is decoded from each of its trees.** What the draft lacks in the end may be left out. -/
theorem decodeRecord_of_form (fits : List.Forall₂ (FieldFits draft) record.fields forms)
    (blank : record.blank = draft []) {node : Node} (written : RecordForm forms node) :
    ∃ given, decodeRecord record node = .ok (draft given) ∧
      ∀ form ∈ forms, form.name ∉ given → form.MayOmit := by
  cases written with
  | list items =>
    obtain ⟨given, read, -, complete⟩ := addItems_of_form fits items []
    exact ⟨given, by rw [decodeRecord, blank, read], complete⟩
  | @object entries once known mayOmit unknown =>
    obtain ⟨given, read, complete⟩ := foldlM_addEntry fits once (fun _ _ => List.not_mem_nil) known unknown
    have left : ∀ form ∈ forms, form.name ∉ given → form.MayOmit := fun form listed missed =>
      mayOmit form listed fun found => missed (complete form.name (List.mem_map_of_mem listed) (.inr found))
    have missing : record.missing? (draft given) = none := by
      refine List.find?_eq_none.mpr fun field listed lacks => ?_
      obtain ⟨form, formListed, fieldFits⟩ := exists_mem_of_forall₂ fits listed
      rw [fieldFits.isGiven, Bool.and_eq_true, Bool.not_eq_true', decide_eq_false_iff_not] at lacks
      rw [fieldFits.required (left form formListed lacks.2)] at lacks
      exact absurd lacks.1 Bool.false_ne_true
    refine ⟨given, ?_, left⟩
    rw [decodeRecord, Record.ofEntries, blank, read]
    show (match record.missing? (draft given) with
      | some field => Except.error (Problem.missingField field.name)
      | none => .ok (draft given)) = _
    rw [missing]

end NameDomains.Json
