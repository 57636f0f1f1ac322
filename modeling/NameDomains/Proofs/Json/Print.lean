/-
**What is written can be read.**

The writer picks one spelling of each value: texts with the shortest escapes, no blanks, the fields of a
record in order. So what it writes spells a tree of the value.

* `Written` — a text spells one of the trees of a value.
* `written_text`, `written_list`, `written_map`, `written_record` — the texts of the writer.
-/

import Mathlib.Data.List.Nodup
import NameDomains.Json.Print
import NameDomains.Proofs.Json.Form

namespace NameDomains.Json

open Entries (exists_mem_of_forall₂ map_eq_of_forall₂)

variable {α : Type}

/-! ### Quoted texts -/

theorem control_digits : ∀ number < 32,
    List.replicate (4 - (Nat.toDigits 16 number).length) '0' ++ Nat.toDigits 16 number =
        ['0', '0', Nat.digitChar (number / 16), Nat.digitChar (number % 16)] ∧
      ['0', '0', Nat.digitChar (number / 16), Nat.digitChar (number % 16)].all
        (fun digit => (Digits.digit? digit).isSome) = true ∧
      Digits.value 16 ['0', '0', Nat.digitChar (number / 16), Nat.digitChar (number % 16)] = number := by
  decide

theorem escape_spelled (c : Char) :
    ∃ unit : TextUnit, unit.Spelled (escape c) ∧ unit.codes = codesOf c := by
  have short : ∀ {letter : Char}, (letter, c) ∈ shortEscapes →
      ∃ unit : TextUnit, unit.Spelled ['\\', letter] ∧ unit.codes = codesOf c :=
    fun listed => ⟨.char c, .short listed, rfl⟩
  unfold escape
  iterate 7
    split
    · next same => exact short (by rw [same]; decide)
  split
  · next control =>
    -- A control has at most two digits, and two zeros stand before them.
    have small : c.toNat < 32 := control
    obtain ⟨written, digits, value⟩ := control_digits c.toNat small
    have codes : codesOf c = [c.toNat] := if_pos (by omega)
    have spelled := TextUnit.Spelled.code (List.all_eq_true.mp digits)
    rw [value] at spelled
    refine ⟨.code c.toNat, ?_, codes.symm⟩
    show TextUnit.Spelled _ (['\\', 'u'] ++ List.replicate (4 - (Nat.toDigits 16 c.toNat).length) '0' ++
      Nat.toDigits 16 c.toNat)
    rw [List.append_assoc, written]
    exact spelled
  · next mark backslash _ _ _ _ _ visible =>
    exact ⟨.char c, .plain (Char.not_lt.mp visible) mark backslash, rfl⟩

theorem quote_spelled (value : String) : TextSpelled (some value) (quote value).toList := by
  have spelled : ∀ chars : List Char,
      ∃ units, UnitsSpelled units (chars.flatMap escape) ∧ SameCodes units chars := by
    intro chars
    induction chars with
    | nil => exact ⟨[], .nil, rfl⟩
    | cons c chars rest =>
      obtain ⟨unit, piece, codes⟩ := escape_spelled c
      obtain ⟨units, pieces, same⟩ := rest
      refine ⟨unit :: units, .cons piece pieces, ?_⟩
      rw [SameCodes, List.flatMap_cons, List.flatMap_cons, codes, same]
  obtain ⟨units, pieces, same⟩ := spelled value.toList
  have text := TextSpelled.text pieces same
  rw [String.ofList_toList] at text
  rw [quote, String.toList_ofList]
  exact text

/-! ### Lists and objects -/

theorem padded_spelled {node : Node} {chars : List Char} (spelled : Spelled (.value node) chars) :
    Spelled (.padded node) chars := by
  have padded := @Spelled.padded node [] chars [] nofun spelled nofun
  rwa [List.nil_append, List.append_nil] at padded

theorem items_spelled {items : List Node} {texts : List String}
    (each : List.Forall₂ (fun item text => Spelled (.value item) text.toList) items texts)
    (some : items ≠ []) : Spelled (.items items) (",".intercalate texts).toList := by
  induction each with
  | nil => exact absurd rfl some
  | @cons item text items texts here later rest =>
    cases later with
    | nil =>
      rw [String.intercalate_singleton]
      exact .lastItem (padded_spelled here)
    | cons second later =>
      have others := rest (List.cons_ne_nil _ _)
      rw [String.intercalate_cons_cons, String.toList_append, String.toList_append, List.append_assoc]
      exact .item (padded_spelled here) others

theorem writeList_spelled {items : List Node} {texts : List String}
    (each : List.Forall₂ (fun item text => Spelled (.value item) text.toList) items texts) :
    Spelled (.value (.list items none)) (writeList texts).toList := by
  rw [writeList, String.toList_append, String.toList_append]
  cases items with
  | nil =>
    cases each
    exact .emptyList nofun
  | cons item items => exact .list (items_spelled each (List.cons_ne_nil _ _))

theorem writeEntry_spelled {key text : String} {value : Node} (spelled : Spelled (.value value) text.toList) :
    Spelled (.entry (.mk (.text (some key)) value)) (writeEntry (key, text)).toList := by
  have entry := @Spelled.entry _ value [] _ [] _ nofun (quote_spelled key) nofun (padded_spelled spelled)
  rw [List.nil_append, List.append_nil] at entry
  rw [writeEntry, String.toList_append, String.toList_append, List.append_assoc]
  exact entry

/-- An entry of an object spells a key and a value. -/
def EntrySpelled (entry : Entry) (text : String × String) : Prop :=
  ∃ value, entry = .mk (.text (some text.1)) value ∧ Spelled (.value value) text.2.toList

theorem entries_spelled {entries : List Entry} {texts : List (String × String)}
    (each : List.Forall₂ EntrySpelled entries texts) (some : entries ≠ []) :
    Spelled (.entries entries) (",".intercalate (texts.map writeEntry)).toList := by
  induction each with
  | nil => exact absurd rfl some
  | @cons entry text entries texts here later rest =>
    obtain ⟨value, rfl, spelled⟩ := here
    have entry := @writeEntry_spelled text.1 text.2 value spelled
    cases later with
    | nil =>
      rw [List.map_cons, List.map_nil, String.intercalate_singleton]
      exact .lastEntry entry
    | cons second later =>
      have others := rest (List.cons_ne_nil _ _)
      rw [List.map_cons] at others ⊢
      rw [List.map_cons, String.intercalate_cons_cons, String.toList_append, String.toList_append,
        List.append_assoc]
      exact .entries entry others

theorem writeObject_spelled {entries : List Entry} {texts : List (String × String)}
    (each : List.Forall₂ EntrySpelled entries texts) :
    Spelled (.value (.object entries none)) (writeObject texts).toList := by
  rw [writeObject, String.toList_append, String.toList_append]
  cases entries with
  | nil =>
    cases each
    exact .emptyObject nofun
  | cons entry entries => exact .object (entries_spelled each (List.cons_ne_nil _ _))

/-! ### Values -/

/-- A text spells one of the trees of a value. -/
def Written (form : Node → Prop) (text : String) : Prop :=
  ∃ node, form node ∧ Spelled (.value node) text.toList

theorem written_text (value : String) : Written (TextForm value) (quote value) :=
  ⟨.text (some value), rfl, .text (quote_spelled value)⟩

theorem written_optionalText (value : Option String) :
    Written (OptionalTextForm value) (quoteOptional value) := by
  cases value with
  | none => exact ⟨.null, rfl, .null⟩
  | some value => exact written_text value

theorem written_list {form : α → Node → Prop} {encode : α → String} {values : List α}
    (each : ∀ value ∈ values, Written (form value) (encode value)) :
    Written (ListForm form values) (writeList (values.map encode)) := by
  have items : ∃ items, List.Forall₂ form values items ∧
      List.Forall₂ (fun item text => Spelled (.value item) text.toList) items (values.map encode) := by
    induction values with
    | nil => exact ⟨[], .nil, .nil⟩
    | cons value values rest =>
      obtain ⟨here, later⟩ := List.forall_mem_cons.mp each
      obtain ⟨node, formed, spelled⟩ := here
      obtain ⟨items, forms, texts⟩ := rest later
      exact ⟨node :: items, .cons formed forms, .cons spelled texts⟩
  obtain ⟨items, forms, texts⟩ := items
  exact ⟨.list items none, ⟨items, forms, rfl⟩, writeList_spelled texts⟩

theorem written_map {form : α → Node → Prop} {encode : α → String} {map : Std.ExtTreeMap String α}
    (each : ∀ value, Written (form value) (encode value)) :
    Written (MapForm form map) (writeMap encode map) := by
  have entries : ∀ pairs : List (String × α), ∃ entries, List.Forall₂ (EntryForm form) pairs entries ∧
      List.Forall₂ EntrySpelled entries (pairs.map fun entry => (entry.1, encode entry.2)) := by
    intro pairs
    induction pairs with
    | nil => exact ⟨[], .nil, .nil⟩
    | cons pair pairs rest =>
      obtain ⟨node, formed, spelled⟩ := each pair.2
      obtain ⟨entries, forms, texts⟩ := rest
      exact ⟨.mk (.text (some pair.1)) node :: entries, .cons ⟨node, formed, rfl⟩ forms,
        .cons ⟨node, rfl, spelled⟩ texts⟩
  obtain ⟨entries, forms, texts⟩ := entries map.toList
  exact ⟨.object entries none, ⟨map.toList, entries, .rfl, forms, rfl⟩, writeObject_spelled texts⟩

/-- An object with each field in order is one of the trees of a record. -/
theorem recordForm_of_entries {fields : List FieldForm} {entries : List (String × Node)}
    (distinct : (fields.map FieldForm.name).Nodup)
    (each : List.Forall₂ (fun field entry => field.name = entry.1 ∧ field.Form entry.2) fields entries) :
    RecordForm fields (.object (entries.map fun entry => .mk (.text (some entry.1)) entry.2) none) := by
  have names : entries.map Prod.fst = fields.map FieldForm.name :=
    (map_eq_of_forall₂ (each.imp fun _ _ fits => fits.1)).symm
  have origin : ∀ entry ∈ entries, ∃ field ∈ fields, field.name = entry.1 ∧ field.Form entry.2 :=
    fun _ listed => exists_mem_of_forall₂ each.flip listed
  refine .object ?_ (fun field listed value found => ?_) (fun field listed missed => ?_)
    (fun key value found unknown => ?_)
  · rw [knownKeys, names]
    exact distinct.filter _
  · obtain ⟨other, otherListed, same, fits⟩ := origin _ found
    rwa [← List.inj_on_of_nodup_map distinct otherListed listed same]
  · rw [names] at missed
    exact absurd (List.mem_map_of_mem listed) missed
  · rw [← names] at unknown
    exact absurd (List.mem_map_of_mem found) unknown

theorem written_record {fields : List FieldForm} {texts : List (String × String)}
    (distinct : (fields.map FieldForm.name).Nodup)
    (each : List.Forall₂ (fun field text => field.name = text.1 ∧ Written field.Form text.2) fields texts) :
    Written (RecordForm fields) (writeObject texts) := by
  have entries : ∃ entries : List (String × Node),
      List.Forall₂ (fun field entry => field.name = entry.1 ∧ field.Form entry.2) fields entries ∧
        List.Forall₂ EntrySpelled (entries.map fun entry => .mk (.text (some entry.1)) entry.2) texts := by
    clear distinct
    induction each with
    | nil => exact ⟨[], .nil, .nil⟩
    | @cons field text fields texts here _ rest =>
      obtain ⟨named, node, formed, spelled⟩ := here
      obtain ⟨entries, forms, later⟩ := rest
      exact ⟨(text.1, node) :: entries, .cons ⟨named, formed⟩ forms, .cons ⟨node, rfl, spelled⟩ later⟩
  obtain ⟨entries, forms, spelled⟩ := entries
  exact ⟨_, recordForm_of_entries distinct forms, writeObject_spelled spelled⟩

end NameDomains.Json
