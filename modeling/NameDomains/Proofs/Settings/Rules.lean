/-
**What is asked of settings.**

Every entry of a document, and every entry of a part of the settings, has to be one of the declared fields with
a value of its kind. A part is a table, or a list of its fields in order, of which the surplus is dropped. Entries
that all fit are read as what they state: every value that is given, and the default of every other field. Of
entries that do not all fit, the first that does not is reported.

* `Rule`, `EntryFits`, `FirstRefused` — what is asked of entries, and the first that does not fit.
* `ResolverSettings.stated`, `LogSettings.stated`, `Settings.stated` — the settings that given values make.
* `Schema.Obeys` — a part obeys its rules.
* `Schema.Obeys.foldlM_eq_ok`, `Schema.Obeys.foldlM_eq_error` — entries that fit, and those that do not.
* `Schema.Obeys.decode_eq_ok`, `Schema.Obeys.decode_eq_error` — parts that fit, and those that do not.
* `settings_obeys` — the settings obey their rules.
-/

import Mathlib.Logic.Function.Basic
import NameDomains.Proofs.Entries
import NameDomains.Proofs.Outcome
import NameDomains.Proofs.Toml.Keys
import NameDomains.Settings.Decode

namespace NameDomains

open Toml (lookup? Distinct)

namespace Settings

/-! ### Rules -/

/-- What is asked of a field: the values that fit, and the report on one that does not. -/
structure Rule where
  name : String
  Fits : Toml.Value → Prop
  Refused : Toml.Value → Misfit → Prop

/-- A field that holds a truth value. -/
def flagRule (name : String) : Rule where
  name := name
  Fits value := ∃ flag, value = .flag flag
  Refused value misfit := (∀ flag, value ≠ .flag flag) ∧ misfit = .wrongType value "a boolean"

/-- A field that holds a text, which is called something else in reports. -/
def textRule (name expected : String) : Rule where
  name := name
  Fits value := ∃ text, value = .text text
  Refused value misfit := (∀ text, value ≠ .text text) ∧ misfit = .wrongType value expected

/-- The entries of a part with fields of the given names: those of a table, or the items of a list under the
names in order. -/
def listing? (names : List String) : Toml.Value → Option (List Toml.Entry)
  | .table _ entries => some entries
  | .list items => some (List.zipWith .mk names items)
  | .tables rows => some (List.zipWith .mk names rows)
  | _ => none

/-- An entry is one of the declared fields, with a value that fits. -/
def EntryFits (rules : List Rule) (entry : Toml.Entry) : Prop :=
  ∃ rule ∈ rules, rule.name = entry.key ∧ rule.Fits entry.value

/-- How an entry is refused. -/
inductive EntryRefused (rules : List Rule) (entry : Toml.Entry) : Misfit → Prop
  | unknown : entry.key ∉ rules.map Rule.name →
      EntryRefused rules entry (.unknownField entry.key (rules.map Rule.name))
  | value {rule : Rule} {misfit : Misfit} : rule ∈ rules → rule.name = entry.key →
      rule.Refused entry.value misfit → EntryRefused rules entry misfit

/-- How the first entry that does not fit is refused. -/
def FirstRefused (rules : List Rule) (entries : List Toml.Entry) (misfit : Misfit) : Prop :=
  ∃ before entry after, entries = before ++ entry :: after ∧ (∀ other ∈ before, EntryFits rules other) ∧
    EntryRefused rules entry misfit

/-- How a part of the settings is refused. A date has one key, which no part knows. -/
inductive PartRefused (title : String) (rules : List Rule) : Toml.Value → Misfit → Prop
  | kind {value : Toml.Value} : listing? (rules.map Rule.name) value = none → value ≠ .datetime →
      PartRefused title rules value (.wrongType value ("struct " ++ title))
  | date : PartRefused title rules .datetime (.unknownField "$__toml_private_datetime" (rules.map Rule.name))
  | entry {value : Toml.Value} {entries : List Toml.Entry} {misfit : Misfit} :
      listing? (rules.map Rule.name) value = some entries → FirstRefused rules entries misfit →
      PartRefused title rules value misfit

/-- A field that holds a part of the settings. -/
def partRule (name title : String) (rules : List Rule) : Rule where
  name := name
  Fits value := ∃ entries, listing? (rules.map Rule.name) value = some entries ∧
    ∀ entry ∈ entries, EntryFits rules entry
  Refused := PartRefused title rules

/-- What is asked of resolver settings. -/
def resolverRules : List Rule := [flagRule "obfuscated", textRule "mappings" "path string"]

/-- What is asked of log settings. -/
def loggingRules : List Rule :=
  [textRule "level" "a string", flagRule "json", flagRule "stderr", textRule "file" "path string"]

/-- What is asked of settings. -/
def rules : List Rule :=
  [partRule "resolver" "ResolverConfig" resolverRules, partRule "logging" "LoggingConfig" loggingRules]

/-! ### What is stated -/

/-- A truth value, if one is given. -/
def flagOr (default : Bool) : Option Toml.Value → Bool
  | some (.flag value) => value
  | _ => default

/-- A text, if one is given. -/
def text? : Option Toml.Value → Option String
  | some (.text value) => some value
  | _ => none

/-- What is given inside a part with fields of the given names. -/
def inside (names : List String) (part : Option Toml.Value) (name : String) : Option Toml.Value := do
  lookup? (← listing? names (← part)) name

end Settings

open Settings in
/-- The resolver settings that given values make. -/
def ResolverSettings.stated (given : String → Option Toml.Value) : ResolverSettings where
  obfuscated := flagOr true (given "obfuscated")
  mappings := text? (given "mappings")

open Settings in
/-- The log settings that given values make. -/
def LogSettings.stated (given : String → Option Toml.Value) : LogSettings where
  level := (text? (given "level")).getD "info"
  json := flagOr false (given "json")
  stderr := flagOr true (given "stderr")
  file := text? (given "file")

namespace Settings

/-- The settings that given values make. -/
def stated (given : String → Option Toml.Value) : Settings where
  resolver := .stated (inside (resolverRules.map Rule.name) (given "resolver"))
  logging := .stated (inside (loggingRules.map Rule.name) (given "logging"))

/-! ### Reading entries -/

section Parts

variable {Part : Type} {rules : List Rule} {make : (String → Option Toml.Value) → Part}

/-- The values given so far, and one more. -/
def give (given : String → Option Toml.Value) (entry : Toml.Entry) : String → Option Toml.Value :=
  Function.update given entry.key (some entry.value)

/-- A field obeys its rule: it takes what fits, refuses everything else, and sets nothing but what it is given. -/
structure Field.Obeys (make : (String → Option Toml.Value) → Part) (field : Field Part) (rule : Rule) : Prop where
  name : field.name = rule.name
  accepts : ∀ given value, value.Tidy → rule.Fits value →
    field.decode (make given) value = .ok (make (give given (.mk rule.name value)))
  refuses : ∀ part value misfit, value.Tidy → rule.Refused value misfit → field.decode part value = .error misfit
  decides : ∀ value, rule.Fits value ∨ ∃ misfit, rule.Refused value misfit

/-- The fields of a part obey their rules, and what given values make has the defaults for all others. -/
structure Schema.Obeys (schema : Schema Part) (rules : List Rule) (make : (String → Option Toml.Value) → Part) :
    Prop where
  fields : List.Forall₂ (Field.Obeys make) schema.fields rules
  distinct : (rules.map Rule.name).Nodup
  default : schema.default = make fun _ => none
  date : "$__toml_private_datetime" ∉ rules.map Rule.name

variable {schema : Schema Part}

namespace Schema.Obeys

theorem names (obeys : schema.Obeys rules make) : schema.fields.map Field.name = rules.map Rule.name :=
  Entries.map_eq_of_forall₂ (obeys.fields.imp fun _ _ obeys => obeys.name)

/-- A key is read as the field of that name. -/
theorem addKey_eq (obeys : schema.Obeys rules make) {field : Field Part} (listed : field ∈ schema.fields)
    (part : Part) (value : Toml.Value) : schema.addKey part field.name value = field.decode part value := by
  have distinct : (schema.fields.map Field.name).Nodup := obeys.names ▸ obeys.distinct
  unfold addKey
  cases found : schema.fields.find? fun other => other.name = field.name with
  | none => exact absurd (decide_eq_true rfl) (List.find?_eq_none.mp found field listed)
  | some other =>
    have same : other.name = field.name := by simpa only [decide_eq_true_eq] using List.find?_some found
    rw [List.inj_on_of_nodup_map distinct (List.mem_of_find?_eq_some found) listed same]

theorem addEntry_of_fits (obeys : schema.Obeys rules make) {entry : Toml.Entry} (tidy : entry.value.Tidy)
    (fits : EntryFits rules entry) (given : String → Option Toml.Value) :
    schema.addEntry (make given) entry = .ok (make (give given entry)) := by
  obtain ⟨key, value⟩ := entry
  obtain ⟨rule, listed, rfl, fits⟩ := fits
  obtain ⟨field, fieldListed, obeysRule⟩ := Entries.exists_mem_of_forall₂ obeys.fields.flip listed
  rw [← obeysRule.accepts given value tidy fits, ← obeys.addKey_eq fieldListed, obeysRule.name]
  rfl

theorem addEntry_of_refused (obeys : schema.Obeys rules make) {entry : Toml.Entry} (tidy : entry.value.Tidy)
    {misfit : Misfit} (refused : EntryRefused rules entry misfit) (part : Part) :
    schema.addEntry part entry = .error misfit := by
  cases refused with
  | unknown missing =>
    rw [← obeys.names] at missing ⊢
    unfold addEntry addKey
    split
    · next field found =>
      have same : field.name = entry.key := by simpa only [decide_eq_true_eq] using List.find?_some found
      exact absurd (same ▸ List.mem_map_of_mem (List.mem_of_find?_eq_some found)) missing
    · rfl
  | @value rule misfit listed same refused =>
    obtain ⟨field, fieldListed, obeysRule⟩ := Entries.exists_mem_of_forall₂ obeys.fields.flip listed
    rw [addEntry, ← same, ← obeysRule.name, obeys.addKey_eq fieldListed]
    exact obeysRule.refuses part entry.value misfit tidy refused

theorem entry_decides (obeys : schema.Obeys rules make) (entry : Toml.Entry) :
    EntryFits rules entry ∨ ∃ misfit, EntryRefused rules entry misfit := by
  by_cases known : entry.key ∈ rules.map Rule.name
  · obtain ⟨rule, listed, same⟩ := List.mem_map.mp known
    obtain ⟨field, -, obeysRule⟩ := Entries.exists_mem_of_forall₂ obeys.fields.flip listed
    rcases obeysRule.decides entry.value with fits | ⟨misfit, refused⟩
    · exact .inl ⟨rule, listed, same, fits⟩
    · exact .inr ⟨misfit, .value listed same refused⟩
  · exact .inr ⟨_, .unknown known⟩

theorem entries_decide (obeys : schema.Obeys rules make) (entries : List Toml.Entry) :
    (∀ entry ∈ entries, EntryFits rules entry) ∨ ∃ misfit, FirstRefused rules entries misfit := by
  induction entries with
  | nil => exact .inl nofun
  | cons entry entries rest =>
    rcases obeys.entry_decides entry with fits | ⟨misfit, refused⟩
    · rcases rest with allFit | ⟨misfit, before, other, after, rfl, fit, refused⟩
      · exact .inl (List.forall_mem_cons.mpr ⟨fits, allFit⟩)
      · exact .inr ⟨misfit, entry :: before, other, after, rfl, List.forall_mem_cons.mpr ⟨fits, fit⟩, refused⟩
    · exact .inr ⟨misfit, [], entry, entries, rfl, nofun, refused⟩

end Schema.Obeys

/-- Values given entry by entry are found by their keys, if no key comes up twice. -/
theorem foldl_give {entries : List Toml.Entry} (keys : (entries.map Toml.Entry.key).Nodup)
    (given : String → Option Toml.Value) :
    entries.foldl give given = fun name => (lookup? entries name).or (given name) := by
  induction entries generalizing given with
  | nil => rfl
  | cons entry entries rest =>
    rw [List.map_cons, List.nodup_cons] at keys
    rw [List.foldl_cons, rest keys.2]
    funext name
    by_cases same : entry.key = name
    · subst same
      rw [Toml.lookup?_eq_none_iff.mpr keys.1, give, Function.update_self, Toml.lookup?_cons, if_pos rfl]
      rfl
    · rw [give, Function.update_of_ne (Ne.symm same), Toml.lookup?_cons, if_neg same]

namespace Schema.Obeys

theorem foldlM_of_fits (obeys : schema.Obeys rules make) {entries : List Toml.Entry}
    (tidy : ∀ entry ∈ entries, entry.value.Tidy) (fits : ∀ entry ∈ entries, EntryFits rules entry)
    (given : String → Option Toml.Value) :
    entries.foldlM schema.addEntry (make given) = .ok (make (entries.foldl give given)) := by
  induction entries generalizing given with
  | nil => rfl
  | cons entry entries rest =>
    obtain ⟨tidyHere, tidyLater⟩ := List.forall_mem_cons.mp tidy
    obtain ⟨here, later⟩ := List.forall_mem_cons.mp fits
    rw [List.foldlM_cons, obeys.addEntry_of_fits tidyHere here]
    exact rest tidyLater later _

/-- **Entries that fit make what they state.** -/
theorem foldlM_eq_ok (obeys : schema.Obeys rules make) {entries : List Toml.Entry} (distinct : Distinct entries)
    (fits : ∀ entry ∈ entries, EntryFits rules entry) :
    entries.foldlM schema.addEntry schema.default = .ok (make (lookup? entries)) := by
  rw [obeys.default, obeys.foldlM_of_fits distinct.values fits, foldl_give distinct.keys]
  simp only [Option.or_none]

/-- **The first entry that does not fit decides.** -/
theorem foldlM_eq_error (obeys : schema.Obeys rules make) {entries : List Toml.Entry} (distinct : Distinct entries)
    {misfit : Misfit} (refused : FirstRefused rules entries misfit) :
    entries.foldlM schema.addEntry schema.default = .error misfit := by
  obtain ⟨before, entry, after, rfl, fit, refused⟩ := refused
  obtain ⟨tidyBefore, tidy⟩ := List.forall_mem_append.mp distinct.values
  rw [obeys.default, List.foldlM_append, obeys.foldlM_of_fits tidyBefore fit]
  show List.foldlM schema.addEntry _ (entry :: after) = _
  rw [List.foldlM_cons, obeys.addEntry_of_refused (tidy entry List.mem_cons_self) refused]
  rfl

end Schema.Obeys

/-! ### Reading parts -/

/-- Items under names have some of the names as their keys, in order. -/
theorem keys_zipWith_sublist (names : List String) (items : List Toml.Value) :
    ((List.zipWith .mk names items).map Toml.Entry.key).Sublist names ∧
      ∀ entry ∈ List.zipWith Toml.Entry.mk names items, entry.value ∈ items := by
  induction names generalizing items with
  | nil => exact ⟨List.Sublist.slnil, nofun⟩
  | cons name names rest =>
    cases items with
    | nil => exact ⟨List.nil_sublist _, nofun⟩
    | cons item items =>
      obtain ⟨keys, values⟩ := rest items
      exact ⟨keys.cons_cons name, List.forall_mem_cons.mpr
        ⟨List.mem_cons_self, fun entry listed => List.mem_cons_of_mem item (values entry listed)⟩⟩

theorem distinct_listing? {names : List String} (distinct : names.Nodup) {value : Toml.Value} (tidy : value.Tidy)
    {entries : List Toml.Entry} (listed : listing? names value = some entries) : Distinct entries := by
  have items : ∀ items : List Toml.Value, (∀ item ∈ items, item.Tidy) →
      Distinct (List.zipWith .mk names items) := fun items tidy =>
    have ⟨keys, values⟩ := keys_zipWith_sublist names items
    ⟨distinct.sublist keys, fun entry listed => tidy _ (values entry listed)⟩
  cases tidy with
  | text | integer | real | flag | datetime => cases listed
  | list tidy => exact Option.some.inj listed ▸ items _ tidy
  | table keys values => exact Option.some.inj listed ▸ ⟨keys, values⟩
  | tables tidy => exact Option.some.inj listed ▸ items _ tidy

namespace Schema.Obeys

theorem addItems_eq (obeys : schema.Obeys rules make) {fields : List (Field Part)}
    (known : ∀ field ∈ fields, field ∈ schema.fields) (part : Part) (items : List Toml.Value) :
    addItems part fields items =
      (List.zipWith Toml.Entry.mk (fields.map Field.name) items).foldlM schema.addEntry part := by
  induction fields generalizing part items with
  | nil => cases items <;> rfl
  | cons field fields rest =>
    obtain ⟨here, later⟩ := List.forall_mem_cons.mp known
    cases items with
    | nil => rfl
    | cons item items =>
      rw [addItems, List.map_cons, List.zipWith_cons_cons, List.foldlM_cons, addEntry]
      show _ = schema.addKey part field.name item >>= _
      rw [obeys.addKey_eq here]
      exact bind_congr fun part => rest later part items

/-- A part is read entry by entry, whether it is a table or a list. -/
theorem decode_eq (obeys : schema.Obeys rules make) {value : Toml.Value} {entries : List Toml.Entry}
    (listed : listing? (rules.map Rule.name) value = some entries) :
    schema.decode value = entries.foldlM schema.addEntry schema.default := by
  rw [← obeys.names] at listed
  cases value with
  | text | integer | real | flag | datetime => cases listed
  | table => exact Option.some.inj listed ▸ rfl
  | list items => exact Option.some.inj listed ▸ obeys.addItems_eq (fun _ => id) _ items
  | tables rows => exact Option.some.inj listed ▸ obeys.addItems_eq (fun _ => id) _ rows

/-- **A part whose entries fit is what they state.** -/
theorem decode_eq_ok (obeys : schema.Obeys rules make) {value : Toml.Value} (tidy : value.Tidy)
    {entries : List Toml.Entry} (listed : listing? (rules.map Rule.name) value = some entries)
    (fits : ∀ entry ∈ entries, EntryFits rules entry) :
    schema.decode value = .ok (make (inside (rules.map Rule.name) (some value))) := by
  have given : inside (rules.map Rule.name) (some value) = lookup? entries := by
    funext name
    show (listing? (rules.map Rule.name) value >>= fun entries => lookup? entries name) = _
    rw [listed]
    rfl
  rw [given, obeys.decode_eq listed, obeys.foldlM_eq_ok (distinct_listing? obeys.distinct tidy listed) fits]

/-- **A part is refused for its first entry that does not fit**, if it has entries at all. -/
theorem decode_eq_error (obeys : schema.Obeys rules make) {value : Toml.Value} (tidy : value.Tidy)
    {misfit : Misfit} (refused : PartRefused schema.name rules value misfit) :
    schema.decode value = .error misfit := by
  cases refused with
  | kind none other =>
    cases value with
    | text | integer | real | flag => rfl
    | datetime => exact absurd rfl other
    | list | table | tables => cases none
  | date =>
    have unknown : EntryRefused rules (.mk "$__toml_private_datetime" .datetime) _ := .unknown obeys.date
    refine obeys.addEntry_of_refused ?_ unknown schema.default
    exact tidy
  | entry listed refused =>
    rw [obeys.decode_eq listed, obeys.foldlM_eq_error (distinct_listing? obeys.distinct tidy listed) refused]

theorem part_decides (obeys : schema.Obeys rules make) (name title : String) (value : Toml.Value) :
    (partRule name title rules).Fits value ∨ ∃ misfit, (partRule name title rules).Refused value misfit := by
  cases listed : listing? (rules.map Rule.name) value with
  | some entries =>
    rcases obeys.entries_decide entries with fits | ⟨misfit, refused⟩
    · exact .inl ⟨entries, listed, fits⟩
    · exact .inr ⟨misfit, .entry listed refused⟩
  | none =>
    by_cases date : value = .datetime
    · subst date
      exact .inr ⟨_, .date⟩
    · exact .inr ⟨_, .kind listed date⟩

end Schema.Obeys

/-! ### The settings -/

/-- A field that is read from a value of its own and stored in one place obeys its rule. -/
theorem Field.obeys_of_store {β : Type} {field : Field Part} {rule : Rule} {decode : Toml.Value → Decoded β}
    (store : Part → β → Part) (name : field.name = rule.name)
    (reads : field.decode = fun part value => decode value >>= fun found => return store part found)
    (accepts : ∀ value, value.Tidy → rule.Fits value → ∃ found, decode value = .ok found ∧
      ∀ given, store (make given) found = make (give given (.mk rule.name value)))
    (refuses : ∀ value misfit, value.Tidy → rule.Refused value misfit → decode value = .error misfit)
    (decides : ∀ value, rule.Fits value ∨ ∃ misfit, rule.Refused value misfit) : field.Obeys make rule where
  name := name
  accepts := fun given value tidy fits => by
    obtain ⟨found, decoded, stored⟩ := accepts value tidy fits
    rw [reads, ← stored]
    show (decode value >>= fun found => _) = _
    rw [decoded]
    rfl
  refuses := fun part value misfit tidy refused => by
    rw [reads]
    show (decode value >>= fun found => _) = _
    rw [refuses value misfit tidy refused]
    rfl
  decides := decides

/-- A field that holds a truth value obeys its rule. -/
theorem Field.obeys_flag {field : Field Part} {name : String} (store : Part → Bool → Part)
    (named : field.name = name)
    (reads : field.decode = fun part value => decodeFlag value >>= fun found => return store part found)
    (stored : ∀ given flag, store (make given) flag = make (give given (.mk name (.flag flag)))) :
    field.Obeys make (flagRule name) := by
  refine Field.obeys_of_store store named reads ?_ ?_ fun value => ?_
  · rintro _ - ⟨flag, rfl⟩
    exact ⟨flag, rfl, fun given => stored given flag⟩
  · rintro value misfit - ⟨other, rfl⟩
    unfold decodeFlag
    split
    · exact absurd rfl (other _)
    · rfl
  · by_cases fits : ∃ flag, value = .flag flag
    · exact .inl fits
    · exact .inr ⟨_, not_exists.mp fits, rfl⟩

/-- A field that holds a text obeys its rule. -/
theorem Field.obeys_text {field : Field Part} {name expected : String} {decode : Toml.Value → Decoded String}
    (store : Part → String → Part) (named : field.name = name)
    (reads : field.decode = fun part value => decode value >>= fun found => return store part found)
    (taken : ∀ text, decode (.text text) = .ok text)
    (refused : ∀ value, (∀ text, value ≠ .text text) → decode value = .error (.wrongType value expected))
    (stored : ∀ given text, store (make given) text = make (give given (.mk name (.text text)))) :
    field.Obeys make (textRule name expected) := by
  refine Field.obeys_of_store store named reads ?_ ?_ fun value => ?_
  · rintro _ - ⟨text, rfl⟩
    exact ⟨text, taken text, fun given => stored given text⟩
  · rintro value misfit - ⟨other, rfl⟩
    exact refused value other
  · by_cases fits : ∃ text, value = .text text
    · exact .inl fits
    · exact .inr ⟨_, not_exists.mp fits, rfl⟩

/-- A field that holds a part obeys its rule, if the part obeys its own. -/
theorem Field.obeys_part {Inner : Type} {inner : Schema Inner} {innerRules : List Rule}
    {innerMake : (String → Option Toml.Value) → Inner} (obeys : inner.Obeys innerRules innerMake)
    {field : Field Part} {name : String} (store : Part → Inner → Part) (named : field.name = name)
    (reads : field.decode = fun part value => inner.decode value >>= fun found => return store part found)
    (stored : ∀ given value, store (make given) (innerMake (inside (innerRules.map Rule.name) (some value))) =
      make (give given (.mk name value))) : field.Obeys make (partRule name inner.name innerRules) := by
  refine Field.obeys_of_store store named reads ?_ ?_ (obeys.part_decides name inner.name)
  · rintro value tidy ⟨entries, listed, fits⟩
    exact ⟨_, obeys.decode_eq_ok tidy listed fits, fun given => stored given value⟩
  · exact fun value misfit tidy refused => obeys.decode_eq_error tidy refused

end Parts

theorem decodeText_of_ne {value : Toml.Value} (other : ∀ text, value ≠ .text text) :
    decodeText value = .error (.wrongType value "a string") := by
  unfold decodeText
  split
  · exact absurd rfl (other _)
  · rfl

theorem decodePath_of_ne {value : Toml.Value} (other : ∀ text, value ≠ .text text) :
    decodePath value = .error (.wrongType value "path string") := by
  unfold decodePath
  split
  · exact absurd rfl (other _)
  · rfl

theorem resolver_obeys : ResolverSettings.schema.Obeys resolverRules ResolverSettings.stated where
  fields :=
    .cons (Field.obeys_flag (fun part flag => { part with obfuscated := flag }) rfl rfl fun _ _ => rfl) <|
    .cons (Field.obeys_text (fun part path => { part with mappings := some path }) rfl rfl (fun _ => rfl)
      (fun _ => decodePath_of_ne) fun _ _ => rfl) .nil
  distinct := by decide
  default := rfl
  date := by decide

theorem logging_obeys : LogSettings.schema.Obeys loggingRules LogSettings.stated where
  fields :=
    .cons (Field.obeys_text (fun part level => { part with level }) rfl rfl (fun _ => rfl)
      (fun _ => decodeText_of_ne) fun _ _ => rfl) <|
    .cons (Field.obeys_flag (fun part flag => { part with json := flag }) rfl rfl fun _ _ => rfl) <|
    .cons (Field.obeys_flag (fun part flag => { part with stderr := flag }) rfl rfl fun _ _ => rfl) <|
    .cons (Field.obeys_text (fun part path => { part with file := some path }) rfl rfl (fun _ => rfl)
      (fun _ => decodePath_of_ne) fun _ _ => rfl) .nil
  distinct := by decide
  default := rfl
  date := by decide

theorem settings_obeys : schema.Obeys rules stated where
  fields :=
    .cons (Field.obeys_part resolver_obeys (fun part resolver => { part with resolver }) rfl rfl fun _ _ => rfl) <|
    .cons (Field.obeys_part logging_obeys (fun part logging => { part with logging }) rfl rfl fun _ _ => rfl) .nil
  distinct := by decide
  default := rfl
  date := by decide

end Settings

end NameDomains
