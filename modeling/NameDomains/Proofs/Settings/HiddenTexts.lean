/-
**Settings and the texts in them.**

A text in a settings file may be a secret. It may decide a level or a path, which are texts themselves, and
nothing else: not whether the file is accepted, not which entry is refused first, and not a word of the
report, in which a text that stands where it should not is hidden.

* `Toml.Value.SameButTexts` — two values that differ in the contents of texts only.
* `Settings.Misfit.report_text` — the report on a text.
* `Settings.Schema.alike_decode` — a part of the settings is read alike from two such values.
* `Settings.Schema.origin_of_error`, `Settings.Schema.Reaches.decode` — where an error of a part comes from,
  and what the first item that is refused leads to.
* `Settings.parse_of_sameButTexts` — two files that differ in texts are accepted or refused alike.
-/

import NameDomains.Proofs.Outcome
import NameDomains.Proofs.Text.Redaction
import NameDomains.Settings.Decode

namespace NameDomains

namespace Toml

mutual

/-- Two values with the same keys, the same structure and the same values that are no texts. How a table
came about does not matter. -/
inductive Value.SameButTexts : Value → Value → Prop
  | text (value other : String) : Value.SameButTexts (.text value) (.text other)
  | integer (value : Int) : Value.SameButTexts (.integer value) (.integer value)
  | real (value : Binary64) : Value.SameButTexts (.real value) (.real value)
  | flag (value : Bool) : Value.SameButTexts (.flag value) (.flag value)
  | datetime : Value.SameButTexts .datetime .datetime
  | list {items others : List Value} :
      List.Forall₂ Value.SameButTexts items others → Value.SameButTexts (.list items) (.list others)
  | table (origin otherOrigin : Origin) {entries others : List Entry} :
      List.Forall₂ Entry.SameButTexts entries others →
      Value.SameButTexts (.table origin entries) (.table otherOrigin others)
  | tables {rows others : List Value} :
      List.Forall₂ Value.SameButTexts rows others → Value.SameButTexts (.tables rows) (.tables others)

/-- Two entries with one key. -/
inductive Entry.SameButTexts : Entry → Entry → Prop
  | mk (key : String) {value other : Value} :
      Value.SameButTexts value other → Entry.SameButTexts (.mk key value) (.mk key other)

end

end Toml

namespace Settings

/-! ### Reports -/

/-- A misfit in words, without quoted texts. -/
def Misfit.report (misfit : Misfit) : String := Text.redact misfit.describe

/-- **A text that stands where it should not is hidden in the report.** -/
theorem Misfit.report_text (value : String) {expected : String} (free : '"' ∉ expected.toList) :
    (Misfit.wrongType (.text value) expected).report =
      "invalid type: string \"<redacted>\", expected " ++ expected := by
  have freeAfter : '"' ∉ (", expected " ++ expected).toList := by
    rw [String.toList_append, List.mem_append, not_or]
    exact ⟨by decide, free⟩
  have described : (Misfit.wrongType (.text value) expected).describe =
      "invalid type: " ++ "string " ++ Text.quote value ++ (", expected " ++ expected) := by
    show "invalid type: " ++ ("string " ++ Text.quote value) ++ ", expected " ++ expected = _
    simp only [String.append_assoc]
  have hidden := Text.redact_append_quote (by decide : '"' ∉ ("invalid type: " ++ "string ").toList)
    freeAfter value
  rw [Misfit.report, described, hidden, ← String.append_assoc]
  rfl

theorem Misfit.report_eq_of_sameButTexts {value other : Toml.Value}
    (same : Toml.Value.SameButTexts value other) {expected : String} (free : '"' ∉ expected.toList) :
    (Misfit.wrongType value expected).report = (Misfit.wrongType other expected).report := by
  cases same with
  | text value other => rw [report_text value free, report_text other free]
  | integer | real | flag | datetime | list | table | tables => rfl

/-! ### Parts of the settings -/

/-- Two values are read alike: both are refused with one report, or what is read is related. -/
def Alike {α β : Type} (related : α → β → Prop) (outcome : Decoded α) (other : Decoded β) : Prop :=
  Outcome.Alike related (outcome.mapError Misfit.report) (other.mapError Misfit.report)

namespace Alike

variable {α β γ δ : Type} {related : α → β → Prop} {after : γ → δ → Prop}

theorem bind_return {outcome : Decoded α} {other : Decoded β} (alike : Alike related outcome other)
    {change : α → γ} {otherChange : β → δ}
    (each : ∀ value otherValue, related value otherValue →
      after (change value) (otherChange otherValue)) :
    Alike after (outcome >>= fun value => return change value)
      (other >>= fun value => return otherChange value) := by
  unfold Alike
  rw [Outcome.mapError_bind, Outcome.mapError_bind]
  exact Outcome.Alike.bind alike fun value otherValue kept => .done (each value otherValue kept)

theorem refused {value other : Toml.Value} (same : Toml.Value.SameButTexts value other) {expected : String}
    (free : '"' ∉ expected.toList) :
    Alike related (.error (.wrongType value expected)) (.error (.wrongType other expected)) := by
  show Outcome.Alike related (.error (Misfit.wrongType value expected).report)
    (.error (Misfit.wrongType other expected).report)
  rw [Misfit.report_eq_of_sameButTexts same free]
  exact .failed _

end Alike

theorem alike_decodeFlag {value other : Toml.Value} (same : Toml.Value.SameButTexts value other) :
    Alike Eq (decodeFlag value) (decodeFlag other) := by
  cases same with
  | flag value => exact .done rfl
  | text value other => exact .refused (.text value other) (by decide)
  | integer | real | datetime | list | table | tables => exact .failed _

/-- Texts and paths are read from texts, whatever these are. -/
theorem alike_decodeText {value other : Toml.Value} (same : Toml.Value.SameButTexts value other) :
    Alike (fun _ _ => True) (decodeText value) (decodeText other) ∧
      Alike (fun _ _ => True) (decodePath value) (decodePath other) := by
  cases same with
  | text value other => exact ⟨.done trivial, .done trivial⟩
  | integer | real | flag | datetime | list | table | tables => exact ⟨.failed _, .failed _⟩

namespace Schema

variable {Part : Type} {related : Part → Part → Prop} {schema : Schema Part}

/-- A field is read alike, over parts that are related, from values that differ in texts. -/
def FieldAlike (related : Part → Part → Prop) (field : Field Part) : Prop :=
  ∀ part other, related part other → ∀ value otherValue, Toml.Value.SameButTexts value otherValue →
    Alike related (field.decode part value) (field.decode other otherValue)

theorem alike_addKey (fields : ∀ field ∈ schema.fields, FieldAlike related field) {part other : Part}
    (kept : related part other) (key : String) {value otherValue : Toml.Value}
    (same : Toml.Value.SameButTexts value otherValue) :
    Alike related (schema.addKey part key value) (schema.addKey other key otherValue) := by
  unfold addKey
  cases found : schema.fields.find? fun field => field.name = key with
  | none => exact .failed _
  | some field => exact fields field (List.mem_of_find?_eq_some found) part other kept value otherValue same

theorem alike_addItems {fields : List (Field Part)}
    (each : ∀ field ∈ fields, FieldAlike related field) {items others : List Toml.Value}
    (same : List.Forall₂ Toml.Value.SameButTexts items others) {part other : Part}
    (kept : related part other) :
    Alike related (addItems part fields items) (addItems other fields others) := by
  induction fields generalizing items others part other with
  | nil => exact .done kept
  | cons field fields later =>
    cases same with
    | nil => exact .done kept
    | cons here rest =>
      obtain ⟨first, following⟩ := List.forall_mem_cons.mp each
      unfold Alike
      rw [addItems, addItems, Outcome.mapError_bind, Outcome.mapError_bind]
      exact Outcome.Alike.bind (first part other kept _ _ here) fun _ _ kept => later following rest kept

/-- **A part of the settings is read alike from values that differ in texts.** -/
theorem alike_decode (free : '"' ∉ ("struct " ++ schema.name).toList)
    (fields : ∀ field ∈ schema.fields, FieldAlike related field)
    (kept : related schema.default schema.default) {value other : Toml.Value}
    (same : Toml.Value.SameButTexts value other) :
    Alike related (schema.decode value) (schema.decode other) := by
  cases same with
  -- Only the report on a text could tell the two apart, and it hides the text.
  | text value other => exact .refused (.text value other) free
  | integer | real | flag => exact .failed _
  | datetime => exact alike_addKey fields kept _ .datetime
  | list items => exact alike_addItems fields items kept
  | tables rows => exact alike_addItems fields rows kept
  | table origin otherOrigin entries =>
    unfold Alike
    rw [decode, decode, Outcome.mapError_foldlM, Outcome.mapError_foldlM]
    refine Outcome.Alike.foldlM (fun part other kept entry otherEntry same => ?_) entries kept
    obtain ⟨key, same⟩ := same
    exact alike_addKey fields kept key same

theorem exists_error_of_addItems {fields : List (Field Part)} {items : List Toml.Value} {part : Part}
    {misfit : Misfit} (failed : addItems part fields items = .error misfit) :
    ∃ field ∈ fields, ∃ part item, field.decode part item = .error misfit := by
  induction fields generalizing items part with
  | nil => cases failed
  | cons field fields later =>
    cases items with
    | nil => cases failed
    | cons item items =>
      rw [addItems] at failed
      cases first : field.decode part item with
      | error found =>
        rw [first] at failed
        exact ⟨field, List.mem_cons_self, part, item, first.trans failed⟩
      | ok next =>
        rw [first] at failed
        obtain ⟨other, listed, found⟩ := later failed
        exact ⟨other, List.mem_cons_of_mem field listed, found⟩

/-- **Where an error of a part comes from**: from one of its fields, from a key that names none, or from a
value that is no part at all. -/
theorem origin_of_error {value : Toml.Value} {misfit : Misfit}
    (failed : schema.decode value = .error misfit) :
    (∃ field ∈ schema.fields, ∃ part item, field.decode part item = .error misfit) ∨
      (∃ key, misfit = .unknownField key (schema.fields.map Field.name)) ∨
      misfit = .wrongType value ("struct " ++ schema.name) := by
  have ofKey : ∀ part key item, schema.addKey part key item = .error misfit →
      (∃ field ∈ schema.fields, ∃ part item, field.decode part item = .error misfit) ∨
        (∃ key, misfit = .unknownField key (schema.fields.map Field.name)) ∨
        misfit = .wrongType value ("struct " ++ schema.name) := by
    intro part key item refused
    unfold addKey at refused
    split at refused
    · next field found =>
      exact .inl ⟨field, List.mem_of_find?_eq_some found, part, item, refused⟩
    · exact .inr (.inl ⟨key, (Except.error.inj refused).symm⟩)
  cases value with
  | text | integer | real | flag => exact .inr (.inr (Except.error.inj failed).symm)
  | datetime => exact ofKey _ _ _ failed
  | list items => exact .inl (exists_error_of_addItems failed)
  | tables rows => exact .inl (exists_error_of_addItems failed)
  | table origin entries =>
    obtain ⟨part, entry, -, refused⟩ := Outcome.exists_error_of_foldlM failed
    exact ofKey part entry.key entry.value refused

/-- A text does not fit where one of the fields refuses it, or as the part itself. -/
theorem expected_of_error {expectations : List String}
    (fields : ∀ field ∈ schema.fields, ∀ part item found expected,
      field.decode part item = .error (.wrongType (.text found) expected) → expected ∈ expectations)
    {value : Toml.Value} {found expected : String}
    (failed : schema.decode value = .error (.wrongType (.text found) expected)) :
    expected ∈ expectations ∨ value = .text found ∧ expected = "struct " ++ schema.name := by
  rcases origin_of_error failed with ⟨field, listed, part, item, refused⟩ | ⟨key, impossible⟩ | own
  · exact .inl (fields field listed part item found expected refused)
  · cases impossible
  · obtain ⟨whole, struct⟩ := Misfit.wrongType.inj own
    exact .inr ⟨whole.symm, struct⟩

/-- Reading a value comes to an item for a field, after what fits: under the field's name, or in its place. -/
inductive Reaches (schema : Schema Part) (name : String) (item : Toml.Value) : Toml.Value → Prop
  | entry {origin : Toml.Origin} {before after : List Toml.Entry} {part : Part} :
      schema.decode (.table origin before) = .ok part →
      Reaches schema name item (.table origin (before ++ .mk name item :: after))
  | item {earlier later : List (Field Part)} {field : Field Part} {items after : List Toml.Value}
      {part : Part} :
      schema.fields = earlier ++ field :: later → field.name = name → items.length = earlier.length →
      schema.decode (.list items) = .ok part → Reaches schema name item (.list (items ++ item :: after))

theorem addItems_append {earlier : List (Field Part)} {items : List Toml.Value}
    (same : items.length = earlier.length) (start : Part) (later : List (Field Part))
    (after : List Toml.Value) :
    addItems start (earlier ++ later) (items ++ after) =
      addItems start earlier items >>= fun part => addItems part later after := by
  induction earlier generalizing items start with
  | nil =>
    obtain rfl := List.length_eq_zero_iff.mp same
    rfl
  | cons field earlier rest =>
    cases items with
    | nil => cases same
    | cons item items =>
      rw [List.cons_append, List.cons_append, addItems, addItems]
      cases field.decode start item with
      | error => rfl
      | ok part => exact rest (Nat.succ.inj same) part

theorem addKey_of_refused {name : String} {item : Toml.Value} {misfit : Misfit}
    (known : name ∈ schema.fields.map Field.name)
    (refused : ∀ field ∈ schema.fields, field.name = name → ∀ part, field.decode part item = .error misfit)
    (part : Part) : schema.addKey part name item = .error misfit := by
  obtain ⟨first, listed, same⟩ := List.mem_map.mp known
  unfold addKey
  split
  · next field found =>
    have named : field.name = name := by simpa only [decide_eq_true_eq] using List.find?_some found
    exact refused field (List.mem_of_find?_eq_some found) named part
  · next missed => exact absurd (decide_eq_true same) (List.find?_eq_none.mp missed first listed)

/-- **The first item that its field refuses decides.** -/
theorem Reaches.decode {name : String} {item value : Toml.Value} (reaches : schema.Reaches name item value)
    (known : name ∈ schema.fields.map Field.name) {misfit : Misfit}
    (refused : ∀ field ∈ schema.fields, field.name = name → ∀ part, field.decode part item = .error misfit) :
    schema.decode value = .error misfit := by
  cases reaches with
  | @entry origin before after part accepted =>
    rw [Schema.decode] at accepted ⊢
    rw [List.foldlM_append, accepted]
    show List.foldlM schema.addEntry part (.mk name item :: after) = _
    rw [List.foldlM_cons]
    show (schema.addKey part name item >>= fun part => _) = _
    rw [addKey_of_refused known refused]
    rfl
  | @item earlier later field items after part fields named same accepted =>
    have listed : field ∈ schema.fields := fields ▸ List.mem_append_right _ List.mem_cons_self
    -- The items before are read into the fields before.
    have whole := addItems_append same schema.default (field :: later) []
    rw [List.append_nil, ← fields, show addItems _ _ _ = _ from accepted] at whole
    rw [Schema.decode, fields, addItems_append same]
    cases first : addItems schema.default earlier items with
    | error =>
      rw [first] at whole
      cases whole
    | ok next =>
      show addItems next (field :: later) (item :: after) = _
      rw [addItems, refused field listed named next]
      rfl

end Schema

end Settings

/-! ### The parts -/

/-- Resolver settings that differ in the path of the mappings only. -/
def ResolverSettings.SameButTexts (part other : ResolverSettings) : Prop :=
  ∃ mappings, other = { part with mappings }

/-- Log settings that differ in the level and in the path of the file only. -/
def LogSettings.SameButTexts (part other : LogSettings) : Prop :=
  ∃ level file, other = { part with level, file }

/-- Settings that differ in a level and in paths only. -/
def Settings.SameButTexts (settings other : Settings) : Prop :=
  settings.resolver.SameButTexts other.resolver ∧ settings.logging.SameButTexts other.logging

namespace Settings

theorem alike_decodeResolver {value other : Toml.Value} (same : Toml.Value.SameButTexts value other) :
    Alike ResolverSettings.SameButTexts (ResolverSettings.schema.decode value)
      (ResolverSettings.schema.decode other) := by
  refine Schema.alike_decode (by decide) (fun field listed => ?_) ⟨none, rfl⟩ same
  rintro part - ⟨mappings, rfl⟩ value other same
  rcases List.mem_pair.mp listed with rfl | rfl
  · refine (alike_decodeFlag same).bind_return fun flag _ agreed => ?_
    exact ⟨mappings, by rw [agreed]⟩
  · exact (alike_decodeText same).2.bind_return fun _ path _ => ⟨some path, rfl⟩

theorem alike_decodeLog {value other : Toml.Value} (same : Toml.Value.SameButTexts value other) :
    Alike LogSettings.SameButTexts (LogSettings.schema.decode value) (LogSettings.schema.decode other) := by
  refine Schema.alike_decode (by decide) (fun field listed => ?_) ⟨"info", none, rfl⟩ same
  rintro part - ⟨level, file, rfl⟩ value other same
  simp only [LogSettings.schema, List.mem_cons, List.not_mem_nil, or_false] at listed
  rcases listed with rfl | rfl | rfl | rfl
  · exact (alike_decodeText same).1.bind_return fun _ level _ => ⟨level, file, rfl⟩
  · refine (alike_decodeFlag same).bind_return fun flag _ agreed => ?_
    exact ⟨level, file, by rw [agreed]⟩
  · refine (alike_decodeFlag same).bind_return fun flag _ agreed => ?_
    exact ⟨level, file, by rw [agreed]⟩
  · exact (alike_decodeText same).2.bind_return fun _ path _ => ⟨level, some path, rfl⟩

/-- **The root tables of two documents that differ in texts are read alike.** -/
theorem alike_ofEntries {entries others : List Toml.Entry}
    (same : List.Forall₂ Toml.Entry.SameButTexts entries others) :
    Alike SameButTexts (ofEntries entries) (ofEntries others) := by
  refine Schema.alike_decode (by decide) (fun field listed => ?_)
    ⟨⟨none, rfl⟩, ⟨"info", none, rfl⟩⟩ (.table .header .header same)
  intro part otherPart kept value other same
  rcases List.mem_pair.mp listed with rfl | rfl
  · exact (alike_decodeResolver same).bind_return fun _ _ resolver => ⟨resolver, kept.2⟩
  · exact (alike_decodeLog same).bind_return fun _ _ logging => ⟨kept.1, logging⟩

/-! ### Texts in the way -/

/-- What is expected where a text does not fit. -/
def expectations : List String := ["a boolean", "struct ResolverConfig", "struct LoggingConfig"]

theorem expected_of_decodeFlag {value : Toml.Value} {found expected : String}
    (failed : decodeFlag value = .error (.wrongType (.text found) expected)) : expected = "a boolean" := by
  cases value with
  | flag => cases failed
  | text | integer | real | datetime | list | table | tables =>
    obtain ⟨-, same⟩ := Misfit.wrongType.inj (Except.error.inj failed)
    exact same.symm

theorem fits_decodeText (value : Toml.Value) (found expected : String) :
    decodeText value ≠ .error (.wrongType (.text found) expected) ∧
      decodePath value ≠ .error (.wrongType (.text found) expected) := by
  cases value with
  | text => exact ⟨nofun, nofun⟩
  | integer | real | flag | datetime | list | table | tables => exact ⟨nofun, nofun⟩

theorem expected_of_decodeResolver {value : Toml.Value} {found expected : String}
    (failed : ResolverSettings.schema.decode value = .error (.wrongType (.text found) expected)) :
    expected ∈ expectations := by
  refine (Schema.expected_of_error (fun field listed part item found expected refused => ?_) failed).elim id
    fun own => own.2 ▸ by decide
  rcases List.mem_pair.mp listed with rfl | rfl
  · rw [expected_of_decodeFlag (Outcome.bind_return_eq_error_iff.mp refused)]
    decide
  · exact absurd (Outcome.bind_return_eq_error_iff.mp refused) (fits_decodeText item found expected).2

theorem expected_of_decodeLog {value : Toml.Value} {found expected : String}
    (failed : LogSettings.schema.decode value = .error (.wrongType (.text found) expected)) :
    expected ∈ expectations := by
  refine (Schema.expected_of_error (fun field listed part item found expected refused => ?_) failed).elim id
    fun own => own.2 ▸ by decide
  simp only [LogSettings.schema, List.mem_cons, List.not_mem_nil, or_false] at listed
  rcases listed with rfl | rfl | rfl | rfl
  · exact absurd (Outcome.bind_return_eq_error_iff.mp refused) (fits_decodeText item found expected).1
  · rw [expected_of_decodeFlag (Outcome.bind_return_eq_error_iff.mp refused)]
    decide
  · rw [expected_of_decodeFlag (Outcome.bind_return_eq_error_iff.mp refused)]
    decide
  · exact absurd (Outcome.bind_return_eq_error_iff.mp refused) (fits_decodeText item found expected).2

/-- A text does not fit where a truth value or a part of the settings is read, and nowhere else. -/
theorem expected_of_ofEntries {entries : List Toml.Entry} {found expected : String}
    (failed : ofEntries entries = .error (.wrongType (.text found) expected)) : expected ∈ expectations := by
  refine (Schema.expected_of_error (fun field listed part item found expected refused => ?_) failed).elim id
    fun own => nomatch own.1
  rcases List.mem_pair.mp listed with rfl | rfl
  · exact expected_of_decodeResolver (Outcome.bind_return_eq_error_iff.mp refused)
  · exact expected_of_decodeLog (Outcome.bind_return_eq_error_iff.mp refused)

/-- Reading entries comes to a text where a part of the settings or a truth value is expected. -/
inductive Blocked (found : String) (entries : List Toml.Entry) : String → Prop
  | resolver : schema.Reaches "resolver" (.text found) (.table .header entries) →
      Blocked found entries "struct ResolverConfig"
  | logging : schema.Reaches "logging" (.text found) (.table .header entries) →
      Blocked found entries "struct LoggingConfig"
  | resolverFlag {value : Toml.Value} : schema.Reaches "resolver" value (.table .header entries) →
      ResolverSettings.schema.Reaches "obfuscated" (.text found) value →
      Blocked found entries "a boolean"
  | loggingFlag {value : Toml.Value} {name : String} :
      schema.Reaches "logging" value (.table .header entries) → name ∈ ["json", "stderr"] →
      LogSettings.schema.Reaches name (.text found) value → Blocked found entries "a boolean"

theorem ofEntries_of_reaches {entries : List Toml.Entry} {name : String} {value : Toml.Value}
    (reaches : schema.Reaches name value (.table .header entries)) (known : name ∈ schema.fields.map Field.name)
    {misfit : Misfit}
    (refused : name = "resolver" ∧ ResolverSettings.schema.decode value = .error misfit ∨
      name = "logging" ∧ LogSettings.schema.decode value = .error misfit) :
    ofEntries entries = .error misfit := by
  refine reaches.decode known fun field listed named part => ?_
  rcases List.mem_pair.mp listed with rfl | rfl <;> rcases refused with ⟨rfl, refused⟩ | ⟨rfl, refused⟩
  · exact Outcome.bind_return_eq_error_iff.mpr refused
  · exact absurd named (by decide)
  · exact absurd named (by decide)
  · exact Outcome.bind_return_eq_error_iff.mpr refused

/-- The first text that does not fit is what entries are refused for. -/
theorem ofEntries_of_blocked {entries : List Toml.Entry} {found expected : String}
    (blocked : Blocked found entries expected) :
    ofEntries entries = .error (.wrongType (.text found) expected) := by
  cases blocked with
  | resolver reaches => exact ofEntries_of_reaches reaches (by decide) (.inl ⟨rfl, rfl⟩)
  | logging reaches => exact ofEntries_of_reaches reaches (by decide) (.inr ⟨rfl, rfl⟩)
  | resolverFlag reaches inside =>
    refine ofEntries_of_reaches reaches (by decide) (.inl ⟨rfl, ?_⟩)
    refine inside.decode (by decide) fun field listed named part => ?_
    rcases List.mem_pair.mp listed with rfl | rfl
    · rfl
    · exact absurd named (by decide)
  | @loggingFlag value name reaches flag inside =>
    have known : name ∈ LogSettings.schema.fields.map Field.name := by
      rcases List.mem_pair.mp flag with rfl | rfl <;> decide
    refine ofEntries_of_reaches reaches (by decide) (.inr ⟨rfl, ?_⟩)
    refine inside.decode known fun field listed named part => ?_
    subst named
    simp only [LogSettings.schema, List.mem_cons, List.not_mem_nil, or_false] at listed
    rcases listed with rfl | rfl | rfl | rfl
    · exact absurd flag (by decide)
    · rfl
    · rfl
    · exact absurd flag (by decide)

/-! ### Documents -/

/-- **Texts decide a level and paths, and nothing else.** Two documents that differ in texts are both refused,
with one report, or both accepted, with settings that differ in a level and in paths only. A text in the way
is what a document is refused for, and its report says `<redacted>` instead. -/
theorem parse_of_sameButTexts {text otherText : String} {entries others : List Toml.Entry}
    (read : Toml.parse? text = some entries) (otherRead : Toml.parse? otherText = some others)
    (same : List.Forall₂ Toml.Entry.SameButTexts entries others) :
    Outcome.Alike SameButTexts ((parse text).mapError Error.message)
        ((parse otherText).mapError Error.message) ∧
      (∀ found expected, Blocked found entries expected →
        parse text = .error (.misfit (.wrongType (.text found) expected))) ∧
      ∀ found expected, parse text = .error (.misfit (.wrongType (.text found) expected)) →
        expected ∈ expectations ∧
          (parse text).mapError Error.message = .error
            ("failed to parse toml config: invalid type: string \"<redacted>\", expected " ++ expected) := by
  have known : parse text = (ofEntries entries).mapError .misfit := by rw [parse, read]
  have otherKnown : parse otherText = (ofEntries others).mapError .misfit := by rw [parse, otherRead]
  refine ⟨?_, fun found expected blocked => ?_, fun found expected failed => ?_⟩
  · have alike := (alike_ofEntries same).mapError ("failed to parse toml config: " ++ ·)
    rw [known, otherKnown]
    rwa [Outcome.mapError_mapError, Outcome.mapError_mapError] at alike ⊢
  · rw [known, ofEntries_of_blocked blocked]
    rfl
  · have refused : ofEntries entries = .error (.wrongType (.text found) expected) := by
      obtain ⟨misfit, refused, same⟩ := Outcome.mapError_eq_error_iff.mp (known.symm.trans failed)
      rw [refused, Error.misfit.inj same]
    have listed : expected ∈ expectations := expected_of_ofEntries refused
    have free : ∀ expected ∈ expectations, '"' ∉ expected.toList := by decide
    refine ⟨listed, ?_⟩
    rw [failed]
    show Except.error ("failed to parse toml config: " ++ (Misfit.wrongType (.text found) expected).report) = _
    rw [Misfit.report_text found (free expected listed), ← String.append_assoc]
    rfl

/-- A document whose flag is a text with a mark, an end of line and a backslash, and one whose flag is a word. -/
theorem parse_of_sameButTexts_flag :
    let entries : List Toml.Entry := [.mk "resolver" (.table .header
      ([.mk "mappings" (.text "a")] ++ [.mk "obfuscated" (.text "say \"no\n\\")]))]
    let others : List Toml.Entry := [.mk "resolver" (.table .header
      [.mk "mappings" (.text "elsewhere"), .mk "obfuscated" (.text "yes")])]
    let text := "[resolver]\nmappings = 'a'\nobfuscated = \"say \\\"no\\n\\\\\"\n"
    let otherText := "[resolver]\nmappings = \"elsewhere\"\nobfuscated = \"yes\"\n"
    (Toml.parse? text = some entries ∧ Toml.parse? otherText = some others ∧
        List.Forall₂ Toml.Entry.SameButTexts entries others ∧ Blocked "say \"no\n\\" entries "a boolean") ∧
      Outcome.Alike SameButTexts ((parse text).mapError Error.message)
        ((parse otherText).mapError Error.message) ∧
      (parse text).mapError Error.message = .error
        "failed to parse toml config: invalid type: string \"<redacted>\", expected a boolean" := by
  intro entries others text otherText
  have read : Toml.parse? text = some entries := by decide +kernel
  have otherRead : Toml.parse? otherText = some others := by decide +kernel
  have same : List.Forall₂ Toml.Entry.SameButTexts entries others :=
    .cons (.mk _ (.table _ _ (.cons (.mk _ (.text _ _)) (.cons (.mk _ (.text _ _)) .nil)))) .nil
  have empty : schema.decode (.table .header []) = .ok {} := rfl
  have first : ResolverSettings.schema.decode (.table .header [.mk "mappings" (.text "a")]) =
      .ok { mappings := some "a" } := rfl
  have blocked : Blocked "say \"no\n\\" entries "a boolean" := .resolverFlag (.entry empty) (.entry first)
  obtain ⟨alike, refused, reported⟩ := parse_of_sameButTexts read otherRead same
  exact ⟨⟨read, otherRead, same, blocked⟩, alike, (reported _ _ (refused _ _ blocked)).2⟩

end Settings

end NameDomains
