/-
**The encodings of a snapshot.**

A snapshot has many encodings. Blanks may stand anywhere between the parts, texts may be escaped, entries may
stand in any order, records may hold other keys or be lists, and what is empty may be left out. All of them are
read back as the snapshot, and what the writer writes is one of them.

* `ClassPair.Form`, `Member.Form`, `MemberGroup.Form`, `Snapshot.Form` — the trees of records.
* `Snapshot.decode_of_formsWith` — each tree of a snapshot is decoded, whatever the trees of its maps are.
* `Snapshot.parse_of_encodedBy` — each encoding of a snapshot is read.
-/

import NameDomains.Proofs.Json.Print
import NameDomains.Snapshot.Decode
import NameDomains.Snapshot.Encode

namespace NameDomains

open Json

/-! ### Trees -/

/-- The fields of a class pair. -/
def ClassPair.forms (pair : ClassPair) : List FieldForm :=
  [⟨"human", TextForm pair.human, False⟩, ⟨"runtime", TextForm pair.runtime, False⟩]

/-- The trees of a class pair. -/
def ClassPair.Form (pair : ClassPair) : Node → Prop := RecordForm pair.forms

/-- The fields of a listed member. -/
def Member.forms (member : Member) : List FieldForm :=
  [⟨"name", TextForm member.name, False⟩,
    ⟨"descriptor", OptionalTextForm member.descriptor, member.descriptor = none⟩]

/-- The trees of a listed member. -/
def Member.Form (member : Member) : Node → Prop := RecordForm member.forms

/-- The fields of a member group. -/
def MemberGroup.forms (group : MemberGroup) : List FieldForm :=
  [⟨"class_name", TextForm group.className, False⟩,
    ⟨"members", ListForm Member.Form group.members, group.members = []⟩]

/-- The trees of a member group. -/
def MemberGroup.Form (group : MemberGroup) : Node → Prop := RecordForm group.forms

namespace Snapshot

/-- The trees of aliases. -/
def AliasesForm : NameMap → Node → Prop := MapForm TextForm

/-- The trees of the host's tables. -/
def TablesForm : MemberMaps → Node → Prop := MapForm AliasesForm

/-- The fields of a snapshot. -/
def forms (snapshot : Snapshot) : List FieldForm :=
  [⟨"classes", ListForm ClassPair.Form snapshot.classes, snapshot.classes = []⟩,
    ⟨"methods", ListForm MemberGroup.Form snapshot.methods, snapshot.methods = []⟩,
    ⟨"fields", ListForm MemberGroup.Form snapshot.fields, snapshot.fields = []⟩,
    ⟨"method_aliases", AliasesForm snapshot.methodAliases, snapshot.methodAliases = ∅⟩,
    ⟨"field_aliases", AliasesForm snapshot.fieldAliases, snapshot.fieldAliases = ∅⟩,
    ⟨"raw_methods", TablesForm snapshot.hostMethods, snapshot.hostMethods = ∅⟩,
    ⟨"raw_fields", TablesForm snapshot.hostFields, snapshot.hostFields = ∅⟩]

/-- The trees of a snapshot. -/
def Form (snapshot : Snapshot) : Node → Prop := RecordForm snapshot.forms

/-- The texts that encode a snapshot: the spellings of its trees, with whatever blanks around. -/
def EncodedBy (snapshot : Snapshot) (text : String) : Prop :=
  ∃ node, snapshot.Form node ∧ Spelled (.padded node) text.toList

end Snapshot

/-! ### Drafts -/

section Drafts

variable {Draft β : Type} {name : String} {value : β} {given : List String}

/-- The value of a field, once the field is given. -/
def kept (name : String) (value : β) (given : List String) : Option β :=
  if name ∈ given then some value else none

@[simp]
theorem kept_cons_self : kept name value (name :: given) = some value := if_pos List.mem_cons_self

@[simp]
theorem kept_cons_of_ne {other : String} (different : name ≠ other) :
    kept name value (other :: given) = kept name value given := by
  simp only [kept, List.mem_cons, different, false_or]

/-- A field that may be left out only for its default has its value in the end. -/
theorem getD_kept {default : β} (complete : name ∉ given → value = default) :
    (kept name value given).getD default = value := by
  unfold kept
  split
  · rfl
  · next missed => exact (complete missed).symm

/-- A field that is stored in one place of the draft fits its form. -/
theorem fieldFits {draft : List String → Draft} {field : Json.Field Draft} {form : FieldForm}
    {decode : Node → Decoded β} (get : Draft → Option β) (store : Draft → β → Draft)
    (named : field.name = form.name) (looks : field.isGiven = fun draft => (get draft).isSome)
    (reads : field.decode = fun draft node => decode node >>= fun value => return store draft value)
    (decoded : ∀ node, form.Form node → decode node = .ok value)
    (got : ∀ given, get (draft given) = kept form.name value given)
    (stored : ∀ given, store (draft given) value = draft (form.name :: given))
    (required : form.MayOmit → field.required = false) : FieldFits draft field form := by
  refine ⟨named, fun given => ?_, fun given node formed => ?_, required⟩
  · rw [looks]
    show (get (draft given)).isSome = _
    rw [got, kept]
    split <;> simp [*]
  · rw [reads]
    show (decode node >>= fun value => return store (draft given) value) = _
    rw [decoded node formed, ← stored]
    rfl

end Drafts

/-! ### Decoding -/

theorem ClassPair.decode_of_form (pair : ClassPair) (node : Node) (form : pair.Form node) :
    decode node = .ok pair := by
  have fits : List.Forall₂ (FieldFits fun given => (⟨kept "human" pair.human given,
      kept "runtime" pair.runtime given⟩ : Draft)) record.fields pair.forms :=
    .cons (fieldFits Draft.human (fun draft value => { draft with human := some value }) rfl rfl rfl
        (fun _ => decodeText_of_form) (fun _ => rfl) (fun _ => by simp) False.elim) <|
    .cons (fieldFits Draft.runtime (fun draft value => { draft with runtime := some value }) rfl rfl rfl
        (fun _ => decodeText_of_form) (fun _ => rfl) (fun _ => by simp) False.elim) .nil
  obtain ⟨given, read, complete⟩ := decodeRecord_of_form fits rfl form
  simp only [forms, List.forall_mem_cons] at complete
  obtain ⟨human, runtime, -⟩ := complete
  rw [decode, read]
  show Except.ok (⟨_, _⟩ : ClassPair) = _
  rw [getD_kept fun missed => (human missed).elim, getD_kept fun missed => (runtime missed).elim]

theorem Member.decode_of_form (member : Member) (node : Node) (form : member.Form node) :
    decode node = .ok member := by
  have fits : List.Forall₂ (FieldFits fun given => (⟨kept "name" member.name given,
      kept "descriptor" member.descriptor given⟩ : Draft)) record.fields member.forms :=
    .cons (fieldFits Draft.name (fun draft value => { draft with name := some value }) rfl rfl rfl
        (fun _ => decodeText_of_form) (fun _ => rfl) (fun _ => by simp) False.elim) <|
    .cons (fieldFits Draft.descriptor (fun draft value => { draft with descriptor := some value })
        rfl rfl rfl (fun _ => decodeOptionalText_of_form) (fun _ => rfl) (fun _ => by simp) fun _ => rfl) .nil
  obtain ⟨given, read, complete⟩ := decodeRecord_of_form fits rfl form
  simp only [forms, List.forall_mem_cons] at complete
  obtain ⟨name, descriptor, -⟩ := complete
  rw [decode, read]
  show Except.ok (⟨_, _⟩ : Member) = _
  rw [getD_kept fun missed => (name missed).elim, getD_kept descriptor]

theorem MemberGroup.decode_of_form (group : MemberGroup) (node : Node) (form : group.Form node) :
    decode node = .ok group := by
  have fits : List.Forall₂ (FieldFits fun given => (⟨kept "class_name" group.className given,
      kept "members" group.members given⟩ : Draft)) record.fields group.forms :=
    .cons (fieldFits Draft.className (fun draft value => { draft with className := some value })
        rfl rfl rfl (fun _ => decodeText_of_form) (fun _ => rfl) (fun _ => by simp) False.elim) <|
    .cons (fieldFits Draft.members (fun draft value => { draft with members := some value })
        rfl rfl rfl (fun _ => decodeList_of_form Member.decode_of_form) (fun _ => rfl)
        (fun _ => by simp) fun _ => rfl) .nil
  obtain ⟨given, read, complete⟩ := decodeRecord_of_form fits rfl form
  simp only [forms, List.forall_mem_cons] at complete
  obtain ⟨className, members, -⟩ := complete
  rw [decode, read]
  show Except.ok (⟨_, _⟩ : MemberGroup) = _
  rw [getD_kept fun missed => (className missed).elim, getD_kept members]

namespace Snapshot

theorem decodeAliases_of_form (aliases : NameMap) (node : Node) (form : AliasesForm aliases node) :
    decodeAliases node = .ok aliases :=
  @decodeMap_of_form _ TextForm decodeText (fun _ _ => decodeText_of_form) _ _ form

theorem decodeTables_of_form (tables : MemberMaps) (node : Node) (form : TablesForm tables node) :
    decodeTables node = .ok tables :=
  decodeMap_of_form decodeAliases_of_form form

/-- What has been read of a snapshot when the given fields have been. -/
def draft (snapshot : Snapshot) (given : List String) : Draft where
  classes := kept "classes" snapshot.classes given
  methods := kept "methods" snapshot.methods given
  fields := kept "fields" snapshot.fields given
  methodAliases := kept "method_aliases" snapshot.methodAliases given
  fieldAliases := kept "field_aliases" snapshot.fieldAliases given
  hostMethods := kept "raw_methods" snapshot.hostMethods given
  hostFields := kept "raw_fields" snapshot.hostFields given

/-- The fields of a snapshot, given the trees of aliases and of the host's tables. -/
def formsWith (aliases : NameMap → Node → Prop) (tables : MemberMaps → Node → Prop) (snapshot : Snapshot) :
    List FieldForm :=
  [⟨"classes", ListForm ClassPair.Form snapshot.classes, snapshot.classes = []⟩,
    ⟨"methods", ListForm MemberGroup.Form snapshot.methods, snapshot.methods = []⟩,
    ⟨"fields", ListForm MemberGroup.Form snapshot.fields, snapshot.fields = []⟩,
    ⟨"method_aliases", aliases snapshot.methodAliases, snapshot.methodAliases = ∅⟩,
    ⟨"field_aliases", aliases snapshot.fieldAliases, snapshot.fieldAliases = ∅⟩,
    ⟨"raw_methods", tables snapshot.hostMethods, snapshot.hostMethods = ∅⟩,
    ⟨"raw_fields", tables snapshot.hostFields, snapshot.hostFields = ∅⟩]

section Forms

variable {aliases : NameMap → Node → Prop} {tables : MemberMaps → Node → Prop}

theorem record_fits (aliasesDecoded : ∀ map node, aliases map node → decodeAliases node = .ok map)
    (tablesDecoded : ∀ map node, tables map node → decodeTables node = .ok map) (snapshot : Snapshot) :
    List.Forall₂ (FieldFits snapshot.draft) record.fields (formsWith aliases tables snapshot) :=
  .cons (fieldFits Draft.classes (fun draft value => { draft with classes := some value }) rfl rfl rfl
      (fun _ => decodeList_of_form ClassPair.decode_of_form) (fun _ => rfl)
      (fun _ => by simp [draft]) fun _ => rfl) <|
  .cons (fieldFits Draft.methods (fun draft value => { draft with methods := some value }) rfl rfl rfl
      (fun _ => decodeList_of_form MemberGroup.decode_of_form) (fun _ => rfl)
      (fun _ => by simp [draft]) fun _ => rfl) <|
  .cons (fieldFits Draft.fields (fun draft value => { draft with fields := some value }) rfl rfl rfl
      (fun _ => decodeList_of_form MemberGroup.decode_of_form) (fun _ => rfl)
      (fun _ => by simp [draft]) fun _ => rfl) <|
  .cons (fieldFits Draft.methodAliases (fun draft value => { draft with methodAliases := some value })
      rfl rfl rfl (aliasesDecoded _) (fun _ => rfl) (fun _ => by simp [draft]) fun _ => rfl) <|
  .cons (fieldFits Draft.fieldAliases (fun draft value => { draft with fieldAliases := some value })
      rfl rfl rfl (aliasesDecoded _) (fun _ => rfl) (fun _ => by simp [draft]) fun _ => rfl) <|
  .cons (fieldFits Draft.hostMethods (fun draft value => { draft with hostMethods := some value })
      rfl rfl rfl (tablesDecoded _) (fun _ => rfl) (fun _ => by simp [draft]) fun _ => rfl) <|
  .cons (fieldFits Draft.hostFields (fun draft value => { draft with hostFields := some value })
      rfl rfl rfl (tablesDecoded _) (fun _ => rfl) (fun _ => by simp [draft]) fun _ => rfl) .nil

/-- **Each tree of a snapshot is decoded**, if each tree of its maps is. -/
theorem decode_of_formsWith (aliasesDecoded : ∀ map node, aliases map node → decodeAliases node = .ok map)
    (tablesDecoded : ∀ map node, tables map node → decodeTables node = .ok map) (snapshot : Snapshot)
    (node : Node) (form : RecordForm (formsWith aliases tables snapshot) node) : decode node = .ok snapshot := by
  obtain ⟨given, read, complete⟩ :=
    decodeRecord_of_form (record_fits aliasesDecoded tablesDecoded snapshot) rfl form
  simp only [formsWith, List.forall_mem_cons] at complete
  obtain ⟨classes, methods, fields, methodAliases, fieldAliases, hostMethods, hostFields, -⟩ := complete
  rw [decode, read]
  show Except.ok (⟨_, _, _, _, _, _, _⟩ : Snapshot) = _
  simp only [draft]
  rw [getD_kept classes, getD_kept methods, getD_kept fields, getD_kept methodAliases,
    getD_kept fieldAliases, getD_kept hostMethods, getD_kept hostFields]

end Forms

theorem decode_of_form (snapshot : Snapshot) (node : Node) (form : snapshot.Form node) :
    decode node = .ok snapshot :=
  decode_of_formsWith decodeAliases_of_form decodeTables_of_form snapshot node form

/-- A text is decoded as the tree that it spells. -/
theorem parse_of_spelled {text : String} {node : Node} (spelled : Spelled (.padded node) text.toList)
    {snapshot : Snapshot} (decoded : decode node = .ok snapshot) : parse text = .ok snapshot := by
  rw [parse, decodeDocument, Document.read_of_spelled spelled]
  show (decode node >>= fun value => _) = _
  rw [decoded]
  rfl

end Snapshot

/-! ### The writer -/

theorem ClassPair.written (pair : ClassPair) : Written pair.Form pair.encode :=
  written_record (show ["human", "runtime"].Nodup by decide)
    (.cons ⟨rfl, written_text _⟩ (.cons ⟨rfl, written_text _⟩ .nil))

theorem Member.written (member : Member) : Written member.Form member.encode :=
  written_record (show ["name", "descriptor"].Nodup by decide)
    (.cons ⟨rfl, written_text _⟩ (.cons ⟨rfl, written_optionalText _⟩ .nil))

theorem MemberGroup.written (group : MemberGroup) : Written group.Form group.encode :=
  written_record (show ["class_name", "members"].Nodup by decide) (.cons ⟨rfl, written_text _⟩
    (.cons ⟨rfl, written_list fun member _ => member.written⟩ .nil))

namespace Snapshot

theorem aliases_written (aliases : NameMap) : Written (AliasesForm aliases) (encodeAliases aliases) :=
  written_map written_text

theorem tables_written (tables : MemberMaps) : Written (TablesForm tables) (encodeTables tables) :=
  written_map aliases_written

theorem written (snapshot : Snapshot) : Written snapshot.Form snapshot.encode :=
  have distinct : ["classes", "methods", "fields", "method_aliases", "field_aliases", "raw_methods",
    "raw_fields"].Nodup := by decide
  written_record distinct <|
    .cons ⟨rfl, written_list fun pair _ => pair.written⟩ <|
    .cons ⟨rfl, written_list fun group _ => group.written⟩ <|
    .cons ⟨rfl, written_list fun group _ => group.written⟩ <|
    .cons ⟨rfl, aliases_written _⟩ <| .cons ⟨rfl, aliases_written _⟩ <|
    .cons ⟨rfl, tables_written _⟩ <| .cons ⟨rfl, tables_written _⟩ .nil

/-- **Reading undoes every way of writing.** What the writer writes encodes a snapshot, and every text that
encodes it is read as the snapshot. -/
theorem parse_of_encodedBy (snapshot : Snapshot) :
    snapshot.EncodedBy snapshot.encode ∧ parse snapshot.encode = .ok snapshot ∧
      ∀ text, snapshot.EncodedBy text → parse text = .ok snapshot := by
  have encoded : snapshot.EncodedBy snapshot.encode := by
    obtain ⟨node, form, spelled⟩ := snapshot.written
    exact ⟨node, form, padded_spelled spelled⟩
  have read : ∀ text, snapshot.EncodedBy text → parse text = .ok snapshot := by
    rintro text ⟨node, form, spelled⟩
    exact parse_of_spelled spelled (snapshot.decode_of_form node form)
  exact ⟨encoded, read _ encoded, read⟩

/-- A class pair as a list with an escaped slash, behind an unknown key whose value holds a number in scientific
notation and a surrogate that stands alone. -/
theorem parse_of_encodedBy_unknown_key :
    let snapshot : Snapshot := { empty with classes := [⟨"net/Foo", "a"⟩] }
    snapshot.EncodedBy "\x7b\"x\":[1E3,\"\\ud800\"],\"classes\":[[\"net\\u002fFoo\",\"a\"]] \x7d" ∧
      parse "\x7b\"x\":[1E3,\"\\ud800\"],\"classes\":[[\"net\\u002fFoo\",\"a\"]] \x7d" = .ok snapshot := by
  intro snapshot
  have power : PowerSpelled (some (false, ['3'])) (['E'] ++ [] ++ ['3']) :=
    .present (.inr rfl) (by decide) ⟨by decide, by simp⟩
  have number : NumberText.Spelled ⟨false, ['1'], none, some (false, ['3'])⟩ ([] ++ ['1'] ++ [] ++ ['E', '3']) :=
    .mk (by decide) ⟨by decide, by simp⟩ (.inl rfl) .absent power
  have surrogate : TextSpelled none ['"', '\\', 'u', 'd', '8', '0', '0', '"'] :=
    .unpaired (.cons (.code (List.all_eq_true.mp (by decide))) .nil) fun value same =>
      nomatch decodeUnits_of_sameCodes same
  have unknown := Spelled.list <| .item (padded_spelled (.number number)) <|
    .lastItem (padded_spelled (.text surrogate))
  have name : TextSpelled (some "net/Foo")
      ['"', 'n', 'e', 't', '\\', 'u', '0', '0', '2', 'f', 'F', 'o', 'o', '"'] :=
    .text ((UnitsSpelled.plain "net".toList (by decide)).append
      (.cons (.code (List.all_eq_true.mp (by decide))) (.plain "Foo".toList (by decide)))) rfl
  have first : TextSpelled (some "x") ['"', 'x', '"'] := .text (.plain "x".toList (by decide)) rfl
  have second : TextSpelled (some "classes") ['"', 'c', 'l', 'a', 's', 's', 'e', 's', '"'] :=
    .text (.plain "classes".toList (by decide)) rfl
  have runtime : TextSpelled (some "a") ['"', 'a', '"'] := .text (.plain "a".toList (by decide)) rfl
  have pair := Spelled.list <| .item (padded_spelled (.text name)) <| .lastItem (padded_spelled (.text runtime))
  have nothing : Blank [] := nofun
  have classes := Spelled.padded nothing (Spelled.list (.lastItem (padded_spelled pair)))
    (List.forall_mem_singleton.mpr rfl : Blank [' '])
  have document := Spelled.object <| .entries (.entry nothing first nothing (padded_spelled unknown)) <|
    .lastEntry (.entry nothing second nothing classes)
  have spelled := padded_spelled document
  simp only [List.cons_append, List.nil_append] at spelled
  have listed : ListForm ClassPair.Form snapshot.classes
      (.list [.list [.text (some "net/Foo"), .text (some "a")] none] none) :=
    ⟨_, .cons (.list (.item rfl (.item rfl (.dropped nofun)))) .nil, rfl⟩
  have form : ∀ value chars, Spelled (.value value) chars → snapshot.Form (.object [.mk (.text (some "x")) value,
      .mk (.text (some "classes")) (.list [.list [.text (some "net/Foo"), .text (some "a")] none] none)] none) := by
    intro value chars spelled
    refine @RecordForm.object snapshot.forms [("x", value), ("classes", _)] ?_ ?_ ?_ ?_
    · show (["x", "classes"].filter (· ∈ ["classes", "methods", "fields", "method_aliases", "field_aliases",
        "raw_methods", "raw_fields"])).Nodup
      decide
    · simpa [forms] using listed
    · simp [forms, snapshot, empty]
    · rintro key found listed other
      rcases List.mem_pair.mp listed with same | same
      · exact ⟨chars, (Prod.mk.inj same).2 ▸ spelled⟩
      · rw [(Prod.mk.inj same).1] at other
        exact absurd List.mem_cons_self other
  suffices encoded : snapshot.EncodedBy _ from ⟨encoded, (parse_of_encodedBy snapshot).2.2 _ encoded⟩
  exact ⟨_, form _ _ unknown, spelled⟩

end Snapshot

end NameDomains
