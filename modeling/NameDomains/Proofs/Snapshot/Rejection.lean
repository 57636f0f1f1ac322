/-
**Snapshots that are refused.**

A snapshot is refused exactly if something in it offends, at whatever depth it stands: nothing is guessed and no
default takes the place of what is there. What is not refused means exactly one snapshot. In its maps, which may
give a key more than once, the last value of a key counts.

* `ClassPair.Offends`, `Member.Offends`, `MemberGroup.Offends`, `Snapshot.Offends` — how records offend.
* `Snapshot.Means` — the trees that mean a snapshot.
* `Snapshot.refuses` — nothing that offends is decoded.
* `Snapshot.covers` — what does not offend means a snapshot.
* `Snapshot.parse_eq_error_iff_offends` — which documents are refused, and what the others mean.
-/

import NameDomains.Proofs.Json.Coverage
import NameDomains.Proofs.Snapshot.Encodings

namespace NameDomains

open Json

/-! ### Offences -/

/-- What is asked of the fields of a class pair. -/
def ClassPair.rules : List FieldRule := [⟨"human", true, TextOffends⟩, ⟨"runtime", true, TextOffends⟩]

/-- What is no class pair. -/
def ClassPair.Offends : Node → Prop := RecordOffends rules

/-- What is asked of the fields of a listed member. Only a descriptor may be null. -/
def Member.rules : List FieldRule :=
  [⟨"name", true, TextOffends⟩, ⟨"descriptor", false, OptionalTextOffends⟩]

/-- What is no listed member. -/
def Member.Offends : Node → Prop := RecordOffends rules

/-- What is asked of the fields of a member group. -/
def MemberGroup.rules : List FieldRule :=
  [⟨"class_name", true, TextOffends⟩, ⟨"members", false, ListOffends Member.Offends⟩]

/-- What is no member group. -/
def MemberGroup.Offends : Node → Prop := RecordOffends rules

namespace Snapshot

/-- What is asked of the fields of a snapshot. None is required. -/
def rules : List FieldRule :=
  [⟨"classes", false, ListOffends ClassPair.Offends⟩,
    ⟨"methods", false, ListOffends MemberGroup.Offends⟩,
    ⟨"fields", false, ListOffends MemberGroup.Offends⟩,
    ⟨"method_aliases", false, MapOffends TextOffends⟩,
    ⟨"field_aliases", false, MapOffends TextOffends⟩,
    ⟨"raw_methods", false, MapOffends (MapOffends TextOffends)⟩,
    ⟨"raw_fields", false, MapOffends (MapOffends TextOffends)⟩]

/-- What is no snapshot. -/
def Offends : Node → Prop := RecordOffends rules

/-- The trees that mean a snapshot: each field that is given says its value, and one that is not given has its
default. In a map the last value of a key counts. -/
def Means (snapshot : Snapshot) : Node → Prop :=
  RecordForm (formsWith (LastMapForm TextForm) (LastMapForm (LastMapForm TextForm)) snapshot)

end Snapshot

/-! ### What offends is not decoded -/

theorem ClassPair.refuses : Refuses decode Offends := by
  have obeyed : List.Forall₂ (Obeys record) record.fields rules :=
    .cons (.of_store (fun draft value => { draft with human := some value }) rfl rfl rfl refuses_text
      fun draft value => by simp [record]) <|
    .cons (.of_store (fun draft value => { draft with runtime := some value }) rfl rfl rfl refuses_text
      fun draft value => by simp [record]) .nil
  exact (refuses_record obeyed (by decide) (by simp [record])).map _

theorem Member.refuses : Refuses decode Offends := by
  have obeyed : List.Forall₂ (Obeys record) record.fields rules :=
    .cons (.of_store (fun draft value => { draft with name := some value }) rfl rfl rfl refuses_text
      fun draft value => by simp [record]) <|
    .cons (.of_store (fun draft value => { draft with descriptor := some value }) rfl rfl rfl refuses_optionalText
      fun draft value => by simp [record]) .nil
  exact (refuses_record obeyed (by decide) (by simp [record])).map _

theorem MemberGroup.refuses : Refuses decode Offends := by
  have obeyed : List.Forall₂ (Obeys record) record.fields rules :=
    .cons (.of_store (fun draft value => { draft with className := some value }) rfl rfl rfl refuses_text
      fun draft value => by simp [record]) <|
    .cons (.of_store (fun draft value => { draft with members := some value }) rfl rfl rfl
      (refuses_list Member.refuses) fun draft value => by simp [record]) .nil
  exact (refuses_record obeyed (by decide) (by simp [record])).map _

theorem Snapshot.refuses : Refuses decode Offends := by
  have aliases : Refuses decodeAliases (MapOffends TextOffends) := refuses_map refuses_text
  have tables : Refuses decodeTables (MapOffends (MapOffends TextOffends)) := refuses_map aliases
  have obeyed : List.Forall₂ (Obeys record) record.fields rules :=
    .cons (.of_store (fun draft value => { draft with classes := some value }) rfl rfl rfl
      (refuses_list ClassPair.refuses) fun draft value => by simp [record]) <|
    .cons (.of_store (fun draft value => { draft with methods := some value }) rfl rfl rfl
      (refuses_list MemberGroup.refuses) fun draft value => by simp [record]) <|
    .cons (.of_store (fun draft value => { draft with fields := some value }) rfl rfl rfl
      (refuses_list MemberGroup.refuses) fun draft value => by simp [record]) <|
    .cons (.of_store (fun draft value => { draft with methodAliases := some value }) rfl rfl rfl aliases
      fun draft value => by simp [record]) <|
    .cons (.of_store (fun draft value => { draft with fieldAliases := some value }) rfl rfl rfl aliases
      fun draft value => by simp [record]) <|
    .cons (.of_store (fun draft value => { draft with hostMethods := some value }) rfl rfl rfl tables
      fun draft value => by simp [record]) <|
    .cons (.of_store (fun draft value => { draft with hostFields := some value }) rfl rfl rfl tables
      fun draft value => by simp [record]) .nil
  exact (refuses_record obeyed (by decide) (by simp [record])).map _

/-! ### What does not offend says something -/

theorem ClassPair.covers : Covers Form Offends := by
  intro node spellable fine
  obtain ⟨forms, chosen, formed⟩ := exists_recordForm
    (.cons (choice_required covers_text) (.cons (choice_required covers_text) .nil)) spellable fine
  obtain _ | ⟨⟨human, rfl⟩, _ | ⟨⟨runtime, rfl⟩, _ | _⟩⟩ := chosen
  exact ⟨⟨human, runtime⟩, formed⟩

theorem Member.covers : Covers Form Offends := by
  intro node spellable fine
  obtain ⟨forms, chosen, formed⟩ := exists_recordForm
    (.cons (choice_required covers_text) (.cons (choice_default covers_optionalText) .nil)) spellable fine
  obtain _ | ⟨⟨name, rfl⟩, _ | ⟨⟨descriptor, rfl⟩, _ | _⟩⟩ := chosen
  exact ⟨⟨name, descriptor⟩, formed⟩

theorem MemberGroup.covers : Covers Form Offends := by
  intro node spellable fine
  obtain ⟨forms, chosen, formed⟩ := exists_recordForm
    (.cons (choice_required covers_text) (.cons (choice_default (covers_list Member.covers)) .nil))
    spellable fine
  obtain _ | ⟨⟨className, rfl⟩, _ | ⟨⟨members, rfl⟩, _ | _⟩⟩ := chosen
  exact ⟨⟨className, members⟩, formed⟩

theorem Snapshot.covers : Covers Means Offends := by
  intro node spellable fine
  have aliases : Covers (LastMapForm TextForm) (MapOffends TextOffends) := covers_map covers_text
  obtain ⟨forms, chosen, formed⟩ := exists_recordForm
    (.cons (choice_default (covers_list ClassPair.covers)) <|
      .cons (choice_default (covers_list MemberGroup.covers)) <|
      .cons (choice_default (covers_list MemberGroup.covers)) <|
      .cons (choice_default aliases) <| .cons (choice_default aliases) <|
      .cons (choice_default (covers_map aliases)) <| .cons (choice_default (covers_map aliases)) .nil)
    spellable fine
  obtain _ | ⟨⟨classes, rfl⟩, _ | ⟨⟨methods, rfl⟩, _ | ⟨⟨fields, rfl⟩, _ | ⟨⟨methodAliases, rfl⟩,
    _ | ⟨⟨fieldAliases, rfl⟩, _ | ⟨⟨hostMethods, rfl⟩, _ | ⟨⟨hostFields, rfl⟩, _ | _⟩⟩⟩⟩⟩⟩⟩ := chosen
  exact ⟨⟨classes, methods, fields, methodAliases, fieldAliases, hostMethods, hostFields⟩, formed⟩

namespace Snapshot

theorem decode_of_means (snapshot : Snapshot) (node : Node) (means : snapshot.Means node) :
    decode node = .ok snapshot := by
  have aliases : ∀ map node, LastMapForm TextForm map node → decodeAliases node = .ok map :=
    fun _ _ => @decodeMap_of_lastForm _ TextForm decodeText (fun _ _ => decodeText_of_form) _ _
  have tables : ∀ map node, LastMapForm (LastMapForm TextForm) map node → decodeTables node = .ok map :=
    fun _ _ => decodeMap_of_lastForm aliases
  exact decode_of_formsWith aliases tables snapshot node means

/-! ### Documents -/

/-- A problem of the tree is the problem of the text that spells it. -/
theorem parse_eq_error_of_spelled {text : String} {node : Node} (spelled : Spelled (.padded node) text.toList)
    {problem : Problem} (refused : decode node = .error problem) : parse text = .error problem := by
  rw [parse, decodeDocument, Document.read_of_spelled spelled]
  show (decode node >>= fun value => _) = _
  rw [refused]
  rfl

/-- **A document is refused exactly if something in it offends, and otherwise read as what it means.** -/
theorem parse_eq_error_iff_offends {text : String} {node : Node} (spelled : Spelled (.padded node) text.toList) :
    ((∃ problem, parse text = .error problem) ↔ Offends node) ∧
      ∀ snapshot, parse text = .ok snapshot ↔ snapshot.Means node := by
  have refused : Offends node → ∃ problem, parse text = .error problem := by
    intro offends
    cases decoded : decode node with
    | error problem => exact ⟨problem, parse_eq_error_of_spelled spelled decoded⟩
    | ok snapshot => exact absurd offends (refuses node snapshot decoded)
  have read : ∀ snapshot, snapshot.Means node → parse text = .ok snapshot := fun snapshot means =>
    parse_of_spelled spelled (snapshot.decode_of_means node means)
  have fine : ¬ Offends node → ∃ snapshot, snapshot.Means node ∧ parse text = .ok snapshot := by
    intro fine
    obtain ⟨snapshot, means⟩ := covers node spelled.spellable_of_padded fine
    exact ⟨snapshot, means, read snapshot means⟩
  refine ⟨⟨fun failed => ?_, refused⟩, fun snapshot => ⟨fun parsed => ?_, read snapshot⟩⟩
  · by_contra innocent
    obtain ⟨problem, failed⟩ := failed
    obtain ⟨snapshot, -, parsed⟩ := fine innocent
    rw [failed] at parsed
    cases parsed
  · by_cases offends : Offends node
    · obtain ⟨problem, failed⟩ := refused offends
      rw [failed] at parsed
      cases parsed
    · obtain ⟨other, means, same⟩ := fine offends
      obtain rfl : snapshot = other := Except.ok.inj (parsed.symm.trans same)
      exact means

/-- A list as the descriptor of a member that is a list, behind an unknown key; and aliases that give a name
twice. -/
theorem parse_eq_error_iff_offends_nested :
    (∃ problem, parse "\x7b\"x\":null,\"methods\":[[\"A\",[[\"m\",[]]]]]\x7d" = .error problem) ∧
      ∃ snapshot, parse "\x7b\"method_aliases\":\x7b\"a\":\"b\",\"a\":\"c\"\x7d\x7d" = .ok snapshot ∧
        snapshot.methodAliases["a"]? = some "c" := by
  constructor
  · have member := writeList_spelled <|
      .cons (.text (quote_spelled "m")) <| .cons (writeList_spelled .nil) .nil
    have group := writeList_spelled <|
      .cons (.text (quote_spelled "A")) <| .cons (writeList_spelled (.cons member .nil)) .nil
    have unknown : EntrySpelled _ ("x", "null") := ⟨.null, rfl, .null⟩
    have methods : EntrySpelled _ ("methods", _) := ⟨_, rfl, writeList_spelled (.cons group .nil)⟩
    have spelled := padded_spelled (writeObject_spelled (.cons unknown (.cons methods .nil)))
    have descriptor : OptionalTextOffends (.list [] none) := ⟨nofun, nofun⟩
    have member : Member.Offends (.list [.text (some "m"), .list [] none] none) :=
      @RecordOffends.item _ _ _ 1 _ _ rfl rfl descriptor
    have group : MemberGroup.Offends
        (.list [.text (some "A"), .list [.list [.text (some "m"), .list [] none] none] none] none) :=
      @RecordOffends.item _ _ _ 1 _ _ rfl rfl (.item List.mem_cons_self member)
    refine (parse_eq_error_iff_offends spelled).1.mpr ?_
    exact .value (List.mem_cons_of_mem _ List.mem_cons_self) (List.mem_cons_of_mem _ List.mem_cons_self)
      (.item List.mem_cons_self group)
  · have first : EntrySpelled _ ("a", quote "b") := ⟨_, rfl, .text (quote_spelled "b")⟩
    have second : EntrySpelled _ ("a", quote "c") := ⟨_, rfl, .text (quote_spelled "c")⟩
    have aliases : EntrySpelled _ ("method_aliases", _) :=
      ⟨_, rfl, writeObject_spelled (.cons first (.cons second .nil))⟩
    have spelled := padded_spelled (writeObject_spelled (.cons aliases .nil))
    let map : NameMap := (∅ : NameMap).insertMany [("a", "b"), ("a", "c")]
    have last : map["a"]? = some "c" :=
      getElem?_insertMany_empty_iff.mpr ⟨[("a", "b")], [], rfl, rfl, nofun⟩
    have repeated : LastMapForm TextForm map _ := ⟨_, _, .cons ⟨_, rfl, rfl⟩ (.cons ⟨_, rfl, rfl⟩ .nil),
      fun _ _ => getElem?_insertMany_empty_iff, rfl⟩
    refine ⟨{ empty with methodAliases := map }, (parse_eq_error_iff_offends spelled).2 _ |>.mpr ?_, last⟩
    refine @RecordForm.object _ [("method_aliases", _)] (List.nodup_singleton _) ?_ ?_ ?_
    · simpa [formsWith] using repeated
    · simp [formsWith, empty]
    · simp [formsWith]

end Snapshot

end NameDomains
