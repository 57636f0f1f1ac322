/-
**Which settings are accepted.**

Settings are accepted exactly if every entry fits, and then hold what is given and the defaults of all other
fields, in whatever order the document gives them. What is refused is refused for the first entry that does not
fit, in the order in which the tables of the document hold their entries. What is written in pieces stands in one
place there, so that this need not be the order of the text.

* `Toml.Value.Rearranged`, `Toml.Rearranged.lookup?` — values whose entries stand in another order.
* `Settings.entryFits_of_rearranged`, `Settings.stated_of_rearranged` — the order does not matter for what fits,
  nor for what is stated.
* `Settings.parse_of_read` — which documents are accepted, and what the others are refused for.
-/

import NameDomains.Proofs.Settings.Rules

namespace NameDomains

open Toml (lookup? Distinct)

/-! ### Values in another order -/

namespace Toml

mutual

/-- Two values that differ in the order of the entries of tables only, and in how tables came about. -/
inductive Value.Rearranged : Value → Value → Prop
  | same (value : Value) : Value.Rearranged value value
  | list {items others : List Value} :
      List.Forall₂ Value.Rearranged items others → Value.Rearranged (.list items) (.list others)
  | table (origin otherOrigin : Origin) {entries middle others : List Entry} : entries.Perm middle →
      List.Forall₂ Entry.Rearranged middle others →
      Value.Rearranged (.table origin entries) (.table otherOrigin others)
  | tables {rows others : List Value} :
      List.Forall₂ Value.Rearranged rows others → Value.Rearranged (.tables rows) (.tables others)

/-- Two entries with one key. -/
inductive Entry.Rearranged : Entry → Entry → Prop
  | mk (key : String) {value other : Value} :
      Value.Rearranged value other → Entry.Rearranged (.mk key value) (.mk key other)

end

/-- The entries of two tables, in whatever order. -/
def Rearranged (entries others : List Entry) : Prop :=
  ∃ middle, entries.Perm middle ∧ List.Forall₂ Entry.Rearranged middle others

/-- Under a key, tables whose entries stand in another order have the same, but for the order inside. -/
theorem Rearranged.lookup? {entries others : List Entry} (keys : (entries.map Entry.key).Nodup)
    (rearranged : Rearranged entries others) (key : String) :
    Option.Rel Value.Rearranged (lookup? entries key) (Toml.lookup? others key) := by
  obtain ⟨middle, perm, each⟩ := rearranged
  have same : Toml.lookup? entries key = Toml.lookup? middle key := by
    have keysMiddle : (middle.map Entry.key).Nodup := (perm.map _).nodup_iff.mp keys
    refine Option.ext fun value => ?_
    rw [lookup?_eq_some_iff keys, lookup?_eq_some_iff keysMiddle, perm.mem_iff]
  rw [same]
  clear same perm
  induction each with
  | nil => exact .none
  | cons here _ rest =>
    obtain ⟨name, here⟩ := here
    rw [lookup?_cons, lookup?_cons]
    show Option.Rel _ (if name = key then _ else _) (if name = key then _ else _)
    split
    · exact .some here
    · exact rest

end Toml

namespace Settings

open Toml (Rearranged)

theorem forall₂_zipWith {items others : List Toml.Value} (each : List.Forall₂ Toml.Value.Rearranged items others)
    (names : List String) : List.Forall₂ Toml.Entry.Rearranged (List.zipWith .mk names items)
      (List.zipWith .mk names others) := by
  induction each generalizing names with
  | nil => cases names <;> exact .nil
  | cons here _ rest =>
    cases names with
    | nil => exact .nil
    | cons name names => exact .cons (.mk name here) (rest names)

theorem Rearranged.listing? {value other : Toml.Value} (rearranged : value.Rearranged other)
    (names : List String) :
    Option.Rel Rearranged (Settings.listing? names value) (Settings.listing? names other) := by
  have same : ∀ entries : List Toml.Entry, Rearranged entries entries := fun entries =>
    ⟨entries, .rfl, List.forall₂_same.mpr fun ⟨key, value⟩ _ => .mk key (.same value)⟩
  cases rearranged with
  | same =>
    cases Settings.listing? names value with
    | none => exact .none
    | some entries => exact .some (same entries)
  | list each => exact .some ⟨_, .rfl, forall₂_zipWith each names⟩
  | table _ _ perm each => exact .some ⟨_, perm, each⟩
  | tables each => exact .some ⟨_, .rfl, forall₂_zipWith each names⟩

/-- What fits still fits when entries stand in another order. -/
def Rule.Respects (rule : Rule) : Prop :=
  ∀ value other, Toml.Value.Rearranged value other → rule.Fits value → rule.Fits other

theorem flagRule_respects (name : String) : (flagRule name).Respects := by
  rintro _ other rearranged ⟨flag, rfl⟩
  cases rearranged
  exact ⟨flag, rfl⟩

theorem textRule_respects (name expected : String) : (textRule name expected).Respects := by
  rintro _ other rearranged ⟨text, rfl⟩
  cases rearranged
  exact ⟨text, rfl⟩

theorem entryFits_of_rearranged {rules : List Rule} (respect : ∀ rule ∈ rules, rule.Respects)
    {entries others : List Toml.Entry} (rearranged : Rearranged entries others)
    (fits : ∀ entry ∈ entries, EntryFits rules entry) : ∀ entry ∈ others, EntryFits rules entry := by
  obtain ⟨middle, perm, each⟩ := rearranged
  intro other listed
  obtain ⟨entry, entryListed, rearranged⟩ := Entries.exists_mem_of_forall₂ each.flip listed
  obtain ⟨key, rearranged⟩ := rearranged
  obtain ⟨rule, ruleListed, same, fits⟩ := fits _ (perm.mem_iff.mpr entryListed)
  exact ⟨rule, ruleListed, same, respect rule ruleListed _ _ rearranged fits⟩

theorem partRule_respects {rules : List Rule} (respect : ∀ rule ∈ rules, rule.Respects) (name title : String) :
    (partRule name title rules).Respects := by
  rintro value other rearranged ⟨entries, listed, fits⟩
  have related := Rearranged.listing? rearranged (rules.map Rule.name)
  rw [listed] at related
  cases otherListed : listing? (rules.map Rule.name) other with
  | none =>
    rw [otherListed] at related
    cases related
  | some others =>
    rw [otherListed] at related
    cases related with
    | some rearranged => exact ⟨others, otherListed, entryFits_of_rearranged respect rearranged fits⟩

theorem rules_respect : ∀ rule ∈ rules, rule.Respects := by
  have resolver : ∀ rule ∈ resolverRules, rule.Respects :=
    List.forall_mem_cons.mpr ⟨flagRule_respects _, List.forall_mem_cons.mpr ⟨textRule_respects _ _, nofun⟩⟩
  have logging : ∀ rule ∈ loggingRules, rule.Respects :=
    List.forall_mem_cons.mpr ⟨textRule_respects _ _, List.forall_mem_cons.mpr ⟨flagRule_respects _,
      List.forall_mem_cons.mpr ⟨flagRule_respects _, List.forall_mem_cons.mpr ⟨textRule_respects _ _, nofun⟩⟩⟩⟩
  exact List.forall_mem_cons.mpr ⟨partRule_respects resolver _ _,
    List.forall_mem_cons.mpr ⟨partRule_respects logging _ _, nofun⟩⟩

/-- What is given inside a part is the same in whatever order, but for the order inside it. -/
theorem inside_of_rearranged {names : List String} (distinct : names.Nodup) {part other : Option Toml.Value}
    (tidy : ∀ value, part = some value → value.Tidy) (rearranged : Option.Rel Toml.Value.Rearranged part other)
    (name : String) : Option.Rel Toml.Value.Rearranged (inside names part name) (inside names other name) := by
  cases rearranged with
  | none => exact .none
  | @some value other rearranged =>
    have related := Rearranged.listing? rearranged names
    show Option.Rel _ (listing? names value >>= fun entries => lookup? entries name)
      (listing? names other >>= fun entries => lookup? entries name)
    cases listed : listing? names value with
    | none =>
      rw [listed] at related
      generalize listing? names other = others at related
      cases related
      exact .none
    | some entries =>
      rw [listed] at related
      generalize listing? names other = others at related
      cases related with
      | some rearranged =>
        exact rearranged.lookup? (distinct_listing? distinct (tidy value rfl) listed).keys name

theorem flagOr_of_rearranged {value other : Option Toml.Value}
    (rearranged : Option.Rel Toml.Value.Rearranged value other) (default : Bool) :
    flagOr default value = flagOr default other := by
  cases rearranged with
  | none => rfl
  | some rearranged => cases rearranged <;> rfl

theorem text?_of_rearranged {value other : Option Toml.Value}
    (rearranged : Option.Rel Toml.Value.Rearranged value other) : text? value = text? other := by
  cases rearranged with
  | none => rfl
  | some rearranged => cases rearranged <;> rfl

/-- **The order of entries does not matter** for what they state. -/
theorem stated_of_rearranged {entries others : List Toml.Entry} (distinct : Distinct entries)
    (rearranged : Rearranged entries others) : stated (lookup? entries) = stated (lookup? others) := by
  have given := rearranged.lookup? distinct.keys
  have tidy : ∀ name value, lookup? entries name = some value → value.Tidy := fun _ _ => distinct.lookup?_tidy
  have resolver := inside_of_rearranged resolver_obeys.distinct (tidy _) (given "resolver")
  have logging := inside_of_rearranged logging_obeys.distinct (tidy _) (given "logging")
  unfold stated ResolverSettings.stated LogSettings.stated
  simp only [flagOr_of_rearranged (resolver _), text?_of_rearranged (resolver _), flagOr_of_rearranged (logging _),
    text?_of_rearranged (logging _)]

/-! ### Documents -/

theorem ofEntries_eq_ok_iff {entries : List Toml.Entry} (distinct : Distinct entries) {settings : Settings} :
    ofEntries entries = .ok settings ↔
      (∀ entry ∈ entries, EntryFits rules entry) ∧ settings = stated (lookup? entries) := by
  constructor
  · intro accepted
    rcases settings_obeys.entries_decide entries with fits | ⟨misfit, refused⟩
    · exact ⟨fits, Except.ok.inj (accepted.symm.trans (settings_obeys.foldlM_eq_ok distinct fits))⟩
    · cases accepted.symm.trans (settings_obeys.foldlM_eq_error distinct refused)
  · rintro ⟨fits, rfl⟩
    exact settings_obeys.foldlM_eq_ok distinct fits

theorem ofEntries_eq_error_iff {entries : List Toml.Entry} (distinct : Distinct entries) {misfit : Misfit} :
    ofEntries entries = .error misfit ↔ FirstRefused rules entries misfit := by
  constructor
  · intro failed
    rcases settings_obeys.entries_decide entries with fits | ⟨other, refused⟩
    · cases failed.symm.trans (settings_obeys.foldlM_eq_ok distinct fits)
    · have same := failed.symm.trans (settings_obeys.foldlM_eq_error distinct refused)
      exact Except.error.inj same ▸ refused
  · exact settings_obeys.foldlM_eq_error distinct

theorem parse_eq {text : String} {entries : List Toml.Entry} (read : Toml.parse? text = some entries) :
    parse text = (ofEntries entries).mapError .misfit := by
  rw [parse, read]

/-- **Which documents are accepted, and what the others are refused for.** A document is accepted exactly if every
entry fits, and then holds what is given and the defaults of all other fields, in whatever order the entries
stand. Otherwise it is refused for the first entry that does not fit, in the order in which the tables hold their
entries: the parts in the order in which the text mentions them first or opens them by headers of their own, and
all in the order of the text where no key and no header has dots. -/
theorem parse_of_read {text : String} {entries : List Toml.Entry} (read : Toml.parse? text = some entries) :
    (∀ settings, parse text = .ok settings ↔
        (∀ entry ∈ entries, EntryFits rules entry) ∧ settings = stated (lookup? entries)) ∧
      (∀ otherText others settings, Toml.parse? otherText = some others → Rearranged entries others →
        parse text = .ok settings → parse otherText = .ok settings) ∧
      (∀ error, parse text = .error error ↔
        ∃ misfit, error = .misfit misfit ∧ FirstRefused rules entries misfit) ∧
      ∀ document, Toml.readDocument text.toList = some document →
        entries.map Toml.Entry.key = document.keys ∧ (document.IsPlain → entries = document.listing) := by
  have distinct := Toml.distinct_of_parse? read
  refine ⟨fun settings => ?_, fun otherText others settings otherRead rearranged accepted => ?_, fun error => ?_,
    fun document made => ?_⟩
  · rw [parse_eq read, Outcome.mapError_eq_ok_iff, ofEntries_eq_ok_iff distinct]
  · rw [parse_eq read, Outcome.mapError_eq_ok_iff, ofEntries_eq_ok_iff distinct] at accepted
    obtain ⟨fits, rfl⟩ := accepted
    rw [parse_eq otherRead, Outcome.mapError_eq_ok_iff, ofEntries_eq_ok_iff (Toml.distinct_of_parse? otherRead)]
    exact ⟨entryFits_of_rearranged rules_respect rearranged fits, stated_of_rearranged distinct rearranged⟩
  · rw [parse_eq read, Outcome.mapError_eq_error_iff]
    simp only [ofEntries_eq_error_iff distinct]
    exact exists_congr fun misfit => ⟨fun ⟨refused, same⟩ => ⟨same.symm, refused⟩,
      fun ⟨same, refused⟩ => ⟨refused, same.symm⟩⟩
  · obtain ⟨other, otherMade, root⟩ := Option.bind_eq_some_iff.mp read
    obtain rfl := Option.some.inj (made.symm.trans otherMade)
    exact ⟨Toml.keys_root root, fun plain => Toml.root_of_isPlain plain (Toml.read_readDocument made) root⟩

/-- A part that is a list with one item too many, before and after a table with one key. -/
theorem parse_of_read_list :
    let text := "resolver = [false, \"m.json\", 7]\n[logging]\njson = true\n"
    let otherText := "logging.json = true\nresolver = [false, \"m.json\", 7]\n"
    let settings : Settings :=
      { resolver := { obfuscated := false, mappings := some "m.json" }, logging := { json := true } }
    parse text = .ok settings ∧ parse otherText = .ok settings := by
  intro text otherText settings
  let items : Toml.Value := .list [.flag false, .text "m.json", .integer 7]
  let flags : List Toml.Entry := [.mk "json" (.flag true)]
  have read : Toml.parse? text = some [.mk "resolver" items, .mk "logging" (.table .header flags)] := by decide +kernel
  have otherRead : Toml.parse? otherText =
      some [.mk "logging" (.table .dotted flags), .mk "resolver" items] := by decide +kernel
  have resolver : EntryFits rules (.mk "resolver" items) := by
    refine ⟨_, List.mem_cons_self, rfl, _, rfl, List.forall_mem_cons.mpr ⟨?_, List.forall_mem_singleton.mpr ?_⟩⟩
    · exact ⟨_, List.mem_cons_self, rfl, false, rfl⟩
    · exact ⟨_, List.mem_cons_of_mem _ List.mem_cons_self, rfl, "m.json", rfl⟩
  have logging : EntryFits rules (.mk "logging" (.table .header flags)) := by
    refine ⟨_, List.mem_cons_of_mem _ List.mem_cons_self, rfl, _, rfl, List.forall_mem_singleton.mpr ?_⟩
    exact ⟨_, List.mem_cons_of_mem _ List.mem_cons_self, rfl, true, rfl⟩
  have rearranged : Rearranged [.mk "resolver" items, .mk "logging" (.table .header flags)]
      [.mk "logging" (.table .dotted flags), .mk "resolver" items] :=
    ⟨_, .swap _ _ [], .cons (.mk _ (.table _ _ .rfl (.cons (.mk _ (.same _)) .nil)))
      (.cons (.mk _ (.same _)) .nil)⟩
  obtain ⟨accepted, moved, -, -⟩ := parse_of_read read
  have first : parse text = .ok settings :=
    (accepted settings).mpr ⟨List.forall_mem_cons.mpr ⟨resolver, List.forall_mem_singleton.mpr logging⟩, rfl⟩
  exact ⟨first, moved otherText _ settings otherRead rearranged first⟩

/-- The first entry of the text that does not fit is not the one that the document is refused for: the table of
log settings is written in two pieces, and its second piece is met first. -/
theorem not_first_in_text :
    let text := "logging.level = \"info\"\nresolver.obfuscated = 3\nlogging.json = 4\n"
    Toml.readDocument text.toList = some ⟨[⟨["logging"], "level", .text "info"⟩,
        ⟨["resolver"], "obfuscated", .integer 3⟩, ⟨["logging"], "json", .integer 4⟩], []⟩ ∧
      parse text = .error (.misfit (.wrongType (.integer 4) "a boolean")) ∧
      parse text ≠ .error (.misfit (.wrongType (.integer 3) "a boolean")) := by
  intro text
  have made : Toml.readDocument text.toList = some ⟨[⟨["logging"], "level", .text "info"⟩,
      ⟨["resolver"], "obfuscated", .integer 3⟩, ⟨["logging"], "json", .integer 4⟩], []⟩ := by decide +kernel
  have read : Toml.parse? text = some [.mk "logging" (.table .dotted [.mk "level" (.text "info"),
      .mk "json" (.integer 4)]), .mk "resolver" (.table .dotted [.mk "obfuscated" (.integer 3)])] := by
    rw [Toml.parse?, made]
    rfl
  have refused : parse text = .error (.misfit (.wrongType (.integer 4) "a boolean")) := by
    rw [parse_eq read]
    rfl
  refine ⟨made, refused, fun other => ?_⟩
  rw [refused] at other
  cases other

end Settings

end NameDomains
