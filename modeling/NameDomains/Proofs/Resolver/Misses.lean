/-
**What a resolver misses, and what it logs.**

A query of an obfuscated host is a miss for one reason out of a few: the class is not in the table, the
owner of a member has no records, none of them is filed under the key, the one that is has no name in the
domain, or a text is no descriptor of the kind asked for. Nothing else is a miss; in particular a descriptor
may hold classes that no table knows.

* `ResolverTables.Lacks`, `ResolverTables.Misses` — the reasons.
* `Resolver.answer_of_misses`, `Resolver.answer_of_not_misses` — a miss comes back with one warning, and
  nothing else is logged.
* `Resolver.answers_eq` — queries put one after another are answered each as if it were alone.
* `Resolver.answers_warn_misses` — both, at every place of a run.
-/

import NameDomains.Proofs.ClassTable.Respelling
import NameDomains.Proofs.Resolver.DescriptorText
import NameDomains.Resolver.Query

namespace NameDomains

/-! ### Reasons for a miss -/

namespace ResolverTables

/-- Why a member is not found: its owner has no records, none of them is filed under its key, or its record
has no name in the domain. -/
inductive Lacks (tables : ResolverTables) (owner name : String) (descriptor : Option String)
    (domain : Domain) : Prop
  | owner : (tables.members descriptor).classRecords? owner = none →
      Lacks tables owner name descriptor domain
  | key {records : Std.ExtTreeMap String MemberRecord} :
      (tables.members descriptor).classRecords? owner = some records →
      records[(tables.members descriptor).kind.key name descriptor]? = none →
      Lacks tables owner name descriptor domain
  | name {records : Std.ExtTreeMap String MemberRecord} {record : MemberRecord} :
      (tables.members descriptor).classRecords? owner = some records →
      records[(tables.members descriptor).kind.key name descriptor]? = some record →
      record.nameIn domain = none → Lacks tables owner name descriptor domain

/-- **A member is not found for exactly these reasons.** -/
theorem memberName?_eq_none_iff {tables : ResolverTables} {owner name : String}
    {descriptor : Option String} {domain : Domain} :
    tables.memberName? owner name descriptor domain = none ↔
      tables.Lacks owner name descriptor domain := by
  unfold memberName? MemberTable.get?
  constructor
  · intro nameless
    cases tabled : (tables.members descriptor).classRecords? owner with
    | none => exact .owner tabled
    | some records =>
      cases filed : records[(tables.members descriptor).kind.key name descriptor]? with
      | none => exact .key tabled filed
      | some record =>
        dsimp only at nameless
        rw [tabled, Option.bind_some, filed, Option.bind_some] at nameless
        exact .name tabled filed nameless
  · rintro (untabled | ⟨tabled, unfiled⟩ | ⟨tabled, filed, nameless⟩)
    · simp only [untabled, Option.bind_none]
    · simp only [tabled, Option.bind_some, unfiled, Option.bind_none]
    · simp only [tabled, Option.bind_some, filed, nameless]

/-- The queries that the tables of an obfuscated host miss. -/
def Misses (tables : ResolverTables) : Query → Prop
  | .className name direction => tables.classes.counterpart? name direction = none
  | @Query.classNameOf _ _ handle direction =>
    tables.classes.counterpart? (ClassHandle.className handle) direction = none
  | .memberName owner name descriptor domain => tables.Lacks owner name descriptor domain
  | .methodName owner name descriptor domain => tables.Lacks owner name (some descriptor) domain
  | .fieldName owner name domain => tables.Lacks owner name none domain
  | .memberNameOf member domain => tables.Lacks member.owner member.name member.descriptor domain
  | .renameMethod .. => False
  | .renameField .. => False
  | .renameMethodText text _ => ∀ descriptor, Descriptor.parseMethod text ≠ .ok descriptor
  | .renameFieldText text _ => ∀ descriptor, Descriptor.parseField text ≠ .ok descriptor

end ResolverTables

namespace Resolver

/-- The queries that a resolver misses. The resolver of a host that is not obfuscated misses none. -/
def Misses : Resolver → Query → Prop
  | obfuscated tables, query => tables.Misses query
  | identity, _ => False

/-! ### One query -/

/-- A query comes back with one warning. -/
def Warned (input : Answer) (outcome : Logged Answer) : Prop :=
  ∃ warning, outcome = ⟨input, [warning]⟩ ∧ warning.level = .warn ∧ warning.target = "obfmap.resolve"

theorem Warned.of_text {input : String} {outcome : Logged String} {warning : Event}
    (same : outcome = ⟨input, [warning]⟩) (level : warning.level = .warn)
    (target : warning.target = "obfmap.resolve") :
    Warned (.text input) (Answer.text <$> outcome) := by
  subst same
  exact ⟨warning, rfl, level, target⟩

theorem events_map_text (outcome : Logged String) :
    (Answer.text <$> outcome).events = outcome.events :=
  List.append_nil outcome.events

theorem warned_resolve {tables : ResolverTables} {name : String} {direction : Direction}
    (unknown : tables.classes.counterpart? name direction = none) :
    Warned (.text name) (Answer.text <$> (obfuscated tables).className name direction) :=
  .of_text (ClassTable.resolve_of_unknown unknown) rfl rfl

theorem events_resolve_of_known {tables : ResolverTables} {name : String} {direction : Direction}
    (known : tables.classes.counterpart? name direction ≠ none) :
    ((obfuscated tables).className name direction).events = [] := by
  obtain ⟨counterpart, found⟩ := Option.ne_none_iff_exists'.mp known
  show (tables.classes.resolve name direction).events = []
  rw [ClassTable.resolve_of_known found, Logged.events_pure]

theorem warned_memberName {tables : ResolverTables} {owner name : String} {descriptor : Option String}
    {domain : Domain} (lacking : tables.Lacks owner name descriptor domain) :
    Warned (.text name)
      (Answer.text <$> (obfuscated tables).memberName owner name descriptor domain) := by
  have nameless := ResolverTables.memberName?_eq_none_iff.mpr lacking
  have missed : (obfuscated tables).memberName owner name descriptor domain =
      ⟨name, [.memberUnknown owner ((tables.members descriptor).kind.key name descriptor)
        (tables.members descriptor).kind domain]⟩ := by
    show tables.memberName owner name descriptor domain = _
    rw [ResolverTables.memberName, nameless]
    rfl
  exact .of_text missed rfl rfl

theorem events_memberName_of_found {tables : ResolverTables} {owner name : String}
    {descriptor : Option String} {domain : Domain}
    (present : ¬ tables.Lacks owner name descriptor domain) :
    ((obfuscated tables).memberName owner name descriptor domain).events = [] := by
  rw [← ResolverTables.memberName?_eq_none_iff] at present
  obtain ⟨found, answered⟩ := Option.ne_none_iff_exists'.mp present
  show (tables.memberName owner name descriptor domain).events = []
  rw [ResolverTables.memberName, answered, Logged.events_pure]

/-- **A miss comes back with one warning.** -/
theorem answer_of_misses {resolver : Resolver} {query : Query} (missed : resolver.Misses query) :
    Warned query.input (resolver.answer query) := by
  cases resolver with
  | identity => exact missed.elim
  | obfuscated tables =>
    cases query with
    | className name direction => exact warned_resolve missed
    | classNameOf handle direction => exact warned_resolve missed
    | memberName owner name descriptor domain => exact warned_memberName missed
    | methodName owner name descriptor domain => exact warned_memberName missed
    | fieldName owner name domain => exact warned_memberName missed
    | memberNameOf member domain => exact warned_memberName missed
    | renameMethod descriptor direction => exact missed.elim
    | renameField descriptor direction => exact missed.elim
    | renameMethodText text direction =>
      cases read : Descriptor.parseMethod text with
      | ok descriptor => exact absurd read (missed descriptor)
      | error error =>
        have unread : MemberKind.parse .method text = .error error := read
        exact .of_text (renameText_of_unread unread tables direction) rfl rfl
    | renameFieldText text direction =>
      cases read : Descriptor.parseField text with
      | ok descriptor => exact absurd read (missed descriptor)
      | error error =>
        have unread : MemberKind.parse .field text = .error error := read
        exact .of_text (renameText_of_unread unread tables direction) rfl rfl

/-- **Nothing else is logged.** -/
theorem answer_of_not_misses {resolver : Resolver} {query : Query} (hit : ¬ resolver.Misses query) :
    (resolver.answer query).events = [] := by
  cases resolver with
  | identity => cases query <;> rfl
  | obfuscated tables =>
    cases query with
    | className name direction => exact (events_map_text _).trans (events_resolve_of_known hit)
    | classNameOf handle direction => exact (events_map_text _).trans (events_resolve_of_known hit)
    | memberName owner name descriptor domain =>
      exact (events_map_text _).trans (events_memberName_of_found hit)
    | methodName owner name descriptor domain =>
      exact (events_map_text _).trans (events_memberName_of_found hit)
    | fieldName owner name domain => exact (events_map_text _).trans (events_memberName_of_found hit)
    | memberNameOf member domain => exact (events_map_text _).trans (events_memberName_of_found hit)
    | renameMethod descriptor direction => rfl
    | renameField descriptor direction => rfl
    | renameMethodText text direction =>
      have read : ∃ descriptor, MemberKind.parse .method text = .ok descriptor := by
        by_contra unread
        exact hit fun descriptor parsed => unread ⟨descriptor, parsed⟩
      obtain ⟨descriptor, parsed⟩ := read
      have answered := renameText_of_parsed parsed tables direction
      exact (events_map_text _).trans (congrArg Logged.events answered)
    | renameFieldText text direction =>
      have read : ∃ descriptor, MemberKind.parse .field text = .ok descriptor := by
        by_contra unread
        exact hit fun descriptor parsed => unread ⟨descriptor, parsed⟩
      obtain ⟨descriptor, parsed⟩ := read
      have answered := renameText_of_parsed parsed tables direction
      exact (events_map_text _).trans (congrArg Logged.events answered)

/-- Whatever a query logs is a warning about names. -/
theorem warning_of_mem_events {resolver : Resolver} {query : Query} {event : Event}
    (logged : event ∈ (resolver.answer query).events) :
    event.level = .warn ∧ event.target = "obfmap.resolve" := by
  by_cases missed : resolver.Misses query
  · obtain ⟨warning, answered, warns⟩ := answer_of_misses missed
    rw [answered, List.mem_singleton] at logged
    exact logged ▸ warns
  · rw [answer_of_not_misses missed] at logged
    cases logged

/-- The resolver of a host that is not obfuscated answers every query with what it is about. -/
theorem answer_identity (query : Query) : identity.answer query = pure query.input := by
  cases query <;> rfl

/-! ### Runs -/

theorem answers_cons (resolver : Resolver) (query : Query) (queries : List Query) :
    resolver.answers (query :: queries) =
      ⟨(resolver.answer query).value :: (resolver.answers queries).value,
        (resolver.answer query).events ++ (resolver.answers queries).events⟩ := by
  rw [answers, List.mapM_cons]
  exact congrArg (Logged.mk _) (congrArg _ (List.append_nil _))

/-- **Queries put one after another are answered and logged each as if it were alone.** -/
theorem answers_eq (resolver : Resolver) (queries : List Query) :
    resolver.answers queries =
      ⟨queries.map fun query => (resolver.answer query).value,
        queries.flatMap fun query => (resolver.answer query).events⟩ := by
  induction queries with
  | nil => rfl
  | cons query queries rest => rw [answers_cons, rest, List.map_cons, List.flatMap_cons]

/-- **One warning for each miss, and nothing else.** Wherever a query stands in a run, it is answered as if
it were the only one. If it is a miss, what it is about comes back with one warning; if it is none, nothing is
logged. A resolver without tables misses nothing and gives back what every query is about. -/
theorem answers_warn_misses (resolver : Resolver) (earlier : List Query) (query : Query)
    (later : List Query) :
    resolver.answers (earlier ++ query :: later) =
      ⟨(resolver.answers earlier).value ++
          (resolver.answer query).value :: (resolver.answers later).value,
        (resolver.answers earlier).events ++
          ((resolver.answer query).events ++ (resolver.answers later).events)⟩ ∧
    (resolver.answers earlier).value.length = earlier.length ∧
    (resolver.Misses query → ∃ warning, resolver.answer query = ⟨query.input, [warning]⟩ ∧
      warning.level = .warn ∧ warning.target = "obfmap.resolve") ∧
    (¬ resolver.Misses query → (resolver.answer query).events = []) ∧
    (resolver.isObfuscated = false →
      ¬ resolver.Misses query ∧ resolver.answer query = pure query.input) := by
  refine ⟨?_, ?_, answer_of_misses, answer_of_not_misses, fun plain => ?_⟩
  · simp only [answers_eq, List.map_append, List.map_cons, List.flatMap_append, List.flatMap_cons]
  · rw [answers_eq, List.length_map]
  · cases resolver with
    | identity => exact ⟨id, answer_identity query⟩
    | obfuscated tables => cases plain

/-- A class that no table knows is missed as a query and not inside a descriptor. -/
theorem answers_warn_misses_unknown_class :
    ∃ (tables : ResolverTables) (warning : Event),
      ClassTable.ofPairs [("net.Foo", "a")] = .ok tables.classes ∧
      (obfuscated tables).Misses (.className "net/Bar" .toRuntime) ∧
      ¬ (obfuscated tables).Misses (.renameField (.object "net/Bar") .toRuntime) ∧
      (obfuscated tables).answer (.className "net/Bar" .toRuntime) =
        ⟨.text "net/Bar", [warning]⟩ ∧
      warning.level = .warn ∧
      ((obfuscated tables).answers
        [.renameField (.object "net/Bar") .toRuntime, .className "net/Bar" .toRuntime]).events =
          [warning] ∧
      identity.answer (.fieldName "net/Bar" "f_1" .human) = pure (.text "f_1") := by
  obtain ⟨classes, built⟩ : ∃ classes, ClassTable.ofPairs [("net.Foo", "a")] = .ok classes := ⟨_, rfl⟩
  have whole : classes = _ := Except.ok.inj (built.symm.trans rfl)
  let tables : ResolverTables := ⟨classes, ⟨.method, ∅⟩, ⟨.field, ∅⟩⟩
  have unknown : (obfuscated tables).Misses (.className "net/Bar" .toRuntime) := by
    show classes.counterpart? "net/Bar" .toRuntime = none
    rw [whole]
    decide
  obtain ⟨run, -, missed, -, -⟩ := answers_warn_misses (obfuscated tables)
    [.renameField (.object "net/Bar") .toRuntime] (.className "net/Bar" .toRuntime) []
  obtain ⟨warning, answered, level, -⟩ := missed unknown
  obtain ⟨-, -, -, -, plain⟩ := answers_warn_misses identity [] (.fieldName "net/Bar" "f_1" .human) []
  refine ⟨tables, warning, built, unknown, id, answered, level, ?_, (plain rfl).2⟩
  rw [← List.singleton_append, run, answered]
  rfl

end Resolver

end NameDomains
