/-
**What no table knows.**

Where its tables have nothing to say, the resolver of an obfuscated host answers as that of any other host
does: with what the query is about. For a descriptor this takes more than a failed lookup, as it is taken
apart and put together again, and a text is read and written besides.

* `ResolverTables.Unknown` — the queries for which the tables have nothing.
* `ResolverTables.renameText_of_unknown` — texts come back as they were, whether they are descriptors or not.
* `Resolver.value_answer_of_unknown` — such queries are answered alike by both resolvers.
* `Resolver.result_build_of_listsNothing` — the tables of a snapshot that lists nothing know nothing.
* `Resolver.answers_as_identity` — all of it.
-/

import NameDomains.Proofs.Resolver.Build
import NameDomains.Proofs.Resolver.ClassAnswers
import NameDomains.Proofs.Resolver.Misses

namespace NameDomains

/-- No class name in a descriptor is known to a renaming. -/
def ClassRenaming.KnowsNoneOf (newName : ClassRenaming) (descriptor : Descriptor) : Prop :=
  ∀ name ∈ descriptor.classNames, newName name = none

instance {newName : ClassRenaming} {descriptor : Descriptor} :
    Decidable (newName.KnowsNoneOf descriptor) :=
  inferInstanceAs (Decidable (∀ name ∈ descriptor.classNames, newName name = none))

theorem Descriptor.rename_of_knowsNoneOf {newName : ClassRenaming} {descriptor : Descriptor}
    (unknown : newName.KnowsNoneOf descriptor) : descriptor.rename newName = descriptor := by
  refine rename_eq_self_iff.mpr fun name listed => ?_
  rw [ClassRenaming.apply, unknown name listed]

namespace ResolverTables

variable {tables : ResolverTables}

/-- The queries for which tables have nothing: they have no counterpart of the class asked for, of no class
in the descriptor asked for, and no name of the member in the domain. -/
def Unknown (tables : ResolverTables) : Query → Prop
  | .className name direction => tables.classes.counterpart? name direction = none
  | @Query.classNameOf _ _ handle direction =>
    tables.classes.counterpart? (ClassHandle.className handle) direction = none
  | .memberName owner name descriptor domain => tables.memberName? owner name descriptor domain = none
  | .methodName owner name descriptor domain =>
    tables.memberName? owner name (some descriptor) domain = none
  | .fieldName owner name domain => tables.memberName? owner name none domain = none
  | .memberNameOf member domain =>
    tables.memberName? member.owner member.name member.descriptor domain = none
  | .renameMethod descriptor direction => (tables.classes.directed direction).KnowsNoneOf descriptor
  | .renameField descriptor direction => (tables.classes.directed direction).KnowsNoneOf descriptor
  | .renameMethodText text direction => ∀ descriptor, Descriptor.parseMethod text = .ok descriptor →
    (tables.classes.directed direction).KnowsNoneOf descriptor
  | .renameFieldText text direction => ∀ descriptor, Descriptor.parseField text = .ok descriptor →
    (tables.classes.directed direction).KnowsNoneOf descriptor

theorem value_resolve_of_unknown {classes : ClassTable} {name : String} {direction : Direction}
    (unknown : classes.counterpart? name direction = none) :
    (classes.resolve name direction).value = name := by
  rw [ClassTable.resolve_of_unknown unknown]

theorem value_memberName_of_unknown {owner name : String} {descriptor : Option String}
    {domain : Domain} (unknown : tables.memberName? owner name descriptor domain = none) :
    (tables.memberName owner name descriptor domain).value = name := by
  rw [memberName, unknown]
  rfl

/-- **A text comes back as it was** if it is no descriptor or one of which no class is known. -/
theorem renameText_of_unknown (kind : MemberKind) {text : String} {direction : Direction}
    (unknown : ∀ descriptor, kind.parse text = .ok descriptor →
      (tables.classes.directed direction).KnowsNoneOf descriptor) :
    ((Resolver.obfuscated tables).renameText kind text direction).value = text := by
  cases read : kind.parse text with
  | ok descriptor =>
    -- What was read is written as it was, so it is enough that nothing in it is renamed.
    obtain ⟨-, -, written⟩ := MemberKind.parse_eq_ok_iff.mp read
    rw [Resolver.renameText_of_parsed read, Descriptor.rename_of_knowsNoneOf (unknown descriptor read), written]
    rfl
  | error error => rw [Resolver.renameText_of_unread read]

/-- A class that no query finds is none that a renaming knows. -/
theorem directed_of_counterpart? {pairs : List (String × String)}
    (built : ClassTable.ofPairs pairs = .ok tables.classes) {name : String} {direction : Direction}
    (unknown : tables.classes.counterpart? name direction = none) :
    tables.classes.directed direction name = none := by
  rw [(ClassTable.holds_of_ofPairs built).directed_eq, unknown, ite_self]

end ResolverTables

namespace Resolver

/-- **What the tables do not know is answered as by the resolver without tables.** -/
theorem value_answer_of_unknown {tables : ResolverTables} {query : Query}
    (unknown : tables.Unknown query) :
    ((obfuscated tables).answer query).value = (identity.answer query).value := by
  rw [answer_identity]
  cases query with
  | className name direction =>
    exact congrArg Answer.text (ResolverTables.value_resolve_of_unknown unknown)
  | classNameOf handle direction =>
    exact congrArg Answer.text (ResolverTables.value_resolve_of_unknown unknown)
  | memberName owner name descriptor domain =>
    exact congrArg Answer.text (ResolverTables.value_memberName_of_unknown unknown)
  | methodName owner name descriptor domain =>
    exact congrArg Answer.text (ResolverTables.value_memberName_of_unknown unknown)
  | fieldName owner name domain =>
    exact congrArg Answer.text (ResolverTables.value_memberName_of_unknown unknown)
  | memberNameOf member domain =>
    exact congrArg Answer.text (ResolverTables.value_memberName_of_unknown unknown)
  | renameMethod descriptor direction =>
    have renamed := renameOf_obfuscated tables .method descriptor direction
    rw [Descriptor.rename_of_knowsNoneOf unknown] at renamed
    exact congrArg Answer.descriptor renamed
  | renameField descriptor direction =>
    have renamed := renameOf_obfuscated tables .field descriptor direction
    rw [Descriptor.rename_of_knowsNoneOf unknown] at renamed
    exact congrArg Answer.descriptor renamed
  | renameMethodText text direction =>
    exact congrArg Answer.text (ResolverTables.renameText_of_unknown .method unknown)
  | renameFieldText text direction =>
    exact congrArg Answer.text (ResolverTables.renameText_of_unknown .field unknown)

end Resolver

/-! ### Nothing listed -/

theorem ClassTable.ofPairs_of_skipped {pairs : List (String × String)}
    (skipped : ∀ pair ∈ pairs, ¬ IsKept pair) : ofPairs pairs = .ok empty := by
  unfold ofPairs
  induction pairs with
  | nil => rfl
  | cons pair pairs later =>
    rw [List.foldlM_cons, add_of_skipped empty (skipped pair List.mem_cons_self)]
    exact later fun other listed => skipped other (List.mem_cons_of_mem pair listed)

/-- The tables that know nothing. -/
def ResolverTables.empty : ResolverTables := ⟨.empty, ⟨.method, ∅⟩, ⟨.field, ∅⟩⟩

theorem ResolverTables.memberName?_empty (owner name : String) (descriptor : Option String)
    (domain : Domain) : empty.memberName? owner name descriptor domain = none := by
  cases descriptor <;>
    simp [memberName?, members, empty, MemberTable.get?, MemberTable.classRecords?]

theorem ResolverTables.unknown_empty (query : Query) : empty.Unknown query := by
  have counterparts : ∀ (name : String) (direction : Direction),
      (ClassTable.empty.counterparts direction)[name]? = none := by
    intro name direction
    cases direction <;> exact Std.ExtTreeMap.getElem?_empty
  cases query with
  | className | classNameOf => exact counterparts _ _
  | memberName | methodName | fieldName | memberNameOf => exact memberName?_empty ..
  | renameMethod | renameField => exact fun name _ => counterparts name _
  | renameMethodText | renameFieldText => exact fun _ _ name _ => counterparts name _

/-- A snapshot that lists nothing: each of its class pairs has an empty side, and no group is listed. -/
structure Snapshot.ListsNothing (snapshot : Snapshot) : Prop where
  pairs : ∀ pair ∈ snapshot.classes, pair.human = "" ∨ pair.runtime = ""
  methods : snapshot.methods = []
  fields : snapshot.fields = []

namespace Resolver

/-- **A snapshot that lists nothing makes the tables that know nothing**, whatever the host ships. -/
theorem result_build_of_listsNothing {snapshot : Snapshot} (nothing : snapshot.ListsNothing) :
    (build true snapshot.source).result = .ok (obfuscated .empty) := by
  have noClasses : ClassTable.ofPairs snapshot.pairs = .ok .empty := by
    refine ClassTable.ofPairs_of_skipped fun pair listed kept => ?_
    obtain ⟨given, member, rfl⟩ := List.mem_map.mp listed
    exact (nothing.pairs given member).elim kept.1 kept.2
  have noMembers : snapshot.tables .empty = .empty := by
    simp only [Snapshot.tables, Snapshot.groups, nothing.methods, nothing.fields]
    rfl
  rw [result_build_source, noClasses, ← noMembers]
  rfl

/-- **What no table knows is answered as by the resolver without tables.** So is a query for a class without
a counterpart, for a descriptor none of whose classes has one, for a text that is no descriptor, and for a
member without a name in the domain. The tables of a snapshot that lists nothing answer every query so. -/
theorem answers_as_identity :
    (∀ (tables : ResolverTables) (query : Query), tables.Unknown query →
      ((obfuscated tables).answer query).value = (identity.answer query).value) ∧
    (∀ (tables : ResolverTables) (pairs : List (String × String)),
      ClassTable.ofPairs pairs = .ok tables.classes → ∀ name direction,
        tables.classes.counterpart? name direction = none →
          tables.classes.directed direction name = none) ∧
    ∀ snapshot : Snapshot, snapshot.ListsNothing →
      ∃ resolver, (build true snapshot.source).result = .ok resolver ∧
        ∀ query, (resolver.answer query).value = (identity.answer query).value := by
  refine ⟨fun tables query => value_answer_of_unknown, fun tables pairs built name direction =>
    ResolverTables.directed_of_counterpart? built, fun snapshot nothing => ?_⟩
  exact ⟨_, result_build_of_listsNothing nothing, fun query =>
    value_answer_of_unknown (ResolverTables.unknown_empty query)⟩

/-- A text with a class that is known the other way around comes back as it was; and tables made of a pair
without a human name and of the host's own members know nothing. -/
theorem answers_as_identity_other_direction :
    ∃ tables resolver, ClassTable.ofPairs [("net.Foo", "a")] = .ok tables.classes ∧
      tables.classes.directed .toHuman "a" = some "net/Foo" ∧
      tables.Unknown (.renameMethodText "(Lnet/Bar;[La;)V" .toRuntime) ∧
      ((obfuscated tables).answer (.renameMethodText "(Lnet/Bar;[La;)V" .toRuntime)).value =
        .text "(Lnet/Bar;[La;)V" ∧
      (build true { Snapshot.empty with
        classes := [⟨"", "a"⟩]
        hostFields := (∅ : MemberMaps).insert "a" ((∅ : NameMap).insert "b:I" "f_1:I") }.source).result =
          .ok resolver ∧
      (resolver.answer (.fieldName "a" "f_1" .runtime)).value = .text "f_1" := by
  obtain ⟨classes, built⟩ : ∃ classes, ClassTable.ofPairs [("net.Foo", "a")] = .ok classes := ⟨_, rfl⟩
  have made : classes = _ := Except.ok.inj (built.symm.trans rfl)
  let tables : ResolverTables := ⟨classes, ⟨.method, ∅⟩, ⟨.field, ∅⟩⟩
  obtain ⟨alike, -, empty⟩ := answers_as_identity
  have read : MemberKind.method.parse "(Lnet/Bar;[La;)V" =
      .ok (.method ⟨[.object "net/Bar", .array (.object "a")], .void⟩) := by
    refine MemberKind.parse_eq_ok_iff.mpr ⟨⟨_, rfl⟩, ⟨fun parameter listed => ?_, trivial⟩, by decide⟩
    simp only [List.mem_cons, List.not_mem_nil, or_false] at listed
    rcases listed with rfl | rfl
    · exact ⟨by decide, by decide⟩
    · exact ⟨by decide, by decide⟩
  have unknown : tables.Unknown (.renameMethodText "(Lnet/Bar;[La;)V" .toRuntime) := by
    intro descriptor parsed
    obtain rfl := Except.ok.inj (read.symm.trans parsed)
    show (classes.directed .toRuntime).KnowsNoneOf _
    rw [made]
    decide
  obtain ⟨resolver, resolved, answers⟩ := empty { Snapshot.empty with
    classes := [⟨"", "a"⟩]
    hostFields := (∅ : MemberMaps).insert "a" ((∅ : NameMap).insert "b:I" "f_1:I") }
    ⟨by decide, rfl, rfl⟩
  refine ⟨tables, resolver, built, ?_, unknown, alike tables _ unknown, resolved, answers _⟩
  show classes.directed .toHuman "a" = some "net/Foo"
  rw [made]
  decide

end Resolver

end NameDomains
