/-
**Resolvers of respelled snapshots.**

A snapshot names classes in its class pairs, in its groups of members and in the host's tables. The separators
of these names may be exchanged one by one without any effect on a resolver, apart from the separators of the
names it answers with: every name is put in internal form before it is filed or looked up.

* `Snapshot.Respelled`, `Snapshot.respelled_respell` — the same snapshot with other separators.
* `Resolver.AnswersLike` — two resolvers that answer every query alike.
* `Resolver.build_respelled` — respelled snapshots fail with one error, or make resolvers that answer alike.
-/

import NameDomains.Proofs.Member.Respelling
import NameDomains.Proofs.Resolver.Build

namespace NameDomains

/-! ### Snapshots -/

namespace Snapshot

/-- Two snapshots say the same about classes that they may spell in different ways. -/
structure Respelled (snapshot other : Snapshot) : Prop where
  pairs : List.Forall₂ ClassTable.Respelled snapshot.pairs other.pairs
  groups : ∀ kind, List.Forall₂ MemberGroup.Respelled (snapshot.groups kind) (other.groups kind)
  aliases : ∀ kind, snapshot.aliases kind = other.aliases kind
  hostTables : ∀ kind, HostTables.Respelled (snapshot.hostTables kind) (other.hostTables kind)

/-- A snapshot with all its classes spelled anew. -/
def respell (spell : String → String) (snapshot : Snapshot) : Snapshot :=
  let group := fun group : MemberGroup => { group with className := spell group.className }
  { snapshot with
    classes := snapshot.classes.map fun pair => ⟨spell pair.human, spell pair.runtime⟩
    methods := snapshot.methods.map group
    fields := snapshot.fields.map group
    hostMethods := HostTables.respell spell snapshot.hostMethods
    hostFields := HostTables.respell spell snapshot.hostFields }

/-- Snapshots are respelled by any change of separators. -/
theorem respelled_respell {spell : String → String}
    (keeps : ∀ name, ClassName.internal (spell name) = ClassName.internal name) (snapshot : Snapshot) :
    snapshot.Respelled (snapshot.respell spell) := by
  have eachGroup : ∀ groups : List MemberGroup, List.Forall₂ MemberGroup.Respelled groups
      (groups.map fun group => { group with className := spell group.className }) := by
    intro groups
    rw [List.forall₂_map_right_iff, List.forall₂_same]
    exact fun group _ => ⟨(keeps group.className).symm, rfl⟩
  refine ⟨?_, fun kind => ?_, fun kind => ?_, fun kind => ?_⟩
  · rw [pairs, pairs, respell, List.map_map, List.forall₂_map_left_iff, List.forall₂_map_right_iff,
      List.forall₂_same]
    exact fun pair _ => ⟨(keeps pair.human).symm, (keeps pair.runtime).symm⟩
  · cases kind with
    | method => exact eachGroup snapshot.methods
    | field => exact eachGroup snapshot.fields
  · cases kind <;> rfl
  · cases kind with
    | method => exact HostTables.respelled_respell keeps snapshot.hostMethods
    | field => exact HostTables.respelled_respell keeps snapshot.hostFields

/-- Nothing of one kind in the host's tables comes from two of its classes, or from two entries of one
class. -/
structure HostUnambiguous (snapshot : Snapshot) (classes : ClassTable) (kind : MemberKind) : Prop where
  landsApart : HostTables.LandsApart (snapshot.hostTables kind) classes
  entriesApart : ∀ (hostClass : String) (members : NameMap),
    (snapshot.hostTables kind)[hostClass]? = some members → HostTables.Unambiguous kind members

/-- Ambiguity is checked class by class. -/
instance {snapshot : Snapshot} {classes : ClassTable} {kind : MemberKind} :
    Decidable (snapshot.HostUnambiguous classes kind) :=
  decidable_of_iff
    (HostTables.LandsApart (snapshot.hostTables kind) classes ∧
      ∀ entry ∈ (snapshot.hostTables kind).toList, HostTables.Unambiguous kind entry.2)
    (by
      simp only [Prod.forall, Std.ExtTreeMap.mem_toList_iff_getElem?_eq_some]
      exact ⟨fun ⟨lands, entries⟩ => ⟨lands, entries⟩, fun ⟨lands, entries⟩ => ⟨lands, entries⟩⟩)

end Snapshot

/-! ### Tables -/

/-- Tables that answer every query alike. A class may be queried by any of its names; what is answered to an
unqualified one may be spelled differently. -/
structure ResolverTables.AnswersLike (tables others : ResolverTables) : Prop where
  counterpart? : ∀ query spelling, ClassName.internal query = ClassName.internal spelling →
    ∀ direction, tables.classes.counterpart? query direction =
      others.classes.counterpart? spelling direction
  memberName : ∀ owner spelling, ClassName.internal owner = ClassName.internal spelling →
    ∀ name descriptor domain, (tables.memberName owner name descriptor domain).value =
      (others.memberName spelling name descriptor domain).value
  renameMethod : ∀ descriptor direction,
    tables.renameMethod descriptor direction = others.renameMethod descriptor direction
  renameField : ∀ descriptor direction,
    tables.renameField descriptor direction = others.renameField descriptor direction
  className : ∀ query direction, ClassName.isQualified query = true →
    tables.classes.resolve query direction = others.classes.resolve query direction
  internal_className : ∀ query direction,
    ClassName.internal (tables.classes.resolve query direction).value =
      ClassName.internal (others.classes.resolve query direction).value

namespace ResolverTables

variable {tables others : ResolverTables}

/-- Tables with the same member tables find members in the same places. -/
theorem members_eq_of_table_eq (same : ∀ kind, tables.table kind = others.table kind)
    (descriptor : Option String) : tables.members descriptor = others.members descriptor := by
  unfold members
  split
  · exact same .method
  · exact same .field

/-- A member query is answered with the name it finds, or else with the queried name. -/
theorem value_memberName (owner name : String) (descriptor : Option String) (domain : Domain) :
    (tables.memberName owner name descriptor domain).value =
      (tables.memberName? owner name descriptor domain).getD name := by
  rw [memberName]
  cases tables.memberName? owner name descriptor domain with
  | none => rfl
  | some found => rfl

/-- A member is found by all spellings of its class. -/
theorem memberName?_eq_of_internal_eq (same : ∀ kind, tables.table kind = others.table kind)
    {owner spelling : String}
    (spelled : ClassName.internal owner = ClassName.internal spelling) (name : String)
    (descriptor : Option String) (domain : Domain) :
    tables.memberName? owner name descriptor domain =
      others.memberName? spelling name descriptor domain := by
  rw [memberName?, memberName?, members_eq_of_table_eq same, MemberTable.get?_eq_of_internal_eq _ spelled]

/-- **Tables with the same class names and the same member tables answer alike.** -/
theorem answersLike_of_sameNames {pairs otherPairs : List (String × String)}
    (built : ClassTable.ofPairs pairs = .ok tables.classes)
    (otherBuilt : ClassTable.ofPairs otherPairs = .ok others.classes)
    (sameNames : ClassTable.SameNames tables.classes others.classes)
    (sameTables : ∀ kind, tables.table kind = others.table kind) : tables.AnswersLike others where
  counterpart? query spelling spelled direction := sameNames.counterpart?_eq spelled direction
  memberName owner spelling spelled name descriptor domain := by
    rw [value_memberName, value_memberName, memberName?_eq_of_internal_eq sameTables spelled]
  renameMethod descriptor direction := by
    rw [renameMethod, renameMethod, sameNames.directed_eq]
  renameField descriptor direction := by
    rw [renameField, renameField, sameNames.directed_eq]
  className query direction qualified := sameNames.resolve_eq_of_qualified qualified direction
  internal_className query direction := sameNames.internal_resolve built otherBuilt query direction

end ResolverTables

namespace Snapshot

variable {snapshot other : Snapshot} {classes otherClasses : ClassTable}

/-- Respelled snapshots make the same member tables. -/
theorem Respelled.table_eq (respelled : snapshot.Respelled other)
    (sameNames : ClassTable.SameNames classes otherClasses) {kind : MemberKind}
    (unambiguous : snapshot.HostUnambiguous classes kind) :
    (snapshot.tables classes).table kind = (other.tables otherClasses).table kind := by
  have sameHost :
      (HostTables.runtimeTables kind (snapshot.hostTables kind) classes).value =
        (HostTables.runtimeTables kind (other.hostTables kind) otherClasses).value :=
    HostTables.value_runtimeTables_respelled unambiguous.landsApart sameNames
      (respelled.hostTables kind)
  rw [table_tables, table_tables, ResolverTables.buildMembers, ResolverTables.buildMembers,
    Logged.value_bind, Logged.value_bind, sameHost, respelled.aliases kind]
  exact MemberTable.value_ofGroups_respelled (respelled.groups kind) _

end Snapshot

/-! ### Resolvers -/

/-- Two resolvers of obfuscated hosts answer every query alike. -/
inductive Resolver.AnswersLike : Resolver → Resolver → Prop
  | obfuscated {tables others : ResolverTables} :
    tables.AnswersLike others → AnswersLike (.obfuscated tables) (.obfuscated others)

/-- **Respelled snapshots fail with one error, or make resolvers that answer every query alike**, if nothing
in the host's tables is ambiguous under the class table of the first one. -/
theorem Resolver.build_respelled {snapshot other : Snapshot} (respelled : snapshot.Respelled other)
    (unambiguous : ∀ classes, ClassTable.ofPairs snapshot.pairs = .ok classes →
      ∀ kind, snapshot.HostUnambiguous classes kind) :
    Outcome.Alike AnswersLike (build true snapshot.source).result (build true other.source).result := by
  rw [result_build_source, result_build_source]
  have sameNames := (ClassTable.ofPairs_respelled respelled.pairs).attained
  refine ((sameNames.mapError BuildError.notBijective).map ?_).map fun _ _ => AnswersLike.obfuscated
  rintro classes otherClasses ⟨same, built, otherBuilt⟩
  exact ResolverTables.answersLike_of_sameNames built otherBuilt same fun kind =>
    respelled.table_eq same (unambiguous classes built kind)

/-- A snapshot that spells one class in two ways, and so does its host with the runtime name. -/
def Snapshot.mixed : Snapshot where
  classes := [⟨"net.Door", "x/a"⟩]
  methods := [⟨"net/Door", [⟨"m_1", some "()V"⟩]⟩]
  fields := []
  methodAliases := (∅ : NameMap).insert "m_1" "open"
  fieldAliases := ∅
  hostMethods := (∅ : MemberMaps).insert "x.a" ((∅ : NameMap).insert "b()V" "m_1()V")
  hostFields := ∅

/-- The resolver of that snapshot answers like that of the same snapshot in internal form. -/
theorem Resolver.build_respelled_internal :
    Snapshot.mixed.Respelled (Snapshot.mixed.respell ClassName.internal) ∧
      (∀ classes, ClassTable.ofPairs Snapshot.mixed.pairs = .ok classes →
        ∀ kind, Snapshot.mixed.HostUnambiguous classes kind) ∧
      ∃ resolver other, (build true Snapshot.mixed.source).result = .ok resolver ∧
        (build true (Snapshot.mixed.respell ClassName.internal).source).result = .ok other ∧
        resolver.AnswersLike other ∧
        resolver.memberName "net.Door" "open" (some "()V") .runtime = pure "b" := by
  have respelled : Snapshot.mixed.Respelled (Snapshot.mixed.respell ClassName.internal) :=
    Snapshot.respelled_respell ClassName.internal_internal Snapshot.mixed
  have unambiguous : ∀ classes, ClassTable.ofPairs Snapshot.mixed.pairs = .ok classes →
      ∀ kind, Snapshot.mixed.HostUnambiguous classes kind := by
    intro classes built kind
    have made : classes = _ := Except.ok.inj (built.symm.trans rfl)
    rw [made]
    cases kind with
    | method => decide
    | field => decide
  obtain ⟨resolver, built⟩ : ∃ resolver, (build true Snapshot.mixed.source).result = .ok resolver :=
    ⟨_, rfl⟩
  have alike := build_respelled respelled unambiguous
  rw [built] at alike
  generalize otherBuilt : (build true (Snapshot.mixed.respell ClassName.internal).source).result = made
    at alike
  cases alike with
  | @done _ other answersLike =>
    refine ⟨respelled, unambiguous, resolver, other, built, rfl, answersLike, ?_⟩
    rw [← Except.ok.inj built]
    decide

end NameDomains
