/-
**Answers to queries for listed members.**

A snapshot lists a member under its intermediate name, the aliases give its human name, and the host's
tables give its runtime name under the names of the host's own class and entry. Where nothing in the
snapshot is ambiguous, a resolver built from it joins all of them:

* `Snapshot.Unambiguous` — nothing that is filed under one name comes from two places.
* `Member.Named` — the names of a listed member in the three domains.
* `Resolver.memberName_of_listed` — a query for a listed member is answered with its name, or missed if
  it has none or if the host does not ship its class.
-/

import NameDomains.Proofs.Member.HostTable
import NameDomains.Proofs.Member.Table
import NameDomains.Proofs.Resolver.Build

namespace NameDomains

/-- Nothing of one kind that is filed under one name comes from two places. -/
structure Snapshot.Unambiguous (snapshot : Snapshot) (classes : ClassTable) (kind : MemberKind) :
    Prop where
  landsApart : HostTables.LandsApart (snapshot.hostTables kind) classes
  entriesApart : ∀ (hostClass : String) (members : NameMap),
    (snapshot.hostTables kind)[hostClass]? = some members → HostTables.Unambiguous kind members
  classesApart : MemberTable.ClassesApart (snapshot.groups kind)
  keysApart : ∀ group ∈ snapshot.groups kind,
    MemberTable.ClaimApart kind (snapshot.aliases kind) group.members

/-- Ambiguity is checked class by class and group by group. -/
instance {snapshot : Snapshot} {classes : ClassTable} {kind : MemberKind} :
    Decidable (snapshot.Unambiguous classes kind) :=
  decidable_of_iff
    (HostTables.LandsApart (snapshot.hostTables kind) classes ∧
      (∀ entry ∈ (snapshot.hostTables kind).toList, HostTables.Unambiguous kind entry.2) ∧
      MemberTable.ClassesApart (snapshot.groups kind) ∧
      ∀ group ∈ snapshot.groups kind,
        MemberTable.ClaimApart kind (snapshot.aliases kind) group.members)
    (by
      simp only [Prod.forall, Std.ExtTreeMap.mem_toList_iff_getElem?_eq_some]
      exact ⟨fun ⟨lands, entries, classes, keys⟩ => ⟨lands, entries, classes, keys⟩,
        fun ⟨lands, entries, classes, keys⟩ => ⟨lands, entries, classes, keys⟩⟩)

/-- The names of a listed member: its own, its alias, and that of an entry of the host's class which
names it. -/
inductive Member.Named (kind : MemberKind) (aliases members : NameMap) (member : Member) :
    Domain → String → Prop
  | intermediate : Named kind aliases members member .intermediate member.name
  | human {name : String} :
    alias? aliases member.name = some name → Named kind aliases members member .human name
  | runtime (entry listed : String) :
    members[entry]? = some listed → kind.stripSuffix listed = member.name →
      kind.stripSuffix entry ≠ "" →
      Named kind aliases members member .runtime (kind.stripSuffix entry)

/-- A query for a member that a snapshot lists: by any spelling of its class and by any name by which it
is called. A method is listed with a descriptor. -/
structure ListedQuery (snapshot : Snapshot) (kind : MemberKind) where
  group : MemberGroup
  member : Member
  owner : String
  name : String
  grouped : group ∈ snapshot.groups kind
  listed : member ∈ group.members
  described : kind = .method → member.descriptor.isSome
  owned : ClassName.internal owner = ClassName.internal group.className
  called : member.IsCalled (snapshot.aliases kind) name

namespace ListedQuery

variable {snapshot : Snapshot} {kind : MemberKind}

/-- The descriptor of a query: a method's own, and none for a field. -/
def descriptor (query : ListedQuery snapshot kind) : Option String :=
  match kind with
  | .method => query.member.descriptor
  | .field => none

/-- The answer to a query that finds nothing: the queried name, with one warning. -/
def missed (query : ListedQuery snapshot kind) (domain : Domain) : Logged String :=
  ⟨query.name,
    [.memberUnknown query.owner (kind.key query.name query.descriptor) kind domain]⟩

/-- A query finds its table. -/
theorem members_descriptor (query : ListedQuery snapshot kind) (tables : ResolverTables) :
    tables.members query.descriptor = tables.table kind := by
  cases kind with
  | method => exact if_pos (query.described rfl)
  | field => rfl

/-- A query asks for a key of its member. -/
theorem key_mem_keysOf (query : ListedQuery snapshot kind) :
    kind.key query.name query.descriptor ∈
      MemberTable.keysOf kind (snapshot.aliases kind) query.member := by
  refine MemberTable.mem_keysOf_iff.mpr ⟨query.name, query.called, ?_⟩
  cases kind with
  | method => rfl
  | field => rfl

/-- The host ships the queried class with the given table, under the name of some class of its own. -/
def ShippedWith (query : ListedQuery snapshot kind) (classes : ClassTable) (members : NameMap) : Prop :=
  ∃ hostClass : String, (snapshot.hostTables kind)[hostClass]? = some members ∧
    HostTables.StandsFor classes hostClass query.group.className

/-- The turned table of the queried class. -/
def runtime? (query : ListedQuery snapshot kind) (classes : ClassTable) : Option NameMap :=
  (HostTables.runtimeTables kind (snapshot.hostTables kind) classes).value[
    ClassName.internal query.group.className]?

theorem runtime?_eq_some_iff {classes : ClassTable} (unambiguous : snapshot.Unambiguous classes kind)
    (query : ListedQuery snapshot kind) {runtime : NameMap} :
    query.runtime? classes = some runtime ↔
      ∃ members, query.ShippedWith classes members ∧ HostTables.turnAround kind members = runtime := by
  rw [runtime?, HostTables.getElem?_runtimeTables_eq_some_iff unambiguous.landsApart]
  constructor
  · rintro ⟨hostClass, members, listed, stands, turned⟩
    exact ⟨members, ⟨hostClass, listed, stands⟩, turned⟩
  · rintro ⟨members, ⟨hostClass, listed, stands⟩, turned⟩
    exact ⟨hostClass, members, listed, stands, turned⟩

/-- The table with which a class is shipped is unambiguous, as all tables of the host are. -/
theorem unambiguous_of_shippedWith {classes : ClassTable}
    (unambiguous : snapshot.Unambiguous classes kind) {query : ListedQuery snapshot kind}
    {members : NameMap} (shipped : query.ShippedWith classes members) :
    HostTables.Unambiguous kind members := by
  obtain ⟨hostClass, listed, -⟩ := shipped
  exact unambiguous.entriesApart hostClass members listed

/-- A class is shipped with one table. -/
theorem eq_of_shippedWith {classes : ClassTable} (unambiguous : snapshot.Unambiguous classes kind)
    {query : ListedQuery snapshot kind} {first second : NameMap}
    (firstShipped : query.ShippedWith classes first)
    (secondShipped : query.ShippedWith classes second) : first = second := by
  obtain ⟨firstClass, firstListed, firstStands⟩ := firstShipped
  obtain ⟨secondClass, secondListed, secondStands⟩ := secondShipped
  refine unambiguous.landsApart.eq_of_landing_eq firstListed secondListed ?_
  rw [HostTables.landing_eq_iff.mpr firstStands, HostTables.landing_eq_iff.mpr secondStands]

end ListedQuery

/-! ### Records -/

/-- **The record of a listed member holds its names.** -/
theorem MemberTable.nameIn_recordOf_eq_some_iff {kind : MemberKind} {aliases members : NameMap}
    {member : Member} (unambiguous : HostTables.Unambiguous kind members) {domain : Domain}
    {name : String} :
    (recordOf aliases (HostTables.turnAround kind members) member).nameIn domain = some name ↔
      member.Named kind aliases members domain name := by
  cases domain with
  | human =>
    show (alias? aliases member.name).filter (· ≠ "") = some name ↔ _
    rw [filter_ne_empty_eq_some_iff]
    constructor
    · rintro ⟨given, -⟩
      exact .human given
    · rintro ⟨⟩
      next given => exact ⟨given, ne_empty_of_alias? given⟩
  | intermediate =>
    show some member.name = some name ↔ _
    constructor
    · rintro ⟨⟩
      exact .intermediate
    · rintro ⟨⟩
      rfl
  | runtime =>
    show (HostTables.turnAround kind members)[member.name]?.filter (· ≠ "") = some name ↔ _
    rw [filter_ne_empty_eq_some_iff, HostTables.getElem?_turnAround_eq_some_iff unambiguous]
    constructor
    · rintro ⟨⟨entry, listed, found, names, rfl⟩, nonempty⟩
      exact .runtime entry listed found names nonempty
    · rintro ⟨⟩
      next entry listed found names nonempty => exact ⟨⟨entry, listed, found, names, rfl⟩, nonempty⟩

/-! ### Answers -/

namespace ResolverTables

variable {snapshot : Snapshot} {kind : MemberKind} {tables : ResolverTables}

theorem kind_table (built : (build snapshot.source).result = .ok tables) :
    (tables.table kind).kind = kind := by
  rw [(result_build_source_eq_ok_iff.mp built).2 kind, buildMembers, Logged.value_bind,
    MemberTable.kind_ofGroups]

/-- A query finds the record of its member if the host ships the member's class. -/
theorem get?_table (built : (build snapshot.source).result = .ok tables)
    (unambiguous : snapshot.Unambiguous tables.classes kind) (query : ListedQuery snapshot kind) :
    (tables.table kind).get? query.owner (kind.key query.name query.descriptor) =
      (query.runtime? tables.classes).map
        fun runtime => MemberTable.recordOf (snapshot.aliases kind) runtime query.member := by
  rw [(result_build_source_eq_ok_iff.mp built).2 kind, buildMembers, Logged.value_bind]
  exact MemberTable.get?_ofGroups unambiguous.classesApart query.grouped
    (unambiguous.keysApart query.group query.grouped) query.listed query.key_mem_keysOf query.owned

/-- The name that a query finds is the one in the record of its member. -/
theorem memberName?_of_built (built : (build snapshot.source).result = .ok tables)
    (unambiguous : snapshot.Unambiguous tables.classes kind) (query : ListedQuery snapshot kind)
    (domain : Domain) :
    tables.memberName? query.owner query.name query.descriptor domain =
      (query.runtime? tables.classes).bind fun runtime =>
        (MemberTable.recordOf (snapshot.aliases kind) runtime query.member).nameIn domain := by
  rw [memberName?, query.members_descriptor tables, kind_table built, get?_table built unambiguous,
    Option.bind_map]
  rfl

/-- **A query finds a name** exactly when the host ships the class of its member and the member has that
name. -/
theorem memberName?_eq_some_iff (built : (build snapshot.source).result = .ok tables)
    (unambiguous : snapshot.Unambiguous tables.classes kind) (query : ListedQuery snapshot kind)
    (domain : Domain) (name : String) :
    tables.memberName? query.owner query.name query.descriptor domain = some name ↔
      ∃ members, query.ShippedWith tables.classes members ∧
        query.member.Named kind (snapshot.aliases kind) members domain name := by
  rw [memberName?_of_built built unambiguous, Option.bind_eq_some_iff]
  constructor
  · rintro ⟨runtime, found, called⟩
    obtain ⟨members, shipped, rfl⟩ := (query.runtime?_eq_some_iff unambiguous).mp found
    have entries := ListedQuery.unambiguous_of_shippedWith unambiguous shipped
    exact ⟨members, shipped, (MemberTable.nameIn_recordOf_eq_some_iff entries).mp called⟩
  · rintro ⟨members, shipped, called⟩
    have entries := ListedQuery.unambiguous_of_shippedWith unambiguous shipped
    have found := (query.runtime?_eq_some_iff unambiguous).mpr ⟨members, shipped, rfl⟩
    exact ⟨_, found, (MemberTable.nameIn_recordOf_eq_some_iff entries).mpr called⟩

/-- A query is answered with the name it finds. -/
theorem memberName_of_found {owner name found : String} {descriptor : Option String} {domain : Domain}
    (answered : tables.memberName? owner name descriptor domain = some found) :
    tables.memberName owner name descriptor domain = pure found := by
  rw [memberName, answered]

/-- A query that finds no name is missed. -/
theorem memberName_of_not_found (built : (build snapshot.source).result = .ok tables)
    (query : ListedQuery snapshot kind) (domain : Domain)
    (nameless : ∀ name,
      tables.memberName? query.owner query.name query.descriptor domain ≠ some name) :
    tables.memberName query.owner query.name query.descriptor domain = query.missed domain := by
  rw [memberName, Option.eq_none_iff_forall_ne_some.mpr nameless, query.members_descriptor tables,
    kind_table built]
  rfl

end ResolverTables

/-- **A query for a listed member** is answered with the name of the member in the queried domain. It is
missed if the member has no name there, and if the host ships no class that stands for the member's. -/
theorem Resolver.memberName_of_listed {snapshot : Snapshot} {resolver : Resolver}
    (built : (build true snapshot.source).result = .ok resolver) :
    ∃ tables, resolver = .obfuscated tables ∧ ClassTable.ofPairs snapshot.pairs = .ok tables.classes ∧
      ∀ kind, snapshot.Unambiguous tables.classes kind → ∀ (query : ListedQuery snapshot kind) domain,
        (∀ members, query.ShippedWith tables.classes members →
          (∀ name, query.member.Named kind (snapshot.aliases kind) members domain name →
            resolver.memberName query.owner query.name query.descriptor domain = pure name) ∧
          ((∀ name, ¬ query.member.Named kind (snapshot.aliases kind) members domain name) →
            resolver.memberName query.owner query.name query.descriptor domain =
              query.missed domain)) ∧
        ((∀ members, ¬ query.ShippedWith tables.classes members) →
          resolver.memberName query.owner query.name query.descriptor domain =
            query.missed domain) := by
  obtain ⟨tables, tablesBuilt, rfl⟩ := result_build_source_eq_ok_iff.mp built
  refine ⟨tables, rfl, (ResolverTables.result_build_source_eq_ok_iff.mp tablesBuilt).1,
    fun kind unambiguous query domain => ?_⟩
  have found := ResolverTables.memberName?_eq_some_iff tablesBuilt unambiguous query domain
  constructor
  · intro members shipped
    constructor
    · intro name called
      exact ResolverTables.memberName_of_found ((found name).mpr ⟨members, shipped, called⟩)
    · intro nameless
      refine ResolverTables.memberName_of_not_found tablesBuilt query domain fun name answered => ?_
      obtain ⟨others, othersShipped, called⟩ := (found name).mp answered
      rw [ListedQuery.eq_of_shippedWith unambiguous othersShipped shipped] at called
      exact nameless name called
  · intro unshipped
    refine ResolverTables.memberName_of_not_found tablesBuilt query domain fun name answered => ?_
    obtain ⟨members, shipped, -⟩ := (found name).mp answered
    exact unshipped members shipped

/-- The entries of a host's class with an overloaded method. -/
def Snapshot.doorEntries : NameMap :=
  (∅ : NameMap).insertMany [("b()V", "m_1()V"), ("b(I)V", "m_1(I)V")]

/-- A snapshot of that class. Of another class only the host knows. -/
def Snapshot.door : Snapshot where
  classes := [⟨"net.Door", "a"⟩]
  methods := [⟨"net.Door", [⟨"m_1", some "()V"⟩, ⟨"m_1", some "(I)V"⟩]⟩]
  fields := []
  methodAliases := (∅ : NameMap).insert "m_1" "open"
  fieldAliases := ∅
  hostMethods := (∅ : MemberMaps).insertMany [("a", doorEntries), ("z", ∅)]
  hostFields := ∅

/-- A query for one of the overloaded methods by its alias. -/
def ListedQuery.openDoor : ListedQuery Snapshot.door .method where
  group := ⟨"net.Door", [⟨"m_1", some "()V"⟩, ⟨"m_1", some "(I)V"⟩]⟩
  member := ⟨"m_1", some "(I)V"⟩
  owner := "net/Door"
  name := "open"
  grouped := by decide
  listed := by decide
  described := by decide
  owned := by decide
  called := by decide

/-- An overloaded method is found by its alias. -/
theorem Resolver.memberName_of_listed_overloaded :
    ∃ resolver tables, (build true Snapshot.door.source).result = .ok resolver ∧
      resolver = .obfuscated tables ∧ Snapshot.door.Unambiguous tables.classes .method ∧
      resolver.memberName "net/Door" "open" (some "(I)V") .runtime = pure "b" := by
  obtain ⟨resolver, built⟩ : ∃ resolver, (build true Snapshot.door.source).result = .ok resolver :=
    ⟨_, rfl⟩
  obtain ⟨tables, same, classesBuilt, answers⟩ := memberName_of_listed built
  have classes : tables.classes = _ := Except.ok.inj (classesBuilt.symm.trans rfl)
  have unambiguous : Snapshot.door.Unambiguous tables.classes .method := by
    rw [classes]
    decide
  have shipped : ListedQuery.openDoor.ShippedWith tables.classes Snapshot.doorEntries := by
    rw [classes]
    exact ⟨"a", by decide, .inl (by decide)⟩
  have named : ListedQuery.openDoor.member.Named .method (Snapshot.door.aliases .method)
      Snapshot.doorEntries .runtime "b" :=
    .runtime "b(I)V" "m_1(I)V" (by decide) (by decide) (by decide)
  refine ⟨resolver, tables, built, same, unambiguous, ?_⟩
  exact ((answers .method unambiguous .openDoor .runtime).1 _ shipped).1 "b" named

end NameDomains
