/-
**What a member table holds.**

A table is filled group by group and, in a group, member by member and key by key, and what comes later
replaces what came earlier. So a class has the records of its last group, and a key finds the last member of
that group that claims it. Where no two groups are of one class and no two members of a group claim one key,
every listed member is found:

* `MemberTable.getElem?_recordsOf` — which record a class has under a key.
* `MemberTable.value_ofGroups` — a table is filled from the groups whose class the host ships.
* `MemberTable.getElem?_classes_ofGroups` — which records a class has.
* `MemberTable.get?_ofGroups_eq`, `MemberTable.isSome_get?_ofGroups_iff` — which record a table has under a
  key of a class, and whether it has one.
* `MemberTable.get?_ofGroups` — which record a listed member is found with.
-/

import Mathlib.Data.List.Nodup
import NameDomains.Member.Table
import NameDomains.Proofs.Entries
import NameDomains.Proofs.Outcome

namespace NameDomains

/-- A name that counts is there and not empty. -/
theorem filter_ne_empty_eq_some_iff {name : Option String} {found : String} :
    name.filter (· ≠ "") = some found ↔ name = some found ∧ found ≠ "" := by
  rw [Option.filter_eq_some_iff, decide_eq_true_iff]

theorem ne_empty_of_alias? {aliases : NameMap} {name human : String}
    (given : alias? aliases name = some human) : human ≠ "" :=
  (filter_ne_empty_eq_some_iff.mp given).2

/-- A name by which a listed member is called: its own, or its human alias. -/
def Member.IsCalled (aliases : NameMap) (member : Member) (name : String) : Prop :=
  name = member.name ∨ alias? aliases member.name = some name

instance {aliases : NameMap} {member : Member} {name : String} :
    Decidable (member.IsCalled aliases name) :=
  inferInstanceAs (Decidable (name = member.name ∨ alias? aliases member.name = some name))

namespace MemberTable

variable {kind : MemberKind} {aliases : NameMap}

/-- The records of one class by key. -/
abbrev Records := Std.ExtTreeMap String MemberRecord

/-! ### The members of one class -/

/-- The keys of a member are those of the names by which it is called. -/
theorem mem_keysOf_iff {member : Member} {key : String} :
    key ∈ keysOf kind aliases member ↔
      ∃ name, member.IsCalled aliases name ∧ kind.key name member.descriptor = key := by
  simp only [keysOf, List.mem_cons, Option.mem_toList, Option.map_eq_some_iff, Member.IsCalled]
  constructor
  · rintro (rfl | ⟨human, given, rfl⟩)
    · exact ⟨member.name, .inl rfl, rfl⟩
    · exact ⟨human, .inr given, rfl⟩
  · rintro ⟨name, rfl | given, rfl⟩
    · exact .inl rfl
    · exact .inr ⟨name, given, rfl⟩

/-- The last of the members that claims a key. -/
def lastClaimant? (kind : MemberKind) (aliases : NameMap) (members : List Member) (key : String) :
    Option Member :=
  members.findRev? fun member => decide (key ∈ keysOf kind aliases member)

theorem lastClaimant?_spec {members : List Member} {key : String} {member : Member}
    (last : lastClaimant? kind aliases members key = some member) :
    member ∈ members ∧ key ∈ keysOf kind aliases member := by
  obtain ⟨listed, claims⟩ := Entries.mem_of_findRev? last
  exact ⟨listed, of_decide_eq_true claims⟩

/-- A key that is claimed has a last claimant. -/
theorem isSome_lastClaimant?_iff {members : List Member} {key : String} :
    (lastClaimant? kind aliases members key).isSome ↔
      ∃ member ∈ members, key ∈ keysOf kind aliases member := by
  simp only [lastClaimant?, Entries.isSome_findRev?_iff, decide_eq_true_eq]

/-- A member loses a key only to those that are listed after it. -/
theorem lastClaimant?_of_claimed {member : Member} {key : String}
    (claimed : key ∈ keysOf kind aliases member) (before after : List Member) :
    lastClaimant? kind aliases (before ++ member :: after) key =
      some ((lastClaimant? kind aliases after key).getD member) := by
  simp only [lastClaimant?, List.findRev?_eq_find?_reverse, List.reverse_append, List.reverse_cons,
    List.find?_append, List.find?_singleton, decide_eq_true claimed, if_pos]
  cases after.reverse.find? fun other => decide (key ∈ keysOf kind aliases other) <;> rfl

/-- No two listed members claim one key. -/
def ClaimApart (kind : MemberKind) (aliases : NameMap) (members : List Member) : Prop :=
  ∀ first ∈ members, ∀ second ∈ members, ∀ key ∈ keysOf kind aliases first,
    key ∈ keysOf kind aliases second → first = second

instance {members : List Member} : Decidable (ClaimApart kind aliases members) :=
  inferInstanceAs (Decidable (∀ first ∈ members, ∀ second ∈ members,
    ∀ key ∈ keysOf kind aliases first, key ∈ keysOf kind aliases second → first = second))

/-- A member keeps its keys if no other member claims them. -/
theorem lastClaimant?_of_claimApart {members : List Member} (apart : ClaimApart kind aliases members)
    {member : Member} (listed : member ∈ members) {key : String}
    (claimed : key ∈ keysOf kind aliases member) :
    lastClaimant? kind aliases members key = some member := by
  obtain ⟨last, found⟩ :=
    Option.isSome_iff_exists.mp (isSome_lastClaimant?_iff.mpr ⟨member, listed, claimed⟩)
  obtain ⟨lastListed, lastClaims⟩ := lastClaimant?_spec found
  rw [found, apart last lastListed member listed key lastClaims claimed]

/-- A stored member has its record under each of its keys. -/
theorem getElem?_store {runtime : NameMap} (records : Records) (member : Member) (key : String) :
    (store kind aliases runtime records member)[key]? =
      if decide (key ∈ keysOf kind aliases member) then some (recordOf aliases runtime member)
      else records[key]? := by
  rw [store]
  generalize keysOf kind aliases member = keys
  induction keys generalizing records with
  | nil => rfl
  | cons first keys rest =>
    rw [List.foldl_cons, rest, Std.ExtTreeMap.getElem?_insert]
    by_cases later : key ∈ keys
    · simp [later]
    · by_cases same : first = key
      · simp [same]
      · simp [same, later, Ne.symm same]

/-- **Under a key is the record of the last member that claims it.** -/
theorem getElem?_recordsOf (runtime : NameMap) (members : List Member) (key : String) :
    (recordsOf kind aliases runtime members)[key]? =
      (lastClaimant? kind aliases members key).map (recordOf aliases runtime) := by
  rw [recordsOf, Entries.getElem?_foldl _ _ fun records member => getElem?_store records member key,
    Std.ExtTreeMap.getElem?_empty, Option.or_none, lastClaimant?]

/-! ### All classes -/

variable {runtime : MemberMaps} {groups : List MemberGroup}

/-- The records of a group by the name of its class, if the host ships that class. -/
def shipped? (kind : MemberKind) (aliases : NameMap) (runtime : MemberMaps)
    (group : MemberGroup) : Option (String × Records) :=
  runtime[ClassName.internal group.className]?.map fun members =>
    (ClassName.internal group.className, recordsOf kind aliases members group.members)

/-- A group adds its entry to a table. -/
theorem value_addGroup (table : MemberTable) (group : MemberGroup) :
    (addGroup aliases runtime table group).value =
      match shipped? table.kind aliases runtime group with
      | some entry => { table with classes := table.classes.insert entry.1 entry.2 }
      | none => table := by
  rw [addGroup, shipped?]
  dsimp only
  cases runtime[ClassName.internal group.className]? <;> rfl

/-- Groups add their entries to a table in order. -/
theorem foldl_addGroup (table : MemberTable) (groups : List MemberGroup) :
    groups.foldl (fun table group => (addGroup aliases runtime table group).value) table =
      { table with
        classes := table.classes.insertMany
          (groups.filterMap (shipped? table.kind aliases runtime)) } := by
  rw [Std.ExtTreeMap.insertMany_list_eq_foldl, List.foldl_filterMap]
  induction groups generalizing table with
  | nil => rfl
  | cons group groups rest =>
    rw [List.foldl_cons, List.foldl_cons, rest, value_addGroup]
    cases shipped? table.kind aliases runtime group <;> rfl

/-- **A table is filled from the groups whose class the host ships.** -/
theorem value_ofGroups :
    (ofGroups kind aliases groups runtime).value =
      { kind
        classes := (∅ : Std.ExtTreeMap String Records).insertMany
          (groups.filterMap (shipped? kind aliases runtime)) } := by
  rw [ofGroups, Outcome.value_foldlM, foldl_addGroup]

@[simp] theorem kind_ofGroups : (ofGroups kind aliases groups runtime).value.kind = kind := by
  rw [value_ofGroups]

theorem mem_shipped_iff {className : String} {records : Records} :
    (className, records) ∈ groups.filterMap (shipped? kind aliases runtime) ↔
      ∃ group ∈ groups, ∃ members, runtime[ClassName.internal group.className]? = some members ∧
        ClassName.internal group.className = className ∧
        recordsOf kind aliases members group.members = records := by
  simp only [List.mem_filterMap, shipped?, Option.map_eq_some_iff, Prod.mk.injEq]

/-- The last of the groups of a class, by the name of the class in internal form. -/
def lastGroup? (groups : List MemberGroup) (className : String) : Option MemberGroup :=
  groups.findRev? fun group => decide (ClassName.internal group.className = className)

theorem lastGroup?_spec {className : String} {group : MemberGroup}
    (last : lastGroup? groups className = some group) :
    group ∈ groups ∧ ClassName.internal group.className = className := by
  obtain ⟨listed, named⟩ := Entries.mem_of_findRev? last
  exact ⟨listed, of_decide_eq_true named⟩

/-- The class of a listed group has a last group. -/
theorem exists_lastGroup? {group : MemberGroup} (grouped : group ∈ groups) :
    ∃ last, lastGroup? groups (ClassName.internal group.className) = some last := by
  rw [← Option.isSome_iff_exists, lastGroup?, Entries.isSome_findRev?_iff]
  exact ⟨group, grouped, decide_eq_true rfl⟩

/-- **A class has the records of its last group**, if the host ships the class. -/
theorem getElem?_classes_ofGroups (className : String) :
    (ofGroups kind aliases groups runtime).value.classes[className]? =
      runtime[className]?.bind fun members => (lastGroup? groups className).map fun group =>
        recordsOf kind aliases members group.members := by
  rw [value_ofGroups]
  cases found : runtime[className]? with
  | none =>
    refine Option.eq_none_iff_forall_ne_some.mpr fun records stored => ?_
    obtain ⟨group, -, members, ships, named, -⟩ :=
      mem_shipped_iff.mp (Entries.mem_of_getElem?_insertMany stored)
    rw [named, found] at ships
    cases ships
  | some members =>
    rw [Std.ExtTreeMap.insertMany_list_eq_foldl, List.foldl_filterMap,
      Entries.getElem?_foldl (fun group => decide (ClassName.internal group.className = className))
        (fun group => recordsOf kind aliases members group.members),
      Std.ExtTreeMap.getElem?_empty, Option.or_none, Option.bind_some, lastGroup?]
    intro records group
    by_cases named : ClassName.internal group.className = className
    · rw [shipped?, named, found]
      simp
    · rw [shipped?]
      cases runtime[ClassName.internal group.className]? <;>
        simp [named, Std.ExtTreeMap.getElem?_insert]

/-- **What is found in a table**: the record of the last member that claims the key, in the last group of the
class, if the host ships the class. -/
theorem get?_ofGroups_eq (owner key : String) :
    (ofGroups kind aliases groups runtime).value.get? owner key =
      runtime[ClassName.internal owner]?.bind fun members =>
        (lastGroup? groups (ClassName.internal owner)).bind fun group =>
          (lastClaimant? kind aliases group.members key).map (recordOf aliases members) := by
  rw [get?, classRecords?, getElem?_classes_ofGroups, Option.bind_assoc]
  simp only [Option.bind_map, getElem?_recordsOf, Function.comp_def]

theorem get?_ofGroups_eq_some_iff {owner key : String} {record : MemberRecord} :
    (ofGroups kind aliases groups runtime).value.get? owner key = some record ↔
      ∃ members, runtime[ClassName.internal owner]? = some members ∧
        ∃ group, lastGroup? groups (ClassName.internal owner) = some group ∧
          ∃ member, lastClaimant? kind aliases group.members key = some member ∧
            recordOf aliases members member = record := by
  simp only [get?_ofGroups_eq, Option.bind_eq_some_iff, Option.map_eq_some_iff]

/-- **A key is found** exactly if the host ships the class and a member of its last group claims the key. -/
theorem isSome_get?_ofGroups_iff {owner key : String} :
    ((ofGroups kind aliases groups runtime).value.get? owner key).isSome ↔
      ClassName.internal owner ∈ runtime ∧
        ∃ group, lastGroup? groups (ClassName.internal owner) = some group ∧
          ∃ member ∈ group.members, key ∈ keysOf kind aliases member := by
  simp only [Option.isSome_iff_exists, get?_ofGroups_eq_some_iff, Std.ExtTreeMap.mem_iff_isSome_getElem?,
    ← isSome_lastClaimant?_iff]
  constructor
  · rintro ⟨_, members, ships, group, last, member, claimant, rfl⟩
    exact ⟨⟨members, ships⟩, group, last, member, claimant⟩
  · rintro ⟨⟨members, ships⟩, group, last, member, claimant⟩
    exact ⟨_, members, ships, group, last, member, claimant, rfl⟩

/-- No two groups are of one class. -/
def ClassesApart (groups : List MemberGroup) : Prop :=
  (groups.map fun group => ClassName.internal group.className).Nodup

instance : Decidable (ClassesApart groups) :=
  inferInstanceAs
    (Decidable (groups.map fun group : MemberGroup => ClassName.internal group.className).Nodup)

/-- A group is the last of its class if no other one is of that class. -/
theorem lastGroup?_of_classesApart (apart : ClassesApart groups) {group : MemberGroup}
    (grouped : group ∈ groups) :
    lastGroup? groups (ClassName.internal group.className) = some group := by
  obtain ⟨last, found⟩ := exists_lastGroup? grouped
  obtain ⟨lastGrouped, same⟩ := lastGroup?_spec found
  rw [found, List.inj_on_of_nodup_map apart lastGrouped grouped same]

/-- **Each listed member is found under its keys in its class**, if the host ships the class. -/
theorem get?_ofGroups (apart : ClassesApart groups) {group : MemberGroup} (listed : group ∈ groups)
    (keysApart : ClaimApart kind aliases group.members) {member : Member}
    (memberListed : member ∈ group.members) {key : String}
    (claimed : key ∈ keysOf kind aliases member) {owner : String}
    (owned : ClassName.internal owner = ClassName.internal group.className) :
    (ofGroups kind aliases groups runtime).value.get? owner key =
      runtime[ClassName.internal group.className]?.map
        fun members => recordOf aliases members member := by
  rw [get?_ofGroups_eq, owned, lastGroup?_of_classesApart apart listed]
  simp only [Option.bind_some, lastClaimant?_of_claimApart keysApart memberListed claimed,
    Option.map_some]
  exact Option.map_eq_bind.symm

end MemberTable

end NameDomains
