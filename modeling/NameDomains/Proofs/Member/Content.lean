/-
**The exact content of a member table.**

A table is filled by two nested loops in which everything may be written over. What is left in the end can
be said without them: a class is there if a group lists it and the host ships it, and a key finds the record
of the last member that has it, in the last group of the class.

* `Member.HasKey`, `Member.IsRecorded` — the keys of a listed member and its record, from the aliases and the
  host's names alone.
* `MemberTable.mem_classes_ofGroups_iff`, `MemberTable.size_ofGroups` — which classes a table has, and how
  many.
* `MemberTable.content_ofGroups` — all that a table answers.
-/

import Mathlib.Data.List.Dedup
import NameDomains.Proofs.Member.Table

namespace NameDomains

/-- A group lists members of a class, in whichever spelling. -/
def MemberGroup.IsOf (className : String) (group : MemberGroup) : Prop :=
  ClassName.internal group.className = ClassName.internal className

instance {className : String} : DecidablePred (MemberGroup.IsOf className) :=
  fun group => decEq (ClassName.internal group.className) (ClassName.internal className)

namespace Member

variable {kind : MemberKind} {aliases names : NameMap}

/-- The intermediate key of a member or, if it has an alias that is not empty, the human one. -/
def HasKey (kind : MemberKind) (aliases : NameMap) (key : String) (member : Member) : Prop :=
  kind.key member.name member.descriptor = key ∨
    ∃ human, aliases[member.name]? = some human ∧ human ≠ "" ∧ kind.key human member.descriptor = key

/-- The record of a member: its alias unless that is empty, its own name, and the host's name for it
unless that is empty. -/
structure IsRecorded (aliases names : NameMap) (member : Member) (record : MemberRecord) : Prop where
  human : ∀ human, record.human = some human ↔ aliases[member.name]? = some human ∧ human ≠ ""
  intermediate : record.intermediate = member.name
  runtime : ∀ runtime, record.runtime = some runtime ↔ names[member.name]? = some runtime ∧ runtime ≠ ""

theorem alias?_eq_some_iff {name human : String} :
    alias? aliases name = some human ↔ aliases[name]? = some human ∧ human ≠ "" := by
  rw [alias?, filter_ne_empty_eq_some_iff]

theorem mem_keysOf_iff_hasKey {member : Member} {key : String} :
    key ∈ MemberTable.keysOf kind aliases member ↔ member.HasKey kind aliases key := by
  rw [MemberTable.mem_keysOf_iff, HasKey]
  simp only [IsCalled, alias?_eq_some_iff]
  constructor
  · rintro ⟨name, rfl | ⟨given, nonempty⟩, same⟩
    · exact .inl same
    · exact .inr ⟨name, given, nonempty, same⟩
  · rintro (same | ⟨human, given, nonempty, same⟩)
    · exact ⟨member.name, .inl rfl, same⟩
    · exact ⟨human, .inr ⟨given, nonempty⟩, same⟩

theorem isRecorded_iff {member : Member} {record : MemberRecord} :
    member.IsRecorded aliases names record ↔ MemberTable.recordOf aliases names member = record := by
  have own : member.IsRecorded aliases names (MemberTable.recordOf aliases names member) := by
    refine ⟨fun human => ?_, rfl, fun runtime => filter_ne_empty_eq_some_iff⟩
    show (alias? aliases member.name).filter (· ≠ "") = some human ↔ _
    rw [filter_ne_empty_eq_some_iff, alias?_eq_some_iff, and_assoc, and_self]
  constructor
  · intro recorded
    obtain ⟨human, intermediate, runtime⟩ := record
    have sameHuman : (MemberTable.recordOf aliases names member).human = human := by
      ext name
      exact (own.human name).trans (recorded.human name).symm
    have sameRuntime : (MemberTable.recordOf aliases names member).runtime = runtime := by
      ext name
      exact (own.runtime name).trans (recorded.runtime name).symm
    have sameName : member.name = intermediate := recorded.intermediate.symm
    rw [← sameHuman, ← sameName, ← sameRuntime]
    rfl
  · rintro rfl
    exact own

end Member

namespace MemberTable

variable {kind : MemberKind} {aliases : NameMap} {groups : List MemberGroup} {runtime : MemberMaps}

/-! ### Classes -/

theorem lastGroup?_eq_some_iff {className : String} {group : MemberGroup} :
    lastGroup? groups (ClassName.internal className) = some group ↔
      Entries.IsLast (MemberGroup.IsOf className) groups group :=
  Entries.findRev?_eq_some_iff

theorem lastClaimant?_eq_some_iff {members : List Member} {key : String} {member : Member} :
    lastClaimant? kind aliases members key = some member ↔
      Entries.IsLast (Member.HasKey kind aliases key) members member := by
  rw [lastClaimant?, Entries.findRev?_eq_some_iff]
  simp only [Entries.IsLast, Member.mem_keysOf_iff_hasKey]

/-- **A table has the classes that a group lists and the host ships.** -/
theorem mem_classes_ofGroups_iff {className : String} :
    className ∈ (ofGroups kind aliases groups runtime).value.classes ↔
      (∃ group ∈ groups, ClassName.internal group.className = className) ∧ className ∈ runtime := by
  rw [Std.ExtTreeMap.mem_iff_isSome_getElem?, getElem?_classes_ofGroups,
    Std.ExtTreeMap.mem_iff_isSome_getElem?]
  cases runtime[className]? with
  | none => simp
  | some members => simp [lastGroup?]

/-- The names of the classes that are listed and shipped, one for each group. -/
def listedNames (groups : List MemberGroup) (runtime : MemberMaps) : List String :=
  (groups.map fun group => ClassName.internal group.className).filter (· ∈ runtime)

/-- **The size of a table is the number of different classes that are listed and shipped.** -/
theorem size_ofGroups :
    (ofGroups kind aliases groups runtime).value.size = (listedNames groups runtime).dedup.length := by
  have permuted : (ofGroups kind aliases groups runtime).value.classes.keys.Perm
      (listedNames groups runtime).dedup := by
    refine (List.perm_ext_iff_of_nodup Std.ExtTreeMap.nodup_keys (List.nodup_dedup _)).mpr ?_
    intro className
    rw [Std.ExtTreeMap.mem_keys, mem_classes_ofGroups_iff, List.mem_dedup, listedNames, List.mem_filter,
      List.mem_map, decide_eq_true_eq]
  rw [size, ← Std.ExtTreeMap.length_keys, permuted.length_eq]

/-! ### Records -/

/-- **What a table holds**, whatever is written over while it is filled. A class is there exactly if a group
lists it and the host ships it. A key finds something in it exactly if a member of its last group has that
key, and then it finds the record of the last such member. Each class is counted once. -/
theorem content_ofGroups (kind : MemberKind) (aliases : NameMap) (groups : List MemberGroup)
    (runtime : MemberMaps) :
    (∀ className,
      ((ofGroups kind aliases groups runtime).value.classRecords? className).isSome ↔
        (∃ group ∈ groups, group.IsOf className) ∧ ClassName.internal className ∈ runtime) ∧
    (∀ className key,
      ((ofGroups kind aliases groups runtime).value.get? className key).isSome ↔
        ClassName.internal className ∈ runtime ∧
          ∃ group, Entries.IsLast (MemberGroup.IsOf className) groups group ∧
            ∃ member ∈ group.members, member.HasKey kind aliases key) ∧
    (∀ className key record,
      (ofGroups kind aliases groups runtime).value.get? className key = some record ↔
        ∃ names, runtime[ClassName.internal className]? = some names ∧
          ∃ group, Entries.IsLast (MemberGroup.IsOf className) groups group ∧
            ∃ member, Entries.IsLast (Member.HasKey kind aliases key) group.members member ∧
              member.IsRecorded aliases names record) ∧
    (ofGroups kind aliases groups runtime).value.size = (listedNames groups runtime).dedup.length := by
  refine ⟨fun className => ?_, fun className key => ?_, fun className key record => ?_, size_ofGroups⟩
  · rw [classRecords?, ← Std.ExtTreeMap.mem_iff_isSome_getElem?, mem_classes_ofGroups_iff]
    rfl
  · rw [isSome_get?_ofGroups_iff]
    simp only [lastGroup?_eq_some_iff, Member.mem_keysOf_iff_hasKey]
  · rw [get?_ofGroups_eq_some_iff]
    simp only [lastGroup?_eq_some_iff, lastClaimant?_eq_some_iff, Member.isRecorded_iff]

end MemberTable

end NameDomains
