/-
**Members in the place of others.**

What comes later in the mappings replaces what came earlier, and two things are lost by it. The intermediate
key of a member may be the human key of another one; if the other one is listed later, the key finds it
instead. And of several groups of one class only the last one counts.

* `MemberTable.taker?` — who takes the intermediate key of a member.
* `MemberTable.get?_intermediateKey` — which record the intermediate key of a member finds: that of its
  taker, or else its own.
* `MemberTable.lastGroups` — the groups that count.
* `MemberTable.get?_of_severalGroups` — a member is found exactly if the last group of its class lists it.
-/

import NameDomains.Proofs.Member.Table

namespace NameDomains.MemberTable

variable {kind : MemberKind} {aliases : NameMap} {groups : List MemberGroup} {runtime : MemberMaps}

/-- The key of a member's intermediate name. -/
def intermediateKey (kind : MemberKind) (member : Member) : String :=
  kind.key member.name member.descriptor

theorem intermediateKey_mem_keysOf (member : Member) :
    intermediateKey kind member ∈ keysOf kind aliases member :=
  List.mem_cons_self

/-! ### Keys taken by an alias -/

/-- The last of the members listed after a member that claims its intermediate key. -/
def taker? (kind : MemberKind) (aliases : NameMap) (after : List Member) (member : Member) :
    Option Member :=
  lastClaimant? kind aliases after (intermediateKey kind member)

/-- No two of the members have one intermediate key. -/
def IntermediateKeysApart (kind : MemberKind) (members : List Member) : Prop :=
  (members.map (intermediateKey kind)).Nodup

instance {members : List Member} : Decidable (IntermediateKeysApart kind members) :=
  inferInstanceAs (Decidable (members.map (intermediateKey kind)).Nodup)

/-- A member claims any other key than its intermediate one by its alias. -/
theorem exists_alias?_of_mem_keysOf {member : Member} {key : String}
    (claimed : key ∈ keysOf kind aliases member) (other : intermediateKey kind member ≠ key) :
    ∃ human, alias? aliases member.name = some human ∧ kind.key human member.descriptor = key := by
  obtain ⟨name, rfl | given, made⟩ := mem_keysOf_iff.mp claimed
  · exact absurd made other
  · exact ⟨name, given, made⟩

/-- **Where intermediate keys differ, one is taken only by an alias** of a member that follows. -/
theorem exists_alias?_of_taker? {before after : List Member} {member taker : Member}
    (apart : IntermediateKeysApart kind (before ++ member :: after))
    (taken : taker? kind aliases after member = some taker) :
    taker ∈ after ∧ ∃ human, alias? aliases taker.name = some human ∧
      kind.key human taker.descriptor = intermediateKey kind member := by
  obtain ⟨follows, claims⟩ := lastClaimant?_spec taken
  refine ⟨follows, exists_alias?_of_mem_keysOf claims fun same => ?_⟩
  rw [IntermediateKeysApart, List.map_append, List.map_cons] at apart
  have own := (List.nodup_cons.mp apart.of_append_right).1
  rw [← same] at own
  exact own (List.mem_map_of_mem follows)

/-- Members of one class have one record exactly if they have one intermediate name. -/
theorem recordOf_eq_iff {names : NameMap} {first second : Member} :
    recordOf aliases names first = recordOf aliases names second ↔ first.name = second.name := by
  constructor
  · exact congrArg MemberRecord.intermediate
  · intro same
    rw [recordOf, recordOf, same]

/-- **The intermediate key of a member finds the record of its taker**, or else its own. So it finds the
member's own record exactly if the taker, if there is one, has the same intermediate name; and only by its
alias does a later member take the key. -/
theorem get?_intermediateKey (apart : ClassesApart groups) {group : MemberGroup}
    (grouped : group ∈ groups) (keysApart : IntermediateKeysApart kind group.members)
    {names : NameMap} (ships : runtime[ClassName.internal group.className]? = some names)
    {before after : List Member} {member : Member}
    (listed : group.members = before ++ member :: after)
    {owner : String} (owned : ClassName.internal owner = ClassName.internal group.className) :
    (ofGroups kind aliases groups runtime).value.get? owner (intermediateKey kind member) =
        some (recordOf aliases names ((taker? kind aliases after member).getD member)) ∧
      ((ofGroups kind aliases groups runtime).value.get? owner (intermediateKey kind member) =
          some (recordOf aliases names member) ↔
        ∀ taker, taker? kind aliases after member = some taker → taker.name = member.name) ∧
      ∀ taker, taker? kind aliases after member = some taker →
        taker ∈ after ∧ ∃ human, alias? aliases taker.name = some human ∧
          kind.key human taker.descriptor = intermediateKey kind member := by
  have found : (ofGroups kind aliases groups runtime).value.get? owner (intermediateKey kind member) =
      some (recordOf aliases names ((taker? kind aliases after member).getD member)) := by
    rw [get?_ofGroups_eq, owned, ships, Option.bind_some, lastGroup?_of_classesApart apart grouped,
      Option.bind_some, listed, lastClaimant?_of_claimed (intermediateKey_mem_keysOf member), taker?,
      Option.map_some]
  refine ⟨found, ?_, fun taker taken => exists_alias?_of_taker? (listed ▸ keysApart) taken⟩
  rw [found, Option.some.injEq, recordOf_eq_iff]
  cases taker? kind aliases after member with
  | none => simp
  | some taker => simp

/-- The runtime names of two fields and two methods. -/
def doorNames : NameMap :=
  (∅ : NameMap).insertMany [("f_1", "a"), ("f_2", "b"), ("m_1", "c"), ("m_2", "d")]

/-- The host ships them with one class. -/
def doorTables : MemberMaps := (∅ : MemberMaps).insert "net/Door" doorNames

/-- The fields. -/
def doorFields : MemberGroup := ⟨"net.Door", [⟨"f_1", none⟩, ⟨"f_2", none⟩]⟩

/-- The methods, which have different descriptors. -/
def doorMethods : MemberGroup := ⟨"net.Door", [⟨"m_1", some "()V"⟩, ⟨"m_2", some "(I)V"⟩]⟩

/-- A method keeps its intermediate key beside one that is called by its name but has another descriptor. -/
theorem get?_intermediateKey_overloaded :
    ClassesApart [doorMethods] ∧ IntermediateKeysApart .method doorMethods.members ∧
      (ofGroups .method ((∅ : NameMap).insert "m_2" "m_1") [doorMethods] doorTables).value.get?
        "net/Door" "m_1()V" = some ⟨none, "m_1", some "c"⟩ := by
  have apart : ClassesApart [doorMethods] := by decide
  have keysApart : IntermediateKeysApart .method doorMethods.members := by decide
  have ships : doorTables[ClassName.internal doorMethods.className]? = some doorNames := by decide
  have listed : doorMethods.members = [] ++ ⟨"m_1", some "()V"⟩ :: [⟨"m_2", some "(I)V"⟩] := rfl
  have owned : ClassName.internal "net/Door" = ClassName.internal doorMethods.className := by decide
  exact ⟨apart, keysApart, (get?_intermediateKey apart List.mem_cons_self keysApart ships listed
    owned).2.1.mpr (by decide)⟩

/-- A field loses its key to one that is called by its name: not every listed member is found under its
intermediate key. -/
theorem not_intermediateKey_kept :
    ¬ ∀ kind aliases groups runtime, ClassesApart groups →
      (∀ group ∈ groups, IntermediateKeysApart kind group.members) →
      ∀ group ∈ groups, ∀ names, runtime[ClassName.internal group.className]? = some names →
        ∀ member ∈ group.members,
          (ofGroups kind aliases groups runtime).value.get? group.className
            (intermediateKey kind member) = some (recordOf aliases names member) := by
  intro kept
  have own := kept .field ((∅ : NameMap).insert "f_2" "f_1") [doorFields] doorTables (by decide)
    (by decide) doorFields List.mem_cons_self doorNames (by decide) ⟨"f_1", none⟩ List.mem_cons_self
  exact absurd own (by decide)

/-! ### Groups replaced by later ones -/

/-- The groups without a later one of the same class. -/
def lastGroups : List MemberGroup → List MemberGroup
  | [] => []
  | group :: groups =>
    if (lastGroup? groups (ClassName.internal group.className)).isSome then lastGroups groups
    else group :: lastGroups groups

theorem lastGroup?_cons (group : MemberGroup) (groups : List MemberGroup) (className : String) :
    lastGroup? (group :: groups) className =
      (lastGroup? groups className).or
        (if ClassName.internal group.className = className then some group else none) := by
  rw [lastGroup?, List.findRev?, lastGroup?]
  cases groups.findRev? fun group => decide (ClassName.internal group.className = className) with
  | some last => rfl
  | none => simp

/-- **Each class has the same last group without the groups that are replaced.** -/
theorem lastGroup?_lastGroups (groups : List MemberGroup) (className : String) :
    lastGroup? (lastGroups groups) className = lastGroup? groups className := by
  induction groups with
  | nil => rfl
  | cons group groups same =>
    rw [lastGroups, lastGroup?_cons]
    split
    · next replaced =>
      rw [same]
      by_cases named : ClassName.internal group.className = className
      · obtain ⟨last, found⟩ := Option.isSome_iff_exists.mp replaced
        rw [← named, found, Option.some_or]
      · rw [if_neg named, Option.or_none]
    · rw [lastGroup?_cons, same]

/-- **Only the last group of each class counts.** -/
theorem value_ofGroups_lastGroups :
    (ofGroups kind aliases (lastGroups groups) runtime).value =
      (ofGroups kind aliases groups runtime).value := by
  have same : (ofGroups kind aliases (lastGroups groups) runtime).value.classes =
      (ofGroups kind aliases groups runtime).value.classes := by
    refine Std.ExtTreeMap.ext_getElem? fun className => ?_
    rw [getElem?_classes_ofGroups, getElem?_classes_ofGroups, lastGroup?_lastGroups]
  rw [value_ofGroups, value_ofGroups] at same ⊢
  exact congrArg (MemberTable.mk kind) same

/-- No two members that are listed for one class, in whichever of its groups, claim one key. -/
def ListedApart (kind : MemberKind) (aliases : NameMap) (groups : List MemberGroup) : Prop :=
  ∀ first ∈ groups, ∀ second ∈ groups,
    ClassName.internal first.className = ClassName.internal second.className →
      ∀ member ∈ first.members, ∀ other ∈ second.members, ∀ key ∈ keysOf kind aliases member,
        key ∈ keysOf kind aliases other → member = other

instance : Decidable (ListedApart kind aliases groups) :=
  inferInstanceAs (Decidable (∀ first ∈ groups, ∀ second ∈ groups,
    ClassName.internal first.className = ClassName.internal second.className →
      ∀ member ∈ first.members, ∀ other ∈ second.members, ∀ key ∈ keysOf kind aliases member,
        key ∈ keysOf kind aliases other → member = other))

/-- **A listed member is found under its intermediate key exactly if the last group of its class lists it**,
where no two members of one class claim one key; the table is the same without the other groups. -/
theorem get?_of_severalGroups (apart : ListedApart kind aliases groups) {group : MemberGroup}
    (grouped : group ∈ groups) {names : NameMap}
    (ships : runtime[ClassName.internal group.className]? = some names) {member : Member}
    (listed : member ∈ group.members) {owner : String}
    (owned : ClassName.internal owner = ClassName.internal group.className) :
    (ofGroups kind aliases groups runtime).value =
        (ofGroups kind aliases (lastGroups groups) runtime).value ∧
      ∃ last, lastGroup? groups (ClassName.internal group.className) = some last ∧
        (ofGroups kind aliases groups runtime).value.get? owner (intermediateKey kind member) =
          if member ∈ last.members then some (recordOf aliases names member) else none := by
  obtain ⟨last, found⟩ := exists_lastGroup? grouped
  obtain ⟨lastGrouped, same⟩ := lastGroup?_spec found
  refine ⟨value_ofGroups_lastGroups.symm, last, found, ?_⟩
  rw [get?_ofGroups_eq, owned, ships, Option.bind_some, found, Option.bind_some]
  have claimed : intermediateKey kind member ∈ keysOf kind aliases member :=
    intermediateKey_mem_keysOf member
  by_cases kept : member ∈ last.members
  · have keysApart : ClaimApart kind aliases last.members := apart last lastGrouped last lastGrouped rfl
    rw [if_pos kept, lastClaimant?_of_claimApart keysApart kept claimed, Option.map_some]
  · rw [if_neg kept, Option.map_eq_none_iff, Option.eq_none_iff_forall_ne_some]
    intro other claimant
    obtain ⟨otherListed, otherClaims⟩ := lastClaimant?_spec claimant
    have one := apart group grouped last lastGrouped same.symm member listed other otherListed _ claimed
      otherClaims
    exact kept (one ▸ otherListed)

/-- A field is found if the last group of its class lists it again. -/
theorem get?_of_severalGroups_relisted :
    ListedApart .field ∅ [doorFields, ⟨"net/Door", [⟨"f_1", none⟩]⟩] ∧
      (ofGroups .field ∅ [doorFields, ⟨"net/Door", [⟨"f_1", none⟩]⟩] doorTables).value.get?
        "net.Door" "f_1" = some ⟨none, "f_1", some "a"⟩ := by
  have apart : ListedApart .field ∅ [doorFields, ⟨"net/Door", [⟨"f_1", none⟩]⟩] := by decide
  have ships : doorTables[ClassName.internal doorFields.className]? = some doorNames := by decide
  have listed : ⟨"f_1", none⟩ ∈ doorFields.members := List.mem_cons_self
  have owned : ClassName.internal "net.Door" = ClassName.internal doorFields.className := rfl
  obtain ⟨-, last, found, answered⟩ := get?_of_severalGroups apart List.mem_cons_self ships listed owned
  have relisted : last = ⟨"net/Door", [⟨"f_1", none⟩]⟩ := Option.some.inj (found.symm.trans (by decide))
  rw [relisted] at answered
  exact ⟨apart, answered.trans (by decide)⟩

/-- A field of an earlier group is lost: not every listed member is found. -/
theorem not_found_in_each_group :
    ¬ ∀ kind aliases groups runtime, ListedApart kind aliases groups →
      ∀ group ∈ groups, ∀ names, runtime[ClassName.internal group.className]? = some names →
        ∀ member ∈ group.members,
          (ofGroups kind aliases groups runtime).value.get? group.className
            (intermediateKey kind member) = some (recordOf aliases names member) := by
  intro found
  have own := found .field ∅ [doorFields, ⟨"net/Door", [⟨"f_3", none⟩]⟩] doorTables (by decide)
    doorFields List.mem_cons_self doorNames (by decide) ⟨"f_1", none⟩ List.mem_cons_self
  exact absurd own (by decide)

end NameDomains.MemberTable
