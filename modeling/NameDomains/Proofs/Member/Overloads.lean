/-
**Overloaded methods.**

The key of a method is its name followed by its descriptor, with nothing in between. As a descriptor starts
with the first parenthesis of the key, both are read back from it, and no key stands for two overloads:

* `MemberKind.stripSuffix_key`, `MemberKind.key_method_inj` — the name and the descriptor in a key.
* `Member.mem_keysOf_iff_isOverload` — whose key it is.
* `MemberTable.get?_of_overload` — a query with a descriptor finds a listed member that has it, by a name of
  that member.
-/

import NameDomains.Proofs.Member.Table
import NameDomains.Proofs.Text.Offset

namespace NameDomains

/-! ### Keys -/

namespace MemberKind

/-- A name of a method, which holds no parenthesis. -/
def IsMethodName (name : String) : Prop := '(' ∉ name.toList

instance (name : String) : Decidable (IsMethodName name) := inferInstanceAs (Decidable (¬ _))

/-- A descriptor of a method, which starts with a parenthesis. -/
def IsMethodDescriptor (descriptor : String) : Prop := descriptor.toList.head? = some '('

instance (descriptor : String) : Decidable (IsMethodDescriptor descriptor) :=
  inferInstanceAs (Decidable (_ = _))

variable {name other descriptor otherDescriptor : String}

/-- **The name is what is left of a key without its descriptor.** -/
theorem stripSuffix_key (plain : IsMethodName name) (opens : IsMethodDescriptor descriptor) :
    method.stripSuffix (method.key name (some descriptor)) = name := by
  obtain ⟨rest, starts⟩ := List.head?_eq_some_iff.mp opens
  rw [stripSuffix, key, String.toList_append, starts]
  exact (congrArg String.ofList (Text.takeWhile_dropWhile_append plain rest).1).trans String.ofList_toList

/-- **A key has one name and one descriptor.** -/
theorem key_method_inj (plain : IsMethodName name) (opens : IsMethodDescriptor descriptor)
    (otherPlain : IsMethodName other) (otherOpens : IsMethodDescriptor otherDescriptor)
    (same : method.key name (some descriptor) = method.key other (some otherDescriptor)) :
    name = other ∧ descriptor = otherDescriptor := by
  have sameName : name = other := by
    rw [← stripSuffix_key plain opens, same, stripSuffix_key otherPlain otherOpens]
  subst sameName
  have sameText : (name ++ descriptor).toList = (name ++ otherDescriptor).toList :=
    congrArg String.toList same
  rw [String.toList_append, String.toList_append] at sameText
  exact ⟨rfl, String.toList_inj.mp (List.append_cancel_left sameText)⟩

end MemberKind

open MemberKind

/-! ### Members -/

namespace Member

variable {aliases : NameMap} {member : Member} {name descriptor : String}

/-- A member is listed as a method: with a descriptor, and with names that hold no parenthesis. -/
structure IsMethod (aliases : NameMap) (member : Member) : Prop where
  plain : ∀ name, member.IsCalled aliases name → IsMethodName name
  opens : ∃ descriptor, member.descriptor = some descriptor ∧ IsMethodDescriptor descriptor

/-- Whether a member is listed as a method is seen from its name, its alias and its descriptor. -/
instance : Decidable (member.IsMethod aliases) :=
  decidable_of_iff
    (IsMethodName member.name ∧ (∀ human ∈ alias? aliases member.name, IsMethodName human) ∧
      ∃ descriptor ∈ member.descriptor, IsMethodDescriptor descriptor)
    (by
      constructor
      · rintro ⟨plain, aliasPlain, opens⟩
        refine ⟨?_, opens⟩
        rintro name (rfl | given)
        · exact plain
        · exact aliasPlain name given
      · rintro ⟨plain, opens⟩
        exact ⟨plain _ (.inl rfl), fun human given => plain human (.inr given), opens⟩)

/-- A member is the overload of a name with a descriptor. -/
def IsOverload (aliases : NameMap) (member : Member) (name descriptor : String) : Prop :=
  member.descriptor = some descriptor ∧ member.IsCalled aliases name

instance : Decidable (member.IsOverload aliases name descriptor) :=
  inferInstanceAs (Decidable (_ ∧ _))

/-- **A member claims the keys of its overloads**, and no other key of a method. -/
theorem mem_keysOf_iff_isOverload (listed : member.IsMethod aliases) (plain : IsMethodName name)
    (opens : IsMethodDescriptor descriptor) :
    method.key name (some descriptor) ∈ MemberTable.keysOf method aliases member ↔
      member.IsOverload aliases name descriptor := by
  rw [MemberTable.mem_keysOf_iff]
  constructor
  · rintro ⟨called, calls, same⟩
    obtain ⟨own, described, ownOpens⟩ := listed.opens
    rw [described] at same
    obtain ⟨rfl, rfl⟩ := key_method_inj (listed.plain called calls) ownOpens plain opens same
    exact ⟨described, calls⟩
  · rintro ⟨described, calls⟩
    exact ⟨name, calls, by rw [described]⟩

end Member

/-! ### Tables -/

namespace MemberTable

variable {aliases : NameMap} {groups : List MemberGroup}

/-- **A query for a method is answered with no other overload**: what it finds is the record of a listed
member of the queried class, by that descriptor and a name of that member. It finds one exactly if the last
group of the class lists such a member and the host ships the class. The name and the descriptor of the query
are those that its key has. -/
theorem get?_of_overload (listed : ∀ group ∈ groups, ∀ member ∈ group.members, member.IsMethod aliases)
    {name descriptor : String} (plain : IsMethodName name) (opens : IsMethodDescriptor descriptor)
    (runtime : MemberMaps) (owner : String) :
    (∀ record, (ofGroups .method aliases groups runtime).value.get? owner
        (method.key name (some descriptor)) = some record →
      ∃ names, runtime[ClassName.internal owner]? = some names ∧
        ∃ group ∈ groups, ClassName.internal group.className = ClassName.internal owner ∧
          ∃ member ∈ group.members, member.IsOverload aliases name descriptor ∧
            recordOf aliases names member = record) ∧
    (((ofGroups .method aliases groups runtime).value.get? owner
        (method.key name (some descriptor))).isSome ↔
      ClassName.internal owner ∈ runtime ∧
        ∃ group, lastGroup? groups (ClassName.internal owner) = some group ∧
          ∃ member ∈ group.members, member.IsOverload aliases name descriptor) ∧
    method.stripSuffix (method.key name (some descriptor)) = name ∧
    ∀ other otherDescriptor, IsMethodName other → IsMethodDescriptor otherDescriptor →
      method.key name (some descriptor) = method.key other (some otherDescriptor) →
        name = other ∧ descriptor = otherDescriptor := by
  have claims_iff : ∀ group ∈ groups, ∀ member ∈ group.members,
      (method.key name (some descriptor) ∈ keysOf method aliases member ↔
        member.IsOverload aliases name descriptor) := fun group grouped member memberListed =>
    Member.mem_keysOf_iff_isOverload (listed group grouped member memberListed) plain opens
  refine ⟨fun record found => ?_, ?_, stripSuffix_key plain opens, fun other otherDescriptor otherPlain
    otherOpens => key_method_inj plain opens otherPlain otherOpens⟩
  · obtain ⟨names, ships, group, last, member, claimant, made⟩ := get?_ofGroups_eq_some_iff.mp found
    obtain ⟨grouped, named⟩ := lastGroup?_spec last
    obtain ⟨memberListed, claims⟩ := lastClaimant?_spec claimant
    have overload := (claims_iff group grouped member memberListed).mp claims
    exact ⟨names, ships, group, grouped, named, member, memberListed, overload, made⟩
  · rw [isSome_get?_ofGroups_iff]
    refine and_congr_right fun _ => exists_congr fun group => and_congr_right fun last =>
      exists_congr fun member => and_congr_right fun memberListed => ?_
    exact claims_iff group (lastGroup?_spec last).1 member memberListed

/-- A method with two overloads, one of which has a namesake. -/
def openings : MemberGroup :=
  ⟨"net.Door", [⟨"m_1", some "()V"⟩, ⟨"m_1", some "(I)V"⟩, ⟨"open", some "(J)V"⟩]⟩

/-- An overload is found by its alias beside two others that are called by the same name. -/
theorem get?_of_overload_alias :
    (∀ group ∈ [openings], ∀ member ∈ group.members,
        member.IsMethod ((∅ : NameMap).insert "m_1" "open")) ∧
      IsMethodName "open" ∧ IsMethodDescriptor "(I)V" ∧
      ∃ record, (ofGroups .method ((∅ : NameMap).insert "m_1" "open") [openings]
          ((∅ : MemberMaps).insert "net/Door" ∅)).value.get? "net/Door" "open(I)V" = some record ∧
        ∃ member ∈ openings.members,
          member.IsOverload ((∅ : NameMap).insert "m_1" "open") "open" "(I)V" ∧
            record.intermediate = member.name := by
  have listed : ∀ group ∈ [openings], ∀ member ∈ group.members,
      member.IsMethod ((∅ : NameMap).insert "m_1" "open") := by decide
  have plain : IsMethodName "open" := by decide
  have opens : IsMethodDescriptor "(I)V" := by decide
  obtain ⟨sound, complete, -⟩ :=
    get?_of_overload listed plain opens ((∅ : MemberMaps).insert "net/Door" ∅) "net/Door"
  obtain ⟨record, found⟩ := Option.isSome_iff_exists.mp (complete.mpr
    ⟨by decide, openings, by decide, ⟨"m_1", some "(I)V"⟩, by decide, by decide⟩)
  obtain ⟨names, -, group, grouped, -, member, memberListed, overload, rfl⟩ := sound record found
  obtain rfl := List.mem_singleton.mp grouped
  exact ⟨listed, plain, opens, _, found, member, memberListed, overload, rfl⟩

end MemberTable

end NameDomains
