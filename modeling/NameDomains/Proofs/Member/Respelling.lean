/-
**Member tables of respelled classes.**

The host's tables and the groups of listed members name their classes in either spelling. A class is filed
under its internal form, so other spellings make the same member table as long as no two classes of the host
are filed under one name:

* `HostTables.value_runtimeTables_respelled` — respelled tables of a host turn into the same tables.
* `MemberTable.value_ofGroups_respelled` — respelled groups make the same table.
-/

import NameDomains.Proofs.ClassTable.Respelling
import NameDomains.Proofs.Member.HostTable
import NameDomains.Proofs.Member.Table

namespace NameDomains

/-! ### The host's tables -/

namespace HostTables

/-- Each class of the one host is spelled in some way by the other, which has the tables of the first one
and no others. -/
structure Respelled (tables others : MemberMaps) : Prop where
  spelled : ∀ hostClass ∈ tables, ∃ spelling ∈ others,
    ClassName.internal hostClass = ClassName.internal spelling
  listed : ∀ (spelling : String) (members : NameMap), others[spelling]? = some members →
    ∃ hostClass : String, tables[hostClass]? = some members ∧
      ClassName.internal hostClass = ClassName.internal spelling

/-- The tables of a host with its classes spelled anew. -/
def respell (spell : String → String) (tables : MemberMaps) : MemberMaps :=
  (∅ : MemberMaps).insertMany (tables.toList.map fun entry => (spell entry.1, entry.2))

/-- Classes are respelled by any change of their separators. -/
theorem respelled_respell {spell : String → String}
    (keeps : ∀ name, ClassName.internal (spell name) = ClassName.internal name) (tables : MemberMaps) :
    Respelled tables (respell spell tables) where
  spelled hostClass listed := by
    have entry := Std.ExtTreeMap.mem_toList_iff_getElem?_eq_some.mpr
      (Std.ExtTreeMap.getElem?_eq_some_getElem listed)
    have respelled : (spell hostClass, tables[hostClass]) ∈
        tables.toList.map fun entry => (spell entry.1, entry.2) :=
      List.mem_map.mpr ⟨(hostClass, tables[hostClass]), entry, rfl⟩
    obtain ⟨last, filed⟩ := Entries.exists_getElem?_insertMany respelled
    exact ⟨spell hostClass, (Std.ExtTreeMap.getElem?_eq_some_iff.mp filed).1, (keeps hostClass).symm⟩
  listed spelling members filed := by
    obtain ⟨⟨hostClass, own⟩, entry, same⟩ :=
      List.mem_map.mp (Entries.mem_of_getElem?_insertMany filed)
    obtain ⟨rfl, rfl⟩ := Prod.mk.inj same
    exact ⟨hostClass, Std.ExtTreeMap.mem_toList_iff_getElem?_eq_some.mp entry, (keeps hostClass).symm⟩

variable {classes otherClasses : ClassTable} {tables others : MemberMaps} {kind : MemberKind}

/-- A class lands on one name in all its spellings. -/
theorem landing_eq_of_internal_eq (same : ClassTable.SameNames classes otherClasses)
    {hostClass spelling : String}
    (spelled : ClassName.internal hostClass = ClassName.internal spelling) :
    landing classes hostClass = landing otherClasses spelling := by
  rw [landing, landing, same.counterpart?_eq spelled, spelled]

/-- **The same tables land on the same names.** -/
theorem mem_landed_iff_of_respelled (apart : LandsApart tables classes)
    (same : ClassTable.SameNames classes otherClasses) (respelled : Respelled tables others)
    (entry : String × NameMap) :
    entry ∈ landed kind tables classes ↔ entry ∈ landed kind others otherClasses := by
  obtain ⟨className, runtime⟩ := entry
  rw [mem_landed_iff, mem_landed_iff]
  constructor
  · rintro ⟨hostClass, members, found, lands, turned⟩
    have hosted : hostClass ∈ tables := (Std.ExtTreeMap.getElem?_eq_some_iff.mp found).1
    obtain ⟨spelling, shipped, spelled⟩ := respelled.spelled hostClass hosted
    have shippedWith := Std.ExtTreeMap.getElem?_eq_some_getElem shipped
    obtain ⟨own, ownFound, ownSpelled⟩ := respelled.listed spelling _ shippedWith
    -- Both names of the first host have one spelling in the other, so they are one name.
    have sameLanding : landing classes own = landing classes hostClass := by
      rw [landing_eq_of_internal_eq same ownSpelled, landing_eq_of_internal_eq same spelled]
    rw [apart.eq_of_landing_eq ownFound found sameLanding] at shippedWith
    exact ⟨spelling, members, shippedWith, by rw [← landing_eq_of_internal_eq same spelled, lands], turned⟩
  · rintro ⟨spelling, members, found, lands, turned⟩
    obtain ⟨hostClass, hosted, spelled⟩ := respelled.listed spelling members found
    exact ⟨hostClass, members, hosted, by rw [landing_eq_of_internal_eq same spelled, lands], turned⟩

/-- **Respelled tables of a host turn into the same tables.** -/
theorem value_runtimeTables_respelled (apart : LandsApart tables classes)
    (same : ClassTable.SameNames classes otherClasses) (respelled : Respelled tables others) :
    (runtimeTables kind tables classes).value = (runtimeTables kind others otherClasses).value := by
  rw [value_runtimeTables, value_runtimeTables]
  exact Entries.insertMany_congr apart.consistent (mem_landed_iff_of_respelled apart same respelled)

end HostTables

/-! ### Groups -/

/-- Two groups list the same members for one class. -/
structure MemberGroup.Respelled (group other : MemberGroup) : Prop where
  className : ClassName.internal group.className = ClassName.internal other.className
  members : group.members = other.members

namespace MemberTable

variable {kind : MemberKind} {aliases : NameMap}

/-- **Respelled groups make the same table.** -/
theorem value_ofGroups_respelled {groups others : List MemberGroup}
    (respelled : List.Forall₂ MemberGroup.Respelled groups others) (runtime : MemberMaps) :
    (ofGroups kind aliases groups runtime).value = (ofGroups kind aliases others runtime).value := by
  have same : groups.filterMap (shipped? kind aliases runtime) =
      others.filterMap (shipped? kind aliases runtime) := by
    induction respelled with
    | nil => rfl
    | @cons group other groups others here later rest =>
      have sameEntry : shipped? kind aliases runtime group = shipped? kind aliases runtime other := by
        rw [shipped?, shipped?, here.className, here.members]
      rw [List.filterMap_cons, List.filterMap_cons, sameEntry, rest]
  rw [value_ofGroups, value_ofGroups, same]

/-- A class is found by all its spellings. -/
theorem get?_eq_of_internal_eq (table : MemberTable) {owner spelling : String}
    (spelled : ClassName.internal owner = ClassName.internal spelling) (key : String) :
    table.get? owner key = table.get? spelling key := by
  rw [get?, get?, classRecords?, classRecords?, spelled]

end MemberTable

end NameDomains
