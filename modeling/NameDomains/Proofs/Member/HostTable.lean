/-
**What becomes of the host's runtime tables.**

The tables of a host are turned around by class and by member, which may bring two of its classes or two
of its members to one name. Where that does not happen, nothing is lost:

* `HostTables.landing_eq_iff` — a host's class lands on a class exactly when it stands for it.
* `HostTables.getElem?_turnAround_eq_some_iff` — what the turned table of one class holds.
* `HostTables.getElem?_runtimeTables_eq_some_iff` — which tables are found under a class.
-/

import NameDomains.Member.HostTable
import NameDomains.Proofs.Entries

namespace NameDomains.HostTables

/-- A host's class stands for a class if its human name is the name of that class or, where it has no
human name, its own name is. -/
def StandsFor (classes : ClassTable) (hostClass className : String) : Prop :=
  classes.counterpart? hostClass .toHuman = some (ClassName.internal className) ∨
    classes.counterpart? hostClass .toHuman = none ∧
      ClassName.internal hostClass = ClassName.internal className

/-- **A host's class lands on a class exactly when it stands for it.** -/
theorem landing_eq_iff {classes : ClassTable} {hostClass className : String} :
    landing classes hostClass = ClassName.internal className ↔
      StandsFor classes hostClass className := by
  rw [landing, StandsFor]
  cases classes.counterpart? hostClass .toHuman with
  | none => simp
  | some human => simp

/-! ### The members of one class -/

variable {kind : MemberKind} {members : NameMap}

/-- The members of a host's class from intermediate to runtime name, one for each of its entries. -/
def turned (kind : MemberKind) (members : NameMap) : List (String × String) :=
  members.toList.map fun entry => (kind.stripSuffix entry.2, kind.stripSuffix entry.1)

theorem turnAround_eq_insertMany :
    turnAround kind members = (∅ : NameMap).insertMany (turned kind members) := by
  rw [turnAround, turned, Std.ExtTreeMap.foldl_eq_foldl_toList,
    Std.ExtTreeMap.insertMany_list_eq_foldl, List.foldl_map]

theorem mem_turned_iff {name runtime : String} :
    (name, runtime) ∈ turned kind members ↔
      ∃ entry listed, members[entry]? = some listed ∧ kind.stripSuffix listed = name ∧
        kind.stripSuffix entry = runtime := by
  simp only [turned, List.mem_map, Prod.exists, Std.ExtTreeMap.mem_toList_iff_getElem?_eq_some,
    Prod.mk.injEq]

/-- Entries of a host's class that name one member have one runtime name. -/
def Unambiguous (kind : MemberKind) (members : NameMap) : Prop :=
  ∀ first firstListed, members[first]? = some firstListed →
    ∀ second secondListed, members[second]? = some secondListed →
      kind.stripSuffix firstListed = kind.stripSuffix secondListed →
        kind.stripSuffix first = kind.stripSuffix second

/-- Ambiguity is checked entry by entry. -/
instance : Decidable (Unambiguous kind members) :=
  decidable_of_iff
    (∀ first ∈ members.toList, ∀ second ∈ members.toList,
      kind.stripSuffix first.2 = kind.stripSuffix second.2 →
        kind.stripSuffix first.1 = kind.stripSuffix second.1)
    (by simp only [Unambiguous, Prod.forall, Std.ExtTreeMap.mem_toList_iff_getElem?_eq_some])

theorem Unambiguous.consistent (unambiguous : Unambiguous kind members) :
    Entries.Consistent (turned kind members) := by
  intro name one other oneListed otherListed
  obtain ⟨first, firstListed, foundFirst, rfl, rfl⟩ := mem_turned_iff.mp oneListed
  obtain ⟨second, secondListed, foundSecond, same, rfl⟩ := mem_turned_iff.mp otherListed
  exact unambiguous first firstListed foundFirst second secondListed foundSecond same.symm

/-- **The turned table of a class holds the members that its entries name**, each with the runtime name
that they give it. -/
theorem getElem?_turnAround_eq_some_iff (unambiguous : Unambiguous kind members)
    {name runtime : String} :
    (turnAround kind members)[name]? = some runtime ↔
      ∃ entry listed, members[entry]? = some listed ∧ kind.stripSuffix listed = name ∧
        kind.stripSuffix entry = runtime := by
  rw [turnAround_eq_insertMany, Entries.getElem?_insertMany_eq_some_iff unambiguous.consistent,
    mem_turned_iff]

/-! ### All classes -/

variable {tables : MemberMaps} {classes : ClassTable}

/-- The turned tables of a host, each with the name it lands on. -/
def landed (kind : MemberKind) (tables : MemberMaps) (classes : ClassTable) :
    List (String × NameMap) :=
  tables.toList.map fun entry => (landing classes entry.1, turnAround kind entry.2)

theorem value_runtimeTables :
    (runtimeTables kind tables classes).value =
      (∅ : MemberMaps).insertMany (landed kind tables classes) := by
  rw [landed, Std.ExtTreeMap.insertMany_list_eq_foldl, List.foldl_map]
  exact Std.ExtTreeMap.foldl_eq_foldl_toList

theorem mem_landed_iff {className : String} {runtime : NameMap} :
    (className, runtime) ∈ landed kind tables classes ↔
      ∃ hostClass members, tables[hostClass]? = some members ∧
        landing classes hostClass = className ∧ turnAround kind members = runtime := by
  simp only [landed, List.mem_map, Prod.exists, Std.ExtTreeMap.mem_toList_iff_getElem?_eq_some,
    Prod.mk.injEq]

/-- No two classes of a host land on one name. -/
def LandsApart (tables : MemberMaps) (classes : ClassTable) : Prop :=
  ∀ first ∈ tables, ∀ second ∈ tables, landing classes first = landing classes second →
    first = second

/-- Where classes land is checked class by class. -/
instance : Decidable (LandsApart tables classes) :=
  decidable_of_iff
    (∀ first ∈ tables.keys, ∀ second ∈ tables.keys,
      landing classes first = landing classes second → first = second)
    (by simp only [LandsApart, Std.ExtTreeMap.mem_keys])

/-- Classes that land on one name have one table. -/
theorem LandsApart.eq_of_landing_eq (apart : LandsApart tables classes) {first second : String}
    {firstMembers secondMembers : NameMap} (foundFirst : tables[first]? = some firstMembers)
    (foundSecond : tables[second]? = some secondMembers)
    (same : landing classes first = landing classes second) : firstMembers = secondMembers := by
  have firstListed := (Std.ExtTreeMap.getElem?_eq_some_iff.mp foundFirst).1
  have secondListed := (Std.ExtTreeMap.getElem?_eq_some_iff.mp foundSecond).1
  obtain rfl := apart first firstListed second secondListed same
  rw [foundFirst] at foundSecond
  exact Option.some.inj foundSecond

theorem LandsApart.consistent (apart : LandsApart tables classes) :
    Entries.Consistent (landed kind tables classes) := by
  intro className one other oneLanded otherLanded
  obtain ⟨first, firstMembers, foundFirst, rfl, rfl⟩ := mem_landed_iff.mp oneLanded
  obtain ⟨second, secondMembers, foundSecond, same, rfl⟩ := mem_landed_iff.mp otherLanded
  rw [apart.eq_of_landing_eq foundFirst foundSecond same.symm]

/-- **Under the name of a class is the turned table of the host's class that stands for it.** -/
theorem getElem?_runtimeTables_eq_some_iff (apart : LandsApart tables classes) {className : String}
    {runtime : NameMap} :
    (runtimeTables kind tables classes).value[ClassName.internal className]? = some runtime ↔
      ∃ hostClass members, tables[hostClass]? = some members ∧
        StandsFor classes hostClass className ∧ turnAround kind members = runtime := by
  rw [value_runtimeTables, Entries.getElem?_insertMany_eq_some_iff apart.consistent, mem_landed_iff]
  simp only [landing_eq_iff]

end NameDomains.HostTables
