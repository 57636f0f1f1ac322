/-
**What building logs.**

Building announces itself, says which host classes have no human name and which member groups find no
runtime table, and counts what was built. None of this is a warning or an error; that building failed is
said by whoever asked for it.

* `Attempt.IsRoutine` — an attempt logs neither warnings nor errors. It is closed under going on (`bind`).
* `ResolverTables.events_buildMembers` — what is logged for one kind of members.
* `Resolver.isRoutine_build`, `Resolver.isRoutine_ofSettings` — building is such an attempt.
-/

import NameDomains.Resolver.Build

namespace NameDomains

/-- An event that is neither a warning nor an error. -/
def Event.IsRoutine (event : Event) : Prop := event.level ≠ .error ∧ event.level ≠ .warn

namespace Attempt

variable {α β : Type}

/-- Neither warnings nor errors are logged. -/
def IsRoutine (attempt : Attempt α) : Prop :=
  ∀ event, .log event ∈ attempt.actions → event.IsRoutine

/-- Going on keeps the actions taken and adds those of the next step. -/
theorem mem_actions_bind {first : Attempt α} {next : α → Attempt β} {action : Action}
    (taken : action ∈ (first >>= next).actions) :
    action ∈ first.actions ∨ ∃ value, action ∈ (next value).actions := by
  obtain ⟨actions, error | value⟩ := first
  · exact .inl taken
  · exact (List.mem_append.mp taken).imp_right fun later => ⟨value, later⟩

namespace IsRoutine

theorem bind {first : Attempt α} {next : α → Attempt β} (routine : first.IsRoutine)
    (onwards : ∀ value, (next value).IsRoutine) : (first >>= next).IsRoutine := fun event logged =>
  (mem_actions_bind logged).elim (routine event) fun ⟨value, later⟩ => onwards value event later

/-- Without actions nothing is logged. -/
theorem ofExcept (result : Except BuildError α) : (Attempt.ofExcept result).IsRoutine :=
  fun _ logged => absurd logged List.not_mem_nil

theorem pure (value : α) : (Pure.pure value : Attempt α).IsRoutine := ofExcept (.ok value)

theorem map {attempt : Attempt α} (routine : attempt.IsRoutine) (change : α → β) :
    (change <$> attempt).IsRoutine := by
  rw [← bind_pure_comp]
  exact routine.bind fun value => pure (change value)

/-- Asking a source is no logging. -/
theorem ask (part : SourcePart) (answer : Except BuildError α) :
    (Attempt.ask part answer).IsRoutine := fun event logged => by
  cases List.mem_singleton.mp logged

/-- Reading a file is no logging. -/
theorem readFile (files : FileTree) (path : String) : (Attempt.readFile files path).IsRoutine :=
  fun event logged => by cases List.mem_singleton.mp logged

theorem ofLogged {logged : Logged α} (routine : ∀ event ∈ logged.events, event.IsRoutine) :
    (Attempt.ofLogged logged).IsRoutine := fun event written => by
  obtain ⟨_, listed, same⟩ := List.mem_map.mp written
  obtain rfl := Action.log.inj same
  exact routine _ listed

theorem log {event : Event} (routine : event.IsRoutine) : (Attempt.log event).IsRoutine :=
  ofLogged fun _ listed => List.mem_singleton.mp listed ▸ routine

end IsRoutine

end Attempt

/-! ### Tables -/

/-- The classes of a host that have no human name, by the order of the names. -/
def HostTables.unnamed (tables : MemberMaps) (classes : ClassTable) : List String :=
  tables.keys.filter fun hostClass => classes.counterpart? hostClass .toHuman = none

/-- The classes of groups without a runtime table, once for each group. -/
def MemberTable.missing (groups : List MemberGroup) (runtime : MemberMaps) : List String :=
  (groups.map fun group => ClassName.internal group.className).filter (· ∉ runtime)

/-- Turning a host's tables around logs its classes without a human name. -/
theorem HostTables.events_runtimeTables (kind : MemberKind) (tables : MemberMaps)
    (classes : ClassTable) :
    (runtimeTables kind tables classes).events = (unnamed tables classes).map .hostClassUnnamed := by
  show tables.keys.flatMap (landingEvents classes) = (unnamed tables classes).map .hostClassUnnamed
  unfold unnamed
  induction tables.keys with
  | nil => rfl
  | cons hostClass later same =>
    rw [List.flatMap_cons, same]
    cases known : classes.counterpart? hostClass .toHuman with
    | none =>
      rw [List.filter_cons_of_pos (by simp [known]), List.map_cons, landingEvents, known]
      rfl
    | some human =>
      rw [List.filter_cons_of_neg (by simp [known]), landingEvents, known]
      rfl

namespace MemberTable

variable {aliases : NameMap} {runtime : MemberMaps}

theorem events_addGroup (table : MemberTable) (group : MemberGroup) :
    (table.addGroup aliases runtime group).events =
      (missing [group] runtime).map .hostTableMissing := by
  by_cases shipped : ClassName.internal group.className ∈ runtime
  · have found := Std.ExtTreeMap.getElem?_eq_some_getElem shipped
    rw [missing, List.map_singleton, List.filter_cons_of_neg (by simp [shipped])]
    simp only [addGroup, found]
    rfl
  · have absent := Std.ExtTreeMap.getElem?_eq_none shipped
    rw [missing, List.map_singleton, List.filter_cons_of_pos (by simp [shipped])]
    simp only [addGroup, absent]
    rfl

/-- Filling a table logs the classes without a runtime table, group by group. -/
theorem events_ofGroups (kind : MemberKind) (groups : List MemberGroup) :
    (ofGroups kind aliases groups runtime).events = (missing groups runtime).map .hostTableMissing := by
  unfold ofGroups
  -- What is logged for a group does not depend on the table so far.
  generalize (⟨kind, ∅⟩ : MemberTable) = table
  induction groups generalizing table with
  | nil => rfl
  | cons group groups later =>
    rw [List.foldlM_cons, Logged.events_bind, events_addGroup, later, ← List.map_append, missing,
      missing, missing, ← List.filter_append, ← List.map_append, List.singleton_append]

end MemberTable

/-- Putting the members of a kind together logs the host's classes without a human name, then the groups
without a runtime table. -/
theorem ResolverTables.events_buildMembers (kind : MemberKind) (classes : ClassTable)
    (host : MemberMaps) (aliases : NameMap) (groups : List MemberGroup) :
    (buildMembers kind classes host aliases groups).events =
      (HostTables.unnamed host classes).map .hostClassUnnamed ++
        (MemberTable.missing groups (HostTables.runtimeTables kind host classes).value).map
          .hostTableMissing := by
  rw [buildMembers, Logged.events_bind, HostTables.events_runtimeTables, MemberTable.events_ofGroups]

theorem ResolverTables.isRoutine_buildMembers {kind : MemberKind} {classes : ClassTable}
    {host : MemberMaps} {aliases : NameMap} {groups : List MemberGroup} :
    ∀ event ∈ (buildMembers kind classes host aliases groups).events, event.IsRoutine := by
  intro event logged
  rw [events_buildMembers, List.mem_append] at logged
  rcases logged with unnamed | missing
  · obtain ⟨hostClass, -, rfl⟩ := List.mem_map.mp unnamed
    exact ⟨nofun, nofun⟩
  · obtain ⟨className, -, rfl⟩ := List.mem_map.mp missing
    exact ⟨nofun, nofun⟩

/-- **Building the tables logs neither warnings nor errors**, whatever the source delivers. -/
theorem ResolverTables.isRoutine_build (source : MappingSource) : (build source).IsRoutine := by
  refine .bind (.log ⟨nofun, nofun⟩) fun _ => .bind (.ask _ _) fun _ => .bind (.ofExcept _) fun _ => ?_
  refine .bind (.ask _ _) fun _ => .bind (.ask _ _) fun _ => .bind (.ask _ _) fun _ => ?_
  refine .bind (.ofLogged isRoutine_buildMembers) fun _ => ?_
  refine .bind (.ask _ _) fun _ => .bind (.ask _ _) fun _ => .bind (.ask _ _) fun _ => ?_
  refine .bind (.ofLogged isRoutine_buildMembers) fun _ => ?_
  exact .bind (.log ⟨nofun, nofun⟩) fun _ => .pure _

/-! ### Resolvers -/

namespace Resolver

theorem isRoutine_buildIdentity : buildIdentity.IsRoutine :=
  .bind (.log ⟨nofun, nofun⟩) fun _ => .pure identity

/-- **Building a resolver logs neither warnings nor errors.** -/
theorem isRoutine_build (isObfuscated : Bool) (source : MappingSource) :
    (build isObfuscated source).IsRoutine := by
  unfold build
  split
  · exact (ResolverTables.isRoutine_build source).map obfuscated
  · exact isRoutine_buildIdentity

/-- **Nor does building the resolver that settings ask for.** -/
theorem isRoutine_ofSettings (files : FileTree) (settings : ResolverSettings) :
    (ofSettings files settings).IsRoutine := by
  unfold ofSettings
  split
  · split
    · exact .ofExcept _
    · next path _ =>
      have loaded : (loadSnapshot files path).IsRoutine :=
        .bind (.readFile files path) fun _ => .ofExcept _
      exact loaded.bind fun snapshot => isRoutine_build true snapshot.source
  · exact isRoutine_buildIdentity

end Resolver

end NameDomains
