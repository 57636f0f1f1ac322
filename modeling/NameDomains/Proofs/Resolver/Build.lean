/-
**What a built resolver consists of.**

An attempt succeeds exactly when each of its steps does. So the tables of a resolver are those that the
parts of its snapshot make, one after another:

* `Attempt.result_bind`, `Attempt.result_map` — what comes of two steps, and of a changed one.
* `ResolverTables.result_build_source` — what comes of a snapshot: its tables, or the conflict of its class
  pairs.
* `ResolverTables.result_build_source_eq_ok_iff` — which tables are built from a snapshot.
* `Resolver.result_build_source_eq_ok_iff` — which resolver is built from a snapshot.
* `Resolver.ofSettings_of_unread`, `Resolver.ofSettings_of_snapshot` — what is built from a snapshot file.
-/

import NameDomains.Proofs.Outcome
import NameDomains.Resolver.Build

namespace NameDomains

/-! ### Attempts -/

namespace Attempt

variable {α β : Type}

/-- The result of two steps is that of the second one after the first one's. -/
theorem result_bind (first : Attempt α) (next : α → Attempt β) :
    (first >>= next).result = first.result >>= fun value => (next value).result := by
  obtain ⟨actions, error | value⟩ := first
  · rfl
  · rfl

@[simp] theorem result_pure (value : α) : (pure value : Attempt α).result = .ok value := rfl

theorem result_map (attempt : Attempt α) (change : α → β) :
    (change <$> attempt).result = attempt.result.map change := by
  rw [← bind_pure_comp, result_bind]
  cases attempt.result with
  | error error => rfl
  | ok value => rfl

/-- A changed attempt succeeds exactly when the attempt does. -/
theorem result_map_eq_ok_iff {attempt : Attempt α} {change : α → β} {value : β} :
    (change <$> attempt).result = .ok value ↔
      ∃ first, attempt.result = .ok first ∧ change first = value := by
  rw [result_map, Outcome.map_eq_ok_iff]

@[simp] theorem result_ask (part : SourcePart) (answer : Except BuildError α) :
    (ask part answer).result = answer := rfl

@[simp] theorem result_ofExcept (result : Except BuildError α) :
    (ofExcept result).result = result := rfl

@[simp] theorem result_ofLogged (logged : Logged α) :
    (ofLogged logged).result = .ok logged.value := rfl

@[simp] theorem result_log (event : Event) : (log event).result = .ok () := rfl

end Attempt

/-! ### Tables -/

/-- The groups of one kind of members that a snapshot lists. -/
def Snapshot.groups (snapshot : Snapshot) : MemberKind → List MemberGroup
  | .method => snapshot.methods
  | .field => snapshot.fields

/-- The aliases of one kind of members. -/
def Snapshot.aliases (snapshot : Snapshot) : MemberKind → NameMap
  | .method => snapshot.methodAliases
  | .field => snapshot.fieldAliases

/-- The host's tables of one kind of members. -/
def Snapshot.hostTables (snapshot : Snapshot) : MemberKind → MemberMaps
  | .method => snapshot.hostMethods
  | .field => snapshot.hostFields

/-- The class pairs of a snapshot. -/
def Snapshot.pairs (snapshot : Snapshot) : List (String × String) :=
  snapshot.classes.map fun pair => (pair.human, pair.runtime)

/-- The table of one kind of members. -/
def ResolverTables.table (tables : ResolverTables) : MemberKind → MemberTable
  | .method => tables.methods
  | .field => tables.fields

/-- The tables of a snapshot whose class pairs make the given table. -/
def Snapshot.tables (snapshot : Snapshot) (classes : ClassTable) : ResolverTables :=
  let table := fun kind => (ResolverTables.buildMembers kind classes (snapshot.hostTables kind)
    (snapshot.aliases kind) (snapshot.groups kind)).value
  ⟨classes, table .method, table .field⟩

theorem Snapshot.table_tables (snapshot : Snapshot) (classes : ClassTable) (kind : MemberKind) :
    (snapshot.tables classes).table kind =
      (ResolverTables.buildMembers kind classes (snapshot.hostTables kind) (snapshot.aliases kind)
        (snapshot.groups kind)).value := by
  cases kind <;> rfl

/-- **What comes of a snapshot** are its tables, or the conflict of its class pairs. -/
theorem ResolverTables.result_build_source (snapshot : Snapshot) :
    (build snapshot.source).result =
      ((ClassTable.ofPairs snapshot.pairs).mapError .notBijective).map snapshot.tables := by
  simp only [build, Snapshot.source, Attempt.result_bind, Attempt.result_log, Attempt.result_ask,
    Attempt.result_ofExcept, Attempt.result_ofLogged, Attempt.result_pure]
  show ((ClassTable.ofPairs snapshot.pairs).mapError BuildError.notBijective >>= fun classes =>
    .ok (snapshot.tables classes)) = _
  cases (ClassTable.ofPairs snapshot.pairs).mapError BuildError.notBijective with
  | error error => rfl
  | ok classes => rfl

/-- **The tables built from a snapshot** are the class table of its pairs and, for each kind of members,
the table of its groups. -/
theorem ResolverTables.result_build_source_eq_ok_iff {snapshot : Snapshot} {tables : ResolverTables} :
    (build snapshot.source).result = .ok tables ↔
      ClassTable.ofPairs snapshot.pairs = .ok tables.classes ∧
        ∀ kind, tables.table kind =
          (buildMembers kind tables.classes (snapshot.hostTables kind) (snapshot.aliases kind)
            (snapshot.groups kind)).value := by
  rw [result_build_source, Outcome.map_eq_ok_iff]
  simp only [Outcome.mapError_eq_ok_iff]
  constructor
  · rintro ⟨classes, built, rfl⟩
    exact ⟨built, snapshot.table_tables classes⟩
  · rintro ⟨built, same⟩
    obtain ⟨classes, methods, fields⟩ := tables
    refine ⟨classes, built, ?_⟩
    rw [Snapshot.tables, ResolverTables.mk.injEq]
    exact ⟨rfl, (same .method).symm, (same .field).symm⟩

/-- What comes of a snapshot for an obfuscated host is a resolver with its tables. -/
theorem Resolver.result_build_source (snapshot : Snapshot) :
    (build true snapshot.source).result =
      (((ClassTable.ofPairs snapshot.pairs).mapError .notBijective).map snapshot.tables).map
        obfuscated := by
  rw [build, if_pos rfl, Attempt.result_map, ResolverTables.result_build_source]

/-- **The resolver built from a snapshot** for an obfuscated host holds the tables built from it. -/
theorem Resolver.result_build_source_eq_ok_iff {snapshot : Snapshot} {resolver : Resolver} :
    (build true snapshot.source).result = .ok resolver ↔
      ∃ tables, (ResolverTables.build snapshot.source).result = .ok tables ∧
        obfuscated tables = resolver := by
  rw [build, if_pos rfl, Attempt.result_map_eq_ok_iff]

/-! ### Snapshot files -/

namespace Resolver

variable {files : FileTree} {path : String}

/-- An obfuscated host whose snapshot file cannot be read gets no resolver. -/
theorem ofSettings_of_unread {cause : FileError} (unread : files.readText path = .error cause) :
    ofSettings files ⟨true, some path⟩ = ⟨[.readFile path], .error (.unreadable path cause)⟩ := by
  have failed : loadSnapshot files path = ⟨[.readFile path], .error (.unreadable path cause)⟩ := by
    rw [loadSnapshot, Attempt.readFile, unread]
    rfl
  show loadSnapshot files path >>= _ = _
  rw [failed]
  rfl

/-- **An obfuscated host gets the resolver of the snapshot in its file.** -/
theorem ofSettings_of_snapshot {text : String} {snapshot : Snapshot} (read : files.readText path = .ok text)
    (parsed : Snapshot.parse text = .ok snapshot) :
    ofSettings files ⟨true, some path⟩ =
      ⟨.readFile path :: (build true snapshot.source).actions, (build true snapshot.source).result⟩ := by
  have loaded : loadSnapshot files path = ⟨[.readFile path], .ok snapshot⟩ := by
    rw [loadSnapshot, Attempt.readFile, read]
    show Attempt.andThen ⟨_, .ok text⟩ _ = _
    rw [Attempt.andThen_of_ok, parsed]
    rfl
  show loadSnapshot files path >>= _ = _
  rw [loaded]
  rfl

end Resolver

end NameDomains
