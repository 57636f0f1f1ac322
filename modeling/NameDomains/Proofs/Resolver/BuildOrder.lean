/-
**The order in which a resolver is built.**

Building asks for the parts of a source in one order and stops at the first one that it does not get past.
The source alone says which one that is, and what is logged on the way: which classes of the host have no
human name, once the groups of a kind are there, and which groups find no runtime table.

* `SourcePart.order` — the order in which the parts are asked for.
* `MappingSource.obstacle?` — why building does not get past a part.
* `MappingSource.course` — what is done for parts that building gets past.
* `Attempt.Follows` — an attempt takes this course through a list of parts; one rule for each kind of step.
* `Resolver.build_course` — what building does, and what comes of it, for every source.
-/

import NameDomains.Proofs.ClassTable.Bijection
import NameDomains.Proofs.Resolver.Events

namespace NameDomains

/-! ### The course of building -/

/-- The parts of a source in the order in which they are asked for. -/
def SourcePart.order : List SourcePart :=
  [.classPairs, .hostMethods, .methodAliases, .methodGroups, .hostFields, .fieldAliases, .fieldGroups]

namespace MappingSource

/-- The class table of a source, if its pairs are delivered and make one. -/
def classes (source : MappingSource) : Except BuildError ClassTable := do
  let pairs ← source.classPairs
  (ClassTable.ofPairs pairs).mapError .notBijective

/-- The host's tables of one kind of members. -/
def hostTables (source : MappingSource) : MemberKind → Except BuildError MemberMaps
  | .method => source.hostMethods
  | .field => source.hostFields

/-- The groups of one kind of members. -/
def groups (source : MappingSource) : MemberKind → Except BuildError (List MemberGroup)
  | .method => source.methodGroups
  | .field => source.fieldGroups

/-- Why building does not get past a part: it is not delivered, or the class pairs make no table. -/
def obstacle? (source : MappingSource) : SourcePart → Option BuildError
  | .classPairs => Outcome.failure? source.classes
  | .hostMethods => Outcome.failure? source.hostMethods
  | .methodAliases => Outcome.failure? source.methodAliases
  | .methodGroups => Outcome.failure? source.methodGroups
  | .hostFields => Outcome.failure? source.hostFields
  | .fieldAliases => Outcome.failure? source.fieldAliases
  | .fieldGroups => Outcome.failure? source.fieldGroups

/-- The classes that the host has for one kind of members and that have no human name. -/
def unnamed (source : MappingSource) (kind : MemberKind) : List String :=
  match source.classes, source.hostTables kind with
  | .ok classes, .ok host => HostTables.unnamed host classes
  | _, _ => []

/-- The classes of the groups of one kind of members that find no runtime table. -/
def missing (source : MappingSource) (kind : MemberKind) : List String :=
  match source.classes, source.hostTables kind, source.groups kind with
  | .ok classes, .ok host, .ok groups =>
    MemberTable.missing groups (HostTables.runtimeTables kind host classes).value
  | _, _, _ => []

/-- What is logged for one kind of members. -/
def memberEvents (source : MappingSource) (kind : MemberKind) : List Event :=
  (source.unnamed kind).map .hostClassUnnamed ++ (source.missing kind).map .hostTableMissing

/-- What is logged between a part that building gets past and the next one. -/
def eventsAfter (source : MappingSource) : SourcePart → List Event
  | .methodGroups => source.memberEvents .method
  | .fieldGroups => source.memberEvents .field
  | _ => []

theorem flatMap_eventsAfter_order (source : MappingSource) :
    SourcePart.order.flatMap source.eventsAfter =
      source.memberEvents .method ++ source.memberEvents .field := by
  simp only [SourcePart.order, eventsAfter, List.flatMap_cons, List.flatMap_nil, List.nil_append,
    List.append_nil]

/-- What is done for parts that building gets past. -/
def course (source : MappingSource) (parts : List SourcePart) : List Action :=
  parts.flatMap fun part => .ask part :: (source.eventsAfter part).map .log

theorem course_cons (source : MappingSource) (part : SourcePart) (parts : List SourcePart) :
    source.course (part :: parts) =
      .ask part :: ((source.eventsAfter part).map .log ++ source.course parts) :=
  rfl

theorem course_cons_append (source : MappingSource) (part : SourcePart) (parts : List SourcePart)
    (more : List Action) :
    source.course (part :: parts) ++ more =
      .ask part :: ((source.eventsAfter part).map .log ++ (source.course parts ++ more)) := by
  rw [course_cons, List.cons_append, List.append_assoc]

/-- The groups of a kind complete what is needed to put its members together. -/
theorem memberEvents_eq {source : MappingSource} {kind : MemberKind} {classes : ClassTable}
    {host : MemberMaps} {groups : List MemberGroup} (aliases : NameMap)
    (made : source.classes = .ok classes) (shipped : source.hostTables kind = .ok host)
    (listed : source.groups kind = .ok groups) :
    source.memberEvents kind =
      (ResolverTables.buildMembers kind classes host aliases groups).events := by
  simp only [memberEvents, unnamed, missing, made, shipped, listed,
    ResolverTables.events_buildMembers]

/-- Each class without a human name is worth a debug event, and each group without a runtime table a trace
event. -/
theorem levels_memberEvents (source : MappingSource) (kind : MemberKind) :
    (source.memberEvents kind).map Event.level =
      List.replicate (source.unnamed kind).length .debug ++
        List.replicate (source.missing kind).length .trace := by
  rw [memberEvents, List.map_append, List.map_map, List.map_map]
  exact congrArg₂ (· ++ ·) (List.map_const' ..) (List.map_const' ..)

end MappingSource

namespace Attempt

variable {α β : Type}

/-! ### Actions of an attempt -/

section Actions

variable {first second : List Action} {result : Except BuildError α}

theorem events_cons_log (event : Event) : (mk (.log event :: first) result).events =
    event :: (mk first result).events :=
  rfl

theorem parts_cons_log (event : Event) :
    (mk (.log event :: first) result).parts = (mk first result).parts :=
  rfl

theorem events_cons_ask (part : SourcePart) :
    (mk (.ask part :: first) result).events = (mk first result).events :=
  rfl

theorem parts_cons_ask (part : SourcePart) :
    (mk (.ask part :: first) result).parts = part :: (mk first result).parts :=
  rfl

theorem events_append : (mk (first ++ second) result).events =
    (mk first result).events ++ (mk second result).events :=
  List.filterMap_append

theorem parts_append : (mk (first ++ second) result).parts =
    (mk first result).parts ++ (mk second result).parts :=
  List.filterMap_append

theorem events_logs (events : List Event) : (mk (events.map .log) result).events = events := by
  rw [Attempt.events, List.filterMap_map]
  exact List.filterMap_some

theorem parts_logs (events : List Event) : (mk (events.map .log) result).parts = [] := by
  rw [Attempt.parts, List.filterMap_map]
  exact List.filterMap_eq_nil_iff.mpr fun _ _ => rfl

theorem events_course (source : MappingSource) (parts : List SourcePart) :
    (mk (source.course parts) result).events = parts.flatMap source.eventsAfter := by
  induction parts with
  | nil => rfl
  | cons part parts same =>
    rw [MappingSource.course_cons, events_cons_ask, events_append, events_logs, same,
      List.flatMap_cons]

theorem parts_course (source : MappingSource) (parts : List SourcePart) :
    (mk (source.course parts) result).parts = parts := by
  induction parts with
  | nil => rfl
  | cons part parts same =>
    rw [MappingSource.course_cons, parts_cons_ask, parts_append, parts_logs, same, List.nil_append]

theorem parts_announced (source : MappingSource) (parts : List SourcePart) (last : List Action) :
    (mk (.log (.buildStarted true) :: (source.course parts ++ last)) result).parts =
      parts ++ (mk last result).parts := by
  rw [parts_cons_log, parts_append, parts_course]

theorem events_announced (source : MappingSource) (parts : List SourcePart) (last : List Action) :
    (mk (.log (.buildStarted true) :: (source.course parts ++ last)) result).events =
      .buildStarted true :: (parts.flatMap source.eventsAfter ++ (mk last result).events) := by
  rw [events_cons_log, events_append, events_course]

end Actions

/-! ### Taking a course -/

theorem ofLogged_bind (logged : Logged α) (next : α → Attempt β) :
    ofLogged logged >>= next = ⟨logged.events.map .log ++ (next logged.value).actions,
      (next logged.value).result⟩ :=
  rfl

/-- An attempt at building tables logs the events that are due and takes its course through a list of parts.
It stops at the first one that it does not get past; if there is none, it counts what it built. -/
structure Follows (source : MappingSource) (due : List Event) (parts : List SourcePart)
    (attempt : Attempt ResolverTables) : Prop where
  stops : ∀ before part after error, parts = before ++ part :: after →
    (∀ passed ∈ before, source.obstacle? passed = none) → source.obstacle? part = some error →
      attempt = ⟨due.map .log ++ (source.course before ++ [.ask part]), .error error⟩
  ends : (∀ part ∈ parts, source.obstacle? part = none) → ∃ tables,
    attempt = ⟨due.map .log ++ (source.course parts ++ [.log (.tablesBuilt tables.classes.size
      tables.methods.size tables.fields.size)]), .ok tables⟩

namespace Follows

variable {source : MappingSource} {due : List Event} {part : SourcePart} {parts : List SourcePart}

theorem count (source : MappingSource) (tables : ResolverTables) :
    Follows source [] [] (do
      Attempt.log (.tablesBuilt tables.classes.size tables.methods.size tables.fields.size)
      return tables) where
  stops before _ _ _ nothing := by cases before <;> cases nothing
  ends _ := ⟨tables, rfl⟩

/-- Logging what is due leaves nothing due. -/
theorem logged {logged : Logged α} {next : α → Attempt ResolverTables} (same : due = logged.events)
    (onwards : Follows source [] parts (next logged.value)) :
    Follows source due parts (ofLogged logged >>= next) where
  stops before part after error divided passed fails := by
    have rest := onwards.stops before part after error divided passed fails
    rw [ofLogged_bind, rest, same]
    rfl
  ends passed := by
    obtain ⟨tables, rest⟩ := onwards.ends passed
    refine ⟨tables, ?_⟩
    rw [ofLogged_bind, rest, same]
    rfl

/-- Asking for a part that building gets past makes its events due; any other part ends the attempt. -/
theorem ask {answer : Except BuildError α} {next : α → Attempt ResolverTables}
    (obstacle : source.obstacle? part = Outcome.failure? answer)
    (onwards : ∀ value, answer = .ok value →
      Follows source (source.eventsAfter part) parts (next value)) :
    Follows source [] (part :: parts) (Attempt.ask part answer >>= next) := by
  show Follows source [] (part :: parts) (andThen ⟨[.ask part], answer⟩ next)
  cases answer with
  | error found =>
    rw [andThen_of_error]
    constructor
    · intro before _ _ error divided passed fails
      -- Nothing is asked for after this part, so it is the one that the list is divided at.
      cases before with
      | nil =>
        obtain ⟨rfl, -⟩ := List.cons.inj divided
        obtain rfl := Option.some.inj (obstacle.symm.trans fails)
        rfl
      | cons first before =>
        obtain ⟨rfl, -⟩ := List.cons.inj divided
        cases obstacle.symm.trans (passed _ List.mem_cons_self)
    · intro passed
      cases obstacle.symm.trans (passed part List.mem_cons_self)
  | ok value =>
    rw [andThen_of_ok]
    constructor
    · intro before last after error divided passed fails
      -- This part is got past, so the list is divided further on.
      cases before with
      | nil =>
        obtain ⟨rfl, -⟩ := List.cons.inj divided
        cases obstacle.symm.trans fails
      | cons first before =>
        obtain ⟨rfl, later⟩ := List.cons.inj divided
        have rest := (onwards value rfl).stops before last after error later
          (fun other listed => passed other (List.mem_cons_of_mem _ listed)) fails
        rw [rest, MappingSource.course_cons_append]
        rfl
    · intro passed
      obtain ⟨tables, rest⟩ := (onwards value rfl).ends fun other listed =>
        passed other (List.mem_cons_of_mem _ listed)
      refine ⟨tables, ?_⟩
      rw [rest, MappingSource.course_cons_append]
      rfl

end Follows

theorem ask_bind_ofExcept {γ : Type} (part : SourcePart) (answer : Except BuildError α)
    (conclude : α → Except BuildError β) (next : β → Attempt γ) :
    (ask part answer >>= fun value => ofExcept (conclude value) >>= next) =
      ask part (answer >>= conclude) >>= next := by
  cases answer with
  | error error => rfl
  | ok value =>
    show andThen ⟨[.ask part], .ok value⟩ (fun value => andThen (ofExcept (conclude value)) next) =
      andThen ⟨[.ask part], conclude value⟩ next
    rw [andThen_of_ok, ofExcept]
    cases conclude value with
    | error error => rfl
    | ok concluded => rfl

end Attempt

/-- **Building the tables takes its course** through the parts of a source. -/
theorem ResolverTables.follows_build (source : MappingSource) :
    Attempt.Follows source [.buildStarted true] SourcePart.order (build source) := by
  refine .logged rfl ?_
  -- That the pairs make a table is part of getting past them.
  rw [Attempt.ask_bind_ofExcept]
  refine .ask rfl fun classes made => ?_
  refine .ask rfl fun hostMethods shipped => .ask rfl fun aliases _ => .ask rfl fun groups listed => ?_
  refine .logged (MappingSource.memberEvents_eq aliases made shipped listed) ?_
  refine .ask rfl fun hostFields shipped => .ask rfl fun aliases _ => .ask rfl fun groups listed => ?_
  refine .logged (MappingSource.memberEvents_eq aliases made shipped listed) ?_
  exact .count source ⟨classes, _, _⟩

/-! ### Building a resolver -/

namespace Resolver

variable {source : MappingSource}

theorem build_true_of_tables {actions : List Action} {result : Except BuildError ResolverTables}
    (built : ResolverTables.build source = ⟨actions, result⟩) :
    build true source = ⟨actions, result.map obfuscated⟩ := by
  rw [build, if_pos rfl, built, ← bind_pure_comp]
  cases result with
  | error error => rfl
  | ok tables => exact congrArg (Attempt.mk · _) (List.append_nil actions)

/-- **Building stops at the first part that it does not get past.** -/
theorem build_of_obstacle {before after : List SourcePart} {part : SourcePart} {error : BuildError}
    (divided : SourcePart.order = before ++ part :: after)
    (passed : ∀ other ∈ before, source.obstacle? other = none)
    (fails : source.obstacle? part = some error) :
    build true source =
      ⟨.log (.buildStarted true) :: (source.course before ++ [.ask part]), .error error⟩ :=
  build_true_of_tables
    ((ResolverTables.follows_build source).stops before part after error divided passed fails)

/-- **Building that gets past all parts counts what it built.** -/
theorem build_of_no_obstacle (passed : ∀ part, source.obstacle? part = none) :
    ∃ tables : ResolverTables, build true source =
      ⟨.log (.buildStarted true) :: (source.course SourcePart.order ++ [.log (.tablesBuilt
        tables.classes.size tables.methods.size tables.fields.size)]), .ok (obfuscated tables)⟩ := by
  obtain ⟨tables, built⟩ := (ResolverTables.follows_build source).ends fun part _ => passed part
  exact ⟨tables, build_true_of_tables built⟩

/-- Class pairs that are not one to one are where building stops, whatever else there is. -/
theorem build_of_not_oneToOne {pairs : List (String × String)}
    (delivered : source.classPairs = .ok pairs)
    (ambiguous : ¬ ClassTable.OneToOne (ClassTable.related pairs)) :
    ∃ conflict, ClassTable.ofPairs pairs = .error conflict ∧
      build true source =
        ⟨[.log (.buildStarted true), .ask .classPairs], .error (.notBijective conflict)⟩ := by
  cases made : ClassTable.ofPairs pairs with
  | ok table => exact absurd (ClassTable.exists_ofPairs_iff.mp ⟨table, made⟩) ambiguous
  | error conflict =>
    have fails : source.obstacle? .classPairs = some (.notBijective conflict) := by
      show Outcome.failure? source.classes = _
      rw [MappingSource.classes, delivered]
      show Outcome.failure? ((ClassTable.ofPairs pairs).mapError BuildError.notBijective) = _
      rw [made]
      rfl
    exact ⟨conflict, rfl, build_of_obstacle rfl (List.forall_mem_nil _) fails⟩

/-- **How a resolver is built.** For an obfuscated host the parts of the source are asked for in order, none of
them twice, up to the first one that building does not get past; what came before is logged, and nothing else.
If there is none, the sizes of the tables are logged in the end. For any other host nothing is asked for. -/
theorem build_course (source : MappingSource) :
    SourcePart.order.Nodup ∧
    (∀ before part after error, SourcePart.order = before ++ part :: after →
      (∀ passed ∈ before, source.obstacle? passed = none) → source.obstacle? part = some error →
      build true source =
        ⟨.log (.buildStarted true) :: (source.course before ++ [.ask part]), .error error⟩ ∧
      (build true source).parts = before ++ [part] ∧
      (build true source).events = .buildStarted true :: before.flatMap source.eventsAfter) ∧
    ((∀ part, source.obstacle? part = none) →
      ∃ tables : ResolverTables, build true source =
        ⟨.log (.buildStarted true) :: (source.course SourcePart.order ++ [.log (.tablesBuilt
          tables.classes.size tables.methods.size tables.fields.size)]), .ok (obfuscated tables)⟩ ∧
      (build true source).parts = SourcePart.order ∧
      (build true source).events = .buildStarted true ::
        (source.memberEvents .method ++ source.memberEvents .field ++
          [.tablesBuilt tables.classes.size tables.methods.size tables.fields.size])) ∧
    (∀ pairs, source.classPairs = .ok pairs → ¬ ClassTable.OneToOne (ClassTable.related pairs) →
      ∃ conflict, ClassTable.ofPairs pairs = .error conflict ∧
        build true source =
          ⟨[.log (.buildStarted true), .ask .classPairs], .error (.notBijective conflict)⟩) ∧
    (∀ kind, (source.memberEvents kind).map Event.level =
      List.replicate (source.unnamed kind).length .debug ++
        List.replicate (source.missing kind).length .trace) ∧
    (build true source).IsRoutine ∧
    build false source = ⟨[.log (.buildStarted false)], .ok identity⟩ := by
  refine ⟨by decide, ?_, ?_, ?_, ?_, isRoutine_build true source, rfl⟩
  · intro before part after error divided passed fails
    have built := build_of_obstacle divided passed fails
    refine ⟨built, ?_, ?_⟩
    · rw [built, Attempt.parts_announced]
      rfl
    · rw [built, Attempt.events_announced]
      exact congrArg (Event.buildStarted true :: ·) (List.append_nil _)
  · intro passed
    obtain ⟨tables, built⟩ := build_of_no_obstacle passed
    refine ⟨tables, built, ?_, ?_⟩
    · rw [built, Attempt.parts_announced]
      rfl
    · rw [built, Attempt.events_announced, source.flatMap_eventsAfter_order]
      rfl
  · intro pairs delivered ambiguous
    exact build_of_not_oneToOne delivered ambiguous
  · intro kind
    exact source.levels_memberEvents kind

/-- A source of a host with a class that no pair names, and of groups of which two find no runtime table. -/
def doorSource (pairs : List (String × String)) (fieldAliases : Except BuildError NameMap) :
    MappingSource where
  classPairs := .ok pairs
  hostMethods := .ok ((∅ : MemberMaps).insertMany [("zz", ∅), ("a", (∅ : NameMap).insert "b()V" "m_1()V")])
  methodAliases := .ok ∅
  methodGroups :=
    .ok [⟨"net/Hall", []⟩, ⟨"net.Door", [⟨"m_1", some "()V"⟩]⟩, ⟨"net.Hall", [⟨"m_2", some "()V"⟩]⟩]
  hostFields := .ok ((∅ : MemberMaps).insert "zz" ∅)
  fieldAliases := fieldAliases
  fieldGroups := .ok []

/-- Without field aliases all that was logged is about methods; with them tables are built and counted unless
the class pairs have a conflict. -/
theorem build_course_of_door :
    (build true (doorSource [("net.Door", "a")] (.error (.sourceFailed "no field aliases")))).parts =
      [.classPairs, .hostMethods, .methodAliases, .methodGroups, .hostFields, .fieldAliases] ∧
    (build true (doorSource [("net.Door", "a")] (.error (.sourceFailed "no field aliases")))).events =
      [.buildStarted true, .hostClassUnnamed "zz", .hostTableMissing "net/Hall",
        .hostTableMissing "net/Hall"] ∧
    (build true (doorSource [("net.Door", "a")] (.ok ∅))).events =
      [.buildStarted true, .hostClassUnnamed "zz", .hostTableMissing "net/Hall",
        .hostTableMissing "net/Hall", .hostClassUnnamed "zz", .tablesBuilt 1 1 0] ∧
    ∃ conflict, build true
      (doorSource [("net.Door", "a"), ("net/Door", "b")] (.error (.sourceFailed "no field aliases"))) =
        ⟨[.log (.buildStarted true), .ask .classPairs], .error (.notBijective conflict)⟩ := by
  obtain ⟨-, stops, -, -, -⟩ :=
    build_course (doorSource [("net.Door", "a")] (.error (.sourceFailed "no field aliases")))
  obtain ⟨-, -, ends, -, -⟩ := build_course (doorSource [("net.Door", "a")] (.ok ∅))
  obtain ⟨-, -, -, ambiguous, -⟩ := build_course
    (doorSource [("net.Door", "a"), ("net/Door", "b")] (.error (.sourceFailed "no field aliases")))
  obtain ⟨-, parts, events⟩ := stops
    [.classPairs, .hostMethods, .methodAliases, .methodGroups, .hostFields] .fieldAliases [.fieldGroups]
    _ rfl (by decide) rfl
  obtain ⟨tables, built, -, counted⟩ := ends fun part => by cases part <;> rfl
  obtain ⟨conflict, -, stopped⟩ := ambiguous _ rfl (by decide)
  -- The tables that were built are those that the attempt makes, so they can be counted.
  have made : (build true (doorSource [("net.Door", "a")] (.ok ∅))).result = .ok (obfuscated tables) :=
    congrArg Attempt.result built
  have tables_eq : tables = _ := Resolver.obfuscated.inj (Except.ok.inj (made.symm.trans rfl))
  have sizes : tables.classes.size = 1 ∧ tables.methods.size = 1 ∧ tables.fields.size = 0 := by
    rw [tables_eq]
    decide
  have methods : (doorSource [("net.Door", "a")] (.ok ∅)).memberEvents .method =
      [.hostClassUnnamed "zz", .hostTableMissing "net/Hall", .hostTableMissing "net/Hall"] := by decide
  have fields : (doorSource [("net.Door", "a")] (.ok ∅)).memberEvents .field =
      [.hostClassUnnamed "zz"] := by decide
  refine ⟨parts, events.trans (by decide), ?_, conflict, stopped⟩
  rw [counted, methods, fields, sizes.1, sizes.2.1, sizes.2.2]
  rfl

end Resolver

end NameDomains
