/-
**The one resolver of a program, over all requests.**

A cell is asked for its resolver again and again, and each time something may fail that did not fail
before. Whatever the requests are, the first resolver built is the one that all later requests are
answered with:

* `ResolverCell.content_serve` — what one request leaves in the cell.
* `ResolverCell.content_after` — what a run of requests leaves in it: the first resolver built, unless
  there was one before.
* `ResolverCell.serveAll_of_filled` — a filled cell answers every request without any action.
* `ResolverCell.serveAll_empty` — what becomes of a request, at any place in a run from the empty cell.
-/

import NameDomains.Proofs.FileTree
import NameDomains.Proofs.Resolver.Build
import NameDomains.Proofs.Resolver.Events
import NameDomains.Resolver.Cell

namespace NameDomains

/-- What can be asked of a cell. Each request brings the source or the files as they are then. -/
inductive CellRequest
  /-- The resolver, if there is one. -/
  | get
  /-- The resolver, or else one built from a source. -/
  | create (isObfuscated : Bool) (source : MappingSource)
  /-- The resolver, or else the one that settings ask for. -/
  | createOfSettings (files : FileTree) (settings : ResolverSettings)

namespace CellRequest

/-- The attempt that a request makes on an empty cell. -/
def attempt? : CellRequest → Option (Attempt Resolver)
  | get => none
  | create isObfuscated source => some (Resolver.build isObfuscated source)
  | createOfSettings files settings => some (Resolver.ofSettings files settings)

/-- The resolver that this attempt builds, if it succeeds. -/
def built? (request : CellRequest) : Option Resolver :=
  request.attempt?.bind fun attempt => attempt.result.toOption

/-- What the first of the requests that builds a resolver builds. -/
def firstBuilt? (requests : List CellRequest) : Option Resolver := requests.findSome? built?

/-- Of the events of an attempt none is a warning or an error. -/
theorem isRoutine_of_attempt? {request : CellRequest} {attempt : Attempt Resolver}
    (made : request.attempt? = some attempt) : attempt.IsRoutine := by
  cases request with
  | get => cases made
  | create isObfuscated source =>
    obtain rfl := Option.some.inj made
    exact Resolver.isRoutine_build isObfuscated source
  | createOfSettings files settings =>
    obtain rfl := Option.some.inj made
    exact Resolver.isRoutine_ofSettings files settings

end CellRequest

namespace ResolverCell

variable {cell : ResolverCell}

/-! ### One request -/

/-- What a request does, answers and leaves behind. -/
def serve (cell : ResolverCell) : CellRequest → CellOutcome
  | .get => ⟨[], cell.content, cell⟩
  | .create isObfuscated source => cell.createFrom isObfuscated source
  | .createOfSettings files settings => cell.createOfSettings files settings

theorem serve_of_attempt? {request : CellRequest} {attempt : Attempt Resolver}
    (made : request.attempt? = some attempt) : cell.serve request = cell.create attempt := by
  cases request with
  | get => cases made
  | create | createOfSettings =>
    obtain rfl := Option.some.inj made
    rfl

/-- **A filled cell answers without any action** and stays as it is. -/
theorem serve_of_filled (resolver : Resolver) (request : CellRequest) :
    (⟨some resolver⟩ : ResolverCell).serve request = ⟨[], some resolver, ⟨some resolver⟩⟩ := by
  cases request <;> rfl

/-- **What a request leaves in the cell** is what was there, or else what it builds. -/
theorem content_serve (cell : ResolverCell) (request : CellRequest) :
    (cell.serve request).cell.content = cell.content.or request.built? := by
  obtain ⟨none | resolver⟩ := cell
  · rw [Option.none_or, CellRequest.built?]
    cases made : request.attempt? with
    | none =>
      cases request with
      | get => rfl
      | create | createOfSettings => cases made
    | some attempt =>
      rw [serve_of_attempt? made]
      obtain ⟨actions, error | resolver⟩ := attempt <;> rfl
  · rw [serve_of_filled]
    rfl

/-! ### Runs -/

/-- What a list of requests does, one after another. -/
def serveAll (cell : ResolverCell) : List CellRequest → List CellOutcome
  | [] => []
  | request :: requests =>
    cell.serve request :: (cell.serve request).cell.serveAll requests

/-- The cell after a list of requests. -/
def after (cell : ResolverCell) (requests : List CellRequest) : ResolverCell :=
  requests.foldl (fun cell request => (cell.serve request).cell) cell

theorem serveAll_append (cell : ResolverCell) (earlier later : List CellRequest) :
    cell.serveAll (earlier ++ later) =
      cell.serveAll earlier ++ (cell.after earlier).serveAll later := by
  induction earlier generalizing cell with
  | nil => rfl
  | cons request requests same => exact congrArg (cell.serve request :: ·) (same _)

theorem length_serveAll (cell : ResolverCell) (requests : List CellRequest) :
    (cell.serveAll requests).length = requests.length := by
  induction requests generalizing cell with
  | nil => rfl
  | cons request requests same => exact congrArg (· + 1) (same _)

/-- **What a run leaves in the cell** is what was there, or else the first resolver built. -/
theorem content_after (cell : ResolverCell) (requests : List CellRequest) :
    (cell.after requests).content = cell.content.or (CellRequest.firstBuilt? requests) := by
  induction requests generalizing cell with
  | nil => exact Option.or_none.symm
  | cons request requests same =>
    show ((cell.serve request).cell.after requests).content = _
    rw [same, content_serve, Option.or_assoc, CellRequest.firstBuilt?, CellRequest.firstBuilt?,
      List.findSome?_cons]
    cases request.built? <;> rfl

/-- From the empty cell a run leaves the first resolver built. -/
theorem after_empty (requests : List CellRequest) :
    empty.after requests = ⟨CellRequest.firstBuilt? requests⟩ :=
  congrArg ResolverCell.mk ((content_after empty requests).trans Option.none_or)

/-- **A filled cell answers all requests without any action.** -/
theorem serveAll_of_filled (resolver : Resolver) (requests : List CellRequest) :
    ∀ outcome ∈ (⟨some resolver⟩ : ResolverCell).serveAll requests,
      outcome = ⟨[], some resolver, ⟨some resolver⟩⟩ := by
  induction requests with
  | nil => exact fun outcome listed => absurd listed List.not_mem_nil
  | cons request requests same =>
    intro outcome listed
    rw [serveAll, serve_of_filled] at listed
    rcases List.mem_cons.mp listed with rfl | later
    · rfl
    · exact same outcome later

/-- **The first resolver built is the one.** Wherever a request stands in a run from the empty cell, the
cell holds after it what was built first up to then, and once there is a resolver, all that follows is
answered with it and without any action. Until then a request that builds one succeeds, and one that fails to
is answered with nothing, logs the failure as its one error and leaves the cell empty. Merely to ask changes
nothing. -/
theorem serveAll_empty (earlier : List CellRequest) (request : CellRequest)
    (later : List CellRequest) :
    ∃ outcome rest,
      empty.serveAll (earlier ++ request :: later) = empty.serveAll earlier ++ outcome :: rest ∧
      (empty.serveAll earlier).length = earlier.length ∧
      outcome.cell.content = CellRequest.firstBuilt? (earlier ++ [request]) ∧
      (∀ resolver, outcome.cell.content = some resolver →
        ∀ next ∈ rest, next = ⟨[], some resolver, ⟨some resolver⟩⟩) ∧
      (request = .get → outcome =
        ⟨[], CellRequest.firstBuilt? earlier, ⟨CellRequest.firstBuilt? earlier⟩⟩) ∧
      ∀ attempt, request.attempt? = some attempt →
        (∀ resolver, CellRequest.firstBuilt? earlier = some resolver →
          outcome = ⟨[], some resolver, ⟨some resolver⟩⟩) ∧
        (CellRequest.firstBuilt? earlier = none → ∀ resolver, attempt.result = .ok resolver →
          outcome = ⟨attempt.actions, some resolver, ⟨some resolver⟩⟩) ∧
        (CellRequest.firstBuilt? earlier = none → ∀ error, attempt.result = .error error →
          ∃ failure, outcome = ⟨attempt.actions ++ [.log failure], none, empty⟩ ∧
            failure = .buildFailed error.message ∧ failure.level = .error ∧
            ∀ event, .log event ∈ attempt.actions → event.level ≠ .error) := by
  -- The run is divided before the request, where the cell holds what the earlier ones built first.
  have whole := serveAll_append empty earlier (request :: later)
  rw [after_empty, serveAll] at whole
  refine ⟨_, _, whole, length_serveAll empty earlier, ?_, ?_, ?_, fun attempt made => ?_⟩
  · rw [content_serve, CellRequest.firstBuilt?, CellRequest.firstBuilt?, List.findSome?_append,
      List.findSome?_singleton]
  · intro resolver holds next listed
    have filled : ((⟨CellRequest.firstBuilt? earlier⟩ : ResolverCell).serve request).cell =
        ⟨some resolver⟩ := congrArg ResolverCell.mk holds
    rw [filled] at listed
    exact serveAll_of_filled resolver later next listed
  · rintro rfl
    rfl
  · rw [serve_of_attempt? made]
    refine ⟨fun resolver held => ?_, fun nothing resolver built => ?_, fun nothing error failed => ?_⟩
    · rw [held]
      rfl
    · rw [nothing, create, built]
    · refine ⟨_, ?_, rfl, rfl, fun event logged => (CellRequest.isRoutine_of_attempt? made event logged).1⟩
      rw [nothing, create, failed]
      rfl

/-- Without a snapshot file the cell stays empty. It is filled as soon as the file is there, and keeps the
resolver of that file, which knows a class, whatever fails afterwards. -/
theorem serveAll_empty_filled_later :
    ∃ (settings : ResolverSettings) (present : FileTree) (failing : MappingSource) (resolver : Resolver)
        (first second third : CellOutcome),
      settings = ⟨true, some "s"⟩ ∧
      present.readText "s" = .ok "\x7b\"classes\":[[\"net.Foo\",\"a\"]]\x7d" ∧
      failing.classPairs = .error (.sourceFailed "no answer") ∧
      empty.serveAll [.createOfSettings ∅ settings, .createOfSettings present settings, .create true failing] =
        [first, second, third] ∧
      first = ⟨[.readFile "s", .log (.buildFailed
        "failed to read mapping snapshot s: No such file or directory (os error 2)")], none, empty⟩ ∧
      second = ⟨[.readFile "s", .log (.buildStarted true), .ask .classPairs, .ask .hostMethods,
        .ask .methodAliases, .ask .methodGroups, .ask .hostFields, .ask .fieldAliases, .ask .fieldGroups,
        .log (.tablesBuilt 1 0 0)], some resolver, ⟨some resolver⟩⟩ ∧
      third = ⟨[], some resolver, ⟨some resolver⟩⟩ ∧
      (resolver.className "a" .toHuman).value = "net.Foo" := by
  let settings : ResolverSettings := ⟨true, some "s"⟩
  let text := "\x7b\"classes\":[[\"net.Foo\",\"a\"]]\x7d"
  let present : FileTree := (∅ : FileTree).insert ["s"] (.file text.toUTF8)
  let snapshot : Snapshot := { Snapshot.empty with classes := [⟨"net.Foo", "a"⟩] }
  let failing : MappingSource :=
    ⟨.error (.sourceFailed "no answer"), .ok ∅, .ok ∅, .ok [], .ok ∅, .ok ∅, .ok []⟩
  have located : ∀ tree : FileTree, tree.locate "s" = .ok (["s"], tree[["s"]]?) := fun tree =>
    tree.locate_step (by decide) (by decide) (by decide) (by decide)
  have nothing : FileTree.locate ∅ "s" = .ok (["s"], none) := by
    rw [located, Std.ExtTreeMap.getElem?_empty]
  have written : present.locate "s" = .ok (["s"], some (.file text.toUTF8)) := by
    rw [located, Std.ExtTreeMap.getElem?_insert_self]
  have read : present.readText "s" = .ok text := FileTree.readText_of_file written
  have parsed : Snapshot.parse text = .ok snapshot := by
    have denoted : (Snapshot.parse text).toOption = some snapshot := by decide +kernel
    exact Outcome.toOption_eq_some_iff.mp denoted
  have missing := Resolver.ofSettings_of_unread (FileTree.readText_of_nothing nothing)
  have found := Resolver.ofSettings_of_snapshot read parsed
  obtain ⟨resolver, built, known⟩ : ∃ resolver, (Resolver.build true snapshot.source).result = .ok resolver ∧
      (resolver.className "a" .toHuman).value = "net.Foo" := ⟨_, rfl, by decide⟩
  have done : (Resolver.build true snapshot.source).actions = [.log (.buildStarted true), .ask .classPairs,
      .ask .hostMethods, .ask .methodAliases, .ask .methodGroups, .ask .hostFields, .ask .fieldAliases,
      .ask .fieldGroups, .log (.tablesBuilt 1 0 0)] := by decide
  obtain ⟨first, rest, whole, -, -, -, -, attempted⟩ := serveAll_empty [] (.createOfSettings ∅ settings)
    [.createOfSettings present settings, .create true failing]
  obtain ⟨failure, failed, rfl, -, -⟩ := (attempted _ (congrArg some missing)).2.2 rfl _ rfl
  obtain ⟨second, last, divided, -, -, kept, -, retried⟩ := serveAll_empty [.createOfSettings ∅ settings]
    (.createOfSettings present settings) [.create true failing]
  have nothingBuilt : CellRequest.firstBuilt? [.createOfSettings ∅ settings] = none := by
    rw [CellRequest.firstBuilt?, List.findSome?_singleton]
    show (Resolver.ofSettings ∅ settings).result.toOption = none
    rw [missing]
    rfl
  have filled := (retried _ (congrArg some found)).2.1 nothingBuilt resolver built
  rw [done] at filled
  obtain rfl : rest = second :: last := (List.cons.inj (whole.symm.trans divided)).2
  have count : 3 = last.length + 2 := congrArg List.length whole
  obtain ⟨third, rfl⟩ := List.length_eq_one_iff.mp (by omega : last.length = 1)
  exact ⟨settings, present, failing, resolver, first, second, third, rfl, read, rfl, whole, failed, filled,
    kept resolver (filled ▸ rfl) third List.mem_cons_self, known⟩

end ResolverCell

end NameDomains
