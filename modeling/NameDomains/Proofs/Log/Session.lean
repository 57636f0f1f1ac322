/-
**A program that logs.**

A program sets logging up, builds resolvers, asks the last one that it built, and may try to set logging up
again. Whatever it does, both places that it logs to get the same lines, those of its events that the filter
lets pass, one after another. A log file that cannot be opened is the first of these events. What a log file
held stays in front of them.

* `Session`, `Session.Step`, `Session.run` — what a program does.
* `Session.Step.events`, `Session.eventsOf` — what happens as it does so, whether it is logged or not.
* `Session.wrote_perform`, `Session.wrote_run` — a step, and so a run, writes those of its events that pass.
* `Session.run_writes` — which events pass, and where their lines are in the end.
-/

import NameDomains.Proofs.Log.Deciding
import NameDomains.Proofs.Log.Output
import NameDomains.Proofs.Resolver.Events
import NameDomains.Proofs.Resolver.Misses

namespace NameDomains

/-- A program: the resolver that it built last, if it built one, and what it has written. -/
structure Session where
  resolver : Option Resolver
  output : LogOutput

namespace Session

/-! ### Steps -/

/-- What a program can do. -/
inductive Step : Type 1
  /-- To build a resolver, which is asked from then on. -/
  | build (isObfuscated : Bool) (source : MappingSource)
  /-- To ask the resolver, if there is one. -/
  | ask (query : Query)
  /-- To set logging up. -/
  | setUp (settings : LogSettings) (environment : Option String)

/-- The program whose first act is to set logging up. -/
def start (settings : LogSettings) (environment : Option String) (files : FileTree) : Session :=
  ⟨none, (LogOutput.start files).setUp settings environment⟩

/-- One step of a program. After an attempt that fails the resolver is the one there was. -/
def perform (session : Session) : Step → Session
  | .build isObfuscated source =>
    let attempt := Resolver.build isObfuscated source
    ⟨attempt.result.toOption.or session.resolver, session.output.emitAll attempt.events⟩
  | .ask query =>
    match session.resolver with
    | some resolver => { session with output := session.output.emitAll (resolver.answer query).events }
    | none => session
  | .setUp settings environment => { session with output := session.output.setUp settings environment }

/-- One step after another. -/
def run (session : Session) (steps : List Step) : Session := steps.foldl perform session

namespace Step

/-- The events of a step, given the resolver that there is. -/
def events (resolver : Option Resolver) : Step → List Event
  | build isObfuscated source => (Resolver.build isObfuscated source).events
  | ask query => resolver.elim [] fun resolver => (resolver.answer query).events
  | setUp _ _ => []

/-- The resolver that there is after a step. -/
def resolverAfter (resolver : Option Resolver) : Step → Option Resolver
  | build isObfuscated source => (Resolver.build isObfuscated source).result.toOption.or resolver
  | ask _ => resolver
  | setUp _ _ => resolver

/-- What building and asking log is no warning about settings. -/
theorem not_config_warning {resolver : Option Resolver} {step : Step} {event : Event}
    (happens : event ∈ step.events resolver) : ¬ (event.level = .warn ∧ event.target = "obfmap.config") := by
  rintro ⟨level, target⟩
  cases step with
  | build isObfuscated source =>
    obtain ⟨action, taken, logged⟩ := List.mem_filterMap.mp happens
    split at logged
    · obtain rfl := Option.some.inj logged
      exact (Resolver.isRoutine_build isObfuscated source _ taken).2 level
    · cases logged
  | ask query =>
    cases resolver with
    | none => cases happens
    | some resolver =>
      rw [(Resolver.warning_of_mem_events happens).2] at target
      exact absurd target (by decide)
  | setUp settings environment => cases happens

end Step

/-- The events of steps, in order. -/
def eventsOf (resolver : Option Resolver) : List Step → List Event
  | [] => []
  | step :: steps => step.events resolver ++ eventsOf (step.resolverAfter resolver) steps

theorem not_config_warning_of_eventsOf {resolver : Option Resolver} {steps : List Step} {event : Event}
    (happens : event ∈ eventsOf resolver steps) :
    ¬ (event.level = .warn ∧ event.target = "obfmap.config") := by
  induction steps generalizing resolver with
  | nil => cases happens
  | cons step steps later =>
    rcases List.mem_append.mp happens with now | after
    · exact Step.not_config_warning now
    · exact later after

/-! ### What is written -/

open LogOutput (Wrote)

variable {logger : Logger} {before : LogOutput} {text : String} {session : Session}

theorem resolver_perform (session : Session) (step : Step) :
    (session.perform step).resolver = step.resolverAfter session.resolver := by
  cases step with
  | build isObfuscated source => rfl
  | ask query =>
    rw [perform]
    split <;> rfl
  | setUp settings environment => rfl

/-- **A step writes those of its events that pass.** -/
theorem wrote_perform (wrote : Wrote logger before session.output text) (step : Step) :
    Wrote logger before (session.perform step).output (text ++ logger.lines (step.events session.resolver)) := by
  cases step with
  | build isObfuscated source => exact wrote.emitAll _
  | ask query =>
    rw [perform, Step.events]
    cases session.resolver with
    | some resolver => exact wrote.emitAll _
    | none => exact wrote.emitAll []
  | setUp settings environment =>
    rw [perform, wrote.setUp]
    exact wrote.emitAll []

/-- **So does a run.** -/
theorem wrote_run (wrote : Wrote logger before session.output text) (steps : List Step) :
    Wrote logger before (session.run steps).output (text ++ logger.lines (eventsOf session.resolver steps)) := by
  induction steps generalizing session text with
  | nil => exact wrote.emitAll []
  | cons step steps later =>
    have next := later (wrote_perform wrote step)
    rwa [resolver_perform, String.append_assoc, ← Logger.lines_append] at next

/-- A program that set logging up has written the fault in its settings and its events, as far as they pass. -/
theorem wrote_start_run (settings : LogSettings) (environment : Option String) (files : FileTree)
    (steps : List Step) :
    Wrote (settings.logger environment files) (.start files) ((start settings environment files).run steps).output
      ((settings.logger environment files).lines ((settings.fault? files).toList ++ eventsOf none steps)) := by
  have fresh : (LogOutput.start files).logger = none := rfl
  rw [Logger.lines_append]
  exact wrote_run (LogOutput.wrote_setUp fresh settings environment) steps

/-! ### Where the lines are -/

/-- What a program has written that logged events with settings. -/
structure Holds (settings : LogSettings) (files : FileTree) (logged : List Event) (output : LogOutput) :
    Prop where
  /-- Standard error has the lines of the events, or nothing. -/
  stderr : output.stderr = if settings.stderr then Event.text settings.json logged else ""
  /-- A log file that can be opened has the same lines behind what it held, and nothing else has changed. -/
  file : ∀ path, settings.file = some path → files.canAppend path = true →
    output.files.readBytes path =
        .ok (files.contentAt path ++ (Event.text settings.json logged).toUTF8) ∧
      files.Extended output.files path (Event.text settings.json logged)
  /-- Without such a file nothing is written to files. -/
  noFile : (∀ path, settings.file = some path → files.canAppend path = false) → output.files = files

/-- A program has written the fault in its settings, if there is one, and its events, as far as they pass. -/
theorem holds_run (settings : LogSettings) (environment : Option String) (files : FileTree)
    (steps : List Step) :
    Holds settings files
      (((settings.fault? files).toList ++ eventsOf none steps).filter (settings.filter environment).enables)
      ((start settings environment files).run steps).output := by
  have wrote := wrote_start_run settings environment files steps
  refine ⟨wrote.stderr_eq.trans String.empty_append, fun path given opens => ?_, fun closed => ?_⟩
  · have extended := wrote.file path (by rw [LogSettings.logger, given]; exact Option.filter_some_pos opens)
    exact ⟨extended.readBytes, extended⟩
  · refine wrote.files_eq (Option.filter_eq_none_iff.mpr fun path given => ?_)
    rw [closed path given]
    exact Bool.false_ne_true

/-- **Both places get the same lines, and nothing is lost.** Whatever a program does, what it logs are those of
its events that the filter lets pass, in order, after a warning if the log file cannot be opened and the filter
lets the warning pass; none of the other events is such a warning. An event passes as the most specific directive
says that is about it. Standard error has the lines of these events if it is set to, and a log file that can be
opened has the same lines behind what it held. Which events are logged does not depend on the form of the lines,
and to set logging up again changes nothing. -/
theorem run_writes (settings : LogSettings) (environment : Option String) (files : FileTree)
    (steps : List Step) :
    ∃ logged : List Event,
      (∀ path, settings.file = some path → files.canAppend path = false →
        (settings.filter environment).enables (.logFileUnavailable path) = true →
        logged = .logFileUnavailable path ::
          (eventsOf none steps).filter (settings.filter environment).enables) ∧
      ((∀ path, settings.file = some path → files.canAppend path = false →
        (settings.filter environment).enables (.logFileUnavailable path) = false) →
        logged = (eventsOf none steps).filter (settings.filter environment).enables) ∧
      (∀ path, (Event.logFileUnavailable path).level = .warn ∧
        (Event.logFileUnavailable path).target = "obfmap.config") ∧
      (∀ event ∈ eventsOf none steps, ¬ (event.level = .warn ∧ event.target = "obfmap.config")) ∧
      (settings.filter environment).Follows (settings.givenDirectives environment) ∧
      (∀ json, Holds { settings with json := json } files logged
        ((start { settings with json := json } environment files).run steps).output) ∧
      ∀ other otherEnvironment,
        ((start settings environment files).run steps).perform (.setUp other otherEnvironment) =
          (start settings environment files).run steps := by
  refine ⟨((settings.fault? files).toList ++ eventsOf none steps).filter (settings.filter environment).enables,
    fun path given closed passes => ?_, fun silent => ?_, fun path => ⟨rfl, rfl⟩,
    fun event happens => not_config_warning_of_eventsOf happens, ?_, fun json => ?_, fun other against => ?_⟩
  · rw [LogSettings.fault?_eq_some_iff.mpr ⟨path, given, closed, rfl⟩, Option.toList_some, List.singleton_append,
      List.filter_cons_of_pos passes]
  · rw [List.filter_append, List.append_left_eq_self, List.filter_eq_nil_iff]
    intro event fault
    obtain ⟨path, given, closed, rfl⟩ := LogSettings.fault?_eq_some_iff.mp (Option.mem_toList.mp fault)
    rw [silent path given closed]
    exact Bool.false_ne_true
  · rw [LogSettings.filter_eq_ofDirectives]
    exact Filter.follows_ofDirectives _
  · have holds := holds_run { settings with json := json } environment files steps
    rwa [LogSettings.filter_with_json] at holds
  · rw [perform, (wrote_start_run settings environment files steps).setUp]

/-- The one event of a host that is not obfuscated goes behind what a file held, and behind a warning where a
directory stands in the place of the file. -/
theorem run_writes_behind_old_lines :
    ∃ (settings : LogSettings) (source : MappingSource) (kept blocked : FileTree) (first second : Session),
      settings.file = some "o" ∧ kept.readBytes "o" = .ok "old\n".toUTF8 ∧ blocked.canAppend "o" = false ∧
      first = (start settings none kept).run [.setUp { level := "off" } (some "trace"), .build false source] ∧
      second = (start settings none blocked).run [.setUp { level := "off" } (some "trace"), .build false source] ∧
      first.output.stderr = " INFO obfmap.resolve: initializing resolver without obfuscation\n" ∧
      first.output.files.readBytes "o" =
        .ok "old\n INFO obfmap.resolve: initializing resolver without obfuscation\n".toUTF8 ∧
      second.output.stderr =
        " WARN obfmap.config: failed to open log file; file logging disabled path=o\n" ++
          " INFO obfmap.resolve: initializing resolver without obfuscation\n" ∧
      second.output.files = blocked := by
  let settings : LogSettings := { file := some "o" }
  let source : MappingSource := ⟨.ok [], .ok ∅, .ok ∅, .ok [], .ok ∅, .ok ∅, .ok []⟩
  let steps : List Step := [.setUp { level := "off" } (some "trace"), .build false source]
  let kept : FileTree := (∅ : FileTree).insert ["o"] (.file "old\n".toUTF8)
  let blocked : FileTree := (∅ : FileTree).insert ["o"] .directory
  have located : ∀ tree : FileTree, tree.locate "o" = .ok (["o"], tree[["o"]]?) := fun tree =>
    tree.locate_step (by decide) (by decide) (by decide) (by decide)
  have held : kept.locate "o" = .ok (["o"], some (.file "old\n".toUTF8)) := by
    rw [located, Std.ExtTreeMap.getElem?_insert_self]
  have barred : blocked.locate "o" = .ok (["o"], some .directory) := by
    rw [located, Std.ExtTreeMap.getElem?_insert_self]
  have opens : kept.canAppend "o" = true := FileTree.canAppend_iff.mpr ⟨_, _, held, nofun⟩
  have closed : blocked.canAppend "o" = false := by rw [FileTree.canAppend, barred]
  have passed : (eventsOf none steps).filter (settings.filter none).enables = [.buildStarted false] := by decide
  obtain ⟨logged, -, faultless, -, -, -, holds, -⟩ := run_writes settings none kept steps
  obtain rfl : logged = [.buildStarted false] := by
    rw [← passed]
    refine faultless fun path given shut => ?_
    obtain rfl := Option.some.inj given
    rw [opens] at shut
    cases shut
  obtain ⟨warned, faulty, -, -, -, -, otherHolds, -⟩ := run_writes settings none blocked steps
  obtain rfl : warned = [.logFileUnavailable "o", .buildStarted false] := by
    rw [← passed]
    exact faulty "o" rfl closed (by decide)
  refine ⟨settings, source, kept, blocked, _, _, rfl, ?_, closed, rfl, rfl, ?_, ?_, ?_, ?_⟩
  · rw [FileTree.readBytes, held]
    rfl
  · exact (holds false).stderr.trans (by decide)
  · rw [((holds false).file "o" rfl opens).1, FileTree.contentAt_of_file held]
    decide
  · exact (otherHolds false).stderr.trans (by decide)
  · refine (otherHolds false).noFile fun path given => ?_
    obtain rfl := Option.some.inj given
    exact closed

/-- The target alone does not decide: a directive that asks for a field has the longest target that this
event's starts with and allows its level, and yet the event, which lacks the field, is not logged. -/
theorem not_decided_by_target :
    ∃ (settings : LogSettings) (source : MappingSource) (event : Event) (directive : Directive),
      settings = { level := "obfmap.resolve[\x7bclass\x7d]=warn" } ∧
      source = ⟨.ok [("net.Foo", "a")], .ok ∅, .ok ∅, .ok [], .ok ∅, .ok ∅, .ok []⟩ ∧
      event ∈ eventsOf none [.build true source, .ask (.fieldName "x.Y" "f" .runtime)] ∧
      Filter.DecidesByTarget (settings.givenDirectives none) event directive ∧
      directive.verbosity.allows event.level = true ∧ settings.stderr = true ∧
      ((start settings none ∅).run [.build true source, .ask (.fieldName "x.Y" "f" .runtime)]).output.stderr =
        "" := by
  let settings : LogSettings := { level := "obfmap.resolve[\x7bclass\x7d]=warn" }
  let source : MappingSource := ⟨.ok [("net.Foo", "a")], .ok ∅, .ok ∅, .ok [], .ok ∅, .ok ∅, .ok []⟩
  let steps : List Step := [.build true source, .ask (.fieldName "x.Y" "f" .runtime)]
  let directive : Directive := ⟨some "obfmap.resolve", none, some ⟨"class", none⟩, .upTo .warn⟩
  have given : settings.givenDirectives none = [directive] := by decide
  have longest : Filter.DecidesByTarget [directive] (.memberUnknown "x.Y" "f" .field .runtime) directive := by
    refine ⟨⟨[], [], rfl, .refl directive, nofun⟩, ?_, ?_⟩
    · intro start target
      obtain rfl := Option.some.inj target
      exact List.prefix_rfl
    · intro other counts reaches start target
      obtain rfl := List.mem_singleton.mp (Filter.mem_of_counts counts)
      exact ⟨start, target, le_rfl⟩
  exact ⟨settings, source, _, directive, rfl, rfl, by decide, given ▸ longest, rfl, rfl,
    (wrote_start_run settings none ∅ steps).stderr_eq.trans (by decide)⟩

end Session

end NameDomains
