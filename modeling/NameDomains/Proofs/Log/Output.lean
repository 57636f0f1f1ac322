/-
**What is written once logging was set up.**

Logging is set up with one logger, which stays. From then on every event adds its line to each place where the
logger writes, or nothing to any of them; so all places get the same lines in the order of the events. A log
file that cannot be opened is itself an event, the first one, and then nothing is written to files.

* `Logger.lines` — the text that a logger makes of events.
* `LogOutput.Wrote` — the output after a text was written; `Wrote.emit`, `Wrote.emitAll`, `Wrote.setUp`.
* `LogSettings.fault?`, `LogOutput.wrote_setUp` — what is written as logging is set up.
-/

import NameDomains.Proofs.FileTree

namespace NameDomains

/-! ### The text of events -/

/-- The text of events: their lines, one after another. -/
def Event.text (json : Bool) (events : List Event) : String :=
  String.join (events.map fun event => event.line json ++ "\n")

theorem Event.text_append (json : Bool) (first second : List Event) :
    Event.text json (first ++ second) = Event.text json first ++ Event.text json second := by
  rw [Event.text, List.map_append, String.join_append, ← Event.text, ← Event.text]

/-- The text that a logger makes of events. -/
def Logger.lines (logger : Logger) (events : List Event) : String :=
  Event.text logger.json (events.filter logger.filter.enables)

theorem Logger.lines_append (logger : Logger) (first second : List Event) :
    logger.lines (first ++ second) = logger.lines first ++ logger.lines second := by
  rw [Logger.lines, List.filter_append, Event.text_append, ← Logger.lines, ← Logger.lines]

namespace LogOutput

/-! ### What is written -/

/-- An output after a logger wrote a text: to standard error, to a file, to both or to neither, as it is set to. -/
structure Wrote (logger : Logger) (before after : LogOutput) (text : String) : Prop where
  logger_eq : after.logger = some logger
  stderr_eq : after.stderr = before.stderr ++ if logger.stderr then text else ""
  file : ∀ path, logger.file = some path → before.files.Extended after.files path text
  files_eq : logger.file = none → after.files = before.files

namespace Wrote

variable {logger : Logger} {before after : LogOutput} {text : String}

/-- **An event that passes is written everywhere, and any other one nowhere.** -/
theorem emit (wrote : Wrote logger before after text) (event : Event) :
    Wrote logger before (after.emit event) (text ++ logger.lines [event]) := by
  rw [LogOutput.emit, wrote.logger_eq]
  dsimp only
  split
  · next passes =>
    have line : logger.lines [event] = event.line logger.json ++ "\n" := by
      rw [Logger.lines, List.filter_cons_of_pos passes, List.filter_nil, Event.text, List.map_singleton,
        String.join_cons, String.join_nil, String.append_empty]
    rw [line]
    refine ⟨wrote.logger_eq, ?_, fun path opened => ?_, fun closed => ?_⟩
    · rw [write, wrote.stderr_eq]
      split
      · exact String.append_assoc
      · rw [String.append_empty]
    · simp only [write, opened]
      exact (wrote.file path opened).trans (.append (wrote.file path opened).canAppend _)
    · simp only [write, closed]
      exact wrote.files_eq closed
  · next stays =>
    have nothing : logger.lines [event] = "" := by
      rw [Logger.lines, List.filter_cons_of_neg stays]
      rfl
    rwa [nothing, String.append_empty]

/-- Events are written one after another. -/
theorem emitAll (wrote : Wrote logger before after text) (events : List Event) :
    Wrote logger before (after.emitAll events) (text ++ logger.lines events) := by
  induction events generalizing after text with
  | nil =>
    have nothing : logger.lines [] = "" := rfl
    rwa [nothing, String.append_empty]
  | cons event events later =>
    have next := later (wrote.emit event)
    rwa [String.append_assoc, ← Logger.lines_append, List.singleton_append] at next

/-- **Setting logging up again changes nothing.** -/
theorem setUp (wrote : Wrote logger before after text) (settings : LogSettings) (environment : Option String) :
    after.setUp settings environment = after := by
  rw [LogOutput.setUp, wrote.logger_eq]

end Wrote

end LogOutput

/-! ### Setting up -/

namespace LogSettings

/-- The logger of settings: it writes to the log file if that can be opened. -/
def logger (settings : LogSettings) (environment : Option String) (files : FileTree) : Logger :=
  ⟨settings.filter environment, settings.json, settings.stderr, settings.file.filter files.canAppend⟩

/-- What setting logging up is itself worth logging: a log file that cannot be opened. -/
def fault? (settings : LogSettings) (files : FileTree) : Option Event :=
  (settings.file.filter fun path => !files.canAppend path).map .logFileUnavailable

theorem fault?_eq_some_iff {settings : LogSettings} {files : FileTree} {event : Event} :
    settings.fault? files = some event ↔
      ∃ path, settings.file = some path ∧ files.canAppend path = false ∧ event = .logFileUnavailable path := by
  rw [fault?, Option.map_eq_some_iff]
  constructor
  · rintro ⟨path, found, rfl⟩
    obtain ⟨given, closed⟩ := Option.filter_eq_some_iff.mp found
    exact ⟨path, given, by simpa using closed, rfl⟩
  · rintro ⟨path, given, closed, rfl⟩
    exact ⟨path, Option.filter_eq_some_iff.mpr ⟨given, by simpa using closed⟩, rfl⟩

end LogSettings

namespace LogOutput

/-- A logger that was just set has written nothing. -/
theorem wrote_nothing (output : LogOutput) {logger : Logger} (closed : logger.file = none) :
    Wrote logger output { output with logger := some logger } "" where
  logger_eq := rfl
  stderr_eq := by rw [ite_self, String.append_empty]
  file path opened := by rw [closed] at opened; cases opened
  files_eq _ := rfl

/-- A file that was just opened holds what it held, and is made if it was not there. -/
theorem wrote_opening (output : LogOutput) {logger : Logger} {path : String} (opened : logger.file = some path)
    (opens : output.files.canAppend path = true) :
    Wrote logger output ⟨some logger, output.stderr, output.files.append path ""⟩ "" where
  logger_eq := rfl
  stderr_eq := by rw [ite_self, String.append_empty]
  file other same := by
    obtain rfl := Option.some.inj (opened.symm.trans same)
    exact .append opens ""
  files_eq closed := by rw [opened] at closed; cases closed

/-- **As logging is set up nothing is written but a fault.** -/
theorem wrote_setUp {output : LogOutput} (fresh : output.logger = none) (settings : LogSettings)
    (environment : Option String) :
    Wrote (settings.logger environment output.files) output (output.setUp settings environment)
      ((settings.logger environment output.files).lines (settings.fault? output.files).toList) := by
  rw [setUp, fresh, LogSettings.logger, LogSettings.fault?]
  cases settings.file with
  | none => exact wrote_nothing output rfl
  | some path =>
    by_cases opens : output.files.canAppend path = true
    · simp only [opens, if_true, Option.filter_some, Bool.not_true, Bool.false_eq_true, if_false]
      exact wrote_opening output rfl opens
    · simp only [opens, Option.filter_some, Bool.not_false, if_true]
      let logger : Logger := ⟨settings.filter environment, settings.json, settings.stderr, none⟩
      have closed : logger.file = none := rfl
      have wrote := (wrote_nothing output closed).emit (.logFileUnavailable path)
      rwa [String.empty_append] at wrote

end LogOutput

end NameDomains
