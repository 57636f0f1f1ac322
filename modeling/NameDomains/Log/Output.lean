/-
**Where log lines go.**

Logging is set up once; later attempts change nothing. From then on every event that the filter lets
pass is written as a line to standard error, to the end of a file, or to both, as the settings say. A
log file that cannot be opened is itself logged, and the other place stays in use.

It is assumed that no logger of another kind is installed in the program, so that the first attempt to set
logging up succeeds, and that nothing that is written is lost, as `FileTree` has it for files.

* `LogOutput.setUp` — sets logging up, if that was not done before.
* `LogOutput.emit`, `LogOutput.emitAll` — logs events.
-/

import NameDomains.FileTree
import NameDomains.Log.Filter
import NameDomains.Log.Line

namespace NameDomains

/-- What is logged, in which form and where to. -/
structure Logger where
  filter : Filter
  json : Bool
  stderr : Bool
  /-- The path of a file that was opened for appending. -/
  file : Option String
  deriving DecidableEq, Repr

/-- The lines written so far, and how the next ones are. -/
structure LogOutput where
  logger : Option Logger
  stderr : String
  files : FileTree

/-- Adds text to the end of a file, which is made if it is not there. -/
def FileTree.append (tree : FileTree) (path : String) (text : String) : FileTree :=
  match tree.locate path with
  | .ok (place, none) => tree.insert place (.file text.toUTF8)
  | .ok (place, some (.file content)) => tree.insert place (.file (content ++ text.toUTF8))
  | _ => tree

namespace LogOutput

/-- Nothing is written and nothing set up. -/
def start (files : FileTree) : LogOutput := ⟨none, "", files⟩

/-- Writes the line of an event where it belongs. -/
def write (output : LogOutput) (logger : Logger) (event : Event) : LogOutput :=
  let line := event.line logger.json ++ "\n"
  { output with
    stderr := if logger.stderr then output.stderr ++ line else output.stderr
    files :=
      match logger.file with
      | some path => output.files.append path line
      | none => output.files }

/-- Logs an event, if logging is set up and the filter lets it pass. -/
def emit (output : LogOutput) (event : Event) : LogOutput :=
  match output.logger with
  | some logger => if logger.filter.enables event then output.write logger event else output
  | none => output

/-- Logs events in order. -/
def emitAll (output : LogOutput) (events : List Event) : LogOutput := events.foldl emit output

/-- Sets logging up. -/
def setUp (output : LogOutput) (settings : LogSettings) (environment : Option String) :
    LogOutput :=
  match output.logger with
  | some _ => output
  | none =>
    let logger : Logger := ⟨settings.filter environment, settings.json, settings.stderr, none⟩
    match settings.file with
    | none => { output with logger := some logger }
    | some path =>
      if output.files.canAppend path then
        { output with
          logger := some { logger with file := some path }
          files := output.files.append path "" }
      else { output with logger := some logger }.emit (.logFileUnavailable path)

end LogOutput

end NameDomains
