/-
**Attempts to build a resolver.**

Building asks a source for its parts, reads files and logs events, and may fail. An attempt is the
list of these actions in order and what came of it; after a failure nothing more is done.

* `BuildError`, `BuildError.message` — why building fails.
* `MappingSource` — the parts of a source, each of which may fail.
* `Attempt` — actions and a result, put together in order.
-/

import NameDomains.FileTree
import NameDomains.Snapshot.Decode

namespace NameDomains

/-- Why a resolver cannot be built. -/
inductive BuildError
  /-- The source of the mappings failed. -/
  | sourceFailed (reason : String)
  /-- The snapshot file cannot be read. -/
  | unreadable (path : String) (cause : FileError)
  /-- The snapshot is not what it should be. -/
  | badSnapshot (problem : Json.Problem)
  /-- A class name has two counterparts. -/
  | notBijective (conflict : ClassTable.Conflict)
  /-- No snapshot is set for an obfuscated host. -/
  | noMappings
  deriving DecidableEq, Repr

/-- The error in words. -/
def BuildError.message : BuildError → String
  | sourceFailed reason => "mapping source failed: " ++ reason
  | unreadable path cause => "failed to read mapping snapshot " ++ path ++ ": " ++ cause.message
  | badSnapshot problem => "invalid mapping snapshot: " ++ problem.message
  | notBijective conflict =>
    "class table is not bijective: " ++ conflict.name ++ " maps to both " ++ conflict.first ++ " and "
      ++ conflict.second
  | noMappings => "obfuscated resolver requires a mapping snapshot"

/-! ### Sources -/

/-- The parts of a mapping source. -/
inductive SourcePart
  | classPairs
  | hostMethods
  | methodAliases
  | methodGroups
  | hostFields
  | fieldAliases
  | fieldGroups
  deriving DecidableEq, Repr

/-- Everything a resolver is built from; each part may fail to be delivered. -/
structure MappingSource where
  classPairs : Except BuildError (List (String × String))
  hostMethods : Except BuildError MemberMaps
  methodAliases : Except BuildError NameMap
  methodGroups : Except BuildError (List MemberGroup)
  hostFields : Except BuildError MemberMaps
  fieldAliases : Except BuildError NameMap
  fieldGroups : Except BuildError (List MemberGroup)

/-- A snapshot delivers all its parts. -/
def Snapshot.source (snapshot : Snapshot) : MappingSource where
  classPairs := .ok (snapshot.classes.map fun pair => (pair.human, pair.runtime))
  hostMethods := .ok snapshot.hostMethods
  methodAliases := .ok snapshot.methodAliases
  methodGroups := .ok snapshot.methods
  hostFields := .ok snapshot.hostFields
  fieldAliases := .ok snapshot.fieldAliases
  fieldGroups := .ok snapshot.fields

/-! ### Attempts -/

/-- What building does that shows outside. -/
inductive Action
  | ask (part : SourcePart)
  | readFile (path : String)
  | log (event : Event)
  deriving DecidableEq, Repr

/-- Actions in order, and what came of them. -/
structure Attempt (α : Type) where
  actions : List Action
  result : Except BuildError α

namespace Attempt

/-- Goes on with the result of an attempt, or stops at its failure. -/
def andThen {α β : Type} (first : Attempt α) (next : α → Attempt β) : Attempt β :=
  match first.result with
  | .ok value => ⟨first.actions ++ (next value).actions, (next value).result⟩
  | .error error => ⟨first.actions, .error error⟩

instance : Monad Attempt where
  pure value := ⟨[], .ok value⟩
  bind := andThen

/-- Going on after a success puts the actions together. -/
theorem andThen_of_ok {α β : Type} {actions : List Action} {value : α} {next : α → Attempt β} :
    andThen ⟨actions, .ok value⟩ next = ⟨actions ++ (next value).actions, (next value).result⟩ :=
  rfl

/-- Nothing is done after a failure. -/
theorem andThen_of_error {α β : Type} {actions : List Action} {error : BuildError}
    {next : α → Attempt β} : andThen ⟨actions, .error error⟩ next = ⟨actions, .error error⟩ :=
  rfl

/-- Actions are put together in order, so it does not matter how steps are grouped. -/
instance : LawfulMonad Attempt :=
  LawfulMonad.mk' _
    (fun attempt => by
      obtain ⟨actions, error | value⟩ := attempt
      · rfl
      · exact congrArg (Attempt.mk · (.ok value)) (List.append_nil actions))
    (fun value next => congrArg (Attempt.mk · (next value).result) (List.nil_append _))
    (fun first second third => by
      obtain ⟨actions, error | value⟩ := first
      · rfl
      · show andThen (andThen ⟨actions, .ok value⟩ second) third =
          andThen ⟨actions, .ok value⟩ fun value => andThen (second value) third
        rw [andThen_of_ok, andThen_of_ok]
        obtain ⟨more, error | next⟩ := second value
        · rfl
        · rw [andThen_of_ok, andThen_of_ok, List.append_assoc])

/-- Asks a source for a part. -/
def ask {α : Type} (part : SourcePart) (answer : Except BuildError α) : Attempt α :=
  ⟨[.ask part], answer⟩

/-- Reads the text of a file. -/
def readFile (files : FileTree) (path : String) : Attempt String :=
  ⟨[.readFile path], (files.readText path).mapError (.unreadable path)⟩

/-- Goes on with a result reached without actions. -/
def ofExcept {α : Type} (result : Except BuildError α) : Attempt α := ⟨[], result⟩

/-- Logs the events on the way to a value. -/
def ofLogged {α : Type} (logged : Logged α) : Attempt α :=
  ⟨logged.events.map .log, .ok logged.value⟩

/-- Logs one event. -/
def log (event : Event) : Attempt Unit := ofLogged (Logged.log event)

/-- The events that an attempt logs, in order. -/
def events {α : Type} (attempt : Attempt α) : List Event :=
  attempt.actions.filterMap fun action =>
    match action with
    | .log event => some event
    | _ => none

/-- The parts that an attempt asks a source for, in order. -/
def parts {α : Type} (attempt : Attempt α) : List SourcePart :=
  attempt.actions.filterMap fun action =>
    match action with
    | .ask part => some part
    | _ => none

end Attempt

end NameDomains
