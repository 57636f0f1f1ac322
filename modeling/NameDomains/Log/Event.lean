/-
**What is worth logging.**

An event is something that happened. Its level, the part of the program it belongs to, its message
and its named values all follow from what happened.

* `Event.level`, `Event.target`, `Event.message`, `Event.values` — how an event is reported.
* `Logged` — a value together with the events on the way to it.
-/

import NameDomains.Naming
import NameDomains.Member.Kind

namespace NameDomains

/-- How severe an event is. -/
inductive Level
  | error
  | warn
  | info
  | debug
  | trace
  deriving DecidableEq, Repr

/-- The name of a level in capitals. -/
def Level.label : Level → String
  | error => "ERROR"
  | warn => "WARN"
  | info => "INFO"
  | debug => "DEBUG"
  | trace => "TRACE"

/-- A value that an event names. -/
inductive LogValue
  | text (content : String)
  | number (count : Nat)
  | flag (holds : Bool)
  deriving DecidableEq, Repr

/-- The value as text. -/
def LogValue.render : LogValue → String
  | text content => content
  | number count => toString count
  | flag true => "true"
  | flag false => "false"

/-- Something that happened. -/
inductive Event
  /-- A resolver is being built. -/
  | buildStarted (obfuscated : Bool)
  /-- A runtime class of the host is in no class pair. -/
  | hostClassUnnamed (className : String)
  /-- The host has no runtime table for the class of a member group. -/
  | hostTableMissing (className : String)
  /-- The tables of a resolver are complete. -/
  | tablesBuilt (classes methodClasses fieldClasses : Nat)
  /-- A resolver could not be built. -/
  | buildFailed (reason : String)
  /-- A class query found nothing. -/
  | classUnknown (name : String) (direction : Direction)
  /-- A member query found nothing. -/
  | memberUnknown (owner key : String) (kind : MemberKind) (domain : Domain)
  /-- A text in which classes are to be renamed is no descriptor. -/
  | descriptorUnread (kind : MemberKind) (reason : String)
  /-- A configuration file was read. -/
  | configLoaded (path : String) (obfuscated : Bool)
  /-- The log file cannot be opened. -/
  | logFileUnavailable (path : String)
  deriving DecidableEq, Repr

namespace Event

/-- How severe an event is. -/
def level : Event → Level
  | buildStarted _ => .info
  | hostClassUnnamed _ => .debug
  | hostTableMissing _ => .trace
  | tablesBuilt .. => .debug
  | buildFailed _ => .error
  | classUnknown .. => .warn
  | memberUnknown .. => .warn
  | descriptorUnread .. => .warn
  | configLoaded .. => .debug
  | logFileUnavailable _ => .warn

/-- The part of the program an event belongs to. -/
def target : Event → String
  | configLoaded .. => "obfmap.config"
  | logFileUnavailable _ => "obfmap.config"
  | _ => "obfmap.resolve"

/-- An event in words. -/
def message : Event → String
  | buildStarted true => "initializing resolver with obfuscation"
  | buildStarted false => "initializing resolver without obfuscation"
  | hostClassUnnamed _ => "runtime class has no human name"
  | hostTableMissing _ => "no runtime table for class; skipping"
  | tablesBuilt .. => "resolver tables built"
  | buildFailed _ => "failed to create resolver"
  | classUnknown .. => "could not look up name for class"
  | memberUnknown .. => "could not look up member name"
  | descriptorUnread .method _ => "not translating method descriptor"
  | descriptorUnread .field _ => "not translating field descriptor"
  | configLoaded .. => "loaded config"
  | logFileUnavailable _ => "failed to open log file; file logging disabled"

/-- The values an event names, in the order in which they are written. -/
def values : Event → List (String × LogValue)
  | buildStarted _ => []
  | hostClassUnnamed name => [("class", .text name)]
  | hostTableMissing name => [("class", .text name)]
  | tablesBuilt classes methodClasses fieldClasses =>
    [("classes", .number classes), ("method_classes", .number methodClasses),
      ("field_classes", .number fieldClasses)]
  | buildFailed reason => [("error", .text reason)]
  | classUnknown name direction => [("class", .text name), ("direction", .text direction.label)]
  | memberUnknown owner key kind domain =>
    [("owner", .text owner), ("member", .text key), ("kind", .text kind.label),
      ("domain", .text domain.label)]
  | descriptorUnread _ reason => [("error", .text reason)]
  | configLoaded path obfuscated => [("path", .text path), ("obfuscated", .flag obfuscated)]
  | logFileUnavailable path => [("path", .text path)]

end Event

/-! ### Values with events -/

/-- A value and the events on the way to it, in order. -/
structure Logged (α : Type) where
  value : α
  events : List Event
  deriving DecidableEq, Repr

namespace Logged

instance : Monad Logged where
  pure value := ⟨value, []⟩
  bind first next := ⟨(next first.value).value, first.events ++ (next first.value).events⟩

/-- Events are put together in order, so it does not matter how steps are grouped. -/
instance : LawfulMonad Logged :=
  LawfulMonad.mk' _
    (fun logged => congrArg (Logged.mk logged.value) (List.append_nil logged.events))
    (fun value next => congrArg (Logged.mk (next value).value) (List.nil_append _))
    (fun _ _ _ => congrArg (Logged.mk _) (List.append_assoc _ _ _))

/-- Logs one event. -/
def log (event : Event) : Logged Unit := ⟨(), [event]⟩

@[simp] theorem value_pure {α : Type} (value : α) : (pure value : Logged α).value = value := rfl

@[simp] theorem events_pure {α : Type} (value : α) : (pure value : Logged α).events = [] := rfl

@[simp] theorem value_bind {α β : Type} (first : Logged α) (next : α → Logged β) :
    (first >>= next).value = (next first.value).value := rfl

@[simp] theorem events_bind {α β : Type} (first : Logged α) (next : α → Logged β) :
    (first >>= next).events = first.events ++ (next first.value).events := rfl

@[simp] theorem value_log (event : Event) : (log event).value = () := rfl

@[simp] theorem events_log (event : Event) : (log event).events = [event] := rfl

end Logged

end NameDomains
