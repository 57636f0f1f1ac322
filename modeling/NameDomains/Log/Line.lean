/-
**Log lines.**

An event is logged as one line of text: its level, the part of the program, the message and the named
values; or as a JSON object with the same content, in which numbers and truth values keep their kind.

* `Event.textLine` — the line of text.
* `Event.jsonLine` — the JSON object.
-/

import NameDomains.Json.Print
import NameDomains.Log.Event

namespace NameDomains

namespace Event

/-- A named value in a line of text. -/
def textValue (value : String × LogValue) : String := " " ++ value.1 ++ "=" ++ value.2.render

/-- The level of an event in five places. -/
def paddedLevel (event : Event) : String :=
  let label := event.level.label
  String.ofList (List.replicate (5 - label.length) ' ') ++ label

/-- The event as a line of text. -/
def textLine (event : Event) : String :=
  event.paddedLevel ++ " " ++ event.target ++ ": " ++ event.message
    ++ String.join (event.values.map textValue)

/-- A value in a JSON object. -/
def jsonValue : LogValue → String
  | .text content => Json.quote content
  | other => other.render

/-- The event as a JSON object. -/
def jsonLine (event : Event) : String :=
  let values := event.values.map fun value => (value.1, jsonValue value.2)
  Json.writeObject [("level", Json.quote event.level.label),
    ("fields", Json.writeObject (("message", Json.quote event.message) :: values)),
    ("target", Json.quote event.target)]

/-- The event as a line, in the form that settings ask for. -/
def line (json : Bool) (event : Event) : String := if json then event.jsonLine else event.textLine

end Event

end NameDomains
