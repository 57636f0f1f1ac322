/-
**Log filters.**

A filter is a set of directives, no two of which differ in the level alone. For an event the most
specific directive about it decides: the one with the longest target that its own target starts with.
Directives about spans of work let nothing pass by themselves, as all events here are outside of spans.

Directives are separated by commas, and one malformed directive spoils the whole text. A text without
directives, such as a comma, is well-formed: its filter lets nothing pass and is written as nothing.

* `Filter.parse?` — the filter that a text denotes.
* `Filter.enables` — whether a filter lets an event pass.
* `Filter.render` — the directives, most specific first.
* `LogSettings.directives_of_blank`, `LogSettings.directives_of_level`, `LogSettings.directives_of_other` — what
  a level setting says.
* `LogSettings.filter` — the filter of settings and of the environment's directives, which go after.
-/

import NameDomains.Log.Directive
import NameDomains.Settings.Basic

namespace NameDomains

/-! ### Filters -/

/-- Directives about events and about spans, most specific first, and the most verbose level that any
ever given can let pass. -/
structure Filter where
  directives : List Directive
  spanDirectives : List Directive
  most : Verbosity
  deriving DecidableEq, Repr

namespace Filter

/-- The filter that lets nothing pass. -/
def empty : Filter := ⟨[], [], .off⟩

/-- Puts a directive in its place; it replaces one that is equal to it but for the level. -/
def place (directive : Directive) : List Directive → List Directive
  | [] => [directive]
  | next :: rest =>
    match directive.order next with
    | .lt => directive :: next :: rest
    | .eq => directive :: rest
    | .gt => next :: place directive rest

/-- Adds a directive. One that asks for a field alone is both about events and about spans. -/
def add (filter : Filter) (directive : Directive) : Filter where
  directives :=
    if directive.isForEvents then place directive filter.directives else filter.directives
  spanDirectives :=
    if directive.isForSpans then place directive filter.spanDirectives else filter.spanDirectives
  most := filter.most.max directive.reach

/-- The filter of a list of directives, taken in order. -/
def ofDirectives (directives : List Directive) : Filter := directives.foldl add empty

/-- The parts of a text between commas. -/
def pieces : List Char → List (List Char)
  | [] => [[]]
  | c :: rest =>
    if c = ',' then [] :: pieces rest
    else
      match pieces rest with
      | piece :: later => (c :: piece) :: later
      | [] => [[c]]

/-- The directives of a text; empty parts are left out. -/
def parseDirectives? (text : String) : Option (List Directive) :=
  ((pieces text.toList).filter (· ≠ [])).mapM Directive.parse?

/-- The filter that a text denotes. -/
def parse? (text : String) : Option Filter := (parseDirectives? text).map ofDirectives

/-- The first directive about an event. -/
def directiveFor? (filter : Filter) (event : Event) : Option Directive :=
  filter.directives.find? fun directive => directive.covers event

/-- Whether a filter lets an event pass. -/
def enables (filter : Filter) (event : Event) : Bool :=
  (filter.directiveFor? event).any fun directive => directive.verbosity.allows event.level

/-- The directives as they are written, those about events first. -/
def render (filter : Filter) : String :=
  ",".intercalate ((filter.directives ++ filter.spanDirectives).map Directive.render)

end Filter

/-! ### The filter of settings -/

/-- The directives of a level setting. A level may be written in any case, `warning` is one too, and an
empty setting is `info`; any other text is taken as it is. -/
def LogSettings.directives (settings : LogSettings) : String :=
  let text := Text.trim settings.level
  if text = "" then "info"
  else
    match String.ofList (text.toList.map Char.toLower) with
    | "trace" => "trace"
    | "debug" => "debug"
    | "info" => "info"
    | "warn" => "warn"
    | "warning" => "warn"
    | "error" => "error"
    | _ => text

namespace LogSettings

variable {settings other : LogSettings}

/-- What stands around a setting does not matter. -/
theorem directives_congr (same : Text.trim settings.level = Text.trim other.level) :
    settings.directives = other.directives := by
  unfold directives
  rw [same]

/-- A blank setting is `info`. -/
theorem directives_of_blank (blank : Text.trim settings.level = "") : settings.directives = "info" :=
  if_pos blank

/-- A setting that is a word in any case is not blank. -/
theorem ne_empty_of_word {word : String} (named : word ≠ "")
    (same : String.ofList ((Text.trim settings.level).toList.map Char.toLower) = word) :
    Text.trim settings.level ≠ "" := by
  intro blank
  rw [blank] at same
  exact named same.symm

/-- **A level is that level in any case.** -/
theorem directives_of_level {word : String} (level : word ∈ ["trace", "debug", "info", "warn", "error"])
    (same : String.ofList ((Text.trim settings.level).toList.map Char.toLower) = word) :
    settings.directives = word := by
  have named : word ≠ "" := by
    rintro rfl
    exact absurd level (by decide)
  unfold directives
  rw [if_neg (ne_empty_of_word named same), same]
  simp only [List.mem_cons, List.not_mem_nil, or_false] at level
  rcases level with rfl | rfl | rfl | rfl | rfl <;> rfl

/-- So is `warning` for `warn`. -/
theorem directives_of_warning
    (same : String.ofList ((Text.trim settings.level).toList.map Char.toLower) = "warning") :
    settings.directives = "warn" := by
  unfold directives
  rw [if_neg (ne_empty_of_word (by decide) same), same]
  rfl

/-- **Any other setting is taken as it is**, but for what stands around it. -/
theorem directives_of_other (given : Text.trim settings.level ≠ "")
    (unlike : String.ofList ((Text.trim settings.level).toList.map Char.toLower) ∉
      ["trace", "debug", "info", "warn", "warning", "error"]) :
    settings.directives = Text.trim settings.level := by
  unfold directives
  rw [if_neg given]
  simp only [List.mem_cons, List.not_mem_nil, or_false, not_or] at unlike
  obtain ⟨trace, debug, info, warn, warning, error⟩ := unlike
  split
  · next same => exact absurd same trace
  · next same => exact absurd same debug
  · next same => exact absurd same info
  · next same => exact absurd same warn
  · next same => exact absurd same warning
  · next same => exact absurd same error
  · rfl

end LogSettings

/-- The filter of the level setting alone; `info` for all targets if it is malformed. -/
def LogSettings.ownFilter (settings : LogSettings) : Filter :=
  (Filter.parse? settings.directives).getD (Filter.ofDirectives [.forAll (.upTo .info)])

/-- The filter of the level setting and of the directives in the environment. The latter count for more;
where they spoil the whole they are taken alone, and where they are malformed they are dropped. -/
def LogSettings.filter (settings : LogSettings) (environment : Option String) : Filter :=
  match environment.map Text.trim with
  | none => settings.ownFilter
  | some "" => settings.ownFilter
  | some directives =>
    match Filter.parse? (settings.directives ++ "," ++ directives) with
    | some filter => filter
    | none => (Filter.parse? directives).getD settings.ownFilter

end NameDomains
