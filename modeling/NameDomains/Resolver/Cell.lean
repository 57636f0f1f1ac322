/-
**A place for the one resolver of a program.**

A cell is empty until an attempt to build a resolver succeeds, and keeps that resolver from then on. A
filled cell answers without any action. A failed attempt is logged and leaves the cell empty, so that
a later one may succeed.

* `ResolverCell.create` — the first resolver built, or none; with what was done and the cell after it.
-/

import NameDomains.Resolver.Build

namespace NameDomains

/-- The place of the one resolver. -/
structure ResolverCell where
  content : Option Resolver
  deriving DecidableEq

/-- What a request to a cell does, answers and leaves behind. -/
structure CellOutcome where
  actions : List Action
  answer : Option Resolver
  cell : ResolverCell
  deriving DecidableEq

namespace ResolverCell

/-- The cell before any request. -/
def empty : ResolverCell := ⟨none⟩

/-- Answers with the content, or else with what an attempt builds. -/
def create (cell : ResolverCell) (attempt : Attempt Resolver) : CellOutcome :=
  match cell.content with
  | some resolver => ⟨[], some resolver, cell⟩
  | none =>
    match attempt.result with
    | .ok resolver => ⟨attempt.actions, some resolver, ⟨some resolver⟩⟩
    | .error error => ⟨attempt.actions ++ [.log (.buildFailed error.message)], none, cell⟩

/-- Answers with the content, or else with the resolver built from a source. -/
def createFrom (cell : ResolverCell) (isObfuscated : Bool) (source : MappingSource) :
    CellOutcome :=
  cell.create (Resolver.build isObfuscated source)

/-- Answers with the content, or else with the resolver that settings ask for. -/
def createOfSettings (cell : ResolverCell) (files : FileTree) (settings : ResolverSettings) :
    CellOutcome :=
  cell.create (Resolver.ofSettings files settings)

end ResolverCell

end NameDomains
