/-
**Settings.**

Settings say whether the host is obfuscated and where its mappings are, and how much is logged, in
which form and where to. Everything has a default.
-/

namespace NameDomains

/-- Which resolver is built, and from what. -/
structure ResolverSettings where
  /-- Whether the host runs with obfuscated names. -/
  obfuscated : Bool := true
  /-- The path of the mapping snapshot. -/
  mappings : Option String := none
  deriving DecidableEq, Repr

/-- What is logged, in which form and where to. -/
structure LogSettings where
  /-- A level, or directives for parts of the program. -/
  level : String := "info"
  /-- Whether log lines are JSON objects. -/
  json : Bool := false
  /-- Whether log lines go to standard error. -/
  stderr : Bool := true
  /-- The path of a file that log lines are appended to. -/
  file : Option String := none
  deriving DecidableEq, Repr

/-- All settings. -/
structure Settings where
  resolver : ResolverSettings := {}
  logging : LogSettings := {}
  deriving DecidableEq, Repr

end NameDomains
