/-
**The naming domains and the ways between them.**

Every class has a human and a runtime name; every member has an intermediate name besides. A class
query goes from one side to the other, a member query asks for the name in one domain.
-/

namespace NameDomains

/-- The way of a class-name query. -/
inductive Direction
  | toRuntime
  | toHuman
  deriving DecidableEq, Repr

namespace Direction

/-- The way back. -/
def reverse : Direction → Direction
  | toRuntime => toHuman
  | toHuman => toRuntime

@[simp] theorem reverse_reverse (direction : Direction) : direction.reverse.reverse = direction := by
  cases direction <;> rfl

/-- The direction as the log writes it. -/
def label : Direction → String
  | toRuntime => "ToRuntime"
  | toHuman => "ToHuman"

end Direction

/-- One of the three parallel sets of names. -/
inductive Domain
  | human
  | intermediate
  | runtime
  deriving DecidableEq, Repr

/-- The domain as the log writes it. -/
def Domain.label : Domain → String
  | human => "human"
  | intermediate => "intermediate"
  | runtime => "runtime"

end NameDomains
