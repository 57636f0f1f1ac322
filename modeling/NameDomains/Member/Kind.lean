/-
**Kinds of class members and their keys.**

Methods may be overloaded, so a method is found by its name together with its descriptor; a field is
found by its name alone. A host writes members with a suffix, which starts at a parenthesis for
methods and at a colon for fields.
-/

namespace NameDomains

/-- The two kinds of class members. -/
inductive MemberKind
  | method
  | field
  deriving DecidableEq, Repr

namespace MemberKind

/-- The kind as the log writes it. -/
def label : MemberKind → String
  | method => "method"
  | field => "field"

/-- The text under which a member is found. -/
def key : MemberKind → String → Option String → String
  | method, name, some descriptor => name ++ descriptor
  | _, name, _ => name

/-- The character that starts the suffix of a host's entry. -/
def separator : MemberKind → Char
  | method => '('
  | field => ':'

/-- The entry of a host's table without its suffix. -/
def stripSuffix (kind : MemberKind) (entry : String) : String :=
  String.ofList (entry.toList.takeWhile (· ≠ kind.separator))

end MemberKind

end NameDomains
