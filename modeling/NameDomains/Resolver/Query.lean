/-
**Queries to a resolver, as data.**

Names may be asked for by whatever names a class, and members by a reference to them. Everything that a
resolver can be asked is one type, so that a program's use of a resolver is a list of queries.

* `Resolver.classNameOf`, `Resolver.memberNameOf` — queries by a handle and by a reference.
* `Query`, `Query.input` — a query, and what of it comes back if nothing is found.
* `Resolver.answer`, `Resolver.answers` — the answer to a query, and to one query after another.
-/

import NameDomains.Resolver.Basic

namespace NameDomains

/-- Things that name a class. -/
class ClassHandle (Handle : Type) where
  className : Handle → String

/-- A class name names itself. -/
instance : ClassHandle String := ⟨id⟩

/-- A method of a class, with its descriptor, or a field, without one. -/
structure MemberReference where
  owner : String
  name : String
  descriptor : Option String
  deriving DecidableEq, Repr

namespace MemberReference

/-- A reference to a method. -/
def method (owner name descriptor : String) : MemberReference := ⟨owner, name, some descriptor⟩

/-- A reference to a field. -/
def field (owner name : String) : MemberReference := ⟨owner, name, none⟩

end MemberReference

/-- The counterpart of the class that a handle names. -/
def Resolver.classNameOf {Handle : Type} [ClassHandle Handle] (resolver : Resolver) (handle : Handle)
    (direction : Direction) : Logged String :=
  resolver.className (ClassHandle.className handle) direction

/-- The name of the member that a reference names, in a domain. -/
def Resolver.memberNameOf (resolver : Resolver) (member : MemberReference) (domain : Domain) :
    Logged String :=
  resolver.memberName member.owner member.name member.descriptor domain

/-- What a resolver is asked. -/
inductive Query : Type 1
  | className (name : String) (direction : Direction)
  | classNameOf {Handle : Type} [ClassHandle Handle] (handle : Handle) (direction : Direction)
  | memberName (owner name : String) (descriptor : Option String) (domain : Domain)
  | methodName (owner name descriptor : String) (domain : Domain)
  | fieldName (owner name : String) (domain : Domain)
  | memberNameOf (member : MemberReference) (domain : Domain)
  | renameMethod (descriptor : Descriptor) (direction : Direction)
  | renameField (descriptor : Descriptor) (direction : Direction)
  | renameMethodText (text : String) (direction : Direction)
  | renameFieldText (text : String) (direction : Direction)

/-- What a resolver answers: a name or another text, or a descriptor. -/
inductive Answer
  | text (value : String)
  | descriptor (value : Descriptor)
  deriving DecidableEq, Repr

/-- The name, text or descriptor that a query is about. -/
def Query.input : Query → Answer
  | className name _ => .text name
  | classNameOf handle _ => .text (ClassHandle.className handle)
  | memberName _ name _ _ => .text name
  | methodName _ name _ _ => .text name
  | fieldName _ name _ => .text name
  | memberNameOf member _ => .text member.name
  | renameMethod descriptor _ => .descriptor descriptor
  | renameField descriptor _ => .descriptor descriptor
  | renameMethodText text _ => .text text
  | renameFieldText text _ => .text text

namespace Resolver

/-- The answer to a query. -/
def answer (resolver : Resolver) : Query → Logged Answer
  | .className name direction => Answer.text <$> resolver.className name direction
  | @Query.classNameOf _ _ handle direction =>
    Answer.text <$> resolver.classNameOf handle direction
  | .memberName owner name descriptor domain =>
    Answer.text <$> resolver.memberName owner name descriptor domain
  | .methodName owner name descriptor domain =>
    Answer.text <$> resolver.methodName owner name descriptor domain
  | .fieldName owner name domain => Answer.text <$> resolver.fieldName owner name domain
  | .memberNameOf member domain => Answer.text <$> resolver.memberNameOf member domain
  | .renameMethod descriptor direction =>
    pure (.descriptor (resolver.renameMethod descriptor direction))
  | .renameField descriptor direction =>
    pure (.descriptor (resolver.renameField descriptor direction))
  | .renameMethodText text direction => Answer.text <$> resolver.renameMethodText text direction
  | .renameFieldText text direction => Answer.text <$> resolver.renameFieldText text direction

/-- The answers to queries put one after another. -/
def answers (resolver : Resolver) (queries : List Query) : Logged (List Answer) :=
  queries.mapM resolver.answer

end Resolver

end NameDomains
