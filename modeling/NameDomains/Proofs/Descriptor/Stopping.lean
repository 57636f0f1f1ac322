/-
**Where reading a descriptor stops.**

A text that is no descriptor is reported by the part of it at which reading stopped. What is reported follows
from the text alone: complete types are never part of it, and neither are the brackets before a missing
element. A text whose every type is complete, and which only ends too early or goes on too long, is reported
as a whole.

* `FieldType.read_eq_error_iff` — where reading a field type stops.
* `FieldType.startsType_iff` — texts that start with a field type, by their first characters.
* `MethodType.longest_iff` — the longest sequence of types at the front of a text ends where no type starts.
* `MethodType.readParameters_of_afterTypes` — what follows from what stands behind that sequence.
* `Descriptor.malformed_at` — the report on every text that is refused.
-/

import Mathlib.Data.List.DropRight
import NameDomains.Proofs.Descriptor.Grammar

namespace NameDomains

/-! ### Field types -/

namespace FieldType

/-- A text that starts with the letter of a base type or with a class. -/
def StartsElement (text : List Char) : Prop :=
  (∃ (type : BaseType) (rest : List Char), text = type.letter :: rest) ∨
    ∃ name rest, name ≠ [] ∧ ';' ∉ name ∧ text = 'L' :: name ++ ';' :: rest

/-- A text that starts with the written form of a field type. -/
def StartsType (text : List Char) : Prop :=
  ∃ (type : FieldType) (rest : List Char), type.WellFormed ∧ text = type.chars ++ rest

/-- A text without the brackets at its front. -/
def unbracketed (text : List Char) : List Char := text.dropWhile (· = '[')

theorem unbracketed_cons_of_ne {c : Char} (other : c ≠ '[') (rest : List Char) :
    unbracketed (c :: rest) = c :: rest :=
  List.dropWhile_cons_of_neg (by rwa [decide_eq_true_eq])

theorem unbracketed_suffix (text : List Char) : unbracketed text <:+ text :=
  List.dropWhile_suffix _

/-- A class starts a text whose `L` is followed by a name and the character that ends it. -/
theorem startsElement_class_iff {text : List Char} :
    StartsElement ('L' :: text) ↔
      text.takeWhile (· ≠ ';') ≠ [] ∧ text.dropWhile (· ≠ ';') ≠ [] := by
  constructor
  · rintro (⟨type, rest, same⟩ | ⟨name, rest, nonempty, unbroken, same⟩)
    · cases type <;> exact nomatch (List.cons.inj same).1
    · obtain rfl : text = name ++ ';' :: rest := (List.cons.inj same).2
      obtain ⟨taken, dropped⟩ := Text.takeWhile_dropWhile_append unbroken rest
      rw [taken, dropped]
      exact ⟨nonempty, List.cons_ne_nil _ _⟩
  · rintro ⟨nonempty, ended⟩
    obtain ⟨mark, rest, ending⟩ := List.exists_cons_of_ne_nil ended
    obtain ⟨unbroken, whole⟩ := Text.eq_append_of_dropWhile ending
    exact .inr ⟨_, rest, nonempty, unbroken, congrArg ('L' :: ·) whole⟩

/-- **Where reading a field type stops**: behind the brackets, if no element starts there. -/
theorem read_eq_error_iff {text stopped : List Char} :
    read text = .error stopped ↔ ¬ StartsElement (unbracketed text) ∧ stopped = unbracketed text := by
  fun_induction read text generalizing stopped with
  | case1 =>
    have nothing : ¬ StartsElement (unbracketed []) := by
      rintro (⟨type, rest, same⟩ | ⟨name, rest, -, -, same⟩) <;> cases same
    exact ⟨fun same => ⟨nothing, (Except.error.inj same).symm⟩, fun same => congrArg _ same.2.symm⟩
  | case2 text inner =>
    have dropped : unbracketed ('[' :: text) = unbracketed text := List.dropWhile_cons_of_pos (by decide)
    rw [dropped, ← inner]
    cases read text <;> simp [Except.map]
  | case3 text first name mark left ending named =>
    have starts : StartsElement (unbracketed ('L' :: text)) := by
      rw [unbracketed_cons_of_ne (by decide), startsElement_class_iff, named, ending]
      exact ⟨List.cons_ne_nil _ _, List.cons_ne_nil _ _⟩
    exact ⟨by rintro ⟨⟩, fun stops => absurd starts stops.1⟩
  | case4 text unfit =>
    have none : ¬ StartsElement ('L' :: text) := by
      rw [startsElement_class_iff]
      rintro ⟨nonempty, ended⟩
      obtain ⟨first, name, named⟩ := List.exists_cons_of_ne_nil nonempty
      obtain ⟨mark, rest, ending⟩ := List.exists_cons_of_ne_nil ended
      exact unfit first name mark rest named ending
    rw [unbracketed_cons_of_ne (by decide)]
    exact ⟨fun same => ⟨none, (Except.error.inj same).symm⟩, fun same => congrArg _ same.2.symm⟩
  | case5 letter rest notArray notObject type known =>
    have starts : StartsElement (unbracketed (letter :: rest)) := by
      rw [unbracketed_cons_of_ne notArray]
      exact .inl ⟨type, rest, congrArg (· :: rest) (BaseType.ofLetter?_eq_some_iff.mp known)⟩
    exact ⟨by rintro ⟨⟩, fun stops => absurd starts stops.1⟩
  | case6 letter rest notArray notObject unknown =>
    have none : ¬ StartsElement (letter :: rest) := by
      rintro (⟨type, left, same⟩ | ⟨name, left, -, -, same⟩)
      · rw [(List.cons.inj same).1, BaseType.ofLetter?_letter] at unknown
        cases unknown
      · exact notObject (List.cons.inj same).1
    rw [unbracketed_cons_of_ne notArray]
    exact ⟨fun same => ⟨none, (Except.error.inj same).symm⟩, fun same => congrArg _ same.2.symm⟩

/-- **A field type starts exactly where an element does behind the brackets.** -/
theorem startsType_iff {text : List Char} : StartsType text ↔ StartsElement (unbracketed text) := by
  cases outcome : read text with
  | error stopped =>
    refine ⟨?_, fun starts => absurd starts (read_eq_error_iff.mp outcome).1⟩
    rintro ⟨type, rest, wellFormed, rfl⟩
    rw [read_chars_append wellFormed] at outcome
    cases outcome
  | ok found =>
    obtain ⟨wellFormed, written⟩ := read_eq_ok_iff.mp outcome
    refine ⟨fun _ => Classical.byContradiction fun none => ?_, fun _ => ⟨found.1, found.2, wellFormed, written⟩⟩
    rw [read_eq_error_iff.mpr ⟨none, rfl⟩] at outcome
    cases outcome

theorem startsType_of_read {text : List Char} {found : FieldType × List Char} (read : read text = .ok found) :
    StartsType text := by
  obtain ⟨wellFormed, written⟩ := read_eq_ok_iff.mp read
  exact ⟨found.1, found.2, wellFormed, written⟩

theorem read_of_not_startsType {text : List Char} (none : ¬ StartsType text) :
    read text = .error (unbracketed text) :=
  read_eq_error_iff.mpr ⟨fun starts => none (startsType_iff.mpr starts), rfl⟩

/-- Brackets at the front of a text do not decide whether it starts with a field type. -/
theorem startsType_unbracketed_iff {text : List Char} : StartsType (unbracketed text) ↔ StartsType text := by
  rw [startsType_iff, startsType_iff, unbracketed, unbracketed, List.dropWhile_idempotent]

end FieldType

/-! ### Method types -/

namespace ReturnType

open FieldType (StartsType unbracketed)

/-- Where reading a result stops. -/
theorem read_eq_error_iff {text stopped : List Char} :
    read text = .error stopped ↔
      (∀ rest, text ≠ 'V' :: rest) ∧ ¬ StartsType text ∧ stopped = unbracketed text := by
  by_cases void : ∃ rest, text = 'V' :: rest
  · obtain ⟨rest, rfl⟩ := void
    exact ⟨nofun, fun stops => absurd rfl (stops.1 rest)⟩
  · have other := not_exists.mp void
    rw [read_of_ne other, FieldType.startsType_iff, ← FieldType.read_eq_error_iff]
    cases FieldType.read text with
    | error found => simp [Except.map, other]
    | ok found => simp [Except.map]

/-- A result is read where there is none or a field type starts. -/
theorem exists_read_iff {text : List Char} :
    (∃ found, read text = .ok found) ↔ (∃ rest, text = 'V' :: rest) ∨ StartsType text := by
  cases outcome : read text with
  | error stopped =>
    obtain ⟨notVoid, none, -⟩ := read_eq_error_iff.mp outcome
    exact ⟨nofun, fun starts => (starts.elim (fun ⟨rest, same⟩ => notVoid rest same) none).elim⟩
  | ok found =>
    refine ⟨fun _ => Classical.byContradiction fun none => ?_, fun _ => ⟨found, rfl⟩⟩
    obtain ⟨notVoid, noType⟩ := not_or.mp none
    rw [read_eq_error_iff.mpr ⟨not_exists.mp notVoid, noType, rfl⟩] at outcome
    cases outcome

end ReturnType

namespace MethodType

open FieldType (StartsType unbracketed)

/-- Written field types, one after another. -/
def Formed (types : List FieldType) : Prop := ∀ type ∈ types, type.WellFormed

/-- What a text is left with behind the longest sequence of written field types at its front. -/
def AfterTypes (text rest : List Char) : Prop :=
  ∃ types, Formed types ∧ text = types.flatMap FieldType.chars ++ rest ∧
    ∀ others left, Formed others → text = others.flatMap FieldType.chars ++ left →
      others.length ≤ types.length

/-- **Of two sequences of field types at the front of one text, one goes on where the other ends.** -/
theorem flatMap_append_eq {types others : List FieldType} (formed : Formed types) (othersFormed : Formed others)
    {rest left : List Char}
    (same : types.flatMap FieldType.chars ++ rest = others.flatMap FieldType.chars ++ left) :
    (∃ more, Formed more ∧ others = types ++ more ∧ rest = more.flatMap FieldType.chars ++ left) ∨
      ∃ more, Formed more ∧ types = others ++ more ∧ left = more.flatMap FieldType.chars ++ rest := by
  induction types generalizing others with
  | nil => exact .inl ⟨others, othersFormed, rfl, same⟩
  | cons type types goesOn =>
    cases others with
    | nil => exact .inr ⟨type :: types, formed, rfl, same.symm⟩
    | cons other others =>
      obtain ⟨typeFormed, typesFormed⟩ := List.forall_mem_cons.mp formed
      obtain ⟨otherFormed, othersFormed⟩ := List.forall_mem_cons.mp othersFormed
      rw [List.flatMap_cons, List.flatMap_cons, List.append_assoc, List.append_assoc] at same
      have read := FieldType.read_chars_append typeFormed (types.flatMap FieldType.chars ++ rest)
      rw [same, FieldType.read_chars_append otherFormed] at read
      obtain ⟨rfl, later⟩ := Prod.mk.inj (Except.ok.inj read)
      rcases goesOn typesFormed othersFormed later.symm with ⟨more, all, rfl, left⟩ | ⟨more, all, rfl, left⟩
      · exact .inl ⟨more, all, rfl, left⟩
      · exact .inr ⟨more, all, rfl, left⟩

/-- Types at the front of a text where none starts are no types. -/
theorem eq_nil_of_not_startsType {types : List FieldType} (formed : Formed types) {rest : List Char}
    (none : ¬ StartsType (types.flatMap FieldType.chars ++ rest)) : types = [] := by
  cases types with
  | nil => rfl
  | cons type types =>
    rw [List.flatMap_cons, List.append_assoc] at none
    exact absurd ⟨type, _, formed type List.mem_cons_self, rfl⟩ none

/-- **The longest sequence of field types ends where no field type starts.** -/
theorem longest_iff {types : List FieldType} (formed : Formed types) {rest : List Char} :
    (∀ others left, Formed others →
      types.flatMap FieldType.chars ++ rest = others.flatMap FieldType.chars ++ left →
      others.length ≤ types.length) ↔ ¬ StartsType rest := by
  constructor
  · rintro longest ⟨type, left, wellFormed, rfl⟩
    have longer := longest (types ++ [type]) left ?_ ?_
    · rw [List.length_append, List.length_singleton] at longer
      omega
    · intro other listed
      rcases List.mem_append.mp listed with listed | listed
      · exact formed other listed
      · exact List.mem_singleton.mp listed ▸ wellFormed
    · rw [List.flatMap_append, List.flatMap_singleton, List.append_assoc]
  · intro none others left othersFormed same
    rcases flatMap_append_eq formed othersFormed same with ⟨more, all, rfl, rfl⟩ | ⟨more, -, rfl, -⟩
    · rw [eq_nil_of_not_startsType all none, List.append_nil]
    · rw [List.length_append]
      exact Nat.le_add_right _ _

theorem afterTypes_iff {text rest : List Char} :
    AfterTypes text rest ↔
      (∃ types, Formed types ∧ text = types.flatMap FieldType.chars ++ rest) ∧ ¬ StartsType rest := by
  constructor
  · rintro ⟨types, formed, rfl, longest⟩
    exact ⟨⟨types, formed, rfl⟩, (longest_iff formed).mp longest⟩
  · rintro ⟨⟨types, formed, rfl⟩, none⟩
    exact ⟨types, formed, rfl, (longest_iff formed).mpr none⟩

/-- Only one text is left behind the longest sequence of field types. -/
theorem AfterTypes.unique {text rest other : List Char} (after : AfterTypes text rest)
    (otherAfter : AfterTypes text other) : rest = other := by
  obtain ⟨⟨types, formed, rfl⟩, none⟩ := afterTypes_iff.mp after
  obtain ⟨⟨others, othersFormed, same⟩, noneOther⟩ := afterTypes_iff.mp otherAfter
  rcases flatMap_append_eq formed othersFormed same with ⟨more, all, -, rfl⟩ | ⟨more, all, -, rfl⟩
  · rw [eq_nil_of_not_startsType all none]
    rfl
  · rw [eq_nil_of_not_startsType all noneOther]
    rfl

/-- Every text has a longest sequence of field types at its front. -/
theorem exists_afterTypes (text : List Char) : ∃ rest, AfterTypes text rest := by
  simp only [afterTypes_iff]
  induction length : text.length using Nat.strongRecOn generalizing text with
  | _ _ shorter =>
    by_cases starts : StartsType text
    · obtain ⟨type, left, wellFormed, rfl⟩ := starts
      have less := FieldType.length_of_read (FieldType.read_chars_append wellFormed left)
      obtain ⟨rest, ⟨types, formed, rfl⟩, none⟩ := shorter left.length (length ▸ less) left rfl
      refine ⟨rest, ⟨type :: types, List.forall_mem_cons.mpr ⟨wellFormed, formed⟩, ?_⟩, none⟩
      rw [List.flatMap_cons, List.append_assoc]
    · exact ⟨text, ⟨[], nofun, rfl⟩, starts⟩

/-- Types at the front of a text are read, and then the others. -/
theorem readParameters_flatMap_eq_map {types : List FieldType} (formed : Formed types)
    (whole rest : List Char) :
    readParameters whole (types.flatMap FieldType.chars ++ rest) =
      (readParameters whole rest).map fun later => (types ++ later.1, later.2) := by
  induction types with
  | nil => cases outcome : readParameters whole rest <;> simp [Except.map, outcome]
  | cons type types read =>
    obtain ⟨typeFormed, typesFormed⟩ := List.forall_mem_cons.mp formed
    rw [List.flatMap_cons, List.append_assoc, readParameters_append typeFormed, read typesFormed]
    cases readParameters whole rest <;> rfl

/-- Parameters that neither end nor go on stop where a field type was to start. -/
theorem readParameters_of_not_startsType {text : List Char} (none : ¬ StartsType text)
    (nonempty : text ≠ []) (unclosed : ∀ rest, text ≠ ')' :: rest) (whole : List Char) :
    readParameters whole text = .error (unbracketed text) := by
  rw [readParameters]
  · split
    · next stopped failed =>
      rw [FieldType.read_of_not_startsType none] at failed
      exact congrArg _ (Except.error.inj failed).symm
    · next found left read =>
      rw [FieldType.read_of_not_startsType none] at read
      cases read
  · exact nonempty
  · exact unclosed

/-- **What is behind the longest sequence of types decides how parameters end.** -/
theorem readParameters_of_afterTypes {body rest : List Char} (after : AfterTypes body rest)
    (whole : List Char) :
    (rest = [] → readParameters whole body = .error whole) ∧
      (∀ left, rest = ')' :: left → ∃ types, readParameters whole body = .ok (types, left)) ∧
      (rest ≠ [] → (∀ left, rest ≠ ')' :: left) →
        readParameters whole body = .error (unbracketed rest)) := by
  obtain ⟨⟨types, formed, rfl⟩, none⟩ := afterTypes_iff.mp after
  rw [readParameters_flatMap_eq_map formed]
  refine ⟨?_, ?_, fun nonempty unclosed => ?_⟩
  · rintro rfl
    rw [readParameters]
    rfl
  · rintro left rfl
    exact ⟨types ++ [], by rw [readParameters]; rfl⟩
  · rw [readParameters_of_not_startsType none nonempty unclosed]
    rfl

/-- Only the end of a text is amiss: behind the longest sequence of types it ends, or it ends behind the
parenthesis that closes them, or a whole result follows that parenthesis. -/
def OnlyEndAmiss (rest : List Char) : Prop :=
  rest = [] ∨ rest = [')'] ∨ (∃ left, rest = ')' :: 'V' :: left) ∨
    ∃ left, StartsType left ∧ rest = ')' :: left

/-- A text without the closing parenthesis at its front, if there is one. -/
def unclosed : List Char → List Char
  | ')' :: rest => rest
  | rest => rest

theorem unclosed_of_ne {text : List Char} (goesOn : ∀ rest, text ≠ ')' :: rest) : unclosed text = text := by
  unfold unclosed
  split
  · exact absurd rfl (goesOn _)
  · rfl

theorem onlyEndAmiss_iff_of_ne {rest : List Char} (goesOn : ∀ left, rest ≠ ')' :: left) :
    OnlyEndAmiss rest ↔ rest = [] := by
  refine ⟨?_, .inl⟩
  rintro (same | same | ⟨left, same⟩ | ⟨left, -, same⟩)
  · exact same
  · exact absurd same (goesOn _)
  · exact absurd same (goesOn _)
  · exact absurd same (goesOn _)

/-- Behind the closing parenthesis only the end is amiss if there is nothing or a whole result. -/
theorem onlyEndAmiss_closed_iff {left : List Char} :
    OnlyEndAmiss (')' :: left) ↔ left = [] ∨ ∃ found, ReturnType.read left = .ok found := by
  rw [ReturnType.exists_read_iff]
  constructor
  · rintro (same | same | ⟨other, same⟩ | ⟨other, starts, same⟩)
    · cases same
    · exact .inl (List.cons.inj same).2
    · exact .inr (.inl ⟨other, (List.cons.inj same).2⟩)
    · exact .inr (.inr ((List.cons.inj same).2 ▸ starts))
  · rintro (rfl | ⟨other, rfl⟩ | starts)
    · exact .inr (.inl rfl)
    · exact .inr (.inr (.inl ⟨other, rfl⟩))
    · exact .inr (.inr (.inr ⟨left, starts, rfl⟩))

/-- **Where reading a method type stops**: nowhere in particular, if only the end is amiss, and otherwise where
a type was to start. -/
theorem eq_of_read_eq_error {body rest stopped : List Char} (after : AfterTypes body rest)
    (failed : read ('(' :: body) = .error stopped) :
    (OnlyEndAmiss rest → stopped = '(' :: body) ∧
      (¬ OnlyEndAmiss rest → stopped = unbracketed (unclosed rest)) := by
  obtain ⟨ended, closed, broken⟩ := readParameters_of_afterTypes after ('(' :: body)
  rw [read] at failed
  by_cases closes : ∃ left, rest = ')' :: left
  · obtain ⟨left, rfl⟩ := closes
    obtain ⟨types, read⟩ := closed left rfl
    rw [onlyEndAmiss_closed_iff]
    simp only [read, bind, Except.bind] at failed
    cases left with
    | nil => exact ⟨fun _ => (Except.error.inj failed).symm, fun fine => absurd (.inl rfl) fine⟩
    | cons first left =>
      cases result : ReturnType.read (first :: left) with
      | error found =>
        obtain ⟨-, -, rfl⟩ := ReturnType.read_eq_error_iff.mp result
        simp only [result, List.isEmpty_cons, Bool.false_eq_true, if_false] at failed
        exact ⟨by rintro (⟨⟨⟩⟩ | ⟨_, ⟨⟩⟩), fun _ => (Except.error.inj failed).symm⟩
      | ok found =>
        simp only [result, List.isEmpty_cons, Bool.false_eq_true, if_false] at failed
        refine ⟨fun _ => ?_, fun fine => absurd (.inr ⟨found, rfl⟩) fine⟩
        split at failed
        · cases failed
        · exact (Except.error.inj failed).symm
  · have goesOn := not_exists.mp closes
    rw [onlyEndAmiss_iff_of_ne goesOn]
    cases rest with
    | nil =>
      simp only [ended rfl, bind, Except.bind] at failed
      exact ⟨fun _ => (Except.error.inj failed).symm, fun fine => absurd rfl fine⟩
    | cons first left =>
      simp only [broken (List.cons_ne_nil _ _) goesOn, bind, Except.bind] at failed
      rw [unclosed_of_ne goesOn]
      exact ⟨fun ended => absurd ended (List.cons_ne_nil _ _), fun _ => (Except.error.inj failed).symm⟩

theorem unclosed_suffix (text : List Char) : unclosed text <:+ text := by
  unfold unclosed
  split
  · exact List.suffix_cons _ _
  · exact List.suffix_rfl

/-- No field type starts where more than the end is amiss. -/
theorem not_startsType_unclosed {body rest : List Char} (after : AfterTypes body rest)
    (fine : ¬ OnlyEndAmiss rest) : ¬ StartsType (unclosed rest) := by
  by_cases closes : ∃ left, rest = ')' :: left
  · obtain ⟨left, rfl⟩ := closes
    exact fun starts => fine (.inr (.inr (.inr ⟨left, starts, rfl⟩)))
  · rw [unclosed_of_ne (not_exists.mp closes)]
    exact (afterTypes_iff.mp after).2

end MethodType

/-! ### Descriptors -/

namespace Descriptor

open FieldType (StartsElement StartsType unbracketed)
open MethodType (AfterTypes OnlyEndAmiss unclosed)

theorem parseField_eq_error {text : String} {error : DescriptorError} (failed : parseField text = .error error) :
    (StartsElement (unbracketed text.toList) → error = .malformed text) ∧
      (¬ StartsElement (unbracketed text.toList) →
        error = .malformed (String.ofList (unbracketed text.toList))) := by
  unfold parseField at failed
  split at failed
  · cases failed
  · next found read =>
    have starts := FieldType.startsType_iff.mp (FieldType.startsType_of_read read)
    exact ⟨fun _ => (Except.error.inj failed).symm, fun none => absurd starts none⟩
  · next stopped read =>
    obtain ⟨none, rfl⟩ := FieldType.read_eq_error_iff.mp read
    exact ⟨fun starts => absurd starts none, fun _ => (Except.error.inj failed).symm⟩

theorem parseMethod_eq_error {text : String} {error : DescriptorError}
    (failed : parseMethod text = .error error) :
    (text.toList.head? ≠ some '(' → error = .malformed text) ∧
      ∀ body rest, text.toList = '(' :: body → AfterTypes body rest →
        (OnlyEndAmiss rest → error = .malformed text) ∧
          (¬ OnlyEndAmiss rest → error = .malformed (String.ofList (unbracketed (unclosed rest)))) := by
  unfold parseMethod at failed
  split at failed
  · cases failed
  · next stopped read =>
    obtain rfl := Except.error.inj failed
    refine ⟨fun unopened => ?_, fun body rest opened after => ?_⟩
    · unfold MethodType.read at read
      split at read
      · next body same =>
        rw [same] at unopened
        exact absurd rfl unopened
      · rw [← Except.error.inj read, String.ofList_toList]
    · rw [opened] at read
      obtain ⟨whole, inside⟩ := MethodType.eq_of_read_eq_error after read
      refine ⟨fun amiss => ?_, fun fine => by rw [inside fine]⟩
      rw [whole amiss, ← opened, String.ofList_toList]

/-- What is reported is an end of the text, and where it is not the whole text no field type starts there. -/
theorem place_of_eq_error {text : String} {error : DescriptorError}
    (failed : parseField text = .error error ∨ parseMethod text = .error error) :
    ∃ place, error = .malformed (String.ofList place) ∧ place <:+ text.toList ∧
      (place ≠ text.toList → ¬ StartsType place) := by
  have whole : error = .malformed text → ∃ place, error = .malformed (String.ofList place) ∧
      place <:+ text.toList ∧ (place ≠ text.toList → ¬ StartsType place) := fun same =>
    ⟨text.toList, by rw [same, String.ofList_toList], List.suffix_rfl, fun other => absurd rfl other⟩
  rcases failed with failed | failed
  · obtain ⟨trailing, stopped⟩ := parseField_eq_error failed
    by_cases starts : StartsElement (unbracketed text.toList)
    · exact whole (trailing starts)
    · exact ⟨_, stopped starts, FieldType.unbracketed_suffix _, fun _ =>
        fun found => starts (FieldType.startsType_iff.mp (FieldType.startsType_unbracketed_iff.mp found))⟩
  · obtain ⟨unopened, opened⟩ := parseMethod_eq_error failed
    by_cases opens : ∃ body, text.toList = '(' :: body
    · obtain ⟨body, written⟩ := opens
      obtain ⟨rest, after⟩ := MethodType.exists_afterTypes body
      obtain ⟨unfinished, stopped⟩ := opened body rest written after
      by_cases amiss : OnlyEndAmiss rest
      · exact whole (unfinished amiss)
      · refine ⟨_, stopped amiss, ?_, fun _ => ?_⟩
        · obtain ⟨⟨types, -, rfl⟩, -⟩ := MethodType.afterTypes_iff.mp after
          rw [written, ← List.cons_append]
          exact ((FieldType.unbracketed_suffix _).trans (MethodType.unclosed_suffix rest)).trans
            (List.suffix_append _ _)
        · rw [FieldType.startsType_unbracketed_iff]
          exact MethodType.not_startsType_unclosed after amiss
    · refine whole (unopened fun found => opens ?_)
      obtain ⟨body, written⟩ := List.head?_eq_some_iff.mp found
      exact ⟨body, written⟩

/-- **Where the report on a text that is refused points.** A field is reported from behind the brackets, unless
an element starts there and only something follows it. A method is reported as a whole if it does not open, ends
too early or goes on too long, and otherwise from where, behind the longest sequence of types, another one was
to start. -/
theorem malformed_at (text : String) (error : DescriptorError) :
    (parseField text = .error error →
      (StartsElement (unbracketed text.toList) → error = .malformed text) ∧
        (¬ StartsElement (unbracketed text.toList) →
          error = .malformed (String.ofList (unbracketed text.toList)))) ∧
    (parseMethod text = .error error →
      (text.toList.head? ≠ some '(' → error = .malformed text) ∧
        ∀ body, text.toList = '(' :: body → ∃ rest, AfterTypes body rest ∧
          (∀ other, AfterTypes body other → other = rest) ∧
          (OnlyEndAmiss rest → error = .malformed text) ∧
          (¬ OnlyEndAmiss rest → error = .malformed (String.ofList (unbracketed (unclosed rest))))) ∧
    (parseField text = .error error ∨ parseMethod text = .error error →
      ∃ place, error = .malformed (String.ofList place) ∧ place <:+ text.toList ∧
        (place ≠ text.toList → ¬ StartsType place)) := by
  refine ⟨parseField_eq_error, fun failed => ?_, place_of_eq_error⟩
  obtain ⟨unopened, opened⟩ := parseMethod_eq_error failed
  refine ⟨unopened, fun body written => ?_⟩
  obtain ⟨rest, after⟩ := MethodType.exists_afterTypes body
  exact ⟨rest, after, fun other same => MethodType.AfterTypes.unique same after, opened body rest written after⟩

/-- An array whose element is missing, behind two types. -/
theorem malformed_at_missing_element :
    parseMethod "(I[La;[[X)V" = .error (.malformed "X)V") ∧ AfterTypes "I[La;[[X)V".toList "[[X)V".toList ∧
      ¬ OnlyEndAmiss "[[X)V".toList ∧ ¬ StartsType "X)V".toList := by
  have failed : parseMethod "(I[La;[[X)V" = .error (.malformed "X)V") := by decide +kernel
  obtain ⟨-, inside, places⟩ := malformed_at "(I[La;[[X)V" (.malformed "X)V")
  obtain ⟨rest, after, only, whole, -⟩ := (inside failed).2 "I[La;[[X)V".toList (by decide)
  obtain ⟨place, same, -, none⟩ := places (.inr failed)
  obtain rfl : place = "X)V".toList := by
    rw [DescriptorError.malformed.inj same, String.toList_ofList]
  have nothing : ¬ StartsType "X)V".toList := none (by decide)
  have formed : MethodType.Formed [.base .int, .array (.object "a")] := by
    refine List.forall_mem_cons.mpr ⟨trivial, List.forall_mem_singleton.mpr ⟨?_, ?_⟩⟩ <;> decide
  have bare : unbracketed "[[X)V".toList = "X)V".toList := by decide
  have known : AfterTypes "I[La;[[X)V".toList "[[X)V".toList := by
    refine MethodType.afterTypes_iff.mpr ⟨⟨_, formed, by decide⟩, fun starts => nothing ?_⟩
    rwa [← bare, FieldType.startsType_unbracketed_iff]
  obtain rfl := only _ known
  exact ⟨failed, known, fun amiss => absurd (whole amiss) (by decide), nothing⟩

end Descriptor

end NameDomains
