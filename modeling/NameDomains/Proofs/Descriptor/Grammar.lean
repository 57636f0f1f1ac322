/-
**Reading a descriptor takes its written form apart.**

The written forms are a prefix code: where a field type ends is seen from the type itself, whatever
follows. So each reader is described by one equivalence with an arbitrary rest of the text:

* `FieldType.read_eq_ok_iff` — a field type and a rest are read off a text exactly when the type is
  well formed and the text is its written form followed by the rest.
* `ReturnType.read_eq_ok_iff` — the same for a result. No field type starts with `V`.
* `MethodType.readParameters_eq_ok_iff` — the same for parameters and the parenthesis that closes
  them. No field type starts with it, so the list of parameters is read to its end and no further.
* `MethodType.read_eq_ok_iff`, `Descriptor.parse_eq_ok_iff` — with nothing left over, reading and
  writing undo each other.
-/

import NameDomains.Descriptor.Basic
import NameDomains.Proofs.Outcome
import NameDomains.Proofs.Text.Offset

namespace NameDomains

/-! ### Field types -/

namespace FieldType

/-- The characters that open a method type, close its parameters and stand for no result. -/
def Reserved (c : Char) : Prop := c = '(' ∨ c = ')' ∨ c = 'V'

/-- **A written field type starts with a character of its own**, so what stands around the field
types of a method is never mistaken for one. -/
theorem chars_eq_cons (type : FieldType) :
    ∃ first rest, type.chars = first :: rest ∧ ¬ Reserved first := by
  cases type with
  | base type => exact ⟨type.letter, [], rfl, by cases type <;> unfold Reserved <;> decide⟩
  | object name => exact ⟨'L', name.toList ++ [';'], rfl, by unfold Reserved; decide⟩
  | array component => exact ⟨'[', component.chars, rfl, by unfold Reserved; decide⟩

/-- A class name that ends at the first `;` is read whole. -/
theorem read_object {name : String} (nonempty : name ≠ "") (unbroken : ';' ∉ name.toList)
    (rest : List Char) :
    read ((object name).chars ++ rest) = .ok (object name, rest) := by
  obtain ⟨taken, dropped⟩ := Text.takeWhile_dropWhile_append unbroken rest
  obtain ⟨first, others, split⟩ : ∃ first others, name.toList = first :: others :=
    List.exists_cons_of_ne_nil fun empty => nonempty (String.toList_eq_nil_iff.mp empty)
  show read ('L' :: (name.toList ++ [';'] ++ rest)) = _
  rw [List.append_assoc, List.singleton_append, read, taken, dropped, split]
  show Except.ok (object (String.ofList (first :: others)), rest) = _
  rw [← split, String.ofList_toList]

/-- **A written field type is read back**, whatever follows it. -/
theorem read_chars_append {type : FieldType} (wellFormed : type.WellFormed) (rest : List Char) :
    read (type.chars ++ rest) = .ok (type, rest) := by
  induction type with
  | base type => cases type <;> rfl
  | object name => exact read_object wellFormed.1 wellFormed.2 rest
  | array component readBack =>
    show (read (component.chars ++ rest)).map _ = _
    rw [readBack wellFormed]
    rfl

/-- **What is read is written at the front of the text.** -/
theorem eq_chars_append_of_read {text rest : List Char} {type : FieldType}
    (found : read text = .ok (type, rest)) : type.WellFormed ∧ text = type.chars ++ rest := by
  fun_induction read text generalizing type rest with
  | case1 => cases found
  | case2 text writtenBack =>
    obtain ⟨⟨component, left⟩, inner, same⟩ := Outcome.map_eq_ok_iff.mp found
    obtain ⟨rfl, rfl⟩ := Prod.mk.inj same
    obtain ⟨wellFormed, written⟩ := writtenBack inner
    exact ⟨wellFormed, congrArg ('[' :: ·) written⟩
  | case3 text first name mark left ending named =>
    simp only [Except.ok.injEq, Prod.mk.injEq] at found
    obtain ⟨rfl, rfl⟩ := found
    obtain ⟨unbroken, whole⟩ := Text.eq_append_of_dropWhile ending
    rw [named] at unbroken whole
    refine ⟨⟨?_, ?_⟩, ?_⟩
    · exact fun empty => List.cons_ne_nil first name (String.ofList_eq_empty_iff.mp empty)
    · rwa [String.toList_ofList]
    · rw [chars, String.toList_ofList, whole, List.cons_append, List.append_assoc]
      rfl
  | case4 => cases found
  | case5 letter rest notArray notObject type known =>
    simp only [Except.ok.injEq, Prod.mk.injEq] at found
    obtain ⟨rfl, rfl⟩ := found
    rw [BaseType.ofLetter?_eq_some_iff.mp known]
    exact ⟨trivial, rfl⟩
  | case6 => cases found

/-- **A field type and a rest are read exactly off the text that writes them one after the other.** -/
theorem read_eq_ok_iff {text rest : List Char} {type : FieldType} :
    read text = .ok (type, rest) ↔ type.WellFormed ∧ text = type.chars ++ rest := by
  refine ⟨eq_chars_append_of_read, ?_⟩
  rintro ⟨wellFormed, rfl⟩
  exact read_chars_append wellFormed rest

end FieldType

/-! ### Method types -/

namespace ReturnType

/-- A text that does not start with `V` is read as a field type. -/
theorem read_of_ne {text : List Char} (other : ∀ rest, text ≠ 'V' :: rest) :
    read text = (FieldType.read text).map fun found => (field found.1, found.2) := by
  unfold read
  split
  · exact absurd rfl (other _)
  · rfl

/-- A written result is read back, whatever follows it. -/
theorem read_chars_append {result : ReturnType} (wellFormed : result.WellFormed)
    (rest : List Char) : read (result.chars ++ rest) = .ok (result, rest) := by
  cases result with
  | void => rfl
  | field type =>
    obtain ⟨first, more, written, own⟩ := type.chars_eq_cons
    have other : ∀ left, type.chars ++ rest ≠ 'V' :: left := fun left same => by
      rw [written, List.cons_append] at same
      exact own (.inr (.inr (List.cons.inj same).1))
    show read (type.chars ++ rest) = _
    rw [read_of_ne other, FieldType.read_chars_append wellFormed]
    rfl

/-- What is read as a result is written at the front of the text. -/
theorem eq_chars_append_of_read {text rest : List Char} {result : ReturnType}
    (found : read text = .ok (result, rest)) :
    result.WellFormed ∧ text = result.chars ++ rest := by
  unfold read at found
  split at found
  · obtain ⟨rfl, rfl⟩ := Prod.mk.inj (Except.ok.inj found)
    exact ⟨trivial, rfl⟩
  · obtain ⟨⟨type, left⟩, inner, same⟩ := Outcome.map_eq_ok_iff.mp found
    obtain ⟨rfl, rfl⟩ := Prod.mk.inj same
    exact FieldType.eq_chars_append_of_read inner

/-- **A result and a rest are read exactly off the text that writes them one after the other.** -/
theorem read_eq_ok_iff {text rest : List Char} {result : ReturnType} :
    read text = .ok (result, rest) ↔ result.WellFormed ∧ text = result.chars ++ rest := by
  refine ⟨eq_chars_append_of_read, ?_⟩
  rintro ⟨wellFormed, rfl⟩
  exact read_chars_append wellFormed rest

end ReturnType

namespace MethodType

/-- A parameter at the front of a text is read, and then the others. -/
theorem readParameters_append {parameter : FieldType} (wellFormed : parameter.WellFormed)
    (whole rest : List Char) :
    readParameters whole (parameter.chars ++ rest) =
      (readParameters whole rest).map fun later => (parameter :: later.1, later.2) := by
  obtain ⟨first, more, written, own⟩ := parameter.chars_eq_cons
  rw [readParameters]
  · split
    · next stopped failed =>
      rw [FieldType.read_chars_append wellFormed] at failed
      cases failed
    · next found left read =>
      rw [FieldType.read_chars_append wellFormed] at read
      obtain ⟨rfl, rfl⟩ := Prod.mk.inj (Except.ok.inj read)
      rfl
  · intro empty
    rw [written] at empty
    cases empty
  · intro left same
    rw [written] at same
    exact own (.inr (.inl (List.cons.inj same).1))

/-- Written parameters and the parenthesis that closes them are read back. -/
theorem readParameters_flatMap_append {parameters : List FieldType}
    (wellFormed : ∀ parameter ∈ parameters, parameter.WellFormed) (whole rest : List Char) :
    readParameters whole (parameters.flatMap FieldType.chars ++ ')' :: rest) =
      .ok (parameters, rest) := by
  induction parameters with
  | nil => exact readParameters.eq_2 whole rest
  | cons parameter parameters readBack =>
    rw [List.flatMap_cons, List.append_assoc,
      readParameters_append (wellFormed parameter List.mem_cons_self),
      readBack fun other member => wellFormed other (List.mem_cons_of_mem _ member)]
    rfl

/-- What is read as parameters is written at the front of the text, with the parenthesis behind. -/
theorem eq_flatMap_append_of_readParameters {whole text rest : List Char}
    {parameters : List FieldType} (found : readParameters whole text = .ok (parameters, rest)) :
    (∀ parameter ∈ parameters, parameter.WellFormed) ∧
      text = parameters.flatMap FieldType.chars ++ ')' :: rest := by
  fun_induction readParameters whole text generalizing parameters with
  | case1 => cases found
  | case2 =>
    obtain ⟨rfl, rfl⟩ := Prod.mk.inj (Except.ok.inj found)
    exact ⟨fun _ member => (List.not_mem_nil member).elim, rfl⟩
  | case3 => cases found
  | case4 text nonempty unclosed first left read shorter writtenBack =>
    obtain ⟨⟨others, ending⟩, inner, same⟩ := Outcome.map_eq_ok_iff.mp found
    obtain ⟨rfl, rfl⟩ := Prod.mk.inj same
    obtain ⟨firstFormed, rfl⟩ := FieldType.eq_chars_append_of_read read
    obtain ⟨othersFormed, rfl⟩ := writtenBack inner
    refine ⟨?_, by rw [List.flatMap_cons, List.append_assoc]⟩
    intro parameter member
    rcases List.mem_cons.mp member with rfl | member
    · exact firstFormed
    · exact othersFormed parameter member

/-- **Parameters and a rest are read exactly off the text that writes them, the closing parenthesis
and the rest one after the other.** -/
theorem readParameters_eq_ok_iff {whole text rest : List Char} {parameters : List FieldType} :
    readParameters whole text = .ok (parameters, rest) ↔
      (∀ parameter ∈ parameters, parameter.WellFormed) ∧
        text = parameters.flatMap FieldType.chars ++ ')' :: rest := by
  refine ⟨eq_flatMap_append_of_readParameters, ?_⟩
  rintro ⟨wellFormed, rfl⟩
  exact readParameters_flatMap_append wellFormed whole rest

/-- A method type is read when its parameters are and its result is read off all that is left. -/
theorem read_eq_ok_iff_parts {text : List Char} {method : MethodType} :
    read text = .ok method ↔
      ∃ rest left, text = '(' :: rest ∧ readParameters text rest = .ok (method.parameters, left) ∧
        ReturnType.read left = .ok (method.result, []) := by
  constructor
  · intro found
    unfold read at found
    split at found
    · next rest =>
      obtain ⟨⟨parameters, left⟩, front, found⟩ := Outcome.bind_eq_ok_iff.mp found
      dsimp only at found
      split at found
      · cases found
      · obtain ⟨⟨result, ending⟩, back, found⟩ := Outcome.bind_eq_ok_iff.mp found
        dsimp only at found
        split at found
        · next finished =>
          obtain rfl := Except.ok.inj found
          rw [List.isEmpty_iff.mp finished] at back
          exact ⟨rest, left, rfl, front, back⟩
        · cases found
    · cases found
  · rintro ⟨rest, left, rfl, front, back⟩
    have unfinished : left.isEmpty = false := by
      cases left with
      | nil => cases back
      | cons => rfl
    rw [read]
    simp only [front, back, bind, Except.bind, unfinished, List.isEmpty_nil, if_true,
      Bool.false_eq_true, if_false]
    rfl

/-- **A method type is read exactly off its written form.** -/
theorem read_eq_ok_iff {text : List Char} {method : MethodType} :
    read text = .ok method ↔ method.WellFormed ∧ method.chars = text := by
  rw [read_eq_ok_iff_parts]
  constructor
  · rintro ⟨rest, left, rfl, front, back⟩
    obtain ⟨parametersFormed, rfl⟩ := readParameters_eq_ok_iff.mp front
    obtain ⟨resultFormed, rfl⟩ := ReturnType.read_eq_ok_iff.mp back
    exact ⟨⟨parametersFormed, resultFormed⟩, by rw [chars, List.append_nil, List.cons_append]⟩
  · rintro ⟨⟨parametersFormed, resultFormed⟩, rfl⟩
    refine ⟨_, method.result.chars, rfl, readParameters_eq_ok_iff.mpr ⟨parametersFormed, rfl⟩, ?_⟩
    exact ReturnType.read_eq_ok_iff.mpr ⟨resultFormed, (List.append_nil _).symm⟩

end MethodType

/-! ### Descriptors -/

namespace Descriptor

/-- A text is what a descriptor renders to exactly when its characters are the written form. -/
theorem render_eq_iff {text : String} {descriptor : Descriptor} :
    descriptor.render = text ↔ descriptor.chars = text.toList := by
  rw [render, ← String.toList_inj, String.toList_ofList]

/-- **A text is read as a field exactly when it is what a well-formed field type renders to.** -/
theorem parseField_eq_ok_iff {text : String} {descriptor : Descriptor} :
    parseField text = .ok descriptor ↔
      (∃ type, descriptor = field type) ∧ descriptor.WellFormed ∧ descriptor.render = text := by
  rw [render_eq_iff]
  constructor
  · intro found
    unfold parseField at found
    split at found
    · next type read =>
      obtain rfl := Except.ok.inj found
      obtain ⟨wellFormed, written⟩ := FieldType.read_eq_ok_iff.mp read
      exact ⟨⟨type, rfl⟩, wellFormed, (written.trans (List.append_nil _)).symm⟩
    · cases found
    · cases found
  · rintro ⟨⟨type, rfl⟩, wellFormed, written⟩
    have read := FieldType.read_chars_append wellFormed []
    rw [List.append_nil, show type.chars = text.toList from written] at read
    rw [parseField, read]

/-- **A text is read as a method exactly when it is what a well-formed method type renders to.** -/
theorem parseMethod_eq_ok_iff {text : String} {descriptor : Descriptor} :
    parseMethod text = .ok descriptor ↔
      (∃ type, descriptor = method type) ∧ descriptor.WellFormed ∧ descriptor.render = text := by
  rw [render_eq_iff]
  constructor
  · intro found
    unfold parseMethod at found
    split at found
    · next type read =>
      obtain rfl := Except.ok.inj found
      exact ⟨⟨type, rfl⟩, MethodType.read_eq_ok_iff.mp read⟩
    · cases found
  · rintro ⟨⟨type, rfl⟩, wellFormed⟩
    rw [parseMethod, MethodType.read_eq_ok_iff.mpr wellFormed]

/-- The written forms that start with a parenthesis are those of the method types. -/
theorem head?_chars_eq_some_iff {descriptor : Descriptor} :
    descriptor.chars.head? = some '(' ↔ ∃ type, descriptor = method type := by
  cases descriptor with
  | void => simp [chars]
  | method type => exact ⟨fun _ => ⟨type, rfl⟩, fun _ => rfl⟩
  | field type =>
    obtain ⟨first, rest, written, own⟩ := type.chars_eq_cons
    refine ⟨fun same => ?_, by rintro ⟨_, ⟨⟩⟩⟩
    rw [chars, written] at same
    exact absurd (.inl (Option.some.inj same)) own

/-- The written form `V` is that of no value. -/
theorem render_eq_void_iff {descriptor : Descriptor} : descriptor.render = "V" ↔ descriptor = void := by
  refine ⟨fun same => ?_, fun same => same ▸ rfl⟩
  have written : descriptor.chars = ['V'] := render_eq_iff.mp same
  cases descriptor with
  | void => rfl
  | method type => exact nomatch (List.cons.inj written).1
  | field type =>
    obtain ⟨first, rest, starts, own⟩ := type.chars_eq_cons
    rw [chars, starts] at written
    exact absurd (.inr (.inr (List.cons.inj written).1)) own

/-- **A text is read exactly when it is what a well-formed descriptor renders to.** -/
theorem parse_eq_ok_iff {text : String} {descriptor : Descriptor} :
    parse text = .ok descriptor ↔ descriptor.WellFormed ∧ descriptor.render = text := by
  unfold parse
  split
  · next opened =>
    rw [parseMethod_eq_ok_iff]
    refine ⟨And.right, fun written => ⟨?_, written⟩⟩
    rwa [← head?_chars_eq_some_iff, render_eq_iff.mp written.2]
  · next unopened =>
    split
    · next void =>
      rw [void, render_eq_void_iff]
      exact ⟨fun same => Except.ok.inj same ▸ ⟨trivial, rfl⟩, fun same => congrArg _ same.2.symm⟩
    · next novoid =>
      rw [parseField_eq_ok_iff]
      refine ⟨And.right, fun written => ⟨?_, written⟩⟩
      cases descriptor with
      | void => exact absurd written.2.symm novoid
      | field type => exact ⟨type, rfl⟩
      | method type =>
        rw [← render_eq_iff.mp written.2] at unopened
        exact absurd rfl unopened

/-- **No text is what two well-formed descriptors render to.** -/
theorem eq_of_render_eq {first second : Descriptor} (firstFormed : first.WellFormed)
    (secondFormed : second.WellFormed) (same : first.render = second.render) : first = second := by
  have read := parse_eq_ok_iff.mpr ⟨firstFormed, same⟩
  rw [parse_eq_ok_iff.mpr ⟨secondFormed, rfl⟩] at read
  exact (Except.ok.inj read).symm

/-- **Reading and rendering undo each other on the whole format.** A text is read as a descriptor, as
a field or as a method exactly when it is what that descriptor renders to and the descriptor is well
formed and of that sort; and no other well-formed descriptor renders to it. -/
theorem parse_eq_ok_iff_render_eq (text : String) (descriptor : Descriptor) :
    (parse text = .ok descriptor ↔ descriptor.WellFormed ∧ descriptor.render = text) ∧
    (parseField text = .ok descriptor ↔
      (∃ type, descriptor = field type) ∧ descriptor.WellFormed ∧ descriptor.render = text) ∧
    (parseMethod text = .ok descriptor ↔
      (∃ type, descriptor = method type) ∧ descriptor.WellFormed ∧ descriptor.render = text) ∧
    ∀ other, descriptor.WellFormed → other.WellFormed → other.render = descriptor.render →
      other = descriptor :=
  ⟨parse_eq_ok_iff, parseField_eq_ok_iff, parseMethod_eq_ok_iff,
    fun _ formed otherFormed same => eq_of_render_eq otherFormed formed same⟩

/-- Class names may hold whatever stands around the types of a method. -/
theorem parse_eq_ok_iff_render_eq_delimiters :
    parse "([L(V)[;)La/V;" =
      .ok (method ⟨[.array (.object "(V)[")], .field (.object "a/V")⟩) := by
  have main := parse_eq_ok_iff_render_eq "([L(V)[;)La/V;"
    (method ⟨[.array (.object "(V)[")], .field (.object "a/V")⟩)
  refine main.1.mpr ⟨⟨fun parameter listed => ?_, ⟨by decide, by decide⟩⟩, by decide⟩
  rw [List.mem_singleton.mp listed]
  exact ⟨by decide, by decide⟩

end Descriptor

end NameDomains
