/-
**Reading by bytes.**

A descriptor can be read and renamed by cutting its text at offsets in bytes: behind the first character, before
and behind the `;` of a class, and behind the first `L`. Characters of several bytes stand only inside class
names, so every one of these offsets is between two characters, whatever the text holds; no cut fails, and what
is read or renamed by cutting is what is read or renamed otherwise. Each type that is read leaves less of the
text, so a method has no more parameters than bytes.

* `FieldType.readByOffsets`, `Descriptor.renameByOffsets` — reading and renaming by cutting, where a cut may
  fail.
* `FieldType.readByOffsets_eq`, `Descriptor.renameByOffsets_eq` — no cut fails.
* `MethodType.readWithin`, `MethodType.readWithin_eq` — parameters in a bounded number of passes.
* `Descriptor.cuts_between_characters` — all of it.
-/

import Mathlib.Data.List.TakeWhile
import NameDomains.Descriptor.Renaming
import NameDomains.Proofs.Descriptor.Grammar

namespace NameDomains

open Text (IsBoundary cut? offsetOf?)

/-! ### Field types -/

namespace FieldType

/-- An outcome of reading with texts in place of characters. -/
def asTexts (outcome : Except (List Char) (FieldType × List Char)) : Except String (FieldType × String) :=
  (outcome.mapError String.ofList).map fun found => (found.1, String.ofList found.2)

/-- Reads one field type off the front of a text by cutting it; none if a cut fails. -/
def readByOffsets (text : String) : Option (Except String (FieldType × String)) :=
  match text.toList.head? with
  | none => some (.error text)
  | some first =>
    match BaseType.ofLetter? first with
    | some type => do
      let (_, rest) ← cut? text 1
      return .ok (base type, rest)
    | none =>
      if first = 'L' then
        match offsetOf? ';' text with
        | some stop =>
          if 1 < stop then do
            let (front, _) ← cut? text stop
            let (_, name) ← cut? front 1
            let (_, rest) ← cut? text (stop + 1)
            return .ok (object name, rest)
          else some (.error text)
        | none => some (.error text)
      else if first = '[' then
        match divided : cut? text 1 with
        | some (_, rest) =>
          have _shorter := Text.utf8ByteSize_of_cut? divided
          (readByOffsets rest).map fun outcome => outcome.map fun found => (array found.1, found.2)
        | none => none
      else some (.error text)
termination_by text.utf8ByteSize

theorem utf8Size_letter (type : BaseType) : type.letter.utf8Size = 1 := by
  cases type <;> rfl

/-- A type and a rest are read exactly off the text that writes them one after the other. -/
theorem read_toList_eq_ok_iff {text rest : String} {type : FieldType} :
    read text.toList = .ok (type, rest.toList) ↔ type.WellFormed ∧ text = type.render ++ rest := by
  rw [read_eq_ok_iff, ← String.toList_inj, String.toList_append, render, String.toList_ofList]

/-- **A type that is read leaves less of the text**, in characters and in bytes. -/
theorem shorter_of_read {text rest : String} {type : FieldType}
    (found : read text.toList = .ok (type, rest.toList)) :
    rest.length < text.length ∧ rest.utf8ByteSize < text.utf8ByteSize := by
  obtain ⟨-, rfl⟩ := read_toList_eq_ok_iff.mp found
  obtain ⟨first, more, written, -⟩ := type.chars_eq_cons
  have length : 0 < type.render.length := by
    rw [render, String.length_ofList, written]
    exact Nat.succ_pos _
  have size : type.render.length ≤ type.render.utf8ByteSize := by
    rw [render, String.length_ofList]
    exact Text.length_le_utf8ByteSize type.chars
  rw [String.length_append, String.utf8ByteSize_append]
  omega

/-- A base type is cut off behind its letter. -/
theorem readByOffsets_letter {letter : Char} {type : BaseType}
    (known : BaseType.ofLetter? letter = some type) (rest : List Char) :
    readByOffsets (String.ofList (letter :: rest)) = some (.ok (base type, String.ofList rest)) := by
  have small : letter.utf8Size = 1 := by
    rw [BaseType.ofLetter?_eq_some_iff.mp known, utf8Size_letter]
  have divided := Text.cut?_first letter rest
  rw [small] at divided
  rw [readByOffsets, String.toList_ofList, List.head?_cons]
  simp only [known, divided]
  rfl

/-- An array is cut behind its bracket. -/
theorem readByOffsets_bracket (rest : List Char) :
    readByOffsets (String.ofList ('[' :: rest)) =
      (readByOffsets (String.ofList rest)).map fun outcome =>
        outcome.map fun found => (array found.1, found.2) := by
  have divided : cut? (String.ofList ('[' :: rest)) 1 = some (String.singleton '[', String.ofList rest) :=
    Text.cut?_first '[' rest
  have notBase : BaseType.ofLetter? '[' = none := rfl
  rw [readByOffsets, String.toList_ofList, List.head?_cons]
  simp only [notBase, if_neg (show '[' ≠ 'L' by decide), if_true]
  split
  · next before left found =>
    obtain ⟨-, rfl⟩ := Prod.mk.inj (Option.some.inj (found.symm.trans divided))
    rfl
  · next failed =>
    rw [divided] at failed
    cases failed

/-- A class is read by where its `;` is, if any. -/
theorem readByOffsets_class (rest : List Char) :
    readByOffsets (String.ofList ('L' :: rest)) =
      match offsetOf? ';' (String.ofList ('L' :: rest)) with
      | some stop =>
        if 1 < stop then do
          let (front, _) ← cut? (String.ofList ('L' :: rest)) stop
          let (_, name) ← cut? front 1
          let (_, rest) ← cut? (String.ofList ('L' :: rest)) (stop + 1)
          return .ok (object name, rest)
        else some (.error (String.ofList ('L' :: rest)))
      | none => some (.error (String.ofList ('L' :: rest))) := by
  rw [readByOffsets, String.toList_ofList, List.head?_cons]
  rfl

/-- The end of a class is as far from the front as its name is long, and one byte more. -/
theorem offsetOf?_class {name : List Char} (unbroken : ';' ∉ name) (left : List Char) :
    offsetOf? ';' (String.ofList ('L' :: (name ++ ';' :: left))) =
      some (String.ofList ('L' :: name)).utf8ByteSize := by
  have written : String.ofList ('L' :: (name ++ ';' :: left)) =
      String.ofList ('L' :: name) ++ String.singleton ';' ++ String.ofList left := by
    apply String.toList_injective
    simp
  have free : ';' ∉ (String.ofList ('L' :: name)).toList := by
    rw [String.toList_ofList]
    exact fun listed => (List.mem_cons.mp listed).elim (by decide) unbroken
  rw [written, Text.offsetOf?_append free]

/-- **A class is cut out of the text by its offsets.** -/
theorem readByOffsets_object {name : List Char} (nonempty : name ≠ []) (unbroken : ';' ∉ name)
    (left : List Char) :
    readByOffsets (String.ofList ('L' :: (name ++ ';' :: left))) =
      some (.ok (object (String.ofList name), String.ofList left)) := by
  have ending : String.ofList ('L' :: (name ++ ';' :: left)) =
      String.ofList ('L' :: name) ++ String.ofList (';' :: left) := by
    rw [← String.ofList_append, List.cons_append]
  have behind : String.ofList ('L' :: (name ++ ';' :: left)) =
      String.ofList ('L' :: name ++ [';']) ++ String.ofList left := by
    rw [← String.ofList_append, List.cons_append, List.cons_append, List.append_assoc]
    rfl
  have size : (String.ofList ('L' :: name)).utf8ByteSize = 1 + (String.ofList name).utf8ByteSize :=
    Text.utf8ByteSize_of_cut? (Text.cut?_first 'L' name)
  have behindSize : (String.ofList ('L' :: name ++ [';'])).utf8ByteSize =
      (String.ofList ('L' :: name)).utf8ByteSize + 1 := by
    rw [String.ofList_append, String.utf8ByteSize_append]
    rfl
  have later : 1 < (String.ofList ('L' :: name)).utf8ByteSize := by
    have positive : (String.ofList name).utf8ByteSize ≠ 0 := fun empty =>
      nonempty (String.ofList_eq_empty_iff.mp (String.utf8ByteSize_eq_zero_iff.mp empty))
    omega
  rw [readByOffsets_class, offsetOf?_class unbroken]
  have front := Text.cut?_append (String.ofList ('L' :: name)) (String.ofList (';' :: left))
  have inside : cut? (String.ofList ('L' :: name)) 1 = some (String.singleton 'L', String.ofList name) :=
    Text.cut?_first 'L' name
  have rest := Text.cut?_append (String.ofList ('L' :: name ++ [';'])) (String.ofList left)
  rw [← ending] at front
  rw [← behind, behindSize] at rest
  simp only [if_pos later, front, inside, rest, Option.bind_eq_bind, Option.bind_some]
  rfl

/-- A class without a name or without an end is not cut. -/
theorem readByOffsets_unfit {rest : List Char}
    (unfit : ∀ name left, name ≠ [] → ';' ∉ name → rest ≠ name ++ ';' :: left) :
    readByOffsets (String.ofList ('L' :: rest)) = some (.error (String.ofList ('L' :: rest))) := by
  rw [readByOffsets_class]
  by_cases listed : ';' ∈ rest
  · obtain ⟨name, left, rfl, unbroken⟩ := List.eq_append_cons_of_mem listed
    obtain rfl : name = [] := Classical.not_not.mp fun nonempty => unfit name left nonempty unbroken rfl
    rw [offsetOf?_class unbroken]
    exact if_neg (by decide)
  · have missing : offsetOf? ';' (String.ofList ('L' :: rest)) = none := by
      rw [Text.offsetOf?_eq_none_iff, String.toList_ofList]
      exact fun found => (List.mem_cons.mp found).elim (by decide) listed
    rw [missing]

/-- **No cut fails, and reading by cutting is reading.** -/
theorem readByOffsets_eq (text : List Char) :
    readByOffsets (String.ofList text) = some (asTexts (read text)) := by
  fun_induction read text with
  | case1 => rw [readByOffsets]; rfl
  | case2 text inner =>
    rw [readByOffsets_bracket, inner]
    cases read text <;> rfl
  | case3 text first name mark left ending named =>
    obtain ⟨unbroken, whole⟩ := Text.eq_append_of_dropWhile ending
    rw [named] at unbroken whole
    rw [whole, readByOffsets_object (List.cons_ne_nil _ _) unbroken]
    rfl
  | case4 text unfit =>
    refine readByOffsets_unfit fun name left nonempty unbroken same => ?_
    obtain ⟨first, others, rfl⟩ := List.exists_cons_of_ne_nil nonempty
    obtain ⟨named, ending⟩ := Text.takeWhile_dropWhile_append unbroken left
    rw [← same] at named ending
    exact unfit first others ';' left named ending
  | case5 letter rest notArray notObject type known => exact readByOffsets_letter known rest
  | case6 letter rest notArray notObject unknown =>
    rw [readByOffsets, String.toList_ofList, List.head?_cons]
    simp only [unknown, if_neg notObject, if_neg notArray]
    rfl

end FieldType

/-! ### Parameters -/

namespace MethodType

/-- Reads field types up to the closing parenthesis, one in each pass; none if so many passes are not enough. -/
def readWithin (whole : List Char) :
    Nat → List Char → Option (Except (List Char) (List FieldType × List Char))
  | 0, _ => none
  | _ + 1, [] => some (.error whole)
  | _ + 1, ')' :: rest => some (.ok ([], rest))
  | passes + 1, text =>
    match FieldType.read text with
    | .error stopped => some (.error stopped)
    | .ok (parameter, rest) =>
      (readWithin whole passes rest).map fun outcome =>
        outcome.map fun later => (parameter :: later.1, later.2)

/-- **More passes than characters are enough**, as every pass but the last one leaves less text. -/
theorem readWithin_eq (whole : List Char) {passes : Nat} {text : List Char} (enough : text.length < passes) :
    readWithin whole passes text = some (readParameters whole text) := by
  obtain ⟨passes, rfl⟩ : ∃ fewer, passes = fewer + 1 := Nat.exists_eq_add_one.mpr (Nat.zero_lt_of_lt enough)
  fun_induction readParameters whole text generalizing passes with
  | case1 => rfl
  | case2 => rfl
  | case3 text nonempty unclosed stopped failed =>
    rw [readWithin]
    · simp only [failed]
    · exact nonempty
    · exact unclosed
  | case4 text nonempty unclosed parameter rest found shorter later =>
    rw [readWithin]
    · obtain ⟨fewer, rfl⟩ : ∃ fewer, passes = fewer + 1 := Nat.exists_eq_add_one.mpr (by omega)
      simp only [found, later fewer (by omega), Option.map_some]
    · exact nonempty
    · exact unclosed

end MethodType

/-! ### Class names in descriptors -/

namespace Descriptor

/-- Puts the new name of its class behind the heading of a descriptor, which is cut off its written form; none
if the cut fails. -/
def renameByOffsets (newName : ClassRenaming) (descriptor : Descriptor) : Option Descriptor :=
  match offsetOf? 'L' descriptor.render with
  | none => some descriptor
  | some start => do
    let (heading, rest) ← cut? descriptor.render (start + 1)
    let name := if rest.toList.getLast? = some ';' then String.ofList rest.toList.dropLast else rest
    match newName name with
    | none => return descriptor
    | some renamed =>
      match ofHeading heading renamed with
      | .ok result => return result
      | .error _ => return descriptor

/-- **The cut does not fail, and renaming by cutting is renaming.** -/
theorem renameByOffsets_eq (newName : ClassRenaming) (descriptor : Descriptor) :
    descriptor.renameByOffsets newName = some (descriptor.renameBehindHeading newName) := by
  unfold renameByOffsets renameBehindHeading splitHeading?
  by_cases listed : 'L' ∈ descriptor.chars
  · obtain ⟨before, after, divided, free⟩ := List.eq_append_cons_of_mem listed
    obtain ⟨taken, dropped⟩ := Text.takeWhile_dropWhile_append free after
    rw [← divided] at taken dropped
    have found : offsetOf? 'L' descriptor.render = some (String.ofList before).utf8ByteSize := by
      rw [offsetOf?, render, String.toList_ofList, if_pos listed, taken]
    have size : (String.ofList (before ++ ['L'])).utf8ByteSize = (String.ofList before).utf8ByteSize + 1 := by
      rw [String.ofList_append, String.utf8ByteSize_append]
      rfl
    have cut : cut? descriptor.render ((String.ofList before).utf8ByteSize + 1) =
        some (String.ofList (before ++ ['L']), String.ofList after) := by
      rw [Text.cut?_eq_some_iff, size, render, divided, ← String.ofList_append, List.append_assoc]
      exact ⟨rfl, rfl⟩
    rw [found, dropped, taken]
    simp only [cut, Option.bind_eq_bind, Option.bind_some, String.toList_ofList]
    rw [← apply_ite String.ofList]
    cases newName (String.ofList (if after.getLast? = some ';' then after.dropLast else after)) with
    | none => rfl
    | some renamed =>
      dsimp only
      cases ofHeading (String.ofList (before ++ ['L'])) renamed <;> rfl
  · have missing : offsetOf? 'L' descriptor.render = none := by
      rwa [Text.offsetOf?_eq_none_iff, render, String.toList_ofList]
    have other : ∀ c ∈ descriptor.chars, decide (c ≠ 'L') = true := fun c member =>
      decide_eq_true fun found => listed (found ▸ member)
    have dropped : descriptor.chars.dropWhile (· ≠ 'L') = [] := List.dropWhile_eq_nil_iff.mpr other
    rw [missing, dropped]

/-! ### All cuts -/

/-- **Reading takes one type off a text and moves on, and every cut is between two characters.** A type and a
rest are read off a text exactly if the type is well formed and the text is its written form and the rest. The
rest is shorter, so the parameters of a method are read in no more passes than its text has bytes. Where reading
and renaming cut a text by bytes, which is behind a first letter or bracket, before and behind the `;` of a class
and behind the first `L`, they cut it between two characters; so no cut fails. -/
theorem cuts_between_characters (text : String) (descriptor : Descriptor) (newName : ClassRenaming) :
    (∀ (type : FieldType) (rest : String), FieldType.read text.toList = .ok (type, rest.toList) ↔
      type.WellFormed ∧ text = type.render ++ rest) ∧
    (∀ (type : FieldType) (rest : String), FieldType.read text.toList = .ok (type, rest.toList) →
      rest.length < text.length ∧ rest.utf8ByteSize < text.utf8ByteSize) ∧
    (∀ body, text.toList = '(' :: body →
      MethodType.readWithin text.toList text.utf8ByteSize body =
        some (MethodType.readParameters text.toList body)) ∧
    FieldType.readByOffsets text = some (FieldType.asTexts (FieldType.read text.toList)) ∧
    (∀ first, text.toList.head? = some first →
      (BaseType.ofLetter? first).isSome ∨ first = 'L' ∨ first = '[' → IsBoundary text 1) ∧
    (∀ stop, text.toList.head? = some 'L' → offsetOf? ';' text = some stop →
      1 ≤ stop ∧ IsBoundary text stop ∧ IsBoundary text (stop + 1)) ∧
    descriptor.renameByOffsets newName = some (descriptor.renameBehindHeading newName) ∧
    ∀ start, offsetOf? 'L' descriptor.render = some start → IsBoundary descriptor.render (start + 1) := by
  refine ⟨fun _ _ => FieldType.read_toList_eq_ok_iff, fun _ _ => FieldType.shorter_of_read, fun body opened => ?_,
    ?_, fun first starts cuts => ?_, fun stop starts found => ?_, renameByOffsets_eq newName descriptor,
    fun start found => (Text.isBoundary_of_offsetOf? found).2⟩
  · have size := Text.length_le_utf8ByteSize text.toList
    rw [String.ofList_toList, opened, List.length_cons] at size
    exact MethodType.readWithin_eq _ (by omega)
  · have whole := FieldType.readByOffsets_eq text.toList
    rwa [String.ofList_toList] at whole
  · have small : first.utf8Size = 1 := by
      rcases cuts with known | rfl | rfl
      · obtain ⟨type, found⟩ := Option.isSome_iff_exists.mp known
        rw [BaseType.ofLetter?_eq_some_iff.mp found, FieldType.utf8Size_letter]
      · rfl
      · rfl
    exact small ▸ Text.isBoundary_of_head? starts
  · have later := Text.offsetOf?_ne_zero starts (by decide) found
    exact ⟨by omega, Text.isBoundary_of_offsetOf? found⟩

/-- A class name of characters of several bytes, cut out of parameters. -/
theorem cuts_between_characters_wide_name :
    let text := "Lé/猫;[I)V"
    let type := FieldType.object "é/猫"
    type.WellFormed ∧ FieldType.read text.toList = .ok (type, "[I)V".toList) ∧
      FieldType.readByOffsets text = some (.ok (type, "[I)V")) ∧
      (offsetOf? ';' text = some 7 ∧ ¬ IsBoundary text 2 ∧ IsBoundary text 7 ∧ IsBoundary text 8) ∧
      MethodType.readWithin "()V".toList 3 ")V".toList = some (.ok ([], ['V'])) ∧
      (object "é/猫").renameByOffsets (fun _ => some "Lü") = some (object "Lü") := by
  intro text type
  have formed : type.WellFormed := ⟨by decide, by decide⟩
  obtain ⟨reads, -, -, whole, -, ends, -, -⟩ := cuts_between_characters text void fun _ => none
  obtain ⟨-, -, passes, -, -, -, renamed, -⟩ :=
    cuts_between_characters "()V" (object "é/猫") fun _ => some "Lü"
  have read : FieldType.read text.toList = .ok (type, "[I)V".toList) :=
    (reads type "[I)V").mpr ⟨formed, by decide⟩
  have found : offsetOf? ';' text = some 7 := by decide
  obtain ⟨-, before, behind⟩ := ends 7 (by decide) found
  have closed : MethodType.readParameters "()V".toList ")V".toList = .ok ([], ['V']) :=
    MethodType.readParameters.eq_2 _ _
  refine ⟨formed, read, ?_, ⟨found, by decide, before, behind⟩, ?_, ?_⟩
  · rw [whole, read]
    rfl
  · exact (passes ")V".toList (by decide)).trans (congrArg some closed)
  · rw [renamed]
    decide

end Descriptor

end NameDomains
