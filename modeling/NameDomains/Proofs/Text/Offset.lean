/-
**Where texts are cut.**

A mark divides a text where it first stands. The place can be given by an offset, which counts bytes from the
front of the text. Where a character takes several bytes not every offset is between two characters, and a text
can be cut at those that are, its ends included.

* `takeWhile_dropWhile_append`, `eq_append_of_dropWhile` — the parts before and behind a mark.
* `IsBoundary`, `cut?` — the offsets at which a text can be cut, and the two parts.
* `isBoundary_iff`, `cut?_eq_some_iff` — they are the lengths of the parts before.
* `length_le_utf8ByteSize` — there are at least as many bytes as characters.
* `offsetOf?` — the offset at which a mark first stands.
* `offsetOf?_eq_some_iff`, `isBoundary_of_offsetOf?` — before and behind it a text can be cut.
-/

namespace NameDomains.Text

/-! ### Marks -/

/-- **A text is divided where a mark first stands.** -/
theorem takeWhile_dropWhile_append {mark : Char} {before : List Char} (free : mark ∉ before)
    (after : List Char) :
    (before ++ mark :: after).takeWhile (· ≠ mark) = before ∧
      (before ++ mark :: after).dropWhile (· ≠ mark) = mark :: after := by
  have inside : ∀ c ∈ before, decide (c ≠ mark) = true := fun c listed =>
    decide_eq_true fun same => free (same ▸ listed)
  rw [List.takeWhile_append_of_pos inside, List.dropWhile_append_of_pos inside,
    List.takeWhile_cons_of_neg (by simp), List.dropWhile_cons_of_neg (by simp), List.append_nil]
  exact ⟨rfl, rfl⟩

/-- The parts before and behind the first mark, and the mark, are the text. -/
theorem eq_append_of_dropWhile {mark found : Char} {text left : List Char}
    (ending : text.dropWhile (· ≠ mark) = found :: left) :
    mark ∉ text.takeWhile (· ≠ mark) ∧ text = text.takeWhile (· ≠ mark) ++ mark :: left := by
  obtain rfl : found = mark := by
    have refused := List.head?_dropWhile_not (· ≠ mark) text
    rw [ending] at refused
    exact Decidable.not_not.mp (of_decide_eq_false refused)
  refine ⟨fun member => ?_, ?_⟩
  · have inside := List.all_eq_true.mp List.all_takeWhile found member
    exact absurd rfl (of_decide_eq_true inside)
  · rw [← ending, List.takeWhile_append_dropWhile]

/-! ### Cutting -/

/-- An offset at an end of a text or between two of its characters. -/
abbrev IsBoundary (text : String) (offset : Nat) : Prop := (String.Pos.Raw.mk offset).IsValid text

/-- The parts of a text before and behind an offset; none if the text has no such offset or a character stands
across it. -/
def cut? (text : String) (offset : Nat) : Option (String × String) :=
  if boundary : IsBoundary text offset then
    some ((text.sliceTo (text.pos ⟨offset⟩ boundary)).copy,
      (text.sliceFrom (text.pos ⟨offset⟩ boundary)).copy)
  else none

/-- **A text can be cut at the lengths of its parts.** -/
theorem isBoundary_iff {text : String} {offset : Nat} :
    IsBoundary text offset ↔ ∃ before after, text = before ++ after ∧ offset = before.utf8ByteSize := by
  refine String.Pos.Raw.isValid_iff_exists_append.trans ?_
  simp only [String.rawEndPos, String.Pos.Raw.mk.injEq]

theorem isBoundary_append (before after : String) : IsBoundary (before ++ after) before.utf8ByteSize :=
  isBoundary_iff.mpr ⟨before, after, rfl, rfl⟩

/-- **A text is cut into what it was put together from.** -/
theorem cut?_append (before after : String) :
    cut? (before ++ after) before.utf8ByteSize = some (before, after) := by
  have boundary := isBoundary_append before after
  have parts := ((before ++ after).pos ⟨before.utf8ByteSize⟩ boundary).splits
  have given : ((before ++ after).pos ⟨before.utf8ByteSize⟩ boundary).Splits before after :=
    String.Pos.splits_append_rawEndPos
  rw [cut?, dif_pos boundary, parts.eq_left given, parts.eq_right given]

theorem cut?_eq_some_iff {text before after : String} {offset : Nat} :
    cut? text offset = some (before, after) ↔ text = before ++ after ∧ offset = before.utf8ByteSize := by
  constructor
  · intro divided
    by_cases boundary : IsBoundary text offset
    · obtain ⟨front, rest, rfl, rfl⟩ := isBoundary_iff.mp boundary
      rw [cut?_append] at divided
      obtain ⟨rfl, rfl⟩ := Prod.mk.inj (Option.some.inj divided)
      exact ⟨rfl, rfl⟩
    · rw [cut?, dif_neg boundary] at divided
      cases divided
  · rintro ⟨rfl, rfl⟩
    exact cut?_append before after

/-- Less text is left behind any offset but the first one. -/
theorem utf8ByteSize_of_cut? {text before after : String} {offset : Nat}
    (divided : cut? text offset = some (before, after)) :
    text.utf8ByteSize = offset + after.utf8ByteSize := by
  obtain ⟨rfl, rfl⟩ := cut?_eq_some_iff.mp divided
  exact String.utf8ByteSize_append

/-- A text is cut behind its first character. -/
theorem cut?_first (c : Char) (rest : List Char) :
    cut? (String.ofList (c :: rest)) c.utf8Size = some (String.singleton c, String.ofList rest) := by
  rw [String.ofList_cons, ← String.utf8ByteSize_singleton, cut?_append]

/-- A text can be cut behind its first character. -/
theorem isBoundary_of_head? {text : String} {c : Char} (starts : text.toList.head? = some c) :
    IsBoundary text c.utf8Size := by
  obtain ⟨rest, written⟩ := List.head?_eq_some_iff.mp starts
  refine isBoundary_iff.mpr ⟨String.singleton c, String.ofList rest, ?_, String.utf8ByteSize_singleton.symm⟩
  rw [← String.ofList_cons, ← written, String.ofList_toList]

/-- Every character takes a byte at least. -/
theorem length_le_utf8ByteSize (text : List Char) : text.length ≤ (String.ofList text).utf8ByteSize := by
  induction text with
  | nil => exact Nat.zero_le _
  | cons c rest shorter =>
    have positive := c.utf8Size_pos
    rw [String.ofList_cons, String.utf8ByteSize_append, String.utf8ByteSize_singleton, List.length_cons]
    omega

/-! ### Finding -/

/-- The offset at which a character first stands. -/
def offsetOf? (mark : Char) (text : String) : Option Nat :=
  if mark ∈ text.toList then some (String.ofList (text.toList.takeWhile (· ≠ mark))).utf8ByteSize else none

theorem offsetOf?_eq_none_iff {mark : Char} {text : String} :
    offsetOf? mark text = none ↔ mark ∉ text.toList := by
  rw [offsetOf?]
  split
  · next found => simp [found]
  · next missing => simp [missing]

/-- **A character is found behind a part that is free of it.** -/
theorem offsetOf?_append {mark : Char} {before : String} (free : mark ∉ before.toList) (after : String) :
    offsetOf? mark (before ++ String.singleton mark ++ after) = some before.utf8ByteSize := by
  have written : (before ++ String.singleton mark ++ after).toList =
      before.toList ++ mark :: after.toList := by
    simp
  rw [offsetOf?, written, if_pos (List.mem_append_right _ List.mem_cons_self),
    (takeWhile_dropWhile_append free _).1, String.ofList_toList]

theorem offsetOf?_eq_some_iff {mark : Char} {text : String} {offset : Nat} :
    offsetOf? mark text = some offset ↔
      ∃ before after, text = before ++ String.singleton mark ++ after ∧ mark ∉ before.toList ∧
        offset = before.utf8ByteSize := by
  constructor
  · intro found
    have listed : mark ∈ text.toList := Classical.not_not.mp fun missing => by
      rw [offsetOf?_eq_none_iff.mpr missing] at found
      cases found
    obtain ⟨before, after, divided, free⟩ := List.eq_append_cons_of_mem listed
    have written : text = String.ofList before ++ String.singleton mark ++ String.ofList after := by
      apply String.toList_injective
      simp [divided]
    have ownFree : mark ∉ (String.ofList before).toList := by rwa [String.toList_ofList]
    rw [written, offsetOf?_append ownFree] at found
    exact ⟨_, _, written, ownFree, (Option.some.inj found).symm⟩
  · rintro ⟨before, after, rfl, free, rfl⟩
    exact offsetOf?_append free after

/-- A character that a text does not start with is not found at its front. -/
theorem offsetOf?_ne_zero {mark c : Char} {text : String} {offset : Nat} (starts : text.toList.head? = some c)
    (other : c ≠ mark) (found : offsetOf? mark text = some offset) : offset ≠ 0 := by
  obtain ⟨before, after, rfl, -, rfl⟩ := offsetOf?_eq_some_iff.mp found
  intro empty
  rw [String.utf8ByteSize_eq_zero_iff.mp empty] at starts
  simp [other.symm] at starts

/-- **A text can be cut before and behind a character that was found.** -/
theorem isBoundary_of_offsetOf? {mark : Char} {text : String} {offset : Nat}
    (found : offsetOf? mark text = some offset) :
    IsBoundary text offset ∧ IsBoundary text (offset + mark.utf8Size) := by
  obtain ⟨before, after, rfl, -, rfl⟩ := offsetOf?_eq_some_iff.mp found
  constructor
  · rw [String.append_assoc]
    exact isBoundary_append _ _
  · rw [← String.utf8ByteSize_singleton, ← String.utf8ByteSize_append]
    exact isBoundary_append _ _

end NameDomains.Text
