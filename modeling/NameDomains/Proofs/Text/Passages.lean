/-
**Hiding takes a text passage by passage.**

From left to right a text is divided into quoted texts, each taken as soon as it starts, and characters where
none starts. Hiding replaces the former and keeps the latter. It makes no new quoted text: where none started
because a backslash stood before an end of line, or because no mark was left, the same is there afterwards. So
what is hidden once is divided in the same way, and hiding it again changes nothing.

* `Inside`, `IsQuoted`, `Passages` — quoted texts, and how a text is divided.
* `afterQuote?_eq_some_iff` — what is passed over.
* `Passages.unique`, `exists_passages` — every text is divided in one way.
* `afterQuote?_redactChars` — a mark that nothing closed is not closed by hiding.
* `Passages.redact` — how a hidden text is divided.
* `redact_by_passages` — all of it.
-/

import NameDomains.Proofs.Text.Redaction

namespace NameDomains.Text

/-! ### Quoted texts -/

/-- What may stand between the marks of a quoted text: any characters but marks and backslashes, and backslashes
each with a character after it that is no end of line. -/
inductive Inside : List Char → Prop
  | nil : Inside []
  | plain {c : Char} {rest : List Char} (mark : c ≠ '"') (backslash : c ≠ '\\') (later : Inside rest) :
      Inside (c :: rest)
  | escaped {c : Char} {rest : List Char} (inLine : c ≠ '\n') (later : Inside rest) :
      Inside ('\\' :: c :: rest)

/-- A quoted text with both of its marks. -/
def IsQuoted (text : List Char) : Prop := ∃ inside, Inside inside ∧ text = '"' :: inside ++ ['"']

/-- **What is passed over is the inside of a quoted text and the mark that closes it.** -/
theorem afterQuote?_eq_some_iff {text left : List Char} :
    afterQuote? text = some left ↔ ∃ inside, Inside inside ∧ text = inside ++ '"' :: left := by
  constructor
  · intro found
    fun_induction afterQuote? text with
    | case1 => cases found
    | case2 rest => exact ⟨[], .nil, by rw [Option.some.inj found, List.nil_append]⟩
    | case3 => cases found
    | case4 => cases found
    | case5 c rest inLine passed =>
      obtain ⟨inside, formed, rfl⟩ := passed found
      exact ⟨'\\' :: c :: inside, .escaped inLine formed, rfl⟩
    | case6 c rest mark last more passed =>
      obtain ⟨inside, formed, rfl⟩ := passed found
      -- A backslash is never alone here, as a mark at least follows it.
      have backslash : c ≠ '\\' := by
        rintro rfl
        cases written : inside ++ '"' :: left with
        | nil => simp at written
        | cons next rest => exact more next rest rfl written
      exact ⟨c :: inside, .plain mark backslash formed, rfl⟩
  · rintro ⟨inside, formed, rfl⟩
    induction formed with
    | nil => rfl
    | plain mark backslash _ passed => rw [List.cons_append, afterQuote?_cons mark backslash, passed]
    | escaped inLine _ passed =>
      rw [List.cons_append, List.cons_append, afterQuote?_backslash inLine, passed]

/-- **A quoted text starts where a mark does that is closed**, and ends there. -/
theorem starts_iff {c : Char} {rest left : List Char} :
    (∃ text, IsQuoted text ∧ c :: rest = text ++ left) ↔ c = '"' ∧ afterQuote? rest = some left := by
  rw [afterQuote?_eq_some_iff]
  constructor
  · rintro ⟨_, ⟨inside, formed, rfl⟩, same⟩
    rw [List.cons_append, List.cons_append, List.append_assoc, List.singleton_append] at same
    obtain ⟨rfl, rfl⟩ := List.cons.inj same
    exact ⟨rfl, inside, formed, rfl⟩
  · rintro ⟨rfl, inside, formed, rfl⟩
    refine ⟨_, ⟨inside, formed, rfl⟩, ?_⟩
    rw [List.cons_append, List.cons_append, List.append_assoc, List.singleton_append]

/-- Quoted texts at the front of one text are the same. -/
theorem IsQuoted.append_inj {text other rest left : List Char} (quoted : IsQuoted text)
    (otherQuoted : IsQuoted other) (same : text ++ rest = other ++ left) : text = other ∧ rest = left := by
  obtain ⟨inside, formed, rfl⟩ := quoted
  obtain ⟨-, ends⟩ := starts_iff.mp ⟨_, ⟨inside, formed, rfl⟩, List.cons_append.symm⟩
  obtain ⟨-, otherEnds⟩ := starts_iff.mp ⟨other, otherQuoted, List.cons_append.symm.trans same⟩
  obtain rfl : rest = left := Option.some.inj (ends.symm.trans otherEnds)
  exact ⟨List.append_cancel_right same, rfl⟩

/-! ### Passages -/

/-- A part of a text: a character that stands for itself, or a quoted text. -/
inductive Passage
  | plain (c : Char)
  | quoted (text : List Char)

namespace Passage

/-- The characters of a passage. -/
def chars : Passage → List Char
  | plain c => [c]
  | quoted text => text

/-- What is left of a passage. -/
def hide : Passage → Passage
  | plain c => plain c
  | quoted _ => quoted redacted

end Passage

/-- How a text is divided from left to right: into quoted texts, wherever one starts, and into characters where
none does. -/
inductive Passages : List Char → List Passage → Prop
  | nil : Passages [] []
  | quoted {text rest : List Char} {passages : List Passage} (formed : IsQuoted text)
      (later : Passages rest passages) : Passages (text ++ rest) (.quoted text :: passages)
  | plain {c : Char} {rest : List Char} {passages : List Passage}
      (none : ∀ text left, IsQuoted text → c :: rest ≠ text ++ left) (later : Passages rest passages) :
      Passages (c :: rest) (.plain c :: passages)

/-- No quoted text starts at other characters than marks, or at marks that nothing closes. -/
theorem none_starts_iff {c : Char} {rest : List Char} :
    (∀ text left, IsQuoted text → c :: rest ≠ text ++ left) ↔ c = '"' → afterQuote? rest = none := by
  constructor
  · rintro none rfl
    refine Option.eq_none_iff_forall_ne_some.mpr fun left passed => ?_
    obtain ⟨text, quoted, same⟩ := starts_iff.mpr ⟨rfl, passed⟩
    exact none text left quoted same
  · intro opens text left quoted same
    obtain ⟨mark, passed⟩ := starts_iff.mp ⟨text, quoted, same⟩
    rw [opens mark] at passed
    cases passed

theorem IsQuoted.ne_nil {text : List Char} (quoted : IsQuoted text) : text ≠ [] := by
  obtain ⟨inside, -, rfl⟩ := quoted
  exact List.cons_ne_nil _ _

namespace Passages

/-- Passages one after another are the text. -/
theorem flatMap_chars {text : List Char} {passages : List Passage} (divided : Passages text passages) :
    passages.flatMap Passage.chars = text := by
  induction divided with
  | nil => rfl
  | quoted _ _ same => rw [List.flatMap_cons, same, Passage.chars]
  | plain _ _ same => rw [List.flatMap_cons, same, Passage.chars, List.singleton_append]

/-- **A text is divided in one way only.** -/
theorem unique {text : List Char} {passages others : List Passage} (divided : Passages text passages)
    (otherwise : Passages text others) : others = passages := by
  induction divided generalizing others with
  | nil =>
    generalize whole : ([] : List Char) = text at otherwise
    cases otherwise with
    | nil => rfl
    | quoted formed _ => exact absurd (List.append_eq_nil_iff.mp whole.symm).1 formed.ne_nil
    | plain => cases whole
  | @quoted text rest passages formed _ same =>
    generalize whole : text ++ rest = written at otherwise
    cases otherwise with
    | nil => exact absurd (List.append_eq_nil_iff.mp whole).1 formed.ne_nil
    | quoted otherFormed later =>
      obtain ⟨rfl, rfl⟩ := formed.append_inj otherFormed whole
      rw [same later]
    | plain none _ => exact absurd whole.symm (none _ _ formed)
  | @plain c rest passages none _ same =>
    generalize whole : c :: rest = written at otherwise
    cases otherwise with
    | nil => cases whole
    | quoted formed _ => exact absurd whole (none _ _ formed)
    | plain _ later =>
      obtain ⟨rfl, rfl⟩ := List.cons.inj whole
      rw [same later]

end Passages

/-! ### Hiding -/

theorem redactChars_cons {c : Char} (mark : c ≠ '"') (rest : List Char) :
    redactChars (c :: rest) = c :: redactChars rest := by
  have free : '"' ∉ [c] := fun found => mark (List.mem_singleton.mp found).symm
  exact redactChars_append free rest

theorem redactChars_open {rest : List Char} (unclosed : afterQuote? rest = none) :
    redactChars ('"' :: rest) = '"' :: redactChars rest := by
  rw [redactChars]
  grind

/-- Hiding keeps a character where no quoted text starts. -/
theorem redactChars_plain {c : Char} {rest : List Char} (opens : c = '"' → afterQuote? rest = none) :
    redactChars (c :: rest) = c :: redactChars rest := by
  by_cases mark : c = '"'
  · subst mark
    exact redactChars_open (opens rfl)
  · exact redactChars_cons mark rest

/-- Hiding replaces a quoted text at the front. -/
theorem redactChars_quoted {text : List Char} (quoted : IsQuoted text) (rest : List Char) :
    redactChars (text ++ rest) = redacted ++ redactChars rest := by
  obtain ⟨inside, formed, rfl⟩ := quoted
  rw [List.cons_append, List.cons_append, List.append_assoc, List.singleton_append]
  exact redactChars_mark (afterQuote?_eq_some_iff.mpr ⟨inside, formed, rfl⟩)

/-- **A mark that nothing closed is not closed by hiding.** Marks that a backslash stood before are not closed
either, as what follows them is what followed there. -/
theorem afterQuote?_redactChars {text : List Char} (unclosed : afterQuote? text = none) :
    afterQuote? (redactChars text) = none := by
  fun_induction afterQuote? text with
  | case1 => rw [redactChars]; rfl
  | case2 => cases unclosed
  | case3 => rw [redactChars_cons (by decide), redactChars]; rfl
  | case4 rest =>
    rw [redactChars_cons (by decide), redactChars_cons (by decide), afterQuote?]
    exact if_pos rfl
  | case5 c rest inLine same =>
    have kept : redactChars (c :: rest) = c :: redactChars rest := redactChars_plain fun _ => unclosed
    rw [redactChars_cons (by decide), kept, afterQuote?_backslash inLine, same unclosed]
  | case6 c rest mark last more same =>
    have backslash : c ≠ '\\' := by
      rintro rfl
      cases rest with
      | nil => exact last rfl rfl
      | cons next rest => exact more next rest rfl rfl
    rw [redactChars_cons mark, afterQuote?_cons mark backslash, same unclosed]

theorem isQuoted_redacted : IsQuoted redacted := by
  have ordinary : ∀ c ∈ "<redacted>".toList, c ≠ '"' ∧ c ≠ '\\' := by simp
  have inside : ∀ text : List Char, (∀ c ∈ text, c ≠ '"' ∧ c ≠ '\\') → Inside text := by
    intro text
    induction text with
    | nil => exact fun _ => .nil
    | cons c text formed =>
      intro ordinary
      obtain ⟨⟨mark, backslash⟩, others⟩ := List.forall_mem_cons.mp ordinary
      exact .plain mark backslash (formed others)
  exact ⟨_, inside _ ordinary, by decide⟩

/-- Every text is divided somehow. -/
theorem exists_passages (text : List Char) : ∃ passages, Passages text passages := by
  fun_induction redactChars text with
  | case1 => exact ⟨[], .nil⟩
  | case2 rest left passed shorter later =>
    obtain ⟨passages, divided⟩ := later
    obtain ⟨text, quoted, same⟩ := starts_iff.mpr ⟨rfl, passed⟩
    rw [same]
    exact ⟨_, .quoted quoted divided⟩
  | case3 rest unclosed later =>
    obtain ⟨passages, divided⟩ := later
    exact ⟨_, .plain (none_starts_iff.mpr fun _ => unclosed) divided⟩
  | case4 c rest mark later =>
    obtain ⟨passages, divided⟩ := later
    exact ⟨_, .plain (none_starts_iff.mpr fun found => absurd found mark) divided⟩

/-- **A hidden text is divided as the text is**, with every quoted text replaced. -/
theorem Passages.redact {text : List Char} {passages : List Passage} (divided : Passages text passages) :
    Passages (redactChars text) (passages.map Passage.hide) := by
  induction divided with
  | nil =>
    rw [redactChars]
    exact .nil
  | quoted formed _ later =>
    rw [redactChars_quoted formed]
    exact .quoted isQuoted_redacted later
  | plain none _ later =>
    have opens := none_starts_iff.mp none
    rw [redactChars_plain opens]
    exact .plain (none_starts_iff.mpr fun mark => afterQuote?_redactChars (opens mark)) later

/-- What is left of a passage stays when it is hidden again. -/
theorem Passage.hide_hide (passage : Passage) : passage.hide.hide = passage.hide := by
  cases passage <;> rfl

/-- Hiding a hidden text changes nothing. -/
theorem redactChars_redactChars (text : List Char) : redactChars (redactChars text) = redactChars text := by
  obtain ⟨passages, divided⟩ := exists_passages text
  have again := divided.redact.redact.flatMap_chars
  rw [List.map_map, List.map_congr_left fun passage _ => passage.hide_hide] at again
  exact again.symm.trans divided.redact.flatMap_chars

/-- **Hiding replaces every quoted text and keeps the rest.** Whatever is quoted, it is replaced, and what stands
around it is not. A message is divided into passages in one way; the hidden message is divided into the same
passages with every quoted text replaced, so all others are kept in order and no other quoted text is left; and
hiding it again changes nothing. -/
theorem redact_by_passages (message : String) :
    (∀ value before after : String, '"' ∉ before.toList → '"' ∉ after.toList →
      redact (before ++ quote value ++ after) = before ++ "\"<redacted>\"" ++ after) ∧
    redact (redact message) = redact message ∧
    ∃ passages, Passages message.toList passages ∧
      (∀ others, Passages message.toList others → others = passages) ∧
      Passages (redact message).toList (passages.map Passage.hide) ∧
      message.toList = passages.flatMap Passage.chars ∧
      (redact message).toList = (passages.map Passage.hide).flatMap Passage.chars ∧
      ∀ others text, Passages (redact message).toList others → .quoted text ∈ others →
        text = "\"<redacted>\"".toList := by
  obtain ⟨passages, divided⟩ := exists_passages message.toList
  have hidden : Passages (redact message).toList (passages.map Passage.hide) := by
    rw [Text.redact, String.toList_ofList]
    exact divided.redact
  refine ⟨fun value before after freeBefore freeAfter => redact_append_quote freeBefore freeAfter value, ?_,
    passages, divided, fun _ => divided.unique, hidden, divided.flatMap_chars.symm, hidden.flatMap_chars.symm,
    fun others text otherwise listed => ?_⟩
  · rw [Text.redact, Text.redact, String.toList_ofList, redactChars_redactChars]
  · rw [hidden.unique otherwise] at listed
    obtain ⟨passage, -, same⟩ := List.mem_map.mp listed
    cases passage with
    | plain c => cases same
    | quoted other => exact (Passage.quoted.inj same).symm

/-- A mark that an end of line keeps open, a quoted text with a mark in it, and a mark that nothing closes. -/
theorem redact_by_passages_open_marks :
    let message := "\"s\\\n\"k\\\"ey\" \""
    ('"' ∉ "string ".toList ∧ '"' ∉ ", expected".toList) ∧
      redact ("string " ++ quote "a\"\\" ++ ", expected") = "string \"<redacted>\", expected" ∧
      redact message = "\"s\\\n\"<redacted>\" \"" ∧ redact (redact message) = redact message ∧
      ∀ others text, Passages (redact message).toList others → .quoted text ∈ others →
        text = "\"<redacted>\"".toList := by
  intro message
  have free : '"' ∉ "string ".toList ∧ '"' ∉ ", expected".toList := by decide
  obtain ⟨quotes, again, passages, -, -, -, -, -, hidden⟩ := redact_by_passages message
  refine ⟨free, quotes _ _ _ free.1 free.2, ?_, again, hidden⟩
  decide +kernel

end NameDomains.Text
