/-
**A quoted text is hidden to its end.**

Quoting puts a backslash before everything that could end a quoted text or hide its end: marks, backslashes
and whatever is written by a letter or by a number. So hiding never stops inside a quoted text, whatever was
quoted, and never runs beyond it:

* `afterQuote?_flatMap_escape` — behind its opening mark a quoted text is passed over exactly.
* `redactChars_append` — what stands before the first mark stays.
* `redact_append_quote` — a quoted text is replaced, and what stands around it is not.
-/

import NameDomains.Text.Quoted
import NameDomains.Text.Redaction

namespace NameDomains.Text

/-! ### Passing over -/

theorem afterQuote?_cons {c : Char} (mark : c ≠ '"') (backslash : c ≠ '\\') (rest : List Char) :
    afterQuote? (c :: rest) = afterQuote? rest := by
  rw [afterQuote?.eq_def]
  split
  · next nothing => cases nothing
  · next same => exact absurd (List.cons.inj same).1 mark
  · next same => exact absurd (List.cons.inj same).1 backslash
  · next same => exact absurd (List.cons.inj same).1 backslash
  · next same => rw [(List.cons.inj same).2]

theorem afterQuote?_append {written : List Char} (ordinary : ∀ c ∈ written, c ≠ '"' ∧ c ≠ '\\')
    (rest : List Char) : afterQuote? (written ++ rest) = afterQuote? rest := by
  induction written with
  | nil => rfl
  | cons c written passed =>
    obtain ⟨⟨mark, backslash⟩, others⟩ := List.forall_mem_cons.mp ordinary
    rw [List.cons_append, afterQuote?_cons mark backslash, passed others]

/-- A backslash is passed over together with what follows it. -/
theorem afterQuote?_backslash {c : Char} (inLine : c ≠ '\n') (rest : List Char) :
    afterQuote? ('\\' :: c :: rest) = afterQuote? rest := by
  rw [afterQuote?]
  exact if_neg inLine

/-- Numbers are written with digits. -/
theorem exists_digitChar_of_mem_toDigits {base number : Nat} {c : Char} (counts : 1 < base)
    (member : c ∈ Nat.toDigits base number) : ∃ digit : Nat, c = digit.digitChar := by
  induction number using Nat.strongRecOn with
  | _ number smaller =>
    rw [Nat.toDigits_eq_if counts] at member
    split at member
    · exact ⟨number, List.mem_singleton.mp member⟩
    · next large =>
      rcases List.mem_append.mp member with before | last
      · exact smaller (number / base) (Nat.div_lt_self (by omega) counts) before
      · exact ⟨_, List.mem_singleton.mp last⟩

/-- **A written character is passed over**, however it is written. -/
theorem afterQuote?_escape_append (c : Char) (rest : List Char) :
    afterQuote? (escape c ++ rest) = afterQuote? rest := by
  unfold escape
  iterate 6
    split
    · exact afterQuote?_backslash (by decide) rest
  split
  · -- A number between braces holds neither mark nor backslash.
    have ordinary : ∀ d ∈ '\x7b' :: Nat.toDigits 16 c.toNat ++ ['\x7d'], d ≠ '"' ∧ d ≠ '\\' := by
      intro d member
      rw [List.cons_append, List.mem_cons, List.mem_append, List.mem_singleton] at member
      rcases member with rfl | digit | rfl
      · exact ⟨by decide, by decide⟩
      · obtain ⟨digit, rfl⟩ := exists_digitChar_of_mem_toDigits (by decide) digit
        exact ⟨Nat.digitChar_ne '"' (by decide), Nat.digitChar_ne '\\' (by decide)⟩
      · exact ⟨by decide, by decide⟩
    calc afterQuote? (['\\', 'u', '\x7b'] ++ Nat.toDigits 16 c.toNat ++ ['\x7d'] ++ rest)
        = afterQuote? ('\\' :: 'u' :: ('\x7b' :: Nat.toDigits 16 c.toNat ++ ['\x7d'] ++ rest)) := rfl
      _ = afterQuote? ('\x7b' :: Nat.toDigits 16 c.toNat ++ ['\x7d'] ++ rest) :=
        afterQuote?_backslash (by decide) _
      _ = afterQuote? rest := afterQuote?_append ordinary rest
  · next backslash mark _ => exact afterQuote?_cons mark backslash rest

/-- **Behind its opening mark a quoted text is passed over exactly.** -/
theorem afterQuote?_flatMap_escape (value rest : List Char) :
    afterQuote? (value.flatMap escape ++ '"' :: rest) = some rest := by
  induction value with
  | nil => rfl
  | cons c value passed =>
    rw [List.flatMap_cons, List.append_assoc, afterQuote?_escape_append, passed]

/-! ### Hiding -/

theorem redactChars_append {before : List Char} (free : '"' ∉ before) (rest : List Char) :
    redactChars (before ++ rest) = before ++ redactChars rest := by
  induction before with
  | nil => rfl
  | cons c before same =>
    have mark : c ≠ '"' := fun found => free (found ▸ List.mem_cons_self)
    have kept := same fun later => free (List.mem_cons_of_mem c later)
    rw [List.cons_append, redactChars, kept, List.cons_append]
    exact fun found => absurd found mark

theorem redactChars_of_free {text : List Char} (free : '"' ∉ text) : redactChars text = text := by
  have whole := redactChars_append free []
  rwa [List.append_nil, redactChars, List.append_nil] at whole

theorem redactChars_mark {rest left : List Char} (passed : afterQuote? rest = some left) :
    redactChars ('"' :: rest) = redacted ++ redactChars left := by
  rw [redactChars]
  grind

theorem redactChars_quoteChars_append (value rest : List Char) :
    redactChars (quoteChars value ++ rest) = redacted ++ redactChars rest := by
  have written : quoteChars value ++ rest = '"' :: (value.flatMap escape ++ '"' :: rest) := by
    rw [quoteChars, List.cons_append, List.cons_append, List.append_assoc, List.singleton_append]
  rw [written, redactChars_mark (afterQuote?_flatMap_escape value rest)]

/-- **A quoted text is replaced, whatever it says, and what stands around it is not.** -/
theorem redact_append_quote {before after : String} (freeBefore : '"' ∉ before.toList)
    (freeAfter : '"' ∉ after.toList) (value : String) :
    redact (before ++ quote value ++ after) = before ++ "\"<redacted>\"" ++ after := by
  rw [redact, quote, String.toList_append, String.toList_append, String.toList_ofList,
    List.append_assoc, redactChars_append freeBefore, redactChars_quoteChars_append,
    redactChars_of_free freeAfter]
  apply String.toList_injective
  simp only [String.toList_ofList, String.toList_append, List.append_assoc]
  rfl

end NameDomains.Text
