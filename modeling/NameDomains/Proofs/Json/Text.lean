/-
**Quoted texts and their codes.**

Inside quotation marks a character stands for itself or is written by a letter or by its 16-bit codes, of
which a character beyond the first `0x10000` has two. So there are many ways to write a text; reading any of
them gives the text.

* `TextUnit.Spelled`, `UnitsSpelled` — how the pieces of a quoted text are written.
* `readUnits_append` — written pieces are read up to the closing mark.
* `SameCodes` — pieces and a text that have the same codes.
* `decodeUnits_eq_some_iff` — pieces make exactly the text with their codes.
-/

import NameDomains.Json.Text

namespace NameDomains.Json

/-! ### Codes -/

/-- The 16-bit codes of a character: one, or a pair of surrogates. -/
def codesOf (c : Char) : List Nat :=
  if c.toNat < 0x10000 then [c.toNat]
  else [0xD800 + (c.toNat - 0x10000) / 0x400, 0xDC00 + (c.toNat - 0x10000) % 0x400]

def TextUnit.codes : TextUnit → List Nat
  | char c => codesOf c
  | code value => [value]

/-- Pieces and a text that have the same codes. -/
def SameCodes (units : List TextUnit) (value : List Char) : Prop :=
  units.flatMap TextUnit.codes = value.flatMap codesOf

/-- A character has one code, which is no surrogate, or a pair of surrogates. -/
theorem codesOf_cases (c : Char) :
    (codesOf c = [c.toNat] ∧ c.toNat < 0x10000 ∧ isLeading c.toNat = false ∧ isTrailing c.toNat = false) ∨
      ∃ high low, codesOf c = [high, low] ∧ isLeading high = true ∧ isTrailing low = true ∧
        0x10000 + (high - 0xD800) * 0x400 + (low - 0xDC00) = c.toNat := by
  have valid : c.toNat < 0xD800 ∨ 0xDFFF < c.toNat ∧ c.toNat < 0x110000 := c.valid
  by_cases small : c.toNat < 0x10000
  · refine .inl ⟨if_pos small, small, ?_, ?_⟩
    · simp only [isLeading, Bool.and_eq_false_iff, decide_eq_false_iff_not]
      omega
    · simp only [isTrailing, Bool.and_eq_false_iff, decide_eq_false_iff_not]
      omega
  · refine .inr ⟨_, _, if_neg small, ?_, ?_, ?_⟩
    · simp only [isLeading, Bool.and_eq_true, decide_eq_true_eq]
      omega
    · simp only [isTrailing, Bool.and_eq_true, decide_eq_true_eq]
      omega
    · omega

theorem exists_char_toNat {number : Nat} (valid : number.isValidChar) : ∃ c : Char, c.toNat = number :=
  ⟨Char.ofNatAux number valid, rfl⟩

theorem codesOf_ne_nil (c : Char) : codesOf c ≠ [] := by
  rcases codesOf_cases c with ⟨one, -⟩ | ⟨high, low, two, -⟩
  · exact one ▸ List.cons_ne_nil _ _
  · exact two ▸ List.cons_ne_nil _ _

theorem isTrailing_of_isLeading {value : Nat} (leading : isLeading value = true) :
    isTrailing value = false := by
  simp only [isLeading, Bool.and_eq_true, decide_eq_true_eq] at leading
  simp only [isTrailing, Bool.and_eq_false_iff, decide_eq_false_iff_not]
  omega

/-- The first code of a character is not the second of a pair. -/
theorem isTrailing_of_codesOf {c : Char} {first : Nat} {codes others : List Nat}
    (same : codesOf c ++ codes = first :: others) : isTrailing first = false := by
  rcases codesOf_cases c with ⟨one, -, -, plain⟩ | ⟨high, low, two, leading, -⟩
  · rw [one] at same
    exact (List.cons.inj same).1 ▸ plain
  · rw [two] at same
    exact (List.cons.inj same).1 ▸ isTrailing_of_isLeading leading

/-- **The codes of a character are told apart from what follows them.** -/
theorem codesOf_append_inj {c d : Char} {codes others : List Nat}
    (same : codesOf c ++ codes = codesOf d ++ others) : c = d ∧ codes = others := by
  rcases codesOf_cases c with ⟨one, -, plain, -⟩ | ⟨high, low, two, leading, trailing, value⟩ <;>
  rcases codesOf_cases d with ⟨other, -, otherPlain, -⟩ | ⟨high', low', others', leading', trailing', value'⟩
  · rw [one, other] at same
    obtain ⟨first, rest⟩ := List.cons.inj same
    exact ⟨Char.toNat_inj.mp first, rest⟩
  · rw [one, others'] at same
    rw [(List.cons.inj same).1, leading'] at plain
    cases plain
  · rw [two, other] at same
    rw [← (List.cons.inj same).1, leading] at otherPlain
    cases otherPlain
  · rw [two, others'] at same
    obtain ⟨rfl, later⟩ := List.cons.inj same
    obtain ⟨rfl, rest⟩ := List.cons.inj later
    exact ⟨Char.toNat_inj.mp (value.symm.trans value'), rest⟩

/-! ### Decoding -/

theorem decodeUnits_code_cons {value : Nat} (notLeading : isLeading value = false)
    (notTrailing : isTrailing value = false) (rest : List TextUnit) :
    decodeUnits (.code value :: rest) = (decodeUnits rest).map (Char.ofNat value :: ·) := by
  cases rest with
  | nil => simp [decodeUnits, notLeading, notTrailing]
  | cons unit rest =>
    cases unit with
    | char c => simp [decodeUnits, notLeading, notTrailing]
    | code low => rw [decodeUnits, notLeading, notTrailing]; rfl

theorem decodeUnits_pair_cons {high low : Nat} (leading : isLeading high = true)
    (trailing : isTrailing low = true) (rest : List TextUnit) :
    decodeUnits (.code high :: .code low :: rest) =
      (decodeUnits rest).map (Char.ofNat (0x10000 + (high - 0xD800) * 0x400 + (low - 0xDC00)) :: ·) := by
  rw [decodeUnits, if_pos leading, if_pos trailing]

theorem decodeUnits_of_sameCodes {units : List TextUnit} {value : List Char} (same : SameCodes units value) :
    decodeUnits units = some value := by
  induction value generalizing units with
  | nil =>
    cases units with
    | nil => rfl
    | cons unit units =>
      cases unit with
      | char c => exact absurd (List.append_eq_nil_iff.mp same).1 (codesOf_ne_nil c)
      | code value => cases same
  | cons d value made =>
    have said : units.flatMap TextUnit.codes = codesOf d ++ value.flatMap codesOf := same
    cases units with
    | nil => exact absurd (List.append_eq_nil_iff.mp said.symm).1 (codesOf_ne_nil d)
    | cons unit units =>
      cases unit with
      | char c =>
        obtain ⟨rfl, rest⟩ := codesOf_append_inj said
        rw [decodeUnits, made rest]
        rfl
      | code first =>
        rcases codesOf_cases d with ⟨one, -, notLeading, notTrailing⟩ | ⟨high, low, two, leading, trailing, pair⟩
        · rw [one] at said
          obtain ⟨rfl, rest⟩ := List.cons.inj said
          rw [decodeUnits_code_cons notLeading notTrailing, made rest, Char.ofNat_toNat]
          rfl
        · rw [two] at said
          obtain ⟨rfl, later⟩ := List.cons.inj said
          -- The second surrogate cannot be the beginning of a character, so it is written by its code.
          cases units with
          | nil => cases later
          | cons unit units =>
            cases unit with
            | char c =>
              have notTrailing := isTrailing_of_codesOf later
              rw [notTrailing] at trailing
              cases trailing
            | code second =>
              obtain ⟨rfl, rest⟩ := List.cons.inj later
              rw [decodeUnits_pair_cons leading trailing, made rest, pair, Char.ofNat_toNat]
              rfl

theorem codesOf_ofNat {value : Nat} (small : value < 0x10000) (notLeading : isLeading value = false)
    (notTrailing : isTrailing value = false) : codesOf (Char.ofNat value) = [value] := by
  have valid : value.isValidChar := by
    simp only [isLeading, Bool.and_eq_false_iff, decide_eq_false_iff_not] at notLeading
    simp only [isTrailing, Bool.and_eq_false_iff, decide_eq_false_iff_not] at notTrailing
    unfold Nat.isValidChar
    omega
  obtain ⟨c, rfl⟩ := exists_char_toNat valid
  rw [Char.ofNat_toNat, codesOf, if_pos small]

theorem codesOf_ofNat_pair {high low : Nat} (leading : isLeading high = true)
    (trailing : isTrailing low = true) :
    codesOf (Char.ofNat (0x10000 + (high - 0xD800) * 0x400 + (low - 0xDC00))) = [high, low] := by
  simp only [isLeading, Bool.and_eq_true, decide_eq_true_eq] at leading
  simp only [isTrailing, Bool.and_eq_true, decide_eq_true_eq] at trailing
  have valid : (0x10000 + (high - 0xD800) * 0x400 + (low - 0xDC00)).isValidChar := by
    unfold Nat.isValidChar
    omega
  obtain ⟨c, number⟩ := exists_char_toNat valid
  have first : 0xD800 + (c.toNat - 0x10000) / 0x400 = high := by omega
  have second : 0xDC00 + (c.toNat - 0x10000) % 0x400 = low := by omega
  rw [← number, Char.ofNat_toNat, codesOf, if_neg (by omega), first, second]

theorem sameCodes_of_decodeUnits {units : List TextUnit} {value : List Char}
    (small : ∀ code, .code code ∈ units → code < 0x10000) (made : decodeUnits units = some value) :
    SameCodes units value := by
  unfold SameCodes
  induction units using decodeUnits.induct generalizing value with
  | case1 => cases made; rfl
  | case2 c rest said =>
    obtain ⟨later, found, rfl⟩ := Option.map_eq_some_iff.mp made
    rw [List.flatMap_cons, said (fun code listed => small code (List.mem_cons_of_mem _ listed)) found]
    rfl
  | case3 high low rest leading trailing said =>
    rw [decodeUnits_pair_cons leading trailing] at made
    obtain ⟨later, found, rfl⟩ := Option.map_eq_some_iff.mp made
    rw [List.flatMap_cons, List.flatMap_cons, List.flatMap_cons, codesOf_ofNat_pair leading trailing,
      said (fun code listed => small code (List.mem_cons_of_mem _ (List.mem_cons_of_mem _ listed))) found]
    rfl
  | case4 high low rest leading notTrailing =>
    rw [decodeUnits, if_pos leading, if_neg notTrailing] at made
    cases made
  | case5 high low rest notLeading trailing =>
    rw [decodeUnits, if_neg notLeading, if_pos trailing] at made
    cases made
  | case6 high low rest notLeading notTrailing said =>
    rw [Bool.not_eq_true] at notLeading notTrailing
    rw [decodeUnits_code_cons notLeading notTrailing] at made
    obtain ⟨later, found, rfl⟩ := Option.map_eq_some_iff.mp made
    rw [List.flatMap_cons, said (fun code listed => small code (List.mem_cons_of_mem _ listed)) found,
      List.flatMap_cons, codesOf_ofNat (small high List.mem_cons_self) notLeading notTrailing]
    rfl
  | case7 first rest last alone =>
    rw [decodeUnits.eq_4 first rest last, if_pos alone] at made
    cases made
  | case8 first rest last plain said =>
    rw [Bool.not_eq_true, Bool.or_eq_false_iff] at plain
    rw [decodeUnits_code_cons plain.1 plain.2] at made
    obtain ⟨later, found, rfl⟩ := Option.map_eq_some_iff.mp made
    rw [List.flatMap_cons, said (fun code listed => small code (List.mem_cons_of_mem _ listed)) found,
      List.flatMap_cons, codesOf_ofNat (small first List.mem_cons_self) plain.1 plain.2]
    rfl

/-- **Pieces make exactly the text with their codes.** -/
theorem decodeUnits_eq_some_iff {units : List TextUnit} {value : List Char}
    (small : ∀ code, .code code ∈ units → code < 0x10000) :
    decodeUnits units = some value ↔ SameCodes units value :=
  ⟨sameCodes_of_decodeUnits small, decodeUnits_of_sameCodes⟩

/-! ### Written pieces -/

/-- The letters after a backslash, and the characters that they stand for. -/
def shortEscapes : List (Char × Char) :=
  [('"', '"'), ('\\', '\\'), ('/', '/'), ('b', '\x08'), ('f', '\x0c'), ('n', '\n'), ('r', '\r'), ('t', '\t')]

/-- How a piece is written. -/
inductive TextUnit.Spelled : TextUnit → List Char → Prop
  /-- A character that is no control, mark or backslash stands for itself. -/
  | plain {c : Char} : ' ' ≤ c → c ≠ '"' → c ≠ '\\' → Spelled (.char c) [c]
  | short {letter c : Char} : (letter, c) ∈ shortEscapes → Spelled (.char c) ['\\', letter]
  /-- A code is written by four hexadecimal digits. -/
  | code {a b c d : Char} :
      (∀ digit ∈ [a, b, c, d], (Digits.digit? digit).isSome) →
      Spelled (.code (Digits.value 16 [a, b, c, d])) ['\\', 'u', a, b, c, d]

/-- How pieces are written, one after another. -/
inductive UnitsSpelled : List TextUnit → List Char → Prop
  | nil : UnitsSpelled [] []
  | cons {unit : TextUnit} {units : List TextUnit} {piece chars : List Char} :
      unit.Spelled piece → UnitsSpelled units chars → UnitsSpelled (unit :: units) (piece ++ chars)

theorem UnitsSpelled.plain (chars : List Char)
    (visible : chars.all (fun c => ' ' ≤ c && c ≠ '"' && c ≠ '\\') = true) :
    UnitsSpelled (chars.map .char) chars := by
  induction chars with
  | nil => exact .nil
  | cons c chars rest =>
    simp only [List.all_cons, Bool.and_eq_true, decide_eq_true_eq] at visible
    obtain ⟨⟨⟨notControl, mark⟩, backslash⟩, later⟩ := visible
    exact .cons (.plain notControl mark backslash) (rest later)

theorem UnitsSpelled.append {first second : List TextUnit} {chars others : List Char}
    (spelled : UnitsSpelled first chars) (later : UnitsSpelled second others) :
    UnitsSpelled (first ++ second) (chars ++ others) := by
  induction spelled with
  | nil => exact later
  | cons piece rest whole => exact List.append_assoc _ _ _ ▸ .cons piece whole

theorem digit?_lt {c : Char} {digit : Nat} (found : Digits.digit? c = some digit) : digit < 16 := by
  unfold Digits.digit? at found
  split at found
  · next decimal =>
    have most : c.toNat ≤ 57 := decimal.2
    have value : c.toNat - 48 = digit := Option.some.inj found
    omega
  · split at found
    · next small =>
      have most : c.toNat ≤ 102 := small.2
      have value : c.toNat - 97 + 10 = digit := Option.some.inj found
      omega
    · split at found
      · next great =>
        have most : c.toNat ≤ 70 := great.2
        have value : c.toNat - 65 + 10 = digit := Option.some.inj found
        omega
      · cases found

/-- Four digits are read as their number, which has 16 bits. -/
theorem hexCode?_of_digits {a b c d : Char}
    (digits : ∀ digit ∈ [a, b, c, d], (Digits.digit? digit).isSome) :
    hexCode? a b c d = some (Digits.value 16 [a, b, c, d]) ∧ Digits.value 16 [a, b, c, d] < 0x10000 := by
  simp only [List.forall_mem_cons, List.not_mem_nil, false_implies, implies_true, and_true,
    Option.isSome_iff_exists] at digits
  obtain ⟨⟨p, first⟩, ⟨q, second⟩, ⟨r, third⟩, ⟨s, fourth⟩⟩ := digits
  have value : Digits.value 16 [a, b, c, d] = ((p * 16 + q) * 16 + r) * 16 + s := by
    simp [Digits.value, Digits.extend, first, second, third, fourth]
  refine ⟨?_, ?_⟩
  · rw [value]
    simp [hexCode?, first, second, third, fourth]
  · have := digit?_lt first
    have := digit?_lt second
    have := digit?_lt third
    have := digit?_lt fourth
    omega

theorem UnitsSpelled.small {units : List TextUnit} {chars : List Char} (spelled : UnitsSpelled units chars) :
    ∀ code, .code code ∈ units → code < 0x10000 := by
  induction spelled with
  | nil => exact fun code listed => absurd listed List.not_mem_nil
  | cons piece _ small =>
    intro code listed
    rcases List.mem_cons.mp listed with rfl | later
    · cases piece with
      | code digits => exact (hexCode?_of_digits digits).2
    · exact small code later

theorem shortEscape?_eq_some {letter c : Char} (listed : (letter, c) ∈ shortEscapes) :
    letter ≠ 'u' ∧ shortEscape? letter = some c := by
  simp only [shortEscapes, List.mem_cons, Prod.mk.injEq, List.not_mem_nil, or_false] at listed
  rcases listed with ⟨rfl, rfl⟩ | ⟨rfl, rfl⟩ | ⟨rfl, rfl⟩ | ⟨rfl, rfl⟩ | ⟨rfl, rfl⟩ | ⟨rfl, rfl⟩ |
    ⟨rfl, rfl⟩ | ⟨rfl, rfl⟩ <;> decide

theorem readUnits_piece_append {unit : TextUnit} {piece : List Char} (spelled : unit.Spelled piece)
    (rest : List Char) :
    readUnits (piece ++ rest) = (unit :: (readUnits rest).1, (readUnits rest).2) := by
  cases spelled with
  | @plain c visible mark backslash =>
    show readUnits (c :: rest) = _
    rw [readUnits.eq_7 c rest mark (fun same => absurd same backslash)
      (fun _ _ _ _ _ same => absurd same backslash) (fun _ same => absurd same backslash)
      (fun _ _ same => absurd same backslash), if_neg (Char.not_lt.mpr visible)]
  | @short letter c listed =>
    obtain ⟨notCode, meant⟩ := shortEscape?_eq_some listed
    show readUnits ('\\' :: letter :: rest) = _
    rw [readUnits.eq_6 letter rest (fun _ _ _ _ _ same => absurd same notCode) notCode, meant]
  | @code a b c d digits =>
    show readUnits ('\\' :: 'u' :: a :: b :: c :: d :: rest) = _
    rw [readUnits, (hexCode?_of_digits digits).1]

/-- **Written pieces are read up to the closing mark.** -/
theorem readUnits_append {units : List TextUnit} {chars : List Char} (spelled : UnitsSpelled units chars)
    (rest : List Char) : readUnits (chars ++ '"' :: rest) = (units, .ok rest) := by
  induction spelled with
  | nil => rfl
  | cons piece _ read => rw [List.append_assoc, readUnits_piece_append piece, read]

end NameDomains.Json
