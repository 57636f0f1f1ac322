/-
**Written numbers.**

A number is a sign, digits without needless zeros, perhaps a fraction and perhaps a power of ten. What may
stand after a value goes on with none of these, so a number is read to its end.

* `NumberText.Spelled` — how a number is written.
* `Ends` — what may stand after a value.
* `readNumber_append` — a written number is read.
-/

import NameDomains.Json.Node

namespace NameDomains.Json

/-! ### Forms -/

/-- At least one decimal digit and nothing else. -/
def AllDigits (digits : List Char) : Prop := digits ≠ [] ∧ ∀ c ∈ digits, c.isDigit = true

/-- How the digits after a point are written, if there are any. -/
inductive FractionSpelled : Option (List Char) → List Char → Prop
  | absent : FractionSpelled none []
  | present {digits : List Char} : AllDigits digits → FractionSpelled (some digits) ('.' :: digits)

/-- How a power of ten is written, if there is one. -/
inductive PowerSpelled : Option (Bool × List Char) → List Char → Prop
  | absent : PowerSpelled none []
  | present {mark : Char} {negative : Bool} {sign digits : List Char} :
      mark = 'e' ∨ mark = 'E' →
      (negative, sign) ∈ [(false, []), (false, ['+']), (true, ['-'])] → AllDigits digits →
      PowerSpelled (some (negative, digits)) (mark :: sign ++ digits)

/-- How a number is written. -/
inductive NumberText.Spelled : NumberText → List Char → Prop
  | mk {negative : Bool} {sign whole after last : List Char} {fraction : Option (List Char)}
      {power : Option (Bool × List Char)} :
      (negative, sign) ∈ [(false, []), (true, ['-'])] →
      AllDigits whole → (whole.length = 1 ∨ whole.head? ≠ some '0') →
      FractionSpelled fraction after → PowerSpelled power last →
      Spelled ⟨negative, whole, fraction, power⟩ (sign ++ whole ++ after ++ last)

/-- What may stand after a value: nothing, a blank, a comma or a closing bracket. -/
def Ends (rest : List Char) : Prop :=
  ∀ c ∈ rest.head?, Node.isBlank c = true ∨ c = ',' ∨ c = ']' ∨ c = '\x7d'

/-! ### Reading -/

theorem readDigits_append {digits rest : List Char} (all : AllDigits digits)
    (stops : ∀ c ∈ rest.head?, c.isDigit = false) : readDigits (digits ++ rest) = .ok (digits, rest) := by
  have taken : rest.takeWhile Char.isDigit = [] ∧ rest.dropWhile Char.isDigit = rest := by
    cases rest with
    | nil => exact ⟨rfl, rfl⟩
    | cons c rest =>
      have other := stops c rfl
      simp [other]
  obtain ⟨first, digits, rfl⟩ := List.exists_cons_of_ne_nil all.1
  unfold readDigits
  rw [List.takeWhile_append_of_pos all.2, taken.1, List.append_nil]
  show Except.ok (first :: digits, List.dropWhile Char.isDigit (first :: digits ++ rest)) = _
  rw [List.dropWhile_append_of_pos all.2, taken.2]

/-- What may stand after a value goes on with no part of a number. -/
theorem Ends.stops {rest : List Char} (ends : Ends rest) :
    ∀ c ∈ rest.head?, c.isDigit = false ∧ c ≠ '.' ∧ c ≠ 'e' ∧ c ≠ 'E' := by
  intro c first
  rcases ends c first with blank | rfl | rfl | rfl
  · simp only [Node.isBlank, Bool.or_eq_true, decide_eq_true_eq] at blank
    rcases blank with ((rfl | rfl) | rfl) | rfl <;> decide
  · decide
  · decide
  · decide

theorem readPower_append {power : Option (Bool × List Char)} {last rest : List Char}
    (spelled : PowerSpelled power last) (ends : Ends rest) :
    readPower (last ++ rest) = .ok (power, rest) := by
  cases spelled with
  | absent =>
    cases rest with
    | nil => rfl
    | cons c rest =>
      obtain ⟨-, -, small, great⟩ := ends.stops c rfl
      simp [readPower, small, great, pure, Except.pure]
  | @present mark negative sign digits marked signed all =>
    have read := readDigits_append all fun c first => (ends.stops c first).1
    have goesOn : ¬ (mark ≠ 'e' && mark ≠ 'E') = true := by
      rcases marked with rfl | rfl <;> decide
    simp only [List.mem_cons, Prod.mk.injEq, List.not_mem_nil, or_false] at signed
    rcases signed with ⟨rfl, rfl⟩ | ⟨rfl, rfl⟩ | ⟨rfl, rfl⟩
    · -- Without a sign the digits come first, and none of them is one.
      obtain ⟨first, digits, rfl⟩ := List.exists_cons_of_ne_nil all.1
      have digit := all.2 first List.mem_cons_self
      have plus : first ≠ '+' := fun same => absurd (same ▸ digit) (by decide)
      have minus : first ≠ '-' := fun same => absurd (same ▸ digit) (by decide)
      show readPower (mark :: (first :: digits ++ rest)) = _
      rw [readPower.eq_4 mark (first :: digits ++ rest) (fun _ same => minus (List.cons.inj same).1)
        (fun _ same => plus (List.cons.inj same).1), if_neg goesOn, read]
      rfl
    · show readPower (mark :: '+' :: (digits ++ rest)) = _
      rw [readPower.eq_3, if_neg goesOn, read]
      rfl
    · show readPower (mark :: '-' :: (digits ++ rest)) = _
      rw [readPower.eq_2, if_neg goesOn, read]
      rfl

theorem stops_of_powerSpelled {power : Option (Bool × List Char)} {last rest : List Char}
    (spelled : PowerSpelled power last) (ends : Ends rest) :
    ∀ c ∈ (last ++ rest).head?, c.isDigit = false ∧ c ≠ '.' := by
  cases spelled with
  | absent => exact fun c first => ⟨(ends.stops c first).1, (ends.stops c first).2.1⟩
  | present marked =>
    rintro c ⟨⟩
    rcases marked with rfl | rfl <;> decide

theorem readFraction_append {fraction : Option (List Char)} {after text : List Char}
    (spelled : FractionSpelled fraction after) (stops : ∀ c ∈ text.head?, c.isDigit = false ∧ c ≠ '.') :
    readFraction (after ++ text) = .ok (fraction, text) := by
  cases spelled with
  | absent =>
    have other : ∀ rest, text ≠ '.' :: rest := by
      rintro rest rfl
      exact (stops '.' rfl).2 rfl
    exact readFraction.eq_2 text other
  | @present digits all =>
    show readFraction ('.' :: (digits ++ text)) = _
    rw [readFraction, readDigits_append all fun c first => (stops c first).1]
    rfl

theorem readWhole_append {whole text : List Char} (all : AllDigits whole)
    (short : whole.length = 1 ∨ whole.head? ≠ some '0') (stops : ∀ c ∈ text.head?, c.isDigit = false) :
    readWhole (whole ++ text) = .ok (whole, text) := by
  have allowed : ¬ (whole.length > 1 && whole.head? = some '0') = true := by
    simp only [Bool.and_eq_true, decide_eq_true_eq]
    rintro ⟨long, zero⟩
    rcases short with one | other
    · omega
    · exact other zero
  rw [readWhole, readDigits_append all stops]
  exact if_neg allowed

/-- **A written number is read.** -/
theorem readNumber_append {number : NumberText} {chars rest : List Char} (spelled : number.Spelled chars)
    (ends : Ends rest) : readNumber (chars ++ rest) = .ok (number, rest) := by
  obtain @⟨negative, sign, whole, after, last, fraction, power, signed, all, short, fractionSpelled,
    powerSpelled⟩ := spelled
  have stops := stops_of_powerSpelled powerSpelled ends
  have stopsWhole : ∀ c ∈ (after ++ (last ++ rest)).head?, c.isDigit = false := by
    cases fractionSpelled with
    | absent => exact fun c first => (stops c first).1
    | present digits =>
      rintro c ⟨⟩
      rfl
  have wholeRead := readWhole_append all short stopsWhole
  have fractionRead := readFraction_append fractionSpelled stops
  have powerRead := readPower_append powerSpelled ends
  have written : sign ++ whole ++ after ++ last ++ rest =
      sign ++ (whole ++ (after ++ (last ++ rest))) := by
    simp only [List.append_assoc]
  rw [written]
  simp only [List.mem_cons, Prod.mk.injEq, List.not_mem_nil, or_false] at signed
  rcases signed with ⟨rfl, rfl⟩ | ⟨rfl, rfl⟩
  · obtain ⟨first, digits, rfl⟩ := List.exists_cons_of_ne_nil all.1
    have minus : first ≠ '-' := fun same => absurd (same ▸ all.2 first List.mem_cons_self) (by decide)
    show readNumber (first :: digits ++ (after ++ (last ++ rest))) = _
    rw [readNumber.eq_2 (first :: digits ++ (after ++ (last ++ rest))) fun _ same =>
      minus (List.cons.inj same).1]
    simp only [wholeRead, fractionRead, powerRead, bind, Except.bind]
    rfl
  · show readNumber ('-' :: (whole ++ (after ++ (last ++ rest)))) = _
    rw [readNumber.eq_1]
    simp only [wholeRead, fractionRead, powerRead, bind, Except.bind]
    rfl

end NameDomains.Json
