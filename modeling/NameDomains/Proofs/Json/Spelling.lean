/-
**Documents and their trees.**

The grammar of documents, as a relation between a tree and the texts that spell it: blanks may stand around
every part, texts and numbers are written in many ways. Reading a spelled tree gives the tree, whatever
follows it; the fuel that reading takes is three units for each character.

* `Piece`, `Spelled` — what is written, and how.
* `Spelled.faultWhenSkipped` — what is spelled can be passed over.
* `Reads`, `Spelled.reads` — what is spelled is read.
* `Document.read_of_spelled` — the tree of a whole text.
-/

import NameDomains.Proofs.Json.Number
import NameDomains.Proofs.Json.Text

namespace NameDomains.Json

open Node (isBlank)

/-! ### The grammar -/

/-- Characters that may stand between the parts of a document. -/
def Blank (chars : List Char) : Prop := ∀ c ∈ chars, isBlank c = true

/-- How a quoted text is written; it has none if a surrogate stands alone. -/
inductive TextSpelled : Option String → List Char → Prop
  | text {units : List TextUnit} {value chars : List Char} :
      UnitsSpelled units chars → SameCodes units value →
      TextSpelled (some (String.ofList value)) ('"' :: chars ++ ['"'])
  | unpaired {units : List TextUnit} {chars : List Char} :
      UnitsSpelled units chars → (∀ value, ¬ SameCodes units value) → TextSpelled none ('"' :: chars ++ ['"'])

/-- What is written. -/
inductive Piece
  | value (node : Node)
  /-- A value with blanks around it. -/
  | padded (node : Node)
  /-- Items with commas between them. -/
  | items (items : List Node)
  /-- A key, a colon and a value. -/
  | entry (entry : Entry)
  /-- Entries with commas between them. -/
  | entries (entries : List Entry)

/-- How it is written. -/
inductive Spelled : Piece → List Char → Prop
  | null : Spelled (.value .null) ['n', 'u', 'l', 'l']
  | yes : Spelled (.value (.flag true)) ['t', 'r', 'u', 'e']
  | no : Spelled (.value (.flag false)) ['f', 'a', 'l', 's', 'e']
  | number {number : NumberText} {chars : List Char} :
      number.Spelled chars → Spelled (.value (.number number.value?)) chars
  | text {value : Option String} {chars : List Char} :
      TextSpelled value chars → Spelled (.value (.text value)) chars
  | emptyList {blanks : List Char} :
      Blank blanks → Spelled (.value (.list [] none)) ('[' :: blanks ++ [']'])
  | list {items : List Node} {chars : List Char} :
      Spelled (.items items) chars → Spelled (.value (.list items none)) ('[' :: chars ++ [']'])
  | emptyObject {blanks : List Char} :
      Blank blanks → Spelled (.value (.object [] none)) ('\x7b' :: blanks ++ ['\x7d'])
  | object {entries : List Entry} {chars : List Char} :
      Spelled (.entries entries) chars →
      Spelled (.value (.object entries none)) ('\x7b' :: chars ++ ['\x7d'])
  | padded {node : Node} {before chars after : List Char} :
      Blank before → Spelled (.value node) chars → Blank after →
      Spelled (.padded node) (before ++ chars ++ after)
  | lastItem {item : Node} {chars : List Char} :
      Spelled (.padded item) chars → Spelled (.items [item]) chars
  | item {item : Node} {items : List Node} {chars others : List Char} :
      Spelled (.padded item) chars → Spelled (.items items) others →
      Spelled (.items (item :: items)) (chars ++ ',' :: others)
  | entry {key : Option String} {value : Node} {before name after chars : List Char} :
      Blank before → TextSpelled key name → Blank after → Spelled (.padded value) chars →
      Spelled (.entry (.mk (.text key) value)) (before ++ name ++ after ++ ':' :: chars)
  | lastEntry {entry : Entry} {chars : List Char} :
      Spelled (.entry entry) chars → Spelled (.entries [entry]) chars
  | entries {entry : Entry} {entries : List Entry} {chars others : List Char} :
      Spelled (.entry entry) chars → Spelled (.entries entries) others →
      Spelled (.entries (entry :: entries)) (chars ++ ',' :: others)

/-! ### Passing over -/

/-- The first fault of a piece that is passed over. -/
def Piece.faultWhenSkipped : Piece → Option Fault
  | .value node => node.faultWhenSkipped
  | .padded node => node.faultWhenSkipped
  | .items parts => Node.itemsFault parts
  | .entry part => Node.entriesFault [part]
  | .entries parts => Node.entriesFault parts

theorem entriesFault_cons (entry : Entry) (entries : List Entry) :
    Node.entriesFault (entry :: entries) = (Node.entriesFault [entry]).or (Node.entriesFault entries) := by
  cases entry
  simp only [Node.entriesFault, Option.or_none, Option.or_assoc]

/-- **What is spelled can be passed over.** -/
theorem Spelled.faultWhenSkipped {piece : Piece} {chars : List Char} (spelled : Spelled piece chars) :
    piece.faultWhenSkipped = none := by
  induction spelled with
  | null | yes | no | number | text => simp only [Piece.faultWhenSkipped, Node.faultWhenSkipped]
  | emptyList | emptyObject =>
    simp only [Piece.faultWhenSkipped, Node.faultWhenSkipped, Node.itemsFault, Node.entriesFault, Option.or_none]
  | padded _ _ _ free => exact free
  | lastEntry _ free => exact free
  | list _ free =>
    simp only [Piece.faultWhenSkipped] at free
    simp only [Piece.faultWhenSkipped, Node.faultWhenSkipped, free, Option.or_none]
  | object _ free =>
    simp only [Piece.faultWhenSkipped] at free
    simp only [Piece.faultWhenSkipped, Node.faultWhenSkipped, free, Option.or_none]
  | lastItem _ free =>
    simp only [Piece.faultWhenSkipped] at free
    simp only [Piece.faultWhenSkipped, Node.itemsFault, free, Option.or_none]
  | item _ _ free freeLater =>
    simp only [Piece.faultWhenSkipped] at free freeLater
    simp only [Piece.faultWhenSkipped, Node.itemsFault, free, freeLater, Option.or_none]
  | entry _ _ _ _ free =>
    simp only [Piece.faultWhenSkipped] at free
    simp only [Piece.faultWhenSkipped, Node.entriesFault, Node.faultWhenSkipped, free, Option.or_none]
  | entries _ _ free freeLater =>
    simp only [Piece.faultWhenSkipped] at free freeLater
    simp only [Piece.faultWhenSkipped]
    rw [entriesFault_cons, free, freeLater, Option.or_none]

/-! ### Beginnings -/

theorem dropWhile_cons {c : Char} (visible : isBlank c = false) (text : List Char) :
    (c :: text).dropWhile isBlank = c :: text :=
  List.dropWhile_cons_of_neg (Bool.not_eq_true _ ▸ visible)

theorem NumberText.Spelled.first {number : NumberText} {chars : List Char} (spelled : number.Spelled chars) :
    ∃ c later, chars = c :: later ∧ (c = '-' ∨ c.isDigit = true) := by
  obtain @⟨negative, sign, whole, after, last, fraction, power, signed, all, -⟩ := spelled
  obtain ⟨first, digits, rfl⟩ := List.exists_cons_of_ne_nil all.1
  simp only [List.mem_cons, Prod.mk.injEq, List.not_mem_nil, or_false] at signed
  rcases signed with ⟨-, rfl⟩ | ⟨-, rfl⟩
  · exact ⟨first, digits ++ after ++ last, rfl, .inr (all.2 first List.mem_cons_self)⟩
  · exact ⟨'-', first :: digits ++ after ++ last, rfl, .inl rfl⟩

theorem isBlank_of_isDigit {c : Char} (begins : c = '-' ∨ c.isDigit = true) :
    isBlank c = false ∧ ∀ other ∈ ['"', '[', ']', '\x7b', 'n', 't', 'f'], c ≠ other := by
  rcases begins with rfl | digit
  · exact ⟨rfl, by simp⟩
  · refine ⟨?_, ?_⟩
    · simp only [isBlank, Bool.or_eq_false_iff, decide_eq_false_iff_not]
      refine ⟨⟨⟨?_, ?_⟩, ?_⟩, ?_⟩ <;> (rintro rfl; exact absurd digit (by decide))
    · have none : ∀ other ∈ ['"', '[', ']', '\x7b', 'n', 't', 'f'], other.isDigit = false := by simp
      rintro other listed rfl
      rw [none c listed] at digit
      cases digit

theorem TextSpelled.first {value : Option String} {chars : List Char} (spelled : TextSpelled value chars) :
    ∃ content, chars = '"' :: content := by
  cases spelled <;> exact ⟨_, rfl⟩

/-- A value begins with no blank and not with the end of a list. -/
theorem Spelled.first {node : Node} {chars : List Char} (spelled : Spelled (.value node) chars) :
    ∃ c later, chars = c :: later ∧ isBlank c = false ∧ c ≠ ']' := by
  cases spelled with
  | null | yes | no | emptyList | list | emptyObject | object => exact ⟨_, _, rfl, by decide, by decide⟩
  | number written =>
    obtain ⟨c, later, rfl, begins⟩ := written.first
    have other := isBlank_of_isDigit begins
    exact ⟨c, later, rfl, other.1, other.2 ']' (by decide)⟩
  | text written => cases written <;> exact ⟨_, _, rfl, by decide, by decide⟩

/-- After blanks, items begin with no end of a list. -/
theorem Spelled.first_items {items : List Node} {chars : List Char} (spelled : Spelled (.items items) chars) :
    ∃ blanks c later, chars = blanks ++ c :: later ∧ Blank blanks ∧ isBlank c = false ∧ c ≠ ']' := by
  have first : ∀ {node chars}, Spelled (.padded node) chars →
      ∃ blanks c later, chars = blanks ++ c :: later ∧ Blank blanks ∧ isBlank c = false ∧ c ≠ ']' := by
    intro node chars spelled
    cases spelled with
    | @padded node before chars after blank value blankAfter =>
      obtain ⟨c, later, rfl, visible⟩ := value.first
      exact ⟨before, c, later ++ after, by rw [List.append_assoc, List.cons_append], blank, visible⟩
  cases spelled with
  | lastItem only => exact first only
  | @item item items chars others head rest =>
    obtain ⟨blanks, c, later, rfl, start⟩ := first head
    exact ⟨blanks, c, later ++ ',' :: others, by rw [List.append_assoc, List.cons_append], start⟩

/-- After blanks, entries begin with a quotation mark. -/
theorem Spelled.first_entries {entries : List Entry} {chars : List Char}
    (spelled : Spelled (.entries entries) chars) :
    ∃ blanks later, chars = blanks ++ '"' :: later ∧ Blank blanks := by
  have first : ∀ {entry chars}, Spelled (.entry entry) chars →
      ∃ blanks later, chars = blanks ++ '"' :: later ∧ Blank blanks := by
    intro entry chars spelled
    cases spelled with
    | @entry key value before name after chars blank written blankAfter padded =>
      obtain ⟨content, rfl⟩ := written.first
      exact ⟨before, content ++ (after ++ ':' :: chars), by simp only [List.append_assoc, List.cons_append], blank⟩
  cases spelled with
  | lastEntry only => exact first only
  | @entries entry entries chars others head rest =>
    obtain ⟨blanks, later, rfl, blank⟩ := first head
    exact ⟨blanks, later ++ ',' :: others, by rw [List.append_assoc, List.cons_append], blank⟩

/-! ### Reading -/

/-- What is written is read, whatever follows it. Three units of fuel for each character are enough. -/
def Reads : Piece → List Char → Prop
  | .value node, chars => ∀ fuel rest, 3 * chars.length ≤ fuel → Ends rest →
    Node.read fuel (chars ++ rest) = (node, some rest)
  | .padded node, chars => ∀ fuel rest, 3 * chars.length ≤ fuel → Ends rest →
    ∃ left, Node.read fuel (chars ++ rest) = (node, some left) ∧
      left.dropWhile isBlank = rest.dropWhile isBlank
  | .items parts, chars => ∀ fuel rest, 3 * chars.length + 1 ≤ fuel →
    Node.readItems fuel (chars ++ ']' :: rest) = (parts, none, some rest)
  | .entry (.mk key value), chars => ∀ fuel rest, 3 * chars.length ≤ fuel → Ends rest →
    ∃ middle left, Node.readKey (chars ++ rest) = (key, some middle) ∧
      Node.readEntryValue fuel middle = (value, some left) ∧
      left.dropWhile isBlank = rest.dropWhile isBlank
  | .entries parts, chars => ∀ fuel rest, 3 * chars.length + 1 ≤ fuel →
    Node.readEntries fuel (chars ++ '\x7d' :: rest) = (parts, none, some rest)

theorem readText_append {value : Option String} {chars : List Char} (spelled : TextSpelled value chars) :
    ∃ content, chars = '"' :: content ∧
      ∀ rest, Node.readText (content ++ rest) = (.text value, some rest) := by
  have read : ∀ {units : List TextUnit} {chars : List Char}, UnitsSpelled units chars → ∀ rest,
      Node.readText (chars ++ ['"'] ++ rest) = (.text ((decodeUnits units).map String.ofList), some rest) := by
    intro units chars written rest
    rw [List.append_assoc, List.singleton_append, Node.readText, readUnits_append written]
  cases spelled with
  | text written same =>
    refine ⟨_, rfl, fun rest => (read written rest).trans ?_⟩
    rw [(decodeUnits_eq_some_iff written.small).mpr same]
    rfl
  | @unpaired units chars written unsaid =>
    have none : decodeUnits units = none := Option.eq_none_iff_forall_ne_some.mpr fun value made =>
      unsaid value ((decodeUnits_eq_some_iff written.small).mp made)
    refine ⟨_, rfl, fun rest => (read written rest).trans ?_⟩
    rw [none]
    rfl

theorem read_append_of_blank {blanks : List Char} (blank : Blank blanks) (fuel : Nat) (text : List Char) :
    Node.read fuel (blanks ++ text) = Node.read fuel text := by
  cases fuel with
  | zero => rfl
  | succ fuel => rw [Node.read, Node.read, List.dropWhile_append_of_pos blank]

theorem read_number {number : NumberText} {chars : List Char} (spelled : number.Spelled chars) (fuel : Nat)
    {rest : List Char} (ends : Ends rest) :
    Node.read (fuel + 1) (chars ++ rest) = (.number number.value?, some rest) := by
  have read := readNumber_append spelled ends
  obtain ⟨c, later, rfl, begins⟩ := spelled.first
  obtain ⟨visible, other⟩ := isBlank_of_isDigit begins
  rw [List.cons_append] at read ⊢
  rw [Node.read, dropWhile_cons visible]
  split
  · next same => cases same
  · next same => exact absurd (List.cons.inj same).1 (other _ (by decide))
  · next same => exact absurd (List.cons.inj same).1 (other _ (by decide))
  · next same => exact absurd (List.cons.inj same).1 (other _ (by decide))
  · next same => exact absurd (List.cons.inj same).1 (other _ (by decide))
  · next same => exact absurd (List.cons.inj same).1 (other _ (by decide))
  · next same => exact absurd (List.cons.inj same).1 (other _ (by decide))
  · next same =>
    obtain ⟨rfl, rfl⟩ := List.cons.inj same
    have number : (c = '-' || c.isDigit) = true := by
      simpa only [Bool.or_eq_true, decide_eq_true_eq] using begins
    rw [if_pos number, Node.readNumberNode, read]

theorem readItems_append_of_blank {blanks : List Char} (blank : Blank blanks) (fuel : Nat)
    (text : List Char) : Node.readItems fuel (blanks ++ text) = Node.readItems fuel text := by
  cases fuel with
  | zero => rfl
  | succ fuel => rw [Node.readItems, Node.readItems, read_append_of_blank blank]

theorem readEntries_append_of_blank {blanks : List Char} (blank : Blank blanks) (fuel : Nat)
    (text : List Char) : Node.readEntries fuel (blanks ++ text) = Node.readEntries fuel text := by
  cases fuel with
  | zero => rfl
  | succ fuel =>
    rw [Node.readEntries, Node.readEntries, Node.readKey, Node.readKey, List.dropWhile_append_of_pos blank]

theorem read_list {items : List Node} {chars : List Char} (spelled : Spelled (.items items) chars)
    (read : Reads (.items items) chars) : Reads (.value (.list items none)) ('[' :: chars ++ [']']) := by
  intro fuel rest enough ends
  have length : ('[' :: chars ++ [']']).length = chars.length + 2 := by simp
  obtain ⟨fuel, rfl⟩ : ∃ left, fuel = left + 2 := ⟨fuel - 2, by omega⟩
  have inside := read fuel rest (by omega)
  have opened : Node.readList (fuel + 1) (chars ++ ']' :: rest) = (items, none, some rest) := by
    obtain ⟨blanks, c, later, rfl, blank, visible, bracket⟩ := spelled.first_items
    rw [List.append_assoc, List.cons_append] at inside ⊢
    rw [readItems_append_of_blank blank] at inside
    rw [Node.readList, List.dropWhile_append_of_pos blank, dropWhile_cons visible]
    split
    · next same => cases same
    · next same => exact absurd (List.cons.inj same).1 bracket
    · exact inside
  have written : '[' :: chars ++ [']'] ++ rest = '[' :: (chars ++ ']' :: rest) := by simp
  rw [written, Node.read, dropWhile_cons (by decide)]
  simp only [opened]

theorem read_object {entries : List Entry} {chars : List Char} (spelled : Spelled (.entries entries) chars)
    (read : Reads (.entries entries) chars) :
    Reads (.value (.object entries none)) ('\x7b' :: chars ++ ['\x7d']) := by
  intro fuel rest enough ends
  have length : ('\x7b' :: chars ++ ['\x7d']).length = chars.length + 2 := by simp
  obtain ⟨fuel, rfl⟩ : ∃ left, fuel = left + 2 := ⟨fuel - 2, by omega⟩
  have inside := read fuel rest (by omega)
  have opened : Node.readObject (fuel + 1) (chars ++ '\x7d' :: rest) = (entries, none, some rest) := by
    obtain ⟨blanks, later, rfl, blank⟩ := spelled.first_entries
    rw [List.append_assoc, List.cons_append] at inside ⊢
    rw [readEntries_append_of_blank blank] at inside
    rw [Node.readObject, List.dropWhile_append_of_pos blank, dropWhile_cons (by decide)]
    exact inside
  have written : '\x7b' :: chars ++ ['\x7d'] ++ rest = '\x7b' :: (chars ++ '\x7d' :: rest) := by simp
  rw [written, Node.read, dropWhile_cons (by decide)]
  simp only [opened]

/-- A list or an object may be empty but for blanks. -/
theorem read_empty {blanks : List Char} (blank : Blank blanks) :
    Reads (.value (.list [] none)) ('[' :: blanks ++ [']']) ∧
      Reads (.value (.object [] none)) ('\x7b' :: blanks ++ ['\x7d']) := by
  refine ⟨fun fuel rest enough _ => ?_, fun fuel rest enough _ => ?_⟩
  · obtain ⟨fuel, rfl⟩ : ∃ left, fuel = left + 2 := ⟨fuel - 2, by simp at enough; omega⟩
    have opened : Node.readList (fuel + 1) (blanks ++ ']' :: rest) = ([], none, some rest) := by
      rw [Node.readList, List.dropWhile_append_of_pos blank, dropWhile_cons (by decide)]
      rfl
    have written : '[' :: blanks ++ [']'] ++ rest = '[' :: (blanks ++ ']' :: rest) := by simp
    rw [written, Node.read, dropWhile_cons (by decide)]
    simp only [opened]
  · obtain ⟨fuel, rfl⟩ : ∃ left, fuel = left + 2 := ⟨fuel - 2, by simp at enough; omega⟩
    have opened : Node.readObject (fuel + 1) (blanks ++ '\x7d' :: rest) = ([], none, some rest) := by
      rw [Node.readObject, List.dropWhile_append_of_pos blank, dropWhile_cons (by decide)]
      rfl
    have written : '\x7b' :: blanks ++ ['\x7d'] ++ rest = '\x7b' :: (blanks ++ '\x7d' :: rest) := by simp
    rw [written, Node.read, dropWhile_cons (by decide)]
    simp only [opened]

theorem Ends.of_blank {blanks rest : List Char} (blank : Blank blanks) (ends : Ends rest) :
    Ends (blanks ++ rest) := by
  cases blanks with
  | nil => exact ends
  | cons c blanks =>
    rintro _ ⟨⟩
    exact .inl (blank c List.mem_cons_self)

theorem ends_cons {c : Char} (closing : c = ',' ∨ c = ']' ∨ c = '\x7d') (rest : List Char) :
    Ends (c :: rest) := by
  rintro _ ⟨⟩
  exact .inr closing

theorem read_padded {node : Node} {before chars after : List Char} (blank : Blank before)
    (read : Reads (.value node) chars) (blankAfter : Blank after) :
    Reads (.padded node) (before ++ chars ++ after) := by
  intro fuel rest enough ends
  simp only [List.length_append] at enough
  refine ⟨after ++ rest, ?_, List.dropWhile_append_of_pos blankAfter⟩
  rw [List.append_assoc, List.append_assoc, read_append_of_blank blank]
  exact read fuel (after ++ rest) (by omega) (ends.of_blank blankAfter)

theorem read_lastItem {item : Node} {chars : List Char} (read : Reads (.padded item) chars) :
    Reads (.items [item]) chars := by
  intro fuel rest enough
  obtain ⟨fuel, rfl⟩ : ∃ left, fuel = left + 1 := ⟨fuel - 1, by omega⟩
  obtain ⟨left, found, same⟩ := read fuel (']' :: rest) (by omega) (ends_cons (by decide) rest)
  rw [dropWhile_cons (by decide)] at same
  rw [Node.readItems]
  simp only [found, same]

theorem read_item {item : Node} {items : List Node} {chars others : List Char}
    (read : Reads (.padded item) chars) (readLater : Reads (.items items) others) :
    Reads (.items (item :: items)) (chars ++ ',' :: others) := by
  intro fuel rest enough
  simp only [List.length_append, List.length_cons] at enough
  obtain ⟨fuel, rfl⟩ : ∃ left, fuel = left + 1 := ⟨fuel - 1, by omega⟩
  obtain ⟨left, found, same⟩ :=
    read fuel (',' :: others ++ ']' :: rest) (by omega) (ends_cons (by decide) _)
  have later := readLater fuel rest (by omega)
  rw [List.cons_append, dropWhile_cons (by decide)] at same
  rw [List.append_assoc, Node.readItems]
  simp only [found, same, later]

theorem read_entry {key : Option String} {value : Node} {before name after chars : List Char}
    (blank : Blank before) (written : TextSpelled key name) (blankAfter : Blank after)
    (read : Reads (.padded value) chars) :
    Reads (.entry (.mk (.text key) value)) (before ++ name ++ after ++ ':' :: chars) := by
  intro fuel rest enough ends
  simp only [List.length_append, List.length_cons] at enough
  obtain ⟨fuel, rfl⟩ : ∃ left, fuel = left + 1 := ⟨fuel - 1, by omega⟩
  obtain ⟨left, found, same⟩ := read fuel rest (by omega) ends
  obtain ⟨content, rfl, readName⟩ := readText_append written
  refine ⟨after ++ ':' :: (chars ++ rest), left, ?_, ?_, same⟩
  · rw [Node.readKey, List.append_assoc, List.append_assoc, List.append_assoc,
      List.dropWhile_append_of_pos blank, List.cons_append, dropWhile_cons (by decide)]
    simp only [readName]
    rw [List.cons_append]
  · rw [Node.readEntryValue, List.dropWhile_append_of_pos blankAfter, dropWhile_cons (by decide)]
    exact found

theorem read_lastEntry {entry : Entry} {chars : List Char} (read : Reads (.entry entry) chars) :
    Reads (.entries [entry]) chars := by
  intro fuel rest enough
  obtain ⟨fuel, rfl⟩ : ∃ left, fuel = left + 1 := ⟨fuel - 1, by omega⟩
  obtain ⟨key, value⟩ := entry
  obtain ⟨middle, left, named, found, same⟩ :=
    read fuel ('\x7d' :: rest) (by omega) (ends_cons (by decide) rest)
  rw [dropWhile_cons (by decide)] at same
  rw [Node.readEntries]
  simp only [named, found, same]

theorem read_entries {entry : Entry} {entries : List Entry} {chars others : List Char}
    (read : Reads (.entry entry) chars) (readLater : Reads (.entries entries) others) :
    Reads (.entries (entry :: entries)) (chars ++ ',' :: others) := by
  intro fuel rest enough
  simp only [List.length_append, List.length_cons] at enough
  obtain ⟨fuel, rfl⟩ : ∃ left, fuel = left + 1 := ⟨fuel - 1, by omega⟩
  obtain ⟨key, value⟩ := entry
  obtain ⟨middle, left, named, found, same⟩ :=
    read fuel (',' :: others ++ '\x7d' :: rest) (by omega) (ends_cons (by decide) _)
  have later := readLater fuel rest (by omega)
  rw [List.cons_append, dropWhile_cons (by decide)] at same
  rw [List.append_assoc, Node.readEntries]
  simp only [named, found, same, later]

/-- **What is spelled is read.** -/
theorem Spelled.reads {piece : Piece} {chars : List Char} (spelled : Spelled piece chars) :
    Reads piece chars := by
  induction spelled with
  | null | yes | no =>
    intro fuel rest enough _
    obtain ⟨fuel, rfl⟩ : ∃ left, fuel = left + 1 := ⟨fuel - 1, by simp at enough; omega⟩
    rw [Node.read]
    rfl
  | number written =>
    intro fuel rest enough ends
    obtain ⟨c, later, rfl, -⟩ := written.first
    obtain ⟨fuel, rfl⟩ : ∃ left, fuel = left + 1 := ⟨fuel - 1, by simp at enough; omega⟩
    exact read_number written fuel ends
  | text written =>
    intro fuel rest enough _
    obtain ⟨content, rfl, read⟩ := readText_append written
    obtain ⟨fuel, rfl⟩ : ∃ left, fuel = left + 1 := ⟨fuel - 1, by simp at enough; omega⟩
    rw [List.cons_append, Node.read, dropWhile_cons (by decide)]
    exact read rest
  | emptyList blank => exact (read_empty blank).1
  | emptyObject blank => exact (read_empty blank).2
  | list inside read => exact read_list inside read
  | object inside read => exact read_object inside read
  | padded blank _ blankAfter read => exact read_padded blank read blankAfter
  | lastItem _ read => exact read_lastItem read
  | item _ _ read readLater => exact read_item read readLater
  | entry blank written blankAfter _ read => exact read_entry blank written blankAfter read
  | lastEntry _ read => exact read_lastEntry read
  | entries _ _ read readLater => exact read_entries read readLater

/-- **The tree of a whole text**, with whatever blanks around it, and nothing follows it. -/
theorem Document.read_of_spelled {node : Node} {chars : List Char} (spelled : Spelled (.padded node) chars) :
    Document.read chars = ⟨node, false⟩ := by
  obtain ⟨left, found, blank⟩ := spelled.reads (3 * chars.length + 3) [] (by omega) nofun
  have taken : left.takeWhile isBlank = left := by
    have whole : left.takeWhile isBlank ++ left.dropWhile isBlank = left := List.takeWhile_append_dropWhile
    rwa [blank, List.dropWhile_nil, List.append_nil] at whole
  have allBlank : left.all isBlank = true := taken ▸ List.all_takeWhile
  rw [List.append_nil] at found
  rw [Document.read, found]
  simp only [allBlank, Bool.not_true]

end NameDomains.Json
