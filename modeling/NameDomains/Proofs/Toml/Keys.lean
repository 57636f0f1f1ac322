/-
**The keys of a document.**

No table of a document gives a key twice, whether headers, dotted keys or braces make it: a key that comes up
again opens its table once more or is refused. A table holds the keys in the order in which they come up first,
so that what is written in pieces stands in one place; only a header of its own still moves a table. Where no
key and no header has dots, the root table is what the text says, in its order.

* `Value.Tidy`, `Distinct` — no table gives a key twice.
* `descend_cons_eq_some`, `openTable_eq_some`, `openRow_eq_some` — what opening a table makes of the entries.
* `distinct_descend`, `distinct_addPairs`, `distinct_addSection` — no step of putting a document together
  repeats a key.
* `Value.Read`, `read_readValue` — values are read without repeated keys.
* `distinct_of_parse?` — no table of a document gives a key twice.
* `Document.keys`, `keys_root` — the order of the root table.
* `Document.IsPlain`, `root_of_isPlain` — a document without dots is its root table.
-/

import Mathlib.Data.List.Nodup
import NameDomains.Toml.Reader

namespace NameDomains.Toml

/-! ### Tables without repeated keys -/

/-- No table in a value gives a key twice. -/
inductive Value.Tidy : Value → Prop
  | text (value : String) : Tidy (.text value)
  | integer (value : Int) : Tidy (.integer value)
  | real (value : Binary64) : Tidy (.real value)
  | flag (value : Bool) : Tidy (.flag value)
  | datetime : Tidy .datetime
  | list {items : List Value} : (∀ item ∈ items, Tidy item) → Tidy (.list items)
  | table {origin : Origin} {entries : List Entry} :
      (entries.map Entry.key).Nodup → (∀ entry ∈ entries, Tidy entry.value) → Tidy (.table origin entries)
  | tables {rows : List Value} : (∀ row ∈ rows, Tidy row) → Tidy (.tables rows)

/-- The entries of a table that gives no key twice. -/
structure Distinct (entries : List Entry) : Prop where
  keys : (entries.map Entry.key).Nodup
  values : ∀ entry ∈ entries, entry.value.Tidy

theorem Distinct.tidy {origin : Origin} {entries : List Entry} (distinct : Distinct entries) :
    (Value.table origin entries).Tidy := .table distinct.keys distinct.values

theorem Value.Tidy.distinct {origin : Origin} {entries : List Entry} (tidy : (Value.table origin entries).Tidy) :
    Distinct entries := by
  cases tidy with
  | table keys values => exact ⟨keys, values⟩

theorem Distinct.nil : Distinct [] := ⟨List.nodup_nil, nofun⟩

theorem lookup?_cons (entry : Entry) (entries : List Entry) (key : String) :
    lookup? (entry :: entries) key = if entry.key = key then some entry.value else lookup? entries key := by
  unfold lookup?
  split <;> simp [*]

theorem mem_of_lookup? {entries : List Entry} {key : String} {value : Value}
    (found : lookup? entries key = some value) : .mk key value ∈ entries := by
  obtain ⟨entry, first, rfl⟩ := Option.map_eq_some_iff.mp found
  obtain rfl : entry.key = key := by simpa only [decide_eq_true_eq] using List.find?_some first
  have listed := List.mem_of_find?_eq_some first
  cases entry
  exact listed

theorem lookup?_eq_none_iff {entries : List Entry} {key : String} :
    lookup? entries key = none ↔ key ∉ entries.map Entry.key := by
  simp [lookup?]

theorem Distinct.lookup?_tidy {entries : List Entry} (distinct : Distinct entries) {key : String} {value : Value}
    (found : lookup? entries key = some value) : value.Tidy :=
  distinct.values (.mk key value) (mem_of_lookup? found)

/-- In a table that gives no key twice, each entry is found by its key. -/
theorem lookup?_eq_some_iff {entries : List Entry} (keys : (entries.map Entry.key).Nodup) {key : String}
    {value : Value} : lookup? entries key = some value ↔ .mk key value ∈ entries := by
  refine ⟨mem_of_lookup?, fun listed => ?_⟩
  cases found : lookup? entries key with
  | none => exact absurd (List.mem_map_of_mem (f := Entry.key) listed) (lookup?_eq_none_iff.mp found)
  | some other =>
    have same : Entry.mk key other = .mk key value :=
      List.inj_on_of_nodup_map keys (mem_of_lookup? found) listed rfl
    rw [(Entry.mk.inj same).2]

theorem Distinct.append {entries : List Entry} (distinct : Distinct entries) {key : String} {value : Value}
    (fresh : key ∉ entries.map Entry.key) (tidy : value.Tidy) : Distinct (entries ++ [.mk key value]) where
  keys := by
    rw [List.map_append, List.nodup_append]
    refine ⟨distinct.keys, List.nodup_singleton _, ?_⟩
    rintro name listed _ last rfl
    obtain rfl := List.mem_singleton.mp last
    exact fresh listed
  values := fun entry listed => by
    rcases List.mem_append.mp listed with before | last
    · exact distinct.values entry before
    · obtain rfl := List.mem_singleton.mp last
      exact tidy

theorem keys_replace (entries : List Entry) (key : String) (value : Value) :
    (replace entries key value).map Entry.key = entries.map Entry.key := by
  rw [replace, List.map_map]
  refine List.map_congr_left fun entry _ => ?_
  show (if entry.key = key then Entry.mk key value else entry).key = entry.key
  split
  · next same => exact same.symm
  · rfl

theorem Distinct.replace {entries : List Entry} (distinct : Distinct entries) (key : String) {value : Value}
    (tidy : value.Tidy) : Distinct (replace entries key value) where
  keys := (keys_replace entries key value).symm ▸ distinct.keys
  values := fun entry listed => by
    obtain ⟨other, before, rfl⟩ := List.mem_map.mp listed
    show (if other.key = key then Entry.mk key value else other).value.Tidy
    split
    · exact tidy
    · exact distinct.values other before

theorem Distinct.erase {entries : List Entry} (distinct : Distinct entries) (key : String) :
    Distinct (erase entries key) where
  keys := distinct.keys.sublist (List.filter_sublist.map _)
  values := fun entry listed => distinct.values entry (List.mem_of_mem_filter listed)

/-! ### Putting a document together -/

/-- What every step keeps holds in the end. -/
theorem foldlM_kept {α β : Type} {property : β → Prop} {step : β → α → Option β} {items : List α}
    (each : ∀ item ∈ items, ∀ state next, property state → step state item = some next → property next)
    {start last : β} (begins : property start) (run : items.foldlM step start = some last) : property last := by
  induction items generalizing start with
  | nil => exact Option.some.inj run ▸ begins
  | cons item items rest =>
    rw [List.foldlM_cons] at run
    obtain ⟨next, first, later⟩ := Option.bind_eq_some_iff.mp run
    obtain ⟨here, others⟩ := List.forall_mem_cons.mp each
    exact rest others (here start next begins first) later

/-- What a change below a key does: it makes a table for the key, changes the table that is there, or the last
table of an array that is there. -/
theorem descend_cons_eq_some {made : Origin} {change : Origin → List Entry → Option (List Entry)} {key : String}
    {path : List String} {origin : Origin} {entries next : List Entry}
    (changed : descend made change (key :: path) origin entries = some next) :
    (lookup? entries key = none ∧ ∃ inner, descend made change path made [] = some inner ∧
        next = entries ++ [.mk key (.table made inner)]) ∨
      (∃ origin inner last, lookup? entries key = some (.table origin inner) ∧
        descend made change path origin inner = some last ∧ next = replace entries key (.table origin last)) ∨
      ∃ rows origin inner last, lookup? entries key = some (.tables rows) ∧
        rows.getLast? = some (.table origin inner) ∧ descend made change path origin inner = some last ∧
        next = replace entries key (.tables (rows.dropLast ++ [.table origin last])) := by
  rw [descend] at changed
  split at changed
  · next missing =>
    obtain ⟨inner, below, same⟩ := Option.bind_eq_some_iff.mp changed
    exact .inl ⟨missing, inner, below, (Option.some.inj same).symm⟩
  · cases changed
  · next found =>
    split at changed
    · cases changed
    · obtain ⟨last, below, same⟩ := Option.bind_eq_some_iff.mp changed
      exact .inr (.inl ⟨_, _, last, found, below, (Option.some.inj same).symm⟩)
  · next rows found =>
    split at changed
    · next row =>
      obtain ⟨last, below, same⟩ := Option.bind_eq_some_iff.mp changed
      exact .inr (.inr ⟨rows, _, _, last, found, row, below, (Option.some.inj same).symm⟩)
    · cases changed
  · cases changed

/-- **A change at the end of a path repeats no key**, if it repeats none in the table that it changes. -/
theorem distinct_descend {made : Origin} {change : Origin → List Entry → Option (List Entry)}
    (kept : ∀ origin entries next, Distinct entries → change origin entries = some next → Distinct next)
    {path : List String} {origin : Origin} {entries next : List Entry} (distinct : Distinct entries)
    (changed : descend made change path origin entries = some next) : Distinct next := by
  induction path generalizing origin entries next with
  | nil => exact kept origin entries next distinct changed
  | cons key path deeper =>
    rcases descend_cons_eq_some changed with ⟨missing, inner, below, rfl⟩ |
      ⟨origin, inner, last, found, below, rfl⟩ | ⟨rows, origin, inner, last, found, row, below, rfl⟩
    · exact distinct.append (lookup?_eq_none_iff.mp missing) (deeper .nil below).tidy
    · exact distinct.replace key (deeper (distinct.lookup?_tidy found).distinct below).tidy
    · cases distinct.lookup?_tidy found with
      | tables tidy =>
        have lastRow := (tidy _ (List.mem_of_getLast? row)).distinct
        refine distinct.replace key (.tables fun other listed => ?_)
        rcases List.mem_append.mp listed with before | only
        · exact tidy other (List.dropLast_subset rows before)
        · exact List.mem_singleton.mp only ▸ (deeper lastRow below).tidy

theorem distinct_addPair {entries next : List Entry} {pair : Pair} (tidy : pair.value.Tidy)
    (distinct : Distinct entries) (added : addPair entries pair = some next) : Distinct next := by
  refine distinct_descend (fun origin entries next distinct added => ?_) distinct added
  unfold addValue at added
  split at added
  · cases added
  · split at added
    · cases added
    · next fresh =>
      obtain rfl := Option.some.inj added
      exact distinct.append (lookup?_eq_none_iff.mp (Option.not_isSome_iff_eq_none.mp fresh)) tidy

theorem distinct_addPairs {entries last : List Entry} {pairs : List Pair}
    (tidy : ∀ pair ∈ pairs, pair.value.Tidy) (distinct : Distinct entries)
    (added : addPairs entries pairs = some last) : Distinct last :=
  foldlM_kept (fun pair listed _ _ => distinct_addPair (tidy pair listed)) distinct added

/-- What a header opens: a table of its own, or the one that so far only lay on the path of other headers. -/
theorem openTable_eq_some {key : String} {pairs : List Pair} {origin : Origin} {entries next : List Entry}
    (opened : openTable key pairs origin entries = some next) :
    ∃ start inner, (lookup? entries key = none ∧ start = [] ∨ lookup? entries key = some (.table .path start)) ∧
      addPairs start pairs = some inner ∧ next = erase entries key ++ [.mk key (.table .header inner)] := by
  rw [openTable] at opened
  dsimp only at opened
  split at opened
  · next missing =>
    obtain ⟨inner, filled, same⟩ := Option.bind_eq_some_iff.mp (show (addPairs [] pairs >>= _) = _ from opened)
    exact ⟨[], inner, .inl ⟨missing, rfl⟩, filled, (Option.some.inj same).symm⟩
  · next start found =>
    obtain ⟨inner, filled, same⟩ := Option.bind_eq_some_iff.mp (show (addPairs start pairs >>= _) = _ from opened)
    exact ⟨start, inner, .inr found, filled, (Option.some.inj same).symm⟩
  · cases opened

theorem distinct_openTable {key : String} {pairs : List Pair} (tidy : ∀ pair ∈ pairs, pair.value.Tidy)
    {origin : Origin} {entries next : List Entry} (distinct : Distinct entries)
    (opened : openTable key pairs origin entries = some next) : Distinct next := by
  obtain ⟨start, inner, begins, filled, rfl⟩ := openTable_eq_some opened
  have distinctStart : Distinct start := by
    rcases begins with ⟨-, rfl⟩ | found
    · exact .nil
    · exact (distinct.lookup?_tidy found).distinct
  refine (distinct.erase key).append (fun listed => ?_) (distinct_addPairs tidy distinctStart filled).tidy
  obtain ⟨entry, kept, same⟩ := List.mem_map.mp listed
  exact of_decide_eq_true (List.mem_filter.mp kept).2 same

/-- What a header of an array of tables adds: the first table of an array of its own, or one more table. -/
theorem openRow_eq_some {key : String} {pairs : List Pair} {origin : Origin} {entries next : List Entry}
    (opened : openRow key pairs origin entries = some next) :
    ∃ inner, addPairs [] pairs = some inner ∧
      (lookup? entries key = none ∧ next = entries ++ [.mk key (.tables [.table .header inner])] ∨
        ∃ rows, lookup? entries key = some (.tables rows) ∧
          next = replace entries key (.tables (rows ++ [.table .header inner]))) := by
  unfold openRow at opened
  split at opened
  · next missing =>
    obtain ⟨inner, filled, same⟩ := Option.bind_eq_some_iff.mp opened
    exact ⟨inner, filled, .inl ⟨missing, (Option.some.inj same).symm⟩⟩
  · next rows found =>
    obtain ⟨inner, filled, same⟩ := Option.bind_eq_some_iff.mp opened
    exact ⟨inner, filled, .inr ⟨rows, found, (Option.some.inj same).symm⟩⟩
  · cases opened

theorem distinct_openRow {key : String} {pairs : List Pair} (tidy : ∀ pair ∈ pairs, pair.value.Tidy)
    {origin : Origin} {entries next : List Entry} (distinct : Distinct entries)
    (opened : openRow key pairs origin entries = some next) : Distinct next := by
  obtain ⟨inner, filled, added⟩ := openRow_eq_some opened
  have row : (Value.table .header inner).Tidy := (distinct_addPairs tidy .nil filled).tidy
  rcases added with ⟨missing, rfl⟩ | ⟨rows, found, rfl⟩
  · exact distinct.append (lookup?_eq_none_iff.mp missing) (.tables (List.forall_mem_singleton.mpr row))
  · cases distinct.lookup?_tidy found with
    | tables others =>
      refine distinct.replace key (.tables fun other listed => ?_)
      rcases List.mem_append.mp listed with before | last
      · exact others other before
      · exact List.mem_singleton.mp last ▸ row

theorem distinct_addSection {entries next : List Entry} {part : Section}
    (tidy : ∀ pair ∈ part.pairs, pair.value.Tidy) (distinct : Distinct entries)
    (added : addSection entries part = some next) : Distinct next := by
  refine distinct_descend (fun origin entries next distinct filled => ?_) distinct added
  split at filled
  · exact distinct_openRow tidy distinct filled
  · exact distinct_openTable tidy distinct filled

/-! ### Reading values -/

/-- A value as it is written: no table in it gives a key twice, and only braces make one. -/
structure Value.Read (value : Value) : Prop where
  tidy : value.Tidy
  inline : ∀ origin entries, value = .table origin entries → origin = .inline

theorem read_integer? {number : Int} {value : Value} (made : integer? number = some value) : value.Read := by
  unfold integer? at made
  split at made
  · exact Option.some.inj made ▸ ⟨.integer _, nofun⟩
  · cases made

theorem read_real? {number : Binary64} {value : Value} (made : real? number = some value) : value.Read := by
  unfold real? at made
  split at made
  · cases made
  · exact Option.some.inj made ▸ ⟨.real _, nofun⟩

theorem read_readInBase? {base : Nat} {text : List Char} {found : Value × List Char}
    (made : readInBase? base text = some found) : found.1.Read := by
  obtain ⟨digits, -, made⟩ := Option.bind_eq_some_iff.mp made
  obtain ⟨value, whole, same⟩ := Option.bind_eq_some_iff.mp made
  exact Option.some.inj same ▸ read_integer? whole

theorem read_readDecimal? {text : List Char} {found : Value × List Char}
    (made : readDecimal? text = some found) : found.1.Read := by
  unfold readDecimal? at made
  obtain ⟨⟨whole, afterWhole⟩, -, made⟩ := Option.bind_eq_some_iff.mp made
  obtain ⟨⟨fraction, afterFraction⟩, -, made⟩ := Option.bind_eq_some_iff.mp made
  obtain ⟨⟨power, rest⟩, -, made⟩ := Option.bind_eq_some_iff.mp made
  dsimp only at made
  split at made
  · obtain ⟨value, number, same⟩ := Option.bind_eq_some_iff.mp made
    exact Option.some.inj same ▸ read_integer? number
  · obtain ⟨value, number, same⟩ := Option.bind_eq_some_iff.mp made
    exact Option.some.inj same ▸ read_real? number

theorem read_readNumber? {text : List Char} {found : Value × List Char}
    (made : readNumber? text = some found) : found.1.Read := by
  unfold readNumber? at made
  split at made
  · exact read_readInBase? made
  · exact read_readInBase? made
  · exact read_readInBase? made
  · rcases Option.or_eq_some_iff.mp made with named | ⟨-, decimal⟩
    · unfold readNamedNumber? at named
      dsimp only at named
      split at named
      · exact Option.some.inj named ▸ ⟨.real _, nofun⟩
      · exact Option.some.inj named ▸ ⟨.real _, nofun⟩
      · cases named
    · exact read_readDecimal? decimal

theorem read_readScalar? {text : List Char} {found : Value × List Char}
    (made : readScalar? text = some found) : found.1.Read := by
  unfold readScalar? at made
  split at made
  · exact Option.some.inj made ▸ ⟨.flag _, nofun⟩
  · exact Option.some.inj made ▸ ⟨.flag _, nofun⟩
  · split at made
    · exact Option.some.inj made ▸ ⟨.datetime, nofun⟩
    · exact read_readNumber? made

/-- Pairs between braces make a table without repeated keys. -/
theorem read_inline {pairs : List Pair} (read : ∀ pair ∈ pairs, pair.value.Read) {entries : List Entry}
    (added : addPairs [] pairs = some entries) : (Value.table .inline entries).Read where
  tidy := (distinct_addPairs (fun pair listed => (read pair listed).tidy) .nil added).tidy
  inline := fun _ _ same => (Value.table.inj same).1.symm

/-- **Values are read without repeated keys**, whatever the fuel is. -/
theorem read_readValue (fuel : Nat) :
    (∀ room text value rest, readValue room fuel text = some (value, rest) → value.Read) ∧
      (∀ room text items rest, readList room fuel text = some (items, rest) → ∀ item ∈ items, item.Read) ∧
      (∀ room text pairs rest, readInline room fuel text = some (pairs, rest) → ∀ pair ∈ pairs, pair.value.Read) ∧
      ∀ room text pairs rest, readInlinePairs room fuel text = some (pairs, rest) →
        ∀ pair ∈ pairs, pair.value.Read := by
  induction fuel with
  | zero => simp [readValue, readList, readInline, readInlinePairs]
  | succ fuel before =>
    obtain ⟨values, lists, tables, inlinePairs⟩ := before
    refine ⟨fun room text value rest made => ?_, fun room text items rest made => ?_,
      fun room text pairs rest made => ?_, fun room text pairs rest made => ?_⟩
    · rw [readValue.eq_def] at made
      dsimp only at made
      split at made
      · split at made
        · cases made
        · obtain ⟨⟨items, later⟩, inside, same⟩ := Option.bind_eq_some_iff.mp made
          obtain ⟨rfl, -⟩ := Prod.mk.inj (Option.some.inj same)
          exact ⟨.list fun item listed => (lists _ _ _ _ inside item listed).tidy, by rintro _ _ ⟨⟩⟩
      · split at made
        · cases made
        · obtain ⟨⟨found, later⟩, inside, made⟩ := Option.bind_eq_some_iff.mp made
          obtain ⟨entries, added, same⟩ := Option.bind_eq_some_iff.mp made
          obtain ⟨rfl, -⟩ := Prod.mk.inj (Option.some.inj same)
          exact read_inline (tables _ _ _ _ inside) added
      · split at made
        · obtain ⟨found, -, same⟩ := Option.map_eq_some_iff.mp made
          obtain ⟨rfl, -⟩ := Prod.mk.inj same
          exact ⟨.text _, by rintro _ _ ⟨⟩⟩
        · exact read_readScalar? made
      · cases made
    · rw [readList.eq_def] at made
      obtain ⟨start, -, made⟩ := Option.bind_eq_some_iff.mp made
      split at made
      · obtain ⟨rfl, -⟩ := Prod.mk.inj (Option.some.inj made)
        exact List.forall_mem_nil _
      · obtain ⟨⟨item, later⟩, first, made⟩ := Option.bind_eq_some_iff.mp made
        obtain ⟨next, -, made⟩ := Option.bind_eq_some_iff.mp made
        have here := values _ _ _ _ first
        split at made
        · obtain ⟨rfl, -⟩ := Prod.mk.inj (Option.some.inj made)
          exact List.forall_mem_singleton.mpr here
        · obtain ⟨⟨others, last⟩, following, same⟩ := Option.bind_eq_some_iff.mp made
          obtain ⟨rfl, -⟩ := Prod.mk.inj (Option.some.inj same)
          exact List.forall_mem_cons.mpr ⟨here, lists _ _ _ _ following⟩
        · cases made
    · rw [readInline.eq_def] at made
      dsimp only at made
      split at made
      · obtain ⟨rfl, -⟩ := Prod.mk.inj (Option.some.inj made)
        exact List.forall_mem_nil _
      · exact inlinePairs _ _ _ _ made
    · rw [readInlinePairs.eq_def] at made
      obtain ⟨⟨⟨path, key⟩, afterKey⟩, -, made⟩ := Option.bind_eq_some_iff.mp made
      obtain ⟨start, -, made⟩ := Option.bind_eq_some_iff.mp made
      obtain ⟨⟨value, later⟩, first, made⟩ := Option.bind_eq_some_iff.mp made
      have here := values _ _ _ _ first
      dsimp only at made
      split at made
      · obtain ⟨rfl, -⟩ := Prod.mk.inj (Option.some.inj made)
        exact List.forall_mem_singleton.mpr here
      · obtain ⟨⟨others, last⟩, following, same⟩ := Option.bind_eq_some_iff.mp made
        obtain ⟨rfl, -⟩ := Prod.mk.inj (Option.some.inj same)
        exact List.forall_mem_cons.mpr ⟨here, inlinePairs _ _ _ _ following⟩
      · cases made

/-! ### Reading documents -/

/-- The pairs of a document, each with a value as it is written. -/
structure Document.Read (document : Document) : Prop where
  pairs : ∀ pair ∈ document.pairs, pair.value.Read
  sections : ∀ part ∈ document.sections, ∀ pair ∈ part.pairs, pair.value.Read

theorem read_readLine? {text rest : List Char} {pair : Pair} (made : readLine? text = some (.pair pair, rest)) :
    pair.value.Read := by
  have header : ∀ isRow text, readHeader? isRow text ≠ some (.pair pair, rest) := by
    intro isRow text made
    obtain ⟨⟨⟨path, key⟩, afterKey⟩, -, made⟩ := Option.bind_eq_some_iff.mp made
    obtain ⟨afterFirst, -, made⟩ := Option.bind_eq_some_iff.mp made
    dsimp only at made
    split at made
    · obtain ⟨afterLast, -, same⟩ := Option.bind_eq_some_iff.mp made
      cases same
    · cases made
  unfold readLine? at made
  split at made
  · exact absurd made (header _ _)
  · exact absurd made (header _ _)
  · split at made
    · cases made
    · obtain ⟨⟨⟨path, key⟩, afterKey⟩, -, made⟩ := Option.bind_eq_some_iff.mp made
      obtain ⟨start, -, made⟩ := Option.bind_eq_some_iff.mp made
      obtain ⟨⟨value, later⟩, valued, same⟩ := Option.bind_eq_some_iff.mp made
      obtain ⟨said, -⟩ := Prod.mk.inj (Option.some.inj same)
      obtain rfl := Line.pair.inj said
      exact (read_readValue _).1 _ _ _ _ valued

theorem read_readLines? {fuel : Nat} {text : List Char} {lines : List Line}
    (made : readLines? fuel text = some lines) : ∀ pair, .pair pair ∈ lines → pair.value.Read := by
  induction fuel generalizing text lines with
  | zero =>
    cases text with
    | nil => exact Option.some.inj made ▸ nofun
    | cons => cases made
  | succ fuel later =>
    cases text with
    | nil => exact Option.some.inj made ▸ nofun
    | cons c text =>
      obtain ⟨⟨line, rest⟩, first, made⟩ := Option.bind_eq_some_iff.mp made
      obtain ⟨next, -, made⟩ := Option.bind_eq_some_iff.mp made
      obtain ⟨others, following, same⟩ := Option.bind_eq_some_iff.mp made
      obtain rfl := Option.some.inj same
      intro pair listed
      rcases List.mem_cons.mp listed with rfl | other
      · exact read_readLine? first
      · exact later following pair other

theorem Document.read_ofLines {lines : List Line} (read : ∀ pair, .pair pair ∈ lines → pair.value.Read) :
    (ofLines lines).Read := by
  induction lines with
  | nil => exact ⟨nofun, nofun⟩
  | cons line lines rest =>
    have later := rest fun pair listed => read pair (List.mem_cons_of_mem line listed)
    cases line with
    | blank => exact later
    | pair pair => exact ⟨List.forall_mem_cons.mpr ⟨read pair List.mem_cons_self, later.pairs⟩, later.sections⟩
    | header => exact ⟨nofun, List.forall_mem_cons.mpr ⟨later.pairs, later.sections⟩⟩

theorem read_readDocument {text : List Char} {document : Document} (made : readDocument text = some document) :
    document.Read := by
  obtain ⟨lines, read, rfl⟩ := Option.map_eq_some_iff.mp made
  exact Document.read_ofLines (read_readLines? read)

theorem distinct_root {document : Document} (read : document.Read) {entries : List Entry}
    (made : document.root = some entries) : Distinct entries := by
  obtain ⟨start, begins, added⟩ := Option.bind_eq_some_iff.mp made
  have first := distinct_addPairs (fun pair listed => (read.pairs pair listed).tidy) .nil begins
  exact foldlM_kept (fun part listed _ _ => distinct_addSection fun pair inside =>
    (read.sections part listed pair inside).tidy) first added

/-- **No table of a document gives a key twice.** -/
theorem distinct_of_parse? {text : String} {entries : List Entry} (parsed : parse? text = some entries) :
    Distinct entries := by
  obtain ⟨document, made, root⟩ := Option.bind_eq_some_iff.mp parsed
  exact distinct_root (read_readDocument made) root

/-! ### The order of the root table -/

/-- The keys so far and one that is mentioned. -/
def mention (keys : List String) (key : String) : List String := if key ∈ keys then keys else keys ++ [key]

/-- The key of the root table that a pair is about, before the first header. -/
def Pair.top (pair : Pair) : String := (pair.path ++ [pair.key]).headD ""

/-- The key of the root table that a section is about. -/
def Section.top (part : Section) : String := (part.path ++ [part.key]).headD ""

/-- The keys of the root table after a section. A header of its own puts a table last. -/
def Section.place (keys : List String) (part : Section) : List String :=
  if part.isRow = false ∧ part.path = [] then keys.filter (· ≠ part.key) ++ [part.key] else mention keys part.top

/-- The keys of the root table in the order in which the text mentions them first, or puts them last. -/
def Document.keys (document : Document) : List String :=
  document.sections.foldl Section.place (document.pairs.foldl (fun keys pair => mention keys pair.top) [])

theorem mention_of_lookup? {entries : List Entry} {key : String} {value : Value}
    (found : lookup? entries key = some value) : mention (entries.map Entry.key) key = entries.map Entry.key :=
  if_pos (List.mem_map_of_mem (f := Entry.key) (mem_of_lookup? found))

theorem mention_of_missing {entries : List Entry} {key : String} (missing : lookup? entries key = none)
    (value : Value) : (entries ++ [Entry.mk key value]).map Entry.key = mention (entries.map Entry.key) key := by
  rw [mention, if_neg (lookup?_eq_none_iff.mp missing), List.map_append]
  rfl

/-- A change below a key mentions the key. -/
theorem keys_descend {made : Origin} {change : Origin → List Entry → Option (List Entry)} {key : String}
    {path : List String} {origin : Origin} {entries next : List Entry}
    (changed : descend made change (key :: path) origin entries = some next) :
    next.map Entry.key = mention (entries.map Entry.key) key := by
  rcases descend_cons_eq_some changed with ⟨missing, inner, -, rfl⟩ | ⟨origin, inner, last, found, -, rfl⟩ |
    ⟨rows, origin, inner, last, found, -, -, rfl⟩
  · exact mention_of_missing missing _
  · rw [keys_replace, mention_of_lookup? found]
  · rw [keys_replace, mention_of_lookup? found]

theorem keys_addPair {entries next : List Entry} {pair : Pair} (added : addPair entries pair = some next) :
    next.map Entry.key = mention (entries.map Entry.key) pair.top := by
  obtain ⟨path, key, value⟩ := pair
  cases path with
  | cons => exact keys_descend added
  | nil =>
    change (if (lookup? entries key).isSome then none else some (entries ++ [.mk key value])) = some next at added
    split at added
    · cases added
    · next fresh =>
      obtain rfl := Option.some.inj added
      exact mention_of_missing (Option.not_isSome_iff_eq_none.mp fresh) value

theorem keys_addSection {entries next : List Entry} {part : Section}
    (added : addSection entries part = some next) : next.map Entry.key = part.place (entries.map Entry.key) := by
  obtain ⟨isRow, path, key, pairs⟩ := part
  cases path with
  | cons first path =>
    rw [Section.place, if_neg (fun own => nomatch own.2)]
    exact @keys_descend .path _ first path .header entries next added
  | nil =>
    cases isRow with
    | false =>
      change openTable key pairs .header entries = some next at added
      obtain ⟨start, inner, -, -, rfl⟩ := openTable_eq_some added
      rw [Section.place, if_pos ⟨rfl, rfl⟩, List.map_append, erase, List.filter_map]
      rfl
    | true =>
      change openRow key pairs .header entries = some next at added
      rw [Section.place, if_neg (fun own => nomatch own.1)]
      obtain ⟨inner, -, ⟨missing, rfl⟩ | ⟨rows, found, rfl⟩⟩ := openRow_eq_some added
      · exact mention_of_missing missing _
      · rw [keys_replace]
        exact (mention_of_lookup? found).symm

/-- What every step does to the keys, all steps do. -/
theorem keys_foldlM {α : Type} {step : List Entry → α → Option (List Entry)}
    (place : List String → α → List String)
    (each : ∀ entries item next, step entries item = some next →
      next.map Entry.key = place (entries.map Entry.key) item) {items : List α} {start last : List Entry}
    (run : items.foldlM step start = some last) :
    last.map Entry.key = items.foldl place (start.map Entry.key) := by
  induction items generalizing start with
  | nil => exact Option.some.inj run ▸ rfl
  | cons item items rest =>
    rw [List.foldlM_cons] at run
    obtain ⟨next, first, later⟩ := Option.bind_eq_some_iff.mp run
    rw [List.foldl_cons, rest later, each start item next first]

/-- **The root table has its keys in the order in which they are mentioned first**, or in which headers of their
own come. -/
theorem keys_root {document : Document} {entries : List Entry} (made : document.root = some entries) :
    entries.map Entry.key = document.keys := by
  obtain ⟨start, begins, added⟩ := Option.bind_eq_some_iff.mp made
  rw [keys_foldlM Section.place (fun _ _ _ => keys_addSection) added,
    keys_foldlM (fun keys pair => mention keys pair.top) (fun _ _ _ => keys_addPair) begins]
  rfl

/-! ### Documents without dots -/

/-- No key and no header has more than one part, and no header adds to an array of tables. -/
structure Document.IsPlain (document : Document) : Prop where
  pairs : ∀ pair ∈ document.pairs, pair.path = []
  sections : ∀ part ∈ document.sections, part.isRow = false ∧ part.path = [] ∧ ∀ pair ∈ part.pairs, pair.path = []

/-- A pair as the entry that it says. -/
def Pair.entry (pair : Pair) : Entry := .mk pair.key pair.value

/-- A section as the entry that it says. -/
def Section.entry (part : Section) : Entry := .mk part.key (.table .header (part.pairs.map Pair.entry))

/-- What a document says, in its order. -/
def Document.listing (document : Document) : List Entry :=
  document.pairs.map Pair.entry ++ document.sections.map Section.entry

theorem addPairs_of_plain {pairs : List Pair} (plain : ∀ pair ∈ pairs, pair.path = []) {start entries : List Entry}
    (added : addPairs start pairs = some entries) : entries = start ++ pairs.map Pair.entry := by
  induction pairs generalizing start with
  | nil => exact (Option.some.inj added).symm.trans (List.append_nil start).symm
  | cons pair pairs rest =>
    obtain ⟨here, later⟩ := List.forall_mem_cons.mp plain
    rw [addPairs, List.foldlM_cons] at added
    obtain ⟨next, first, added⟩ := Option.bind_eq_some_iff.mp added
    rw [addPair, here] at first
    obtain rfl : start ++ [pair.entry] = next := by
      change (if (lookup? start pair.key).isSome then none else some (start ++ [pair.entry])) = some next at first
      split at first
      · cases first
      · exact Option.some.inj first
    rw [rest later added, List.append_assoc]
    rfl

theorem erase_of_lookup? {entries : List Entry} {key : String} (missing : lookup? entries key = none) :
    erase entries key = entries := by
  refine List.filter_eq_self.mpr fun entry listed => decide_eq_true fun same => ?_
  exact lookup?_eq_none_iff.mp missing (same ▸ List.mem_map_of_mem listed)

/-- Sections without dots are added in their order, where no table lies on the path of a header only. -/
theorem addSections_of_plain {sections : List Section}
    (plain : ∀ part ∈ sections, part.isRow = false ∧ part.path = [] ∧ ∀ pair ∈ part.pairs, pair.path = [])
    {start entries : List Entry} (complete : ∀ key inner, .mk key (.table .path inner) ∉ start)
    (added : sections.foldlM addSection start = some entries) : entries = start ++ sections.map Section.entry := by
  induction sections generalizing start with
  | nil => exact (Option.some.inj added).symm.trans (List.append_nil start).symm
  | cons part sections rest =>
    obtain ⟨⟨single, here, pairs⟩, later⟩ := List.forall_mem_cons.mp plain
    rw [List.foldlM_cons] at added
    obtain ⟨next, first, added⟩ := Option.bind_eq_some_iff.mp added
    rw [addSection, single, here] at first
    change openTable part.key part.pairs .header start = some next at first
    obtain ⟨inner, filled, begins, pairsAdded, rfl⟩ := openTable_eq_some first
    rcases begins with ⟨missing, rfl⟩ | found
    · rw [erase_of_lookup? missing] at added
      obtain rfl := addPairs_of_plain pairs pairsAdded
      have completeNext : ∀ key inner, .mk key (.table .path inner) ∉ start ++ [part.entry] := by
        intro key inner listed
        rcases List.mem_append.mp listed with before | last
        · exact complete key inner before
        · cases List.mem_singleton.mp last
      rw [rest later completeNext added, List.append_assoc]
      rfl
    · exact absurd (mem_of_lookup? found) (complete _ _)

/-- **A document without dots is its root table**, entry by entry. -/
theorem root_of_isPlain {document : Document} (plain : document.IsPlain) (read : document.Read)
    {entries : List Entry} (made : document.root = some entries) : entries = document.listing := by
  obtain ⟨start, begins, added⟩ := Option.bind_eq_some_iff.mp made
  obtain rfl := addPairs_of_plain plain.pairs begins
  rw [List.nil_append] at added
  refine addSections_of_plain plain.sections (fun key inner listed => ?_) added
  obtain ⟨pair, inside, same⟩ := List.mem_map.mp listed
  exact nomatch (read.pairs pair inside).inline _ _ (Entry.mk.inj same).2

end NameDomains.Toml
