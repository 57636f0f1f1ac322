/-
**Adding to the end of a file.**

A path leads to a file through directories only, so a file that is written where no directory stands is no part
of the way there, and the path leads to it afterwards. Text that is added to a file goes behind what was there;
no other file changes, and text added later goes behind the text added before.

* `FileTree.locate_step` — where a path of one step leads to.
* `FileTree.locate_insert` — a path leads to the file that was written there.
* `FileTree.contentAt`, `FileTree.Extended` — what a file holds, and what adding to it leaves.
* `FileTree.Extended.append`, `FileTree.Extended.trans` — adding once, and once more.
-/

import Mathlib.Data.String.Basic
import Mathlib.Tactic.SplitIfs
import NameDomains.Log.Output

namespace NameDomains.FileTree

variable {tree : FileTree} {start place : List String} {entry : Option FileEntry}

/-! ### Paths -/

/-- What a path leads to stands where it leads. -/
theorem entryAt_of_follow {steps : List String} (found : tree.follow start steps = .ok (place, entry)) :
    tree.entryAt place = entry := by
  induction steps generalizing start with
  | nil =>
    obtain ⟨rfl, rfl⟩ := Prod.mk.inj (Except.ok.inj found)
    rfl
  | cons step steps later =>
    rw [follow] at found
    split at found
    · cases found
    · cases found
    · split_ifs at found
      · exact later found
      · exact later found
      · exact later found

section Steps

open String

/-- From a place behind which there is no slash, a text is not divided any further. -/
theorem splitOnAux_of_free (before after : List Char) (free : '/' ∉ after) :
    splitOnAux (ofList (before ++ after)) "/" 0 ⟨utf8Len before⟩ 0 [] = [ofList (before ++ after)] := by
  -- Nothing is found by the end, so what is cut off there is the whole text.
  induction after generalizing before with
  | nil =>
    have whole := extract_of_valid [] before []
    rw [utf8Len_nil, Nat.zero_add] at whole
    rw [splitOnAux, if_pos ((atEnd_of_valid before []).mpr rfl)]
    simpa using whole
  | cons first after later =>
    have inside : ¬ Pos.Raw.atEnd (ofList (before ++ first :: after)) ⟨utf8Len before⟩ = true := fun ended =>
      List.cons_ne_nil _ _ ((atEnd_of_valid before (first :: after)).mp ended)
    have here : Pos.Raw.get (ofList (before ++ first :: after)) ⟨utf8Len before⟩ = first := get_of_valid _ _
    have slash : Pos.Raw.get "/" 0 = '/' := by decide
    have differs : first ≠ '/' := fun same => free (same ▸ List.mem_cons_self)
    have next : Pos.Raw.next (ofList (before ++ first :: after)) (Pos.Raw.unoffsetBy ⟨utf8Len before⟩ 0) =
        ⟨utf8Len (before ++ [first])⟩ := by
      simpa using next_of_valid before first after
    have rest := later (before ++ [first]) fun listed => free (List.mem_cons_of_mem first listed)
    rw [List.append_assoc, List.singleton_append] at rest
    rw [splitOnAux, if_neg inside, here, slash, if_neg (by simpa using differs), next, rest]

/-- A path without a slash has one step. -/
theorem splitOn_of_free {path : String} (free : '/' ∉ path.toList) : path.splitOn "/" = [path] := by
  have whole := splitOnAux_of_free [] path.toList free
  rw [splitOn, if_neg (by decide)]
  simpa using whole

end Steps

/-- **A path of one step leads to what stands there.** -/
theorem locate_step (tree : FileTree) {step : String} (free : '/' ∉ step.toList)
    (clean : '\x00' ∉ step.toList) (named : step ∉ ["", ".", ".."])
    (short : step.utf8ByteSize ≤ longestName) : tree.locate step = .ok ([step], tree[[step]]?) := by
  have fits : ¬ step.utf8ByteSize > longestPath :=
    Nat.not_lt.mpr (Nat.le_trans short (by decide))
  obtain ⟨named, notHere, notBack⟩ : step ≠ "" ∧ step ≠ "." ∧ step ≠ ".." := by simpa using named
  have root : tree.entryAt [] = some .directory := rfl
  unfold locate
  rw [if_neg (by simpa using clean), if_neg named, if_neg fits, splitOn_of_free free, follow, root]
  dsimp only
  rw [if_neg (by simp [named, notHere]), if_neg notBack, if_neg (Nat.not_lt.mpr short)]
  rfl

/-- Writing a file changes nothing anywhere else. -/
theorem getElem?_insert_of_ne {other : List String} (apart : other ≠ place) (content : ByteArray) :
    (tree.insert place (.file content))[other]? = tree[other]? := by
  rw [Std.ExtTreeMap.getElem?_insert]
  exact if_neg fun same => apart (Std.compare_eq_iff_eq.mp same).symm

theorem entryAt_insert_of_ne {other : List String} (apart : other ≠ place) (content : ByteArray) :
    entryAt (tree.insert place (.file content)) other = tree.entryAt other := by
  rw [entryAt, entryAt, getElem?_insert_of_ne apart]

theorem entryAt_insert_self (below : place ≠ []) (content : ByteArray) :
    entryAt (tree.insert place (.file content)) place = some (.file content) := by
  rw [entryAt, if_neg (by rwa [List.isEmpty_iff]), Std.ExtTreeMap.getElem?_insert_self]

/-- **A path leads to a file that is written where it leads**, if no directory stood there. -/
theorem follow_insert {steps : List String} (found : tree.follow start steps = .ok (place, entry))
    (free : entry ≠ some .directory) (content : ByteArray) :
    follow (tree.insert place (.file content)) start steps = .ok (place, some (.file content)) := by
  have stands := entryAt_of_follow found
  have below : place ≠ [] := by
    rintro rfl
    exact free (stands.symm.trans rfl)
  induction steps generalizing start with
  | nil =>
    obtain ⟨rfl, -⟩ := Prod.mk.inj (Except.ok.inj found)
    rw [follow, entryAt_insert_self below]
  | cons step steps later =>
    rw [follow] at found ⊢
    split at found
    · cases found
    · cases found
    · next inside =>
      -- A step is taken from a directory, so not from where the file is written.
      have apart : start ≠ place := by
        rintro rfl
        exact free (stands.symm.trans inside)
      rw [entryAt_insert_of_ne apart, inside]
      dsimp only
      split_ifs at found ⊢
      · exact later found
      · exact later found
      · exact later found

theorem locate_insert {path : String} (found : tree.locate path = .ok (place, entry))
    (free : entry ≠ some .directory) (content : ByteArray) :
    locate (tree.insert place (.file content)) path = .ok (place, some (.file content)) := by
  unfold locate at found ⊢
  split_ifs at found ⊢
  exact follow_insert found free content

/-- **A file can be opened for appending exactly if its path leads somewhere, and to no directory.** -/
theorem canAppend_iff {path : String} :
    tree.canAppend path = true ↔
      ∃ place entry, tree.locate path = .ok (place, entry) ∧ entry ≠ some .directory := by
  unfold canAppend
  split
  · next found => simp [found]
  · next reached other found =>
    refine ⟨fun _ => ⟨reached.1, reached.2, found, fun directory => other reached.1 ?_⟩, fun _ => rfl⟩
    rw [← directory]
  · next error failed => simp [failed]

/-! ### Content -/

/-- What a file holds; nothing where there is none. -/
def contentAt (tree : FileTree) (path : String) : ByteArray :=
  match tree.readBytes path with
  | .ok content => content
  | .error _ => .empty

theorem contentAt_of_file {path : String} {content : ByteArray}
    (found : tree.locate path = .ok (place, some (.file content))) : tree.contentAt path = content := by
  rw [contentAt, readBytes, found]
  rfl

/-- **Text that was written to a file can be read.** -/
theorem readText_of_file {path text : String}
    (found : tree.locate path = .ok (place, some (.file text.toUTF8))) : tree.readText path = .ok text := by
  have read : String.fromUTF8? text.toUTF8 = some text := by
    simpa [String.fromUTF8?] using ⟨text.isValidUTF8, rfl⟩
  have bytes : tree.readBytes path = .ok text.toUTF8 := by
    rw [FileTree.readBytes, found]
    rfl
  simp only [readText, bytes, bind, Except.bind, read]
  rfl

/-- Where nothing stands no text is read. -/
theorem readText_of_nothing {path : String} (found : tree.locate path = .ok (place, none)) :
    tree.readText path = .error .missing := by
  rw [readText, FileTree.readBytes, found]
  rfl

/-- What a tree is to another in which text was added to the end of a file, or a file was made of it: the path
leads to the same place, where the file now holds the text behind what it held, and no other place has changed. -/
def Extended (before after : FileTree) (path text : String) : Prop :=
  ∃ place entry, before.locate path = .ok (place, entry) ∧ entry ≠ some .directory ∧
    after.locate path = .ok (place, some (.file (before.contentAt path ++ text.toUTF8))) ∧
    ∀ other, other ≠ place → after[other]? = before[other]?

/-- Adding to a file writes what it held and the text. -/
theorem append_eq {path : String} (found : tree.locate path = .ok (place, entry))
    (free : entry ≠ some .directory) (text : String) :
    tree.append path text = tree.insert place (.file (tree.contentAt path ++ text.toUTF8)) := by
  rw [append, found]
  match entry with
  | none =>
    have nothing : tree.contentAt path = .empty := by
      rw [contentAt, readBytes, found]
      rfl
    rw [nothing, ByteArray.empty_append]
  | some (.file content) => rw [contentAt_of_file found]
  | some .directory => exact absurd rfl free

namespace Extended

variable {before after last : FileTree} {path text more : String}

/-- **Text is added to every file that can be opened for that.** -/
theorem append (opens : before.canAppend path = true) (text : String) :
    Extended before (before.append path text) path text := by
  obtain ⟨place, entry, found, free⟩ := canAppend_iff.mp opens
  refine ⟨place, entry, found, free, ?_, fun other apart => ?_⟩
  · rw [append_eq found free]
    exact locate_insert found free _
  · rw [append_eq found free]
    exact getElem?_insert_of_ne apart _

/-- **Text that is added later goes behind.** -/
theorem trans (first : Extended before after path text) (second : Extended after last path more) :
    Extended before last path (text ++ more) := by
  obtain ⟨place, entry, found, free, written, others⟩ := first
  obtain ⟨otherPlace, otherEntry, otherFound, -, rewritten, unchanged⟩ := second
  obtain ⟨rfl, rfl⟩ := Prod.mk.inj (Except.ok.inj (written.symm.trans otherFound))
  refine ⟨place, entry, found, free, ?_, fun other apart => (unchanged other apart).trans (others other apart)⟩
  rw [rewritten, contentAt_of_file written, ByteArray.append_assoc]
  simp

/-- A file to which text was added can be added to. -/
theorem canAppend (extended : Extended before after path text) : after.canAppend path = true := by
  obtain ⟨place, -, -, -, written, -⟩ := extended
  exact canAppend_iff.mpr ⟨place, _, written, nofun⟩

/-- The file holds what it held, and the text. -/
theorem readBytes (extended : Extended before after path text) :
    after.readBytes path = .ok (before.contentAt path ++ text.toUTF8) := by
  obtain ⟨place, -, -, -, written, -⟩ := extended
  rw [FileTree.readBytes, written]
  rfl

end Extended

end NameDomains.FileTree
