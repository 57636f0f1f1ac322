/-
**Renaming the classes in a descriptor there and back.**

A class table relates names one to one, yet renaming by it may not be undone by renaming the other way
around: a new name that cannot stand in a descriptor is not taken, and a class that the table does not
know may have the name to which another class is renamed. So it is settled name by name:

* `ClassTable.Holds.directed_reverse_eq_some_iff` — the renamings of the two directions are each the
  other's reverse.
* `ClassTable.Returns` — what has to hold of a class name.
* `ClassTable.Holds.apply_apply_eq_iff` — a class name comes back exactly if that holds of it.
* `ClassTable.rename_there_and_back_iff` — which descriptors come back.
-/

import NameDomains.Proofs.ClassTable.Bijection
import NameDomains.Proofs.Descriptor.Renaming

namespace NameDomains

/-! ### New names that are taken and new names that are not -/

namespace ClassRenaming

variable {newName : ClassRenaming} {name : String}

/-- A plain new name is taken. -/
theorem apply_of_plain {renamed : String} (known : newName name = some renamed)
    (plain : Descriptor.isPlainName renamed = true) : newName.apply name = renamed := by
  rw [apply, known]
  exact if_pos plain

/-- **A name stays exactly if its new name is not taken or is the name itself.** -/
theorem apply_eq_self_iff :
    newName.apply name = name ↔
      ∀ renamed, newName name = some renamed →
        Descriptor.isPlainName renamed = false ∨ renamed = name := by
  constructor
  · intro stays renamed known
    by_cases plain : Descriptor.isPlainName renamed = true
    · exact .inr ((apply_of_plain known plain).symm.trans stays)
    · exact .inl (eq_false_of_ne_true plain)
  · intro harmless
    unfold apply
    split
    · next renamed known =>
      rcases harmless renamed known with unfit | same
      · exact if_neg (ne_true_of_eq_false unfit)
      · rw [same, ite_self]
    · rfl

end ClassRenaming

namespace ClassTable

/-! ### One name -/

/-- A class name has a plain counterpart and is plain itself; or it has no plain counterpart, and on the way
back it has none either, unless that is the name itself. -/
def Returns (table : ClassTable) (direction : Direction) (name : String) : Prop :=
  (∃ counterpart, table.directed direction name = some counterpart ∧
      Descriptor.isPlainName counterpart = true ∧ Descriptor.isPlainName name = true) ∨
    (∀ counterpart, table.directed direction name = some counterpart →
      Descriptor.isPlainName counterpart = false) ∧
      ∀ original, table.directed direction.reverse name = some original →
        Descriptor.isPlainName original = false ∨ original = name

/-- Whether a class name returns is seen from its counterparts. -/
instance (table : ClassTable) (direction : Direction) (name : String) :
    Decidable (table.Returns direction name) :=
  decidable_of_iff
    (((table.directed direction name).any fun counterpart =>
        Descriptor.isPlainName counterpart && Descriptor.isPlainName name) = true ∨
      ((table.directed direction name).all fun counterpart =>
        !Descriptor.isPlainName counterpart) = true ∧
        ((table.directed direction.reverse name).all fun original =>
          !Descriptor.isPlainName original || decide (original = name)) = true)
    (by
      simp only [Returns, Option.any_eq_true, Option.all_eq_true, Bool.and_eq_true,
        Bool.or_eq_true, Bool.not_eq_true', decide_eq_true_eq])

namespace Holds

variable {table : ClassTable} {pairs : List (String × String)}

/-- **The renamings of the two directions are each the other's reverse.** -/
theorem directed_reverse_eq_some_iff (holds : Holds table pairs) {direction : Direction}
    {name counterpart : String} :
    table.directed direction.reverse counterpart = some name ↔
      table.directed direction name = some counterpart := by
  calc table.directed direction.reverse counterpart = some name
      ↔ (counterpart, name) ∈ links direction.reverse pairs := holds.counterparts ..
    _ ↔ (name, counterpart) ∈ links direction pairs := mem_links_reverse direction
    _ ↔ table.directed direction name = some counterpart := (holds.counterparts ..).symm

/-- A name with a plain counterpart comes back exactly if it is plain itself. -/
theorem apply_apply_of_plain (holds : Holds table pairs) {direction : Direction}
    {name counterpart : String} (known : table.directed direction name = some counterpart)
    (plain : Descriptor.isPlainName counterpart = true) :
    (table.directed direction.reverse).apply ((table.directed direction).apply name) = name ↔
      Descriptor.isPlainName name = true := by
  have returns := holds.directed_reverse_eq_some_iff.mpr known
  rw [ClassRenaming.apply_of_plain known plain]
  constructor
  · intro same
    by_contra unfit
    -- The old name would not be taken on the way back, so the new one would stay.
    have stays : (table.directed direction.reverse).apply counterpart = counterpart := by
      refine ClassRenaming.apply_eq_self_iff.mpr fun original found => .inl ?_
      rw [returns] at found
      exact Option.some.inj found ▸ eq_false_of_ne_true unfit
    rw [stays] at same
    exact unfit (same ▸ plain)
  · exact ClassRenaming.apply_of_plain returns

/-- **A class name comes back from there and back exactly if it returns.** -/
theorem apply_apply_eq_iff (holds : Holds table pairs) (direction : Direction) (name : String) :
    (table.directed direction.reverse).apply ((table.directed direction).apply name) = name ↔
      table.Returns direction name := by
  by_cases renamed : ∃ counterpart, table.directed direction name = some counterpart ∧
      Descriptor.isPlainName counterpart = true
  · obtain ⟨counterpart, known, plain⟩ := renamed
    rw [holds.apply_apply_of_plain known plain]
    constructor
    · intro fit
      exact .inl ⟨counterpart, known, plain, fit⟩
    · rintro (⟨_, _, _, fit⟩ | ⟨noPlain, _⟩)
      · exact fit
      · exact absurd (noPlain counterpart known) (ne_false_of_eq_true plain)
  · have noPlain : ∀ counterpart, table.directed direction name = some counterpart →
        Descriptor.isPlainName counterpart = false := fun counterpart known =>
      eq_false_of_ne_true fun plain => renamed ⟨counterpart, known, plain⟩
    have stays : (table.directed direction).apply name = name :=
      ClassRenaming.apply_eq_self_iff.mpr fun counterpart known => .inl (noPlain counterpart known)
    rw [stays, ClassRenaming.apply_eq_self_iff]
    constructor
    · exact fun harmless => .inr ⟨noPlain, harmless⟩
    · rintro (⟨counterpart, known, plain, _⟩ | ⟨_, harmless⟩)
      · exact absurd ⟨counterpart, known, plain⟩ renamed
      · exact harmless

end Holds

/-! ### All names of a descriptor -/

/-- **A descriptor comes back from there and back exactly if each of its class names returns**, by
whichever entries it is renamed. It does so if the table knows each of its classes, and both names of it are
plain, or knows it by neither name. -/
theorem rename_there_and_back_iff {pairs : List (String × String)} {table : ClassTable}
    (built : ofPairs pairs = .ok table) (direction : Direction) (descriptor : Descriptor) :
    ∀ there ∈ Descriptor.entries, ∀ back ∈ Descriptor.entries,
      (back (table.directed direction.reverse) (there (table.directed direction) descriptor) =
          descriptor ↔ ∀ name ∈ descriptor.classNames, table.Returns direction name) ∧
      ((∀ name ∈ descriptor.classNames,
          (∃ counterpart, table.directed direction name = some counterpart ∧
            Descriptor.isPlainName counterpart = true ∧ Descriptor.isPlainName name = true) ∨
          table.directed direction name = none ∧ table.directed direction.reverse name = none) →
        back (table.directed direction.reverse) (there (table.directed direction) descriptor) =
          descriptor) := by
  intro there thereListed back backListed
  have exactly : (descriptor.rename (table.directed direction)).rename
      (table.directed direction.reverse) = descriptor ↔
        ∀ name ∈ descriptor.classNames, table.Returns direction name :=
    Descriptor.rename_rename_eq_iff.trans <| forall₂_congr fun name _ =>
      (holds_of_ofPairs built).apply_apply_eq_iff direction name
  rw [Descriptor.eq_rename_of_mem_entries thereListed, Descriptor.eq_rename_of_mem_entries backListed]
  refine ⟨exactly, fun settled => exactly.mpr fun name listed => ?_⟩
  rcases settled name listed with bothPlain | ⟨unknown, unknownBack⟩
  · exact .inl bothPlain
  · refine .inr ⟨fun counterpart known => ?_, fun original known => ?_⟩
    · rw [unknown] at known
      cases known
    · rw [unknownBack] at known
      cases known

/-- A class that the table does not know may have the new name of another class. -/
theorem rename_there_and_back_captured :
    ∃ table, ofPairs [("net.Foo", "a"), ("net/Bar", "x;b")] = .ok table ∧
      Descriptor.renameField (table.directed .toHuman)
        (Descriptor.renameMethod (table.directed .toRuntime)
          (.method ⟨[.array (.object "net/Foo"), .object "net/Bar"], .field (.object "b")⟩)) =
        .method ⟨[.array (.object "net/Foo"), .object "net/Bar"], .field (.object "b")⟩ ∧
      Descriptor.renameMethod (table.directed .toHuman)
        (Descriptor.renameField (table.directed .toRuntime) (.object "a")) ≠ .object "a" := by
  obtain ⟨table, built⟩ : ∃ table, ofPairs [("net.Foo", "a"), ("net/Bar", "x;b")] = .ok table :=
    ⟨_, rfl⟩
  have whole : table = _ := Except.ok.inj (built.symm.trans rfl)
  have main := rename_there_and_back_iff built .toRuntime
  refine ⟨table, built, ?_, fun same => ?_⟩
  · refine (main _ _ (by simp [Descriptor.entries]) _ (by simp [Descriptor.entries])).1.mpr ?_
    rw [whole]
    decide
  · have returns := (main _ _ (by simp [Descriptor.entries]) _ (by simp [Descriptor.entries])).1.mp same
    rw [whole] at returns
    exact absurd returns (by decide)

end ClassTable

end NameDomains
