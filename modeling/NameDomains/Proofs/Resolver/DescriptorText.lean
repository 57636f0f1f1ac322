/-
**Renaming in written descriptors.**

New names come from the host as they are and may hold any character. None of those that would be read as
something else is taken, so a renamed descriptor is read back as it was made. A resolver that is given the
text of a descriptor therefore answers with the text of a descriptor, and with the given text and a warning
if that is none:

* `Descriptor.parse_render_rename` — a renamed descriptor is read back.
* `MemberKind.parse_rename` — a renamed method type is read back as a method type, a field type as a
  field type.
* `Resolver.renameText_of_parsed`, `Resolver.renameText_of_unread` — the two answers.
* `Resolver.renameText_parses_iff` — all of it.
-/

import NameDomains.Proofs.Descriptor.Grammar
import NameDomains.Proofs.Descriptor.Renaming
import NameDomains.Resolver.Basic

namespace NameDomains

/-- **A renamed descriptor is read back**, whatever the new names are. -/
theorem Descriptor.parse_render_rename {descriptor : Descriptor} (wellFormed : descriptor.WellFormed)
    (newName : ClassRenaming) :
    parse (descriptor.rename newName).render = .ok (descriptor.rename newName) :=
  parse_eq_ok_iff.mpr ⟨wellFormed.rename newName, rfl⟩

/-! ### Descriptors of the two kinds of members -/

namespace MemberKind

/-- Reads the descriptor of a member. -/
def parse : MemberKind → String → Except DescriptorError Descriptor
  | method => Descriptor.parseMethod
  | field => Descriptor.parseField

/-- A member may have the descriptor: methods have method types, fields have field types. -/
def Admits : MemberKind → Descriptor → Prop
  | method, descriptor => ∃ type, descriptor = .method type
  | field, descriptor => ∃ type, descriptor = .field type

theorem parse_eq_ok_iff {kind : MemberKind} {text : String} {descriptor : Descriptor} :
    kind.parse text = .ok descriptor ↔
      kind.Admits descriptor ∧ descriptor.WellFormed ∧ descriptor.render = text := by
  cases kind with
  | method => exact Descriptor.parseMethod_eq_ok_iff
  | field => exact Descriptor.parseField_eq_ok_iff

theorem Admits.rename {kind : MemberKind} {descriptor : Descriptor} (admitted : kind.Admits descriptor)
    (newName : ClassRenaming) : kind.Admits (descriptor.rename newName) := by
  cases kind with
  | method =>
    obtain ⟨type, rfl⟩ := admitted
    exact ⟨type.rename newName, rfl⟩
  | field =>
    obtain ⟨type, rfl⟩ := admitted
    exact ⟨type.rename newName, rfl⟩

/-- **A renamed descriptor of a member is read back as one of the same kind.** -/
theorem parse_rename {kind : MemberKind} {text : String} {descriptor : Descriptor}
    (read : kind.parse text = .ok descriptor) (newName : ClassRenaming) :
    kind.parse (descriptor.rename newName).render = .ok (descriptor.rename newName) := by
  obtain ⟨admitted, wellFormed, -⟩ := parse_eq_ok_iff.mp read
  exact parse_eq_ok_iff.mpr ⟨admitted.rename newName, wellFormed.rename newName, rfl⟩

end MemberKind

/-! ### Answers -/

namespace Resolver

variable {kind : MemberKind} {text : String}

/-- Renames the classes in the descriptor of a member. -/
def renameOf (resolver : Resolver) : MemberKind → Descriptor → Direction → Descriptor
  | .method => resolver.renameMethod
  | .field => resolver.renameField

/-- Renames the classes in the written descriptor of a member. -/
def renameText (resolver : Resolver) : MemberKind → String → Direction → Logged String
  | .method => resolver.renameMethodText
  | .field => resolver.renameFieldText

theorem renameOf_obfuscated (tables : ResolverTables) (kind : MemberKind) (descriptor : Descriptor)
    (direction : Direction) :
    (obfuscated tables).renameOf kind descriptor direction =
      descriptor.rename (tables.classes.directed direction) := by
  cases kind with
  | method => exact Descriptor.renameMethod_eq_rename _ descriptor
  | field => exact Descriptor.renameField_eq_rename _ descriptor

/-- **A text that is read is answered with the text of the renamed descriptor.** -/
theorem renameText_of_parsed {descriptor : Descriptor} (read : kind.parse text = .ok descriptor)
    (tables : ResolverTables) (direction : Direction) :
    (obfuscated tables).renameText kind text direction =
      pure (descriptor.rename (tables.classes.directed direction)).render := by
  rw [← renameOf_obfuscated tables kind]
  cases kind with
  | method =>
    have parsed : Descriptor.parseMethod text = .ok descriptor := read
    show tables.renameMethodText text direction = _
    rw [ResolverTables.renameMethodText, parsed]
    rfl
  | field =>
    have parsed : Descriptor.parseField text = .ok descriptor := read
    show tables.renameFieldText text direction = _
    rw [ResolverTables.renameFieldText, parsed]
    rfl

/-- **A text that is not read is answered with itself and a warning.** -/
theorem renameText_of_unread {error : DescriptorError} (unread : kind.parse text = .error error)
    (tables : ResolverTables) (direction : Direction) :
    (obfuscated tables).renameText kind text direction =
      ⟨text, [.descriptorUnread kind error.message]⟩ := by
  cases kind with
  | method =>
    have unparsed : Descriptor.parseMethod text = .error error := unread
    show tables.renameMethodText text direction = _
    rw [ResolverTables.renameMethodText, unparsed]
    rfl
  | field =>
    have unparsed : Descriptor.parseField text = .error error := unread
    show tables.renameFieldText text direction = _
    rw [ResolverTables.renameFieldText, unparsed]
    rfl

/-- **A renamed descriptor is a descriptor again.** It is read back as it was made, whatever the new names
are. So the resolver of an obfuscated host answers the text of a descriptor with that of the renamed
descriptor and logs nothing, and any other text with itself and one warning; its answer is the text of a
descriptor exactly if the question was. -/
theorem renameText_parses_iff :
    (∀ descriptor : Descriptor, descriptor.WellFormed → ∀ newName, ∀ entry ∈ Descriptor.entries,
      Descriptor.parse (entry newName descriptor).render = .ok (entry newName descriptor)) ∧
    ∀ (tables : ResolverTables) (kind : MemberKind) (text : String) (direction : Direction),
      ((∃ renamed, kind.parse ((obfuscated tables).renameText kind text direction).value =
          .ok renamed) ↔ ∃ descriptor, kind.parse text = .ok descriptor) ∧
      (∀ descriptor, kind.parse text = .ok descriptor →
        (obfuscated tables).renameText kind text direction =
          ⟨(descriptor.rename (tables.classes.directed direction)).render, []⟩) ∧
      ∀ error, kind.parse text = .error error →
        ∃ warning, (obfuscated tables).renameText kind text direction = ⟨text, [warning]⟩ ∧
          warning = .descriptorUnread kind error.message ∧ warning.level = .warn := by
  refine ⟨fun descriptor wellFormed newName entry listed => ?_,
    fun tables kind text direction => ⟨?_, fun descriptor read => ?_, fun error unread => ?_⟩⟩
  · rw [Descriptor.eq_rename_of_mem_entries listed]
    exact Descriptor.parse_render_rename wellFormed newName
  · cases read : kind.parse text with
    | ok descriptor =>
      rw [renameText_of_parsed read]
      exact ⟨fun _ => ⟨descriptor, rfl⟩, fun _ => ⟨_, MemberKind.parse_rename read _⟩⟩
    | error error =>
      rw [renameText_of_unread read]
      exact exists_congr fun renamed => by rw [read]
  · exact renameText_of_parsed read tables direction
  · exact ⟨_, renameText_of_unread unread tables direction, rfl, rfl⟩

/-- New names that would be read as something else are not taken; others are, in method and field types. -/
theorem renameText_parses_iff_unfit_names :
    ∃ tables : ResolverTables,
      ClassTable.ofPairs [("net.Foo", "a;V"), ("net.Bar", "b")] = .ok tables.classes ∧
      (obfuscated tables).renameText .method "(Lnet/Foo;[Lnet/Bar;)V" .toRuntime =
        ⟨"(Lnet/Foo;[Lb;)V", []⟩ ∧
      (obfuscated tables).renameText .field "[Lnet/Bar;" .toRuntime = ⟨"[Lb;", []⟩ ∧
      ((obfuscated tables).renameText .field "Lnet/Bar" .toRuntime).value = "Lnet/Bar" ∧
      Descriptor.parse (Descriptor.renameField (fun _ => some "b;") (.object "net/Foo")).render =
        .ok (Descriptor.renameField (fun _ => some "b;") (.object "net/Foo")) := by
  obtain ⟨classes, built⟩ :
    ∃ classes, ClassTable.ofPairs [("net.Foo", "a;V"), ("net.Bar", "b")] = .ok classes := ⟨_, rfl⟩
  have whole : classes = _ := Except.ok.inj (built.symm.trans rfl)
  obtain ⟨readBack, answers⟩ := renameText_parses_iff
  have read : MemberKind.method.parse "(Lnet/Foo;[Lnet/Bar;)V" =
      .ok (.method ⟨[.object "net/Foo", .array (.object "net/Bar")], .void⟩) := by
    refine MemberKind.parse_eq_ok_iff.mpr ⟨⟨_, rfl⟩, ⟨fun parameter listed => ?_, trivial⟩, by decide⟩
    simp only [List.mem_cons, List.not_mem_nil, or_false] at listed
    rcases listed with rfl | rfl
    · exact ⟨by decide, by decide⟩
    · exact ⟨by decide, by decide⟩
  have readField : MemberKind.field.parse "[Lnet/Bar;" = .ok (.field (.array (.object "net/Bar"))) :=
    MemberKind.parse_eq_ok_iff.mpr ⟨⟨_, rfl⟩, ⟨by decide, by decide⟩, by decide⟩
  have unread : MemberKind.field.parse "Lnet/Bar" = .error (.malformed "Lnet/Bar") := rfl
  refine ⟨⟨classes, ⟨.method, ∅⟩, ⟨.field, ∅⟩⟩, built, ?_, ?_, ?_, ?_⟩
  · rw [(answers _ .method _ .toRuntime).2.1 _ read, whole]
    decide
  · rw [(answers _ .field _ .toRuntime).2.1 _ readField, whole]
    decide
  · obtain ⟨warning, answered, -⟩ := (answers _ .field _ .toRuntime).2.2 _ unread
    rw [answered]
  · exact readBack (.object "net/Foo") ⟨by decide, by decide⟩ _ _ List.mem_cons_self

end Resolver

end NameDomains
