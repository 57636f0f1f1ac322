/-
**Class queries and class names in descriptors.**

A class is asked for in two ways: by a query, in either spelling, and inside a descriptor, where names are
in internal form. The two ways share the table and nothing else: a query is taken to internal form and
answered in some style, and a name in a descriptor is looked up as it stands. They agree nevertheless:

* `ClassTable.Holds.directed_eq` — a name with dots is in no descriptor of the table; any other leads to the
  counterpart that a query finds.
* `Resolver.apply_directed_eq` — a class name is changed as the answer to a query for it says.
* `Resolver.renameOf_eq_mapClassNames` — so is every class name of a descriptor, wherever it stands.
-/

import NameDomains.Proofs.ClassTable.Respelling
import NameDomains.Proofs.Resolver.DescriptorText

namespace NameDomains

/-! ### One name -/

/-- The characters that delimit types in a descriptor. -/
def typeDelimiters : List Char := [';', '[', '(', ')']

/-- Whether no character of a name delimits types. -/
def isUndelimited (name : String) : Bool := name.toList.all fun c => c ∉ typeDelimiters

/-- A name as tables keep it can stand behind a heading unless it holds a character that delimits types. -/
theorem isPlainName_of_isInternal {name : String} (kept : ClassTable.IsInternal name) :
    Descriptor.isPlainName name = isUndelimited name := by
  have forbidden : ∀ c : Char, c ∈ ";[().".toList ↔ c ∈ typeDelimiters ∨ c = '.' := by
    intro c
    show c ∈ [';', '[', '(', ')', '.'] ↔ _
    simp only [typeDelimiters, List.mem_cons, List.not_mem_nil, or_false, or_assoc]
  rw [Bool.eq_iff_iff, Descriptor.isPlainName, isUndelimited, Bool.and_eq_true, List.all_eq_true,
    List.all_eq_true]
  simp only [kept.1, ne_eq, not_false_eq_true, decide_true, true_and, Bool.not_eq_true', decide_eq_true_eq,
    List.contains_eq_mem, decide_eq_false_iff_not, forbidden, not_or]
  constructor
  · exact fun free c member => (free c member).1
  · exact fun free c member => ⟨free c member, fun dot => kept.2 (dot ▸ member)⟩

/-- **A name with dots is no name in a descriptor; any other leads to the counterpart that a query
finds.** -/
theorem ClassTable.Holds.directed_eq {table : ClassTable} {pairs : List (String × String)}
    (holds : Holds table pairs) (direction : Direction) (name : String) :
    table.directed direction name =
      if '.' ∈ name.toList then none else table.counterpart? name direction := by
  split
  · next dot =>
    rw [Option.eq_none_iff_forall_ne_some]
    intro counterpart found
    exact (isInternal_of_mem_links ((holds.counterparts direction _ _).mp found)).1.2 dot
  · next noDot => rw [directed, counterpart?, ClassName.internal_eq_self noDot]

namespace Resolver

/-- What becomes of a class name in a descriptor, by the answer to a query for it: the internal form of
the answer if no character of it delimits types. A name with dots is no internal form and stays. -/
def classInDescriptor (resolver : Resolver) (direction : Direction) (name : String) : String :=
  let answer := ClassName.internal (resolver.className name direction).value
  if '.' ∉ name.toList ∧ isUndelimited answer then answer else name

variable {pairs : List (String × String)} {table : ClassTable}

/-- **A class name in a descriptor is changed as the answer to a query for it says.** -/
theorem apply_directed_eq (built : ClassTable.ofPairs pairs = .ok table) (methods fields : MemberTable)
    (direction : Direction) (name : String) :
    (table.directed direction).apply name =
      (obfuscated ⟨table, methods, fields⟩).classInDescriptor direction name := by
  have holds := ClassTable.holds_of_ofPairs built
  rw [ClassRenaming.apply, holds.directed_eq]
  by_cases dot : '.' ∈ name.toList
  · rw [if_pos dot]
    exact (if_neg fun both => both.1 dot).symm
  rw [if_neg dot]
  have asked : (obfuscated ⟨table, methods, fields⟩).className name direction =
    table.resolve name direction := rfl
  cases known : table.counterpart? name direction with
  | none =>
    -- A miss answers with the name, which is its own internal form.
    have missed : ClassName.internal (table.resolve name direction).value = name := by
      rw [ClassTable.resolve_of_unknown known]
      exact ClassName.internal_eq_self dot
    rw [classInDescriptor, asked, missed, ite_self]
  | some counterpart =>
    have answered : ClassName.internal (table.resolve name direction).value = counterpart := by
      rw [ClassTable.resolve_of_known known]
      exact holds.internal_answer known
    have kept := (ClassTable.isInternal_of_mem_links (holds.linked_of_known known)).2
    rw [classInDescriptor, asked, answered]
    simp only [isPlainName_of_isInternal kept, dot, not_false_eq_true, true_and]

/-- **The classes of a descriptor are renamed as the answers to queries for them say.** The renaming of a
direction knows a name without dots by the counterpart that a query finds, and no name with dots. A class
gets the internal form of the answer to a query for it, unless that holds a character which delimits types;
so does every class of a descriptor, inside arrays, as a parameter or as a result, whichever entry is
used. -/
theorem renameOf_eq_mapClassNames (built : ClassTable.ofPairs pairs = .ok table)
    (direction : Direction) :
    (∀ name, table.directed direction name =
      if '.' ∈ name.toList then none else table.counterpart? name direction) ∧
    ∀ methods fields : MemberTable,
      (∀ name answer, '.' ∉ name.toList →
        ClassName.internal
          ((obfuscated ⟨table, methods, fields⟩).className name direction).value = answer →
        (obfuscated ⟨table, methods, fields⟩).renameField (.object name) direction =
          .object (if isUndelimited answer then answer else name)) ∧
      ∀ (kind : MemberKind) (descriptor : Descriptor),
        (obfuscated ⟨table, methods, fields⟩).renameOf kind descriptor direction =
          descriptor.mapClassNames
            ((obfuscated ⟨table, methods, fields⟩).classInDescriptor direction) := by
  refine ⟨(ClassTable.holds_of_ofPairs built).directed_eq direction, fun methods fields => ?_⟩
  have everywhere (kind : MemberKind) (descriptor : Descriptor) :
      (obfuscated ⟨table, methods, fields⟩).renameOf kind descriptor direction =
        descriptor.mapClassNames
          ((obfuscated ⟨table, methods, fields⟩).classInDescriptor direction) := by
    have pointwise := funext (apply_directed_eq built methods fields direction)
    rw [renameOf_obfuscated, Descriptor.rename_eq_mapClassNames, pointwise]
  refine ⟨fun name answer noDot answered => ?_, everywhere⟩
  have alone : (obfuscated ⟨table, methods, fields⟩).classInDescriptor direction name =
      if isUndelimited answer then answer else name := by
    rw [classInDescriptor, answered]
    simp only [noDot, not_false_eq_true, true_and]
  rw [← alone]
  exact everywhere .field (.object name)

/-- A new name that delimits types is not taken anywhere, and a dotted name is not looked up. -/
theorem renameOf_eq_mapClassNames_delimiter :
    ∃ table, ClassTable.ofPairs [("net.Foo", "a"), ("net/Bar", "x;b")] = .ok table ∧
      table.directed .toRuntime "net.Foo" = none ∧
      '.' ∉ "net/Bar".toList ∧
      (obfuscated ⟨table, ⟨.method, ∅⟩, ⟨.field, ∅⟩⟩).renameField (.object "net/Bar") .toRuntime =
        .object "net/Bar" ∧
      (obfuscated ⟨table, ⟨.method, ∅⟩, ⟨.field, ∅⟩⟩).renameOf .method
          (.method ⟨[.array (.object "net/Foo"), .object "net.Foo"], .field (.object "net/Bar")⟩)
          .toRuntime =
        .method ⟨[.array (.object "a"), .object "net.Foo"], .field (.object "net/Bar")⟩ := by
  obtain ⟨table, built⟩ :
    ∃ table, ClassTable.ofPairs [("net.Foo", "a"), ("net/Bar", "x;b")] = .ok table := ⟨_, rfl⟩
  have whole : table = _ := Except.ok.inj (built.symm.trans rfl)
  obtain ⟨lookedUp, renamed⟩ := renameOf_eq_mapClassNames built .toRuntime
  have noDot : '.' ∉ "net/Bar".toList := by decide
  refine ⟨table, built, (lookedUp "net.Foo").trans (if_pos (by decide)), noDot, ?_, ?_⟩
  · rw [(renamed ⟨.method, ∅⟩ ⟨.field, ∅⟩).1 "net/Bar" "x;b" noDot (by rw [whole]; decide)]
    decide
  · rw [(renamed ⟨.method, ∅⟩ ⟨.field, ∅⟩).2, whole]
    decide

end Resolver

end NameDomains
