/-
**Renaming the written form renames the tree.**

A descriptor is renamed on its text: it is split behind the first `L` and put together again, and a method
is taken apart for that. What comes of it is the same tree with other class names in it:

* `Descriptor.renameBehindHeading_inArrays` — a class, inside arrays or not, gets its new name.
* `Descriptor.renameField_field` — so does any field type; base types stay.
* `Descriptor.ofParts_parts` — the renamed parts of a method always make a method.
* `Descriptor.rename_eq_on_text` — both entries rename the tree.
* `Descriptor.rename_eq_mapClassNames` — a renaming changes each class name of a descriptor by itself.
* `Descriptor.rename_eq_self_iff`, `Descriptor.rename_rename_eq_iff` — what renaming leaves as it was, and
  what renaming there and back does.
* `Descriptor.WellFormed.rename` — a renamed descriptor can still be read back.
-/

import NameDomains.Proofs.Descriptor.Heading

namespace NameDomains

/-! ### Field types -/

/-- Renaming a class leaves the arrays around it. -/
theorem FieldType.rename_inArrays (newName : ClassRenaming) (depth : Nat) (type : FieldType) :
    (inArrays depth type).rename newName = inArrays depth (type.rename newName) := by
  induction depth with
  | zero => rfl
  | succ depth same => exact congrArg array same

namespace Descriptor

/-- **A class gets its new name**, if that is plain, and keeps the arrays around it. -/
theorem renameBehindHeading_inArrays (newName : ClassRenaming) (depth : Nat) (name : String) :
    renameBehindHeading newName (field (.inArrays depth (.object name))) =
      field (.inArrays depth (.object (newName.apply name))) := by
  rw [renameBehindHeading, splitHeading?_chars, ClassRenaming.apply]
  dsimp only
  rw [String.ofList_toList]
  cases newName name with
  | none => rfl
  | some renamed =>
    dsimp only
    by_cases plain : isPlainName renamed = true
    · have made := ofHeading_eq_ok_iff.mpr ⟨depth, String.toList_ofList, plain, rfl⟩
      rw [made, if_pos plain]
    · obtain ⟨error, refused⟩ := ofHeading_of_not_plain plain (String.ofList (heading depth))
      rw [refused, if_neg plain]

/-- **A field type is renamed on the tree.** -/
theorem renameField_field (newName : ClassRenaming) (type : FieldType) :
    (field type).renameField newName = field (type.rename newName) := by
  rw [renameField]
  -- Whether an array is renamed is decided by its innermost element, however many arrays there are.
  obtain ⟨depth, letter, rfl⟩ | ⟨depth, name, rfl⟩ := type.eq_inArrays
  · rw [FieldType.rename_inArrays, FieldType.rename]
    cases depth with
    | zero => rfl
    | succ depth =>
      refine if_neg fun (same : some (field (FieldType.element _)).kind = _) => ?_
      rw [FieldType.element_inArrays] at same
      cases same
  · rw [FieldType.rename_inArrays, FieldType.rename, ← renameBehindHeading_inArrays]
    cases depth with
    | zero => rfl
    | succ depth =>
      refine if_pos (show some (field (FieldType.element _)).kind = _ from ?_)
      rw [FieldType.element_inArrays]
      rfl

end Descriptor

/-! ### Methods -/

/-- A result as a descriptor of its own. -/
def ReturnType.descriptor : ReturnType → Descriptor
  | void => .void
  | field type => .field type

namespace Descriptor

theorem returnType?_method (type : MethodType) :
    (method type).returnType? = some type.result.descriptor := by
  obtain ⟨parameters, void | type⟩ := type <;> rfl

/-- Field types are taken as parameters, each as a descriptor of its own. -/
theorem mapM_asArgument_map_field (parameters : List FieldType) :
    (parameters.map field).mapM asArgument = .ok parameters := by
  induction parameters with
  | nil => rfl
  | cons parameter parameters same =>
    rw [List.map_cons, List.mapM_cons, same]
    rfl

/-- **The parts of a method make that method.** -/
theorem ofParts_descriptor (result : ReturnType) (parameters : List FieldType) :
    ofParts result.descriptor (parameters.map field) = .ok (method ⟨parameters, result⟩) := by
  have found : result.descriptor.asResult = .ok result := by cases result <;> rfl
  rw [ofParts, found, mapM_asArgument_map_field]
  rfl

/-- A result is renamed on the tree. -/
theorem renameField_descriptor (newName : ClassRenaming) (result : ReturnType) :
    result.descriptor.renameField newName = (result.rename newName).descriptor := by
  cases result with
  | void => rw [ReturnType.descriptor, renameField]; rfl
  | field type => exact renameField_field newName type

/-- **The renamed parts of a method always make a method.** -/
theorem ofParts_parts (newName : ClassRenaming) (type : MethodType) :
    ofParts (type.result.descriptor.renameField newName)
      ((method type).argumentTypes.map (renameField newName)) = .ok (method (type.rename newName)) := by
  have arguments : (method type).argumentTypes.map (renameField newName) =
      (type.rename newName).parameters.map field := by
    simp only [argumentTypes, MethodType.rename, List.map_map]
    exact List.map_congr_left fun parameter _ => renameField_field newName parameter
  rw [renameField_descriptor, arguments, ofParts_descriptor]
  rfl

/-- A method is renamed on the tree. -/
theorem renameMethod_method (newName : ClassRenaming) (type : MethodType) :
    (method type).renameMethod newName = method (type.rename newName) :=
  renameMethod_eq_of_ofParts (returnType?_method type) (ofParts_parts newName type)

/-! ### Both entries -/

/-- **The one entry renames the tree.** -/
theorem renameField_eq_rename (newName : ClassRenaming) (descriptor : Descriptor) :
    descriptor.renameField newName = descriptor.rename newName := by
  cases descriptor with
  | void => rw [renameField]; rfl
  | field type => exact renameField_field newName type
  | method type =>
    rw [renameField]
    exact renameMethod_method newName type

/-- **The other entry renames the tree.** -/
theorem renameMethod_eq_rename (newName : ClassRenaming) (descriptor : Descriptor) :
    descriptor.renameMethod newName = descriptor.rename newName := by
  cases descriptor with
  | method type => exact renameMethod_method newName type
  | void | field _ =>
    rw [renameMethod]
    exact renameField_eq_rename newName _

/-- The two entries by which a descriptor is renamed. -/
def entries : List (ClassRenaming → Descriptor → Descriptor) := [renameField, renameMethod]

theorem eq_rename_of_mem_entries {entry : ClassRenaming → Descriptor → Descriptor}
    (listed : entry ∈ entries) (newName : ClassRenaming) (descriptor : Descriptor) :
    entry newName descriptor = descriptor.rename newName := by
  simp only [entries, List.mem_cons, List.not_mem_nil, or_false] at listed
  rcases listed with rfl | rfl
  · exact renameField_eq_rename newName descriptor
  · exact renameMethod_eq_rename newName descriptor

/-- **Renaming the written form renames the tree.** Both entries give every class whose new name can stand
behind a heading that name and change nothing else, and a method is never given up because its renamed parts
would not make one. -/
theorem rename_eq_on_text (newName : ClassRenaming) (descriptor : Descriptor) :
    descriptor.renameField newName = descriptor.rename newName ∧
    descriptor.renameMethod newName = descriptor.rename newName ∧
    (∀ result, descriptor.returnType? = some result →
      ofParts (result.renameField newName) (descriptor.argumentTypes.map (renameField newName)) =
        .ok (descriptor.rename newName)) ∧
    ∀ depth renamed, isPlainName renamed = true ↔
      ∃ made, ofHeading (String.ofList (heading depth)) renamed = .ok made := by
  refine ⟨renameField_eq_rename newName descriptor, renameMethod_eq_rename newName descriptor,
    fun result found => ?_, fun depth renamed => ?_⟩
  · cases descriptor with
    | void | field _ => cases found
    | method type =>
      rw [returnType?_method] at found
      obtain rfl := Option.some.inj found
      exact ofParts_parts newName type
  · simp only [ofHeading_eq_ok_iff, String.toList_ofList]
    exact ⟨fun plain => ⟨_, depth, rfl, plain, rfl⟩, fun ⟨_, _, _, plain, _⟩ => plain⟩

/-- A name that could not be read back is renamed like any other, and keeps its place if the new one is
none that can stand behind a heading. -/
theorem rename_eq_on_text_unchecked_name :
    ∃ newName : ClassRenaming, newName "L[;" = some "a" ∧ newName "x" = some "b;c" ∧
      (method ⟨[.array (.object "L[;")], .field (.object "x")⟩).renameField newName =
        method ⟨[.array (.object "a")], .field (.object "x")⟩ ∧
      ofParts ((object "x").renameField newName)
          ((method ⟨[.array (.object "L[;")], .field (.object "x")⟩).argumentTypes.map
            (renameField newName)) =
        .ok (method ⟨[.array (.object "a")], .field (.object "x")⟩) := by
  let newName : ClassRenaming := fun name => if name = "L[;" then some "a" else some "b;c"
  obtain ⟨renamed, -, made, -⟩ :=
    rename_eq_on_text newName (method ⟨[.array (.object "L[;")], .field (.object "x")⟩)
  have onTree : (method ⟨[.array (.object "L[;")], .field (.object "x")⟩).rename newName =
      method ⟨[.array (.object "a")], .field (.object "x")⟩ := by decide
  exact ⟨newName, by decide, by decide, renamed.trans onTree,
    (made (object "x") rfl).trans (congrArg Except.ok onTree)⟩

end Descriptor

/-! ### Names that can be read back -/

/-- A name that can be read back gets a name that can be. -/
theorem ClassRenaming.wellFormed_apply (newName : ClassRenaming) {name : String}
    (wellFormed : (FieldType.object name).WellFormed) :
    (FieldType.object (newName.apply name)).WellFormed := by
  unfold ClassRenaming.apply
  split
  · split
    · next plain => exact Descriptor.wellFormed_of_isPlainName plain
    · exact wellFormed
  · exact wellFormed

theorem FieldType.WellFormed.rename {type : FieldType} (wellFormed : type.WellFormed)
    (newName : ClassRenaming) : (type.rename newName).WellFormed := by
  induction type with
  | base => trivial
  | object name => exact newName.wellFormed_apply wellFormed
  | array component formed => exact formed wellFormed

/-- **A renamed descriptor can be read back if the descriptor could**, whatever the new names are. -/
theorem Descriptor.WellFormed.rename {descriptor : Descriptor} (wellFormed : descriptor.WellFormed)
    (newName : ClassRenaming) : (descriptor.rename newName).WellFormed := by
  cases descriptor with
  | void => trivial
  | field type => exact FieldType.WellFormed.rename wellFormed newName
  | method type =>
    obtain ⟨parameters, result⟩ := type
    refine ⟨fun renamed listed => ?_, ?_⟩
    · obtain ⟨parameter, member, rfl⟩ := List.mem_map.mp listed
      exact (wellFormed.1 parameter member).rename newName
    · cases result with
      | void => trivial
      | field type => exact FieldType.WellFormed.rename wellFormed.2 newName

/-! ### Every class name of a descriptor -/

/-- Changes the class name in a field type. -/
def FieldType.mapClassName (change : String → String) : FieldType → FieldType
  | base type => base type
  | object name => object (change name)
  | array component => array (component.mapClassName change)

/-- Changes the class name in a result. -/
def ReturnType.mapClassName (change : String → String) : ReturnType → ReturnType
  | void => void
  | field type => field (type.mapClassName change)

/-- Changes every class name in a descriptor. -/
def Descriptor.mapClassNames (change : String → String) : Descriptor → Descriptor
  | void => void
  | field type => field (type.mapClassName change)
  | method type =>
    method ⟨type.parameters.map (·.mapClassName change), type.result.mapClassName change⟩

theorem FieldType.rename_eq_mapClassName (newName : ClassRenaming) (type : FieldType) :
    type.rename newName = type.mapClassName newName.apply := by
  induction type with
  | base => rfl
  | object => rfl
  | array component same => exact congrArg array same

/-- **A renaming changes each class name of a descriptor by itself.** -/
theorem Descriptor.rename_eq_mapClassNames (newName : ClassRenaming) (descriptor : Descriptor) :
    descriptor.rename newName = descriptor.mapClassNames newName.apply := by
  cases descriptor with
  | void => rfl
  | field type => exact congrArg field (type.rename_eq_mapClassName newName)
  | method type =>
    obtain ⟨parameters, result⟩ := type
    have inParameters : parameters.map (·.rename newName) =
        parameters.map (·.mapClassName newName.apply) :=
      List.map_congr_left fun parameter _ => parameter.rename_eq_mapClassName newName
    have inResult : result.rename newName = result.mapClassName newName.apply := by
      cases result with
      | void => rfl
      | field type => exact congrArg ReturnType.field (type.rename_eq_mapClassName newName)
    rw [rename, MethodType.rename, mapClassNames, inParameters, inResult]

/-- The class name in a field type, if it has one. -/
def FieldType.className? : FieldType → Option String
  | base _ => none
  | object name => some name
  | array component => component.className?

/-- The class name in a result, if it has one. -/
def ReturnType.className? : ReturnType → Option String
  | void => none
  | field type => type.className?

/-- The class names in a descriptor, in the order in which they are written. -/
def Descriptor.classNames : Descriptor → List String
  | void => []
  | field type => type.className?.toList
  | method type =>
    type.parameters.filterMap FieldType.className? ++ type.result.className?.toList

variable {change : String → String}

theorem FieldType.mapClassName_eq_self_iff {type : FieldType} :
    type.mapClassName change = type ↔ ∀ name, type.className? = some name → change name = name := by
  induction type with
  | base => simp [mapClassName, className?]
  | object name => simp [mapClassName, className?]
  | array component same => simpa only [mapClassName, className?, array.injEq] using same

theorem ReturnType.mapClassName_eq_self_iff {result : ReturnType} :
    result.mapClassName change = result ↔
      ∀ name, result.className? = some name → change name = name := by
  cases result with
  | void => simp [mapClassName, className?]
  | field type =>
    simpa only [mapClassName, className?, field.injEq] using FieldType.mapClassName_eq_self_iff

/-- **A descriptor stays as it is exactly if each of its class names does.** -/
theorem Descriptor.mapClassNames_eq_self_iff {descriptor : Descriptor} :
    descriptor.mapClassNames change = descriptor ↔
      ∀ name ∈ descriptor.classNames, change name = name := by
  cases descriptor with
  | void => simp [mapClassNames, classNames]
  | field type =>
    simpa only [mapClassNames, classNames, field.injEq, Option.mem_toList] using
      FieldType.mapClassName_eq_self_iff
  | method type =>
    obtain ⟨parameters, result⟩ := type
    have parametersStay : parameters.map (·.mapClassName change) = parameters ↔
        ∀ parameter ∈ parameters, parameter.mapClassName change = parameter := by
      have unchanged := List.map_inj_left (l := parameters) (f := (·.mapClassName change)) (g := id)
      rw [List.map_id] at unchanged
      exact unchanged
    simp only [mapClassNames, classNames, method.injEq, MethodType.mk.injEq, parametersStay,
      FieldType.mapClassName_eq_self_iff, ReturnType.mapClassName_eq_self_iff, List.mem_append,
      List.mem_filterMap, Option.mem_toList]
    constructor
    · rintro ⟨inParameters, inResult⟩ name (⟨parameter, listed, called⟩ | called)
      · exact inParameters parameter listed name called
      · exact inResult name called
    · intro stays
      exact ⟨fun parameter listed name called => stays name (.inl ⟨parameter, listed, called⟩),
        fun name called => stays name (.inr called)⟩

/-- **A renaming leaves a descriptor as it is exactly if it leaves each of its class names.** -/
theorem Descriptor.rename_eq_self_iff {newName : ClassRenaming} {descriptor : Descriptor} :
    descriptor.rename newName = descriptor ↔
      ∀ name ∈ descriptor.classNames, newName.apply name = name := by
  rw [rename_eq_mapClassNames, mapClassNames_eq_self_iff]

/-! ### There and back -/

variable {again : String → String}

theorem FieldType.mapClassName_mapClassName (type : FieldType) :
    (type.mapClassName change).mapClassName again = type.mapClassName (again ∘ change) := by
  induction type with
  | base => rfl
  | object => rfl
  | array component same => exact congrArg array same

/-- Class names that are changed twice are changed by both changes in turn. -/
theorem Descriptor.mapClassNames_mapClassNames (descriptor : Descriptor) :
    (descriptor.mapClassNames change).mapClassNames again =
      descriptor.mapClassNames (again ∘ change) := by
  cases descriptor with
  | void => rfl
  | field type => exact congrArg field type.mapClassName_mapClassName
  | method type =>
    obtain ⟨parameters, result⟩ := type
    have inParameters : (parameters.map (·.mapClassName change)).map (·.mapClassName again) =
        parameters.map (·.mapClassName (again ∘ change)) := by
      rw [List.map_map]
      exact List.map_congr_left fun parameter _ => parameter.mapClassName_mapClassName
    have inResult : (result.mapClassName change).mapClassName again =
        result.mapClassName (again ∘ change) := by
      cases result with
      | void => rfl
      | field type => exact congrArg ReturnType.field type.mapClassName_mapClassName
    simp only [mapClassNames, inParameters, inResult]

/-- **A descriptor comes back from there and back exactly if each of its class names does.** -/
theorem Descriptor.rename_rename_eq_iff {there back : ClassRenaming} {descriptor : Descriptor} :
    (descriptor.rename there).rename back = descriptor ↔
      ∀ name ∈ descriptor.classNames, back.apply (there.apply name) = name := by
  rw [rename_eq_mapClassNames, rename_eq_mapClassNames, mapClassNames_mapClassNames,
    mapClassNames_eq_self_iff]
  rfl

end NameDomains
