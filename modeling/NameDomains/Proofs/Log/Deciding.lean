/-
**Which directive decides about an event.**

Directives that name a span or a value say nothing about an event by itself, and one that names a field is about
events with that field only. Of the others whose target the event's target starts with, the most specific one
decides: the one with the longest target, and of those with the same one that names a field. Where no directive
names a span or a field the longest target alone decides.

* `Directive.IsAbout`, `Filter.Decides` — the directives about an event, and the one that decides.
* `Filter.enables_iff` — an event passes as the directive says that decides about it.
* `Filter.Decides.isNarrower`, `Filter.decides_iff_byTarget` — what the length of the target says about it.
* `Filter.follows_ofDirectives` — all of this about the filter of directives.
* `LogSettings.givenDirectives`, `LogSettings.filter_eq_ofDirectives` — the directives of settings and of the
  environment.
-/

import NameDomains.Proofs.Log.Merge

namespace NameDomains

/-! ### Directives about an event -/

namespace Directive

/-- The target of an event starts with that of a directive, if it has one. -/
def Reaches (directive : Directive) (event : Event) : Prop :=
  ∀ start, directive.target = some start → start.toList <+: event.target.toList

/-- A directive is about an event: it names no span and no value, and the event has its target and its field. -/
structure IsAbout (directive : Directive) (event : Event) : Prop where
  spanless : directive.span = none
  valueless : directive.field.bind FieldCondition.value = none
  reaches : directive.Reaches event
  field : ∀ condition, directive.field = some condition → hasField event condition.name = true

theorem isAbout_iff {directive : Directive} {event : Event} :
    directive.IsAbout event ↔ directive.isForEvents = true ∧ directive.covers event = true := by
  have reaches : (directive.target.all fun start => start.toList.isPrefixOf event.target.toList) = true ↔
      directive.Reaches event := by
    rw [Option.all_eq_true]
    simp only [Reaches, List.isPrefixOf_iff_prefix]
  rw [isForEvents, covers, Bool.and_eq_true, Bool.and_eq_true, reaches, Option.isNone_iff_eq_none,
    Option.isNone_iff_eq_none, Option.all_eq_true]
  constructor
  · rintro ⟨spanless, valueless, reached, field⟩
    exact ⟨⟨spanless, valueless⟩, reached, field⟩
  · rintro ⟨⟨spanless, valueless⟩, reached, field⟩
    exact ⟨spanless, valueless, reached, field⟩

/-- The target of a directive is at least as long as that of another one. -/
def IsNarrower (directive other : Directive) : Prop :=
  ∀ start, other.target = some start →
    ∃ own, directive.target = some own ∧ start.utf8ByteSize ≤ own.utf8ByteSize

/-- A directive that does not come after another one has no shorter target. -/
theorem isNarrower_of_order {directive other : Directive} (notAfter : directive.order other ≠ .gt) :
    directive.IsNarrower other := by
  intro start given
  have size : orderOption compare (other.target.map String.utf8ByteSize)
      (directive.target.map String.utf8ByteSize) ≠ .gt := fun after =>
    notAfter (by rw [order, after]; rfl)
  rw [given] at size
  cases own : directive.target with
  | none => exact absurd (by rw [own]; rfl) size
  | some text =>
    rw [own] at size
    exact ⟨text, rfl, Nat.isLE_compare.mp (Ordering.ne_gt_iff_isLE.mp size)⟩

/-- The start of a text is the whole if it is no shorter. -/
theorem eq_of_starts {start text : String} (starts : start.toList <+: text.toList)
    (size : text.utf8ByteSize ≤ start.utf8ByteSize) : start = text := by
  obtain ⟨more, written⟩ := starts
  obtain rfl : start ++ String.ofList more = text := by
    rw [← String.toList_inj, String.toList_append, String.toList_ofList, written]
  rw [String.utf8ByteSize_append] at size
  have empty : String.ofList more = "" := String.utf8ByteSize_eq_zero_iff.mp (by omega)
  rw [empty, String.append_empty]

/-- Of two targets that an event's starts with, each at least as long as the other, one is the other. -/
theorem target_eq_of_isNarrower {first second : Directive} {event : Event} (reaches : first.Reaches event)
    (otherReaches : second.Reaches event) (narrower : first.IsNarrower second)
    (otherNarrower : second.IsNarrower first) : first.target = second.target := by
  cases given : first.target with
  | none =>
    cases otherGiven : second.target with
    | none => rfl
    | some other =>
      obtain ⟨own, same, -⟩ := narrower other otherGiven
      rw [given] at same
      cases same
  | some text =>
    obtain ⟨other, otherGiven, size⟩ := otherNarrower text given
    obtain ⟨own, same, otherSize⟩ := narrower other otherGiven
    obtain rfl := Option.some.inj (given.symm.trans same)
    rw [otherGiven]
    rcases List.prefix_or_prefix_of_prefix (reaches text given) (otherReaches other otherGiven) with
      starts | starts
    · rw [eq_of_starts starts otherSize]
    · rw [eq_of_starts starts size]

end Directive

namespace Filter

/-- **The directive that decides about an event**: of those that count and are about it, the most specific one. -/
structure Decides (directives : List Directive) (event : Event) (directive : Directive) : Prop where
  counts : Counts directives directive
  about : directive.IsAbout event
  first : ∀ other, Counts directives other → other.IsAbout event →
    other = directive ∨ directive.order other = .lt

variable {directives : List Directive} {event : Event} {directive : Directive}

theorem mem_of_counts (counts : Counts directives directive) : directive ∈ directives := by
  obtain ⟨before, after, rfl, -⟩ := counts
  exact List.mem_append_right _ List.mem_cons_self

theorem directiveFor?_eq_some_iff_decides :
    (ofDirectives directives).directiveFor? event = some directive ↔ Decides directives event directive := by
  simp only [directiveFor?_eq_some_iff, mem_directives_iff]
  constructor
  · rintro ⟨⟨forEvents, counts⟩, covers, first⟩
    refine ⟨counts, Directive.isAbout_iff.mpr ⟨forEvents, covers⟩, fun other otherCounts about => ?_⟩
    obtain ⟨otherForEvents, otherCovers⟩ := Directive.isAbout_iff.mp about
    exact first other ⟨otherForEvents, otherCounts⟩ otherCovers
  · rintro ⟨counts, about, first⟩
    obtain ⟨forEvents, covers⟩ := Directive.isAbout_iff.mp about
    exact ⟨⟨forEvents, counts⟩, covers, fun other ⟨otherForEvents, otherCounts⟩ otherCovers =>
      first other otherCounts (Directive.isAbout_iff.mpr ⟨otherForEvents, otherCovers⟩)⟩

/-- **An event passes as the directive says that decides about it.** -/
theorem enables_iff :
    (ofDirectives directives).enables event = true ↔
      ∃ directive, Decides directives event directive ∧ directive.verbosity.allows event.level = true := by
  simp only [enables, Option.any_eq_true, directiveFor?_eq_some_iff_decides]

/-- Where a directive is about an event one decides about it. -/
theorem exists_decides (counts : Counts directives directive) (about : directive.IsAbout event) :
    ∃ decider, Decides directives event decider := by
  obtain ⟨forEvents, covers⟩ := Directive.isAbout_iff.mp about
  have found : ((ofDirectives directives).directiveFor? event).isSome := by
    rw [directiveFor?, List.find?_isSome]
    exact ⟨directive, mem_directives_iff.mpr ⟨forEvents, counts⟩, covers⟩
  obtain ⟨decider, found⟩ := Option.isSome_iff_exists.mp found
  exact ⟨decider, directiveFor?_eq_some_iff_decides.mp found⟩

/-- **No directive about an event has a longer target than the one that decides.** -/
theorem Decides.isNarrower (decides : Decides directives event directive) {other : Directive}
    (counts : Counts directives other) (about : other.IsAbout event) : directive.IsNarrower other := by
  refine Directive.isNarrower_of_order ?_
  rcases decides.first other counts about with rfl | before
  · rw [Directive.order_self]
    exact nofun
  · rw [before]
    exact nofun

/-- The directive with the longest target that the target of an event starts with. -/
structure DecidesByTarget (directives : List Directive) (event : Event) (directive : Directive) : Prop where
  counts : Counts directives directive
  reaches : directive.Reaches event
  longest : ∀ other, Counts directives other → other.Reaches event → directive.IsNarrower other

/-- **Where no directive names a span or a field the longest target decides.** -/
theorem decides_iff_byTarget (plain : ∀ listed ∈ directives, listed.span = none ∧ listed.field = none) :
    Decides directives event directive ↔ DecidesByTarget directives event directive := by
  have plainOf : ∀ {other}, Counts directives other → other.span = none ∧ other.field = none :=
    fun {other} counts => plain other (mem_of_counts counts)
  have aboutOf : ∀ {other}, Counts directives other → other.Reaches event → other.IsAbout event := by
    intro other counts reaches
    obtain ⟨spanless, fieldless⟩ := plainOf counts
    refine ⟨spanless, by rw [fieldless]; rfl, reaches, fun condition given => ?_⟩
    rw [fieldless] at given
    cases given
  constructor
  · rintro decides
    exact ⟨decides.counts, decides.about.reaches, fun other counts reaches =>
      decides.isNarrower counts (aboutOf counts reaches)⟩
  · rintro ⟨counts, reaches, longest⟩
    have about := aboutOf counts reaches
    obtain ⟨decider, decides⟩ := exists_decides counts about
    -- The directive that decides has the same target, and so it is about the same.
    have target := Directive.target_eq_of_isNarrower decides.about.reaches reaches
      (decides.isNarrower counts about) (longest decider decides.counts decides.about.reaches)
    obtain ⟨spanless, fieldless⟩ := plainOf counts
    obtain ⟨deciderSpanless, deciderFieldless⟩ := plainOf decides.counts
    have same : decider.SameSubject directive :=
      ⟨target, deciderSpanless.trans spanless.symm, by rw [deciderFieldless, fieldless]; rfl⟩
    rcases decides.first directive counts about with rfl | before
    · exact decides
    · rw [Directive.order_eq_iff_sameSubject.mpr same] at before
      cases before

/-- How a filter follows directives. -/
structure Follows (filter : Filter) (directives : List Directive) : Prop where
  /-- An event passes as the directive says that decides about it. -/
  enables_iff : ∀ event, filter.enables event = true ↔
    ∃ directive, Decides directives event directive ∧ directive.verbosity.allows event.level = true
  /-- No directive about an event has a longer target than the one that decides. -/
  narrowest : ∀ event directive, Decides directives event directive →
    ∀ other, Counts directives other → other.IsAbout event → directive.IsNarrower other
  /-- Where no directive names a span or a field the longest target decides. -/
  byTarget : (∀ listed ∈ directives, listed.span = none ∧ listed.field = none) →
    ∀ event directive, Decides directives event directive ↔ DecidesByTarget directives event directive

/-- **The filter of directives follows them.** -/
theorem follows_ofDirectives (directives : List Directive) : (ofDirectives directives).Follows directives where
  enables_iff _ := enables_iff
  narrowest _ _ decides _ counts about := decides.isNarrower counts about
  byTarget plain _ _ := decides_iff_byTarget plain

end Filter

/-! ### The directives of settings -/

/-- The directives of the level setting and, behind them, those of the environment, as far as they are
well-formed. -/
def LogSettings.givenDirectives (settings : LogSettings) (environment : Option String) : List Directive :=
  Filter.merged (Filter.parseDirectives? settings.directives)
    (((environment.map Text.trim).filter (· ≠ "")).bind Filter.parseDirectives?)

/-- The form of the lines has no part in the filter. -/
theorem LogSettings.filter_with_json (settings : LogSettings) (json : Bool) (environment : Option String) :
    ({ settings with json := json } : LogSettings).filter environment = settings.filter environment := by
  have same : ({ settings with json := json } : LogSettings).level = settings.level := rfl
  unfold filter ownFilter directives
  rw [same]

/-- **The filter is that of these directives.** -/
theorem LogSettings.filter_eq_ofDirectives (settings : LogSettings) (environment : Option String) :
    settings.filter environment = Filter.ofDirectives (settings.givenDirectives environment) := by
  cases environment with
  | none =>
    rw [settings.filter_of_blank (fun _ given => by cases given), ownFilter_eq_merged]
    rfl
  | some text =>
    rw [givenDirectives, Option.map_some]
    by_cases given : Text.trim text = ""
    · have blank : ∀ other, some text = some other → Text.trim other = "" := fun _ same =>
        Option.some.inj same ▸ given
      rw [settings.filter_of_blank blank, ownFilter_eq_merged, Option.filter_some_neg (by simpa using given),
        Option.bind_none]
    · rw [settings.filter_eq_merged given, Option.filter_some_pos (by simpa using given), Option.bind_some]

end NameDomains
