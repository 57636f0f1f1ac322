/-
**The level setting and the directives of the environment in one filter.**

The two texts are joined by a comma, and the parts of the whole are the parts of both. So the whole is
well-formed exactly if both texts are, and then it says what the setting says and, after that and counting
for more, what the environment says. A malformed text takes nothing from the other one.

* `Filter.pieces_append_comma` — the parts of two texts that are joined by a comma.
* `Filter.parseDirectives?_append_comma` — the directives of both.
* `LogSettings.filter_eq_merged` — the filter of two texts, well-formed or not.
* `LogSettings.filter_merges` — all of it, and which directives count.
-/

import NameDomains.Proofs.Log.Filter

namespace NameDomains

namespace Filter

/-! ### Texts that are joined by a comma -/

theorem pieces_ne_nil (text : List Char) : pieces text ≠ [] := by
  cases text with
  | nil => exact List.cons_ne_nil _ _
  | cons c rest =>
    unfold pieces
    split
    · exact List.cons_ne_nil _ _
    · split <;> exact List.cons_ne_nil _ _

/-- **The parts of two texts that are joined by a comma are those of both.** -/
theorem pieces_append_comma (first second : List Char) :
    pieces (first ++ ',' :: second) = pieces first ++ pieces second := by
  induction first with
  | nil => rfl
  | cons c rest later =>
    rw [List.cons_append, pieces, pieces, later]
    split
    · rfl
    · cases parts : pieces rest with
      | nil => exact absurd parts (pieces_ne_nil rest)
      | cons piece pieces => rfl

/-- **The directives of two texts that are joined by a comma are those of both.** -/
theorem parseDirectives?_append_comma (first second : String) :
    parseDirectives? (first ++ "," ++ second) =
      (parseDirectives? first).bind fun own => (parseDirectives? second).map (own ++ ·) := by
  have joined : (first ++ "," ++ second).toList = first.toList ++ ',' :: second.toList := by
    simp
  rw [parseDirectives?, joined, pieces_append_comma, List.filter_append, List.mapM_append,
    ← parseDirectives?, ← parseDirectives?]
  cases parseDirectives? first <;> cases parseDirectives? second <;> rfl

/-- A text makes a filter exactly if its directives can be read. -/
theorem isSome_parse?_iff {text : String} : (parse? text).isSome ↔ (parseDirectives? text).isSome := by
  rw [parse?, Option.isSome_map]

/-- **Two texts that are joined by a comma are well-formed exactly if both are.** -/
theorem isSome_parse?_append_comma_iff {first second : String} :
    (parse? (first ++ "," ++ second)).isSome ↔ (parse? first).isSome ∧ (parse? second).isSome := by
  simp only [isSome_parse?_iff, parseDirectives?_append_comma]
  cases parseDirectives? first <;> cases parseDirectives? second <;> simp

end Filter

/-! ### The filter of settings and of the environment -/

/-- The directives that settings and the environment come to, given those of each that is well-formed:
first those of the settings and then those of the environment, or `info` where there are none. -/
def Filter.merged : Option (List Directive) → Option (List Directive) → List Directive
  | some own, some given => own ++ given
  | none, some given => given
  | some own, none => own
  | none, none => [.forAll (.upTo .info)]

namespace LogSettings

theorem ownFilter_eq_merged (settings : LogSettings) :
    settings.ownFilter =
      Filter.ofDirectives (Filter.merged (Filter.parseDirectives? settings.directives) none) := by
  rw [ownFilter, Filter.parse?]
  cases Filter.parseDirectives? settings.directives <;> rfl

/-- Where the environment says nothing the settings decide alone. -/
theorem filter_of_blank (settings : LogSettings) {environment : Option String}
    (blank : ∀ text, environment = some text → Text.trim text = "") :
    settings.filter environment = settings.ownFilter := by
  unfold filter
  split
  · rfl
  · rfl
  · next directives other found =>
    obtain ⟨text, given, rfl⟩ := Option.map_eq_some_iff.mp found
    exact absurd (blank text given) other

/-- **The filter of two texts is that of the directives of each that is well-formed.** -/
theorem filter_eq_merged (settings : LogSettings) {text : String} (given : Text.trim text ≠ "") :
    settings.filter (some text) = Filter.ofDirectives (Filter.merged
      (Filter.parseDirectives? settings.directives) (Filter.parseDirectives? (Text.trim text))) := by
  unfold filter
  rw [Option.map_some]
  split
  · next absent => cases absent
  · next blank => exact absurd (Option.some.inj blank) given
  · next directives same =>
    obtain rfl := Option.some.inj same
    rw [Filter.parse?, Filter.parse?, Filter.parseDirectives?_append_comma, ownFilter_eq_merged]
    cases Filter.parseDirectives? settings.directives <;>
      cases Filter.parseDirectives? (Text.trim text) <;> rfl

end LogSettings

/-! ### Which directives count -/

namespace Filter

/-- Whether a filter has a directive wherever it belongs. -/
def Has (filter : Filter) (directive : Directive) : Prop :=
  (directive.isForEvents = true → directive ∈ filter.directives) ∧
    (directive.isForSpans = true → directive ∈ filter.spanDirectives)

/-- What a filter says of directives and of later ones that count for more. -/
structure Overrides (filter : Filter) (earlier later : List Directive) : Prop where
  /-- Of what the later directives mention the filter has the last one. -/
  ofLater : ∀ mentioned ∈ later, ∃ last,
    Counts later last ∧ mentioned.SameSubject last ∧ filter.Has last
  /-- Of what only the earlier directives mention the filter has the last one. -/
  ofEarlier : ∀ mentioned ∈ earlier, (∀ other ∈ later, ¬ mentioned.SameSubject other) → ∃ last,
    Counts earlier last ∧ mentioned.SameSubject last ∧ filter.Has last
  /-- The filter has no other directives. -/
  only : ∀ directive, directive ∈ filter.directives ∨ directive ∈ filter.spanDirectives →
    Counts later directive ∨
      Counts earlier directive ∧ ∀ other ∈ later, ¬ directive.SameSubject other
  /-- The most specific directive about an event decides about it. -/
  decides : ∀ event directive, filter.directiveFor? event = some directive ↔
    directive ∈ filter.directives ∧ directive.covers event = true ∧
      ∀ other ∈ filter.directives, other.covers event = true →
        other = directive ∨ directive.order other = .lt

/-- The filter of directives has those that count wherever they belong. -/
theorem has_of_counts {directives : List Directive} {directive : Directive}
    (counts : Counts directives directive) : (ofDirectives directives).Has directive :=
  ⟨fun forEvents => mem_directives_iff.mpr ⟨forEvents, counts⟩,
    fun forSpans => mem_spanDirectives_iff.mpr ⟨forSpans, counts⟩⟩

/-- **Of one list after another the later one counts for more.** -/
theorem overrides_append (earlier later : List Directive) :
    (ofDirectives (earlier ++ later)).Overrides earlier later where
  ofLater mentioned listed := by
    obtain ⟨last, counts, same⟩ := exists_counts listed
    exact ⟨last, counts, same, has_of_counts (counts_append_iff.mpr (.inl counts))⟩
  ofEarlier mentioned listed none := by
    obtain ⟨last, counts, same⟩ := exists_counts listed
    have noneLater : ∀ other ∈ later, ¬ last.SameSubject other := fun other laterListed about =>
      none other laterListed (same.trans about)
    exact ⟨last, counts, same, has_of_counts (counts_append_iff.mpr (.inr ⟨counts, noneLater⟩))⟩
  only directive listed := by
    rw [mem_directives_iff, mem_spanDirectives_iff] at listed
    obtain ⟨-, counts⟩ | ⟨-, counts⟩ := listed
    · exact counts_append_iff.mp counts
    · exact counts_append_iff.mp counts
  decides _ _ := directiveFor?_eq_some_iff

end Filter

/-- **What the environment says goes after what the settings say, and counts for more.** Where it says
nothing, the settings decide alone, with `info` in place of a malformed level. Else the two texts together
are well-formed exactly if both are; the filter is that of the directives of both, of the one that is
well-formed, or of `info` alone. In the filter of both the last directive of the environment stands for all
that the environment mentions, and the last one of the settings for all that only they mention. -/
theorem LogSettings.filter_merges (settings : LogSettings) :
    (∀ environment, (∀ text, environment = some text → Text.trim text = "") →
      settings.filter environment = Filter.ofDirectives
        ((Filter.parseDirectives? settings.directives).getD [.forAll (.upTo .info)])) ∧
    ∀ text, Text.trim text ≠ "" →
      ((Filter.parse? (settings.directives ++ "," ++ Text.trim text)).isSome ↔
        (Filter.parse? settings.directives).isSome ∧ (Filter.parse? (Text.trim text)).isSome) ∧
      settings.filter (some text) = Filter.ofDirectives (Filter.merged
        (Filter.parseDirectives? settings.directives) (Filter.parseDirectives? (Text.trim text))) ∧
      ∀ own given, Filter.parseDirectives? settings.directives = some own →
        Filter.parseDirectives? (Text.trim text) = some given →
          (settings.filter (some text)).Overrides own given := by
  refine ⟨fun environment blank => ?_, fun text given => ⟨Filter.isSome_parse?_append_comma_iff,
    settings.filter_eq_merged given, fun own directives ownRead read => ?_⟩⟩
  · rw [settings.filter_of_blank blank, ownFilter_eq_merged]
    cases Filter.parseDirectives? settings.directives <;> rfl
  · rw [settings.filter_eq_merged given, ownRead, read]
    exact Filter.overrides_append own directives

/-- Two well-formed texts about one target, and a level beside a blank environment. -/
theorem LogSettings.filter_merges_same_target :
    ∃ own given, Filter.parseDirectives? (LogSettings.directives { level := "a=warn,info" }) = some own ∧
      Filter.parseDirectives? (Text.trim " a=debug,b=off ") = some given ∧
      LogSettings.filter { level := "a=warn,info" } (some " a=debug,b=off ") =
        Filter.ofDirectives (own ++ given) ∧
      (LogSettings.filter { level := "a=warn,info" } (some " a=debug,b=off ")).Overrides own given ∧
      LogSettings.filter { level := "Warning" } (some " ") =
        Filter.ofDirectives [.forAll (.upTo .warn)] := by
  have own : Filter.parseDirectives? (LogSettings.directives { level := "a=warn,info" }) =
      some [⟨some "a", none, none, .upTo .warn⟩, .forAll (.upTo .info)] := by decide
  have trimmed : Text.trim " a=debug,b=off " = "a=debug,b=off" := by decide
  have given : Filter.parseDirectives? "a=debug,b=off" =
      some [⟨some "a", none, none, .upTo .debug⟩, ⟨some "b", none, none, .off⟩] := by decide
  have blank : Text.trim " " = "" := by decide
  have warn : Filter.parseDirectives? (LogSettings.directives { level := "Warning" }) =
      some [.forAll (.upTo .warn)] := by decide
  obtain ⟨-, whole, both⟩ := (filter_merges { level := "a=warn,info" }).2 " a=debug,b=off "
    (by rw [trimmed]; decide)
  have alone := (filter_merges { level := "Warning" }).1 (some " ") fun text same =>
    Option.some.inj same ▸ blank
  rw [trimmed] at whole both
  rw [own, given] at whole
  rw [warn] at alone
  exact ⟨_, _, own, trimmed ▸ given, whole, both _ _ own given, alone⟩

end NameDomains
