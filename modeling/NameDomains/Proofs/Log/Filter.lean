/-
**What is in a filter.**

A filter is made by putting directives in their places one after another, where each replaces the one about
the same. So the filter has, of each subject, the last directive about it, and has them in order; and the
first one about an event is the most specific one about it.

* `Filter.InOrder`, `Filter.mem_place_iff`, `Filter.InOrder.place` — what one directive does to those in
  order.
* `Filter.mem_placeAll_iff` — what many of them do.
* `Filter.Counts` — a directive is the last about its subject.
* `Filter.mem_directives_iff`, `Filter.mem_spanDirectives_iff` — the directives of a filter.
* `Filter.directiveFor?_eq_some_iff` — the directive that decides about an event.
-/

import NameDomains.Log.Filter
import NameDomains.Proofs.Entries
import NameDomains.Proofs.Log.Order

namespace NameDomains.Filter

/-! ### One directive -/

/-- Each directive comes before all later ones in the order. -/
def InOrder (directives : List Directive) : Prop :=
  directives.Pairwise fun first second => first.order second = .lt

namespace InOrder

variable {directive next : Directive} {rest : List Directive}

/-- What comes before the first of directives in order comes before all of them. -/
theorem lt_of_lt (inOrder : InOrder (next :: rest)) (before : directive.order next = .lt) :
    ∀ other ∈ next :: rest, directive.order other = .lt := by
  intro other listed
  rcases List.mem_cons.mp listed with rfl | later
  · exact before
  · exact Std.TransCmp.lt_trans before ((List.pairwise_cons.mp inOrder).1 other later)

/-- What is equal to the first of directives in order comes before the others. -/
theorem lt_of_eq (inOrder : InOrder (next :: rest)) (equal : directive.order next = .eq) :
    ∀ other ∈ rest, directive.order other = .lt := fun other later =>
  Std.TransCmp.lt_of_eq_of_lt equal ((List.pairwise_cons.mp inOrder).1 other later)

end InOrder

/-- **A directive that is put in its place stands there, and replaces the one about the same.** -/
theorem mem_place_iff {directives : List Directive} (inOrder : InOrder directives)
    {directive other : Directive} :
    other ∈ place directive directives ↔
      other = directive ∨ other ∈ directives ∧ ¬ other.SameSubject directive := by
  induction directives with
  | nil => simp [place]
  | cons next rest later =>
    unfold place
    split
    · next before =>
      have apart : other ∈ next :: rest → ¬ other.SameSubject directive := fun listed =>
        Directive.not_sameSubject_of_lt (inOrder.lt_of_lt before other listed)
      rw [List.mem_cons]
      exact or_congr_right ⟨fun listed => ⟨listed, apart listed⟩, And.left⟩
    · next equal =>
      have apart : other ∈ rest → ¬ other.SameSubject directive := fun listed =>
        Directive.not_sameSubject_of_lt (inOrder.lt_of_eq equal other listed)
      rw [List.mem_cons, List.mem_cons]
      constructor
      · rintro (rfl | listed)
        · exact .inl rfl
        · exact .inr ⟨.inr listed, apart listed⟩
      · rintro (rfl | ⟨rfl | listed, different⟩)
        · exact .inl rfl
        · exact absurd (Directive.order_eq_iff_sameSubject.mp equal).symm different
        · exact .inr listed
    · next after =>
      have different : ¬ next.SameSubject directive := fun same =>
        Directive.not_sameSubject_of_lt (Std.OrientedCmp.gt_iff_lt.mp after) same.symm
      rw [List.mem_cons, later (List.pairwise_cons.mp inOrder).2, List.mem_cons]
      constructor
      · rintro (rfl | rfl | ⟨listed, apart⟩)
        · exact .inr ⟨.inl rfl, different⟩
        · exact .inl rfl
        · exact .inr ⟨.inr listed, apart⟩
      · rintro (rfl | ⟨rfl | listed, apart⟩)
        · exact .inr (.inl rfl)
        · exact .inl rfl
        · exact .inr (.inr ⟨listed, apart⟩)

/-- **Directives stay in order when one is put in its place.** -/
theorem InOrder.place {directives : List Directive} (inOrder : InOrder directives)
    (directive : Directive) : InOrder (place directive directives) := by
  induction directives with
  | nil => exact List.pairwise_singleton ..
  | cons next rest later =>
    obtain ⟨first, restInOrder⟩ := List.pairwise_cons.mp inOrder
    unfold Filter.place
    split
    · next before => exact List.pairwise_cons.mpr ⟨inOrder.lt_of_lt before, inOrder⟩
    · next equal => exact List.pairwise_cons.mpr ⟨inOrder.lt_of_eq equal, restInOrder⟩
    · next after =>
      refine List.pairwise_cons.mpr ⟨fun other listed => ?_, later restInOrder⟩
      rcases (mem_place_iff restInOrder).mp listed with rfl | ⟨listed, -⟩
      · exact Std.OrientedCmp.gt_iff_lt.mp after
      · exact first other listed

/-! ### Many directives -/

/-- Puts directives in their places, one after another. -/
def placeAll (start directives : List Directive) : List Directive :=
  directives.foldl (fun placed directive => place directive placed) start

theorem InOrder.placeAll {start : List Directive} (inOrder : InOrder start)
    (directives : List Directive) : InOrder (placeAll start directives) := by
  induction directives generalizing start with
  | nil => exact inOrder
  | cons directive directives later => exact later (inOrder.place directive)

/-- **Of each subject the last directive stays**, or else the one that was there before. -/
theorem mem_placeAll_iff {start : List Directive} (inOrder : InOrder start)
    {directives : List Directive} {directive : Directive} :
    directive ∈ placeAll start directives ↔
      Entries.IsLast directive.SameSubject directives directive ∨
        directive ∈ start ∧ ∀ other ∈ directives, ¬ directive.SameSubject other := by
  induction directives generalizing start with
  | nil =>
    have none : ¬ Entries.IsLast directive.SameSubject [] directive :=
      fun ⟨before, after, divided, _⟩ => by simp at divided
    simp [placeAll, none]
  | cons next directives later =>
    have placed := later (inOrder.place next)
    rw [placeAll, List.foldl_cons, ← placeAll, placed, mem_place_iff inOrder, Entries.isLast_cons_iff,
      List.forall_mem_cons]
    constructor
    · rintro (last | ⟨rfl | ⟨listed, apart⟩, none⟩)
      · exact .inl (.inl last)
      · exact .inl (.inr ⟨rfl, .refl directive, none⟩)
      · exact .inr ⟨listed, apart, none⟩
    · rintro ((last | ⟨rfl, -, none⟩) | ⟨listed, apart, none⟩)
      · exact .inl last
      · exact .inr ⟨.inl rfl, none⟩
      · exact .inr ⟨.inr ⟨listed, apart⟩, none⟩

/-! ### Filters -/

/-- A directive counts if it is the last about its subject. -/
def Counts (directives : List Directive) (directive : Directive) : Prop :=
  Entries.IsLast directive.SameSubject directives directive

/-- **Of directives and later ones the later count for more.** -/
theorem counts_append_iff {first second : List Directive} {directive : Directive} :
    Counts (first ++ second) directive ↔
      Counts second directive ∨
        Counts first directive ∧ ∀ other ∈ second, ¬ directive.SameSubject other :=
  Entries.isLast_append_iff

/-- **Of each subject that is mentioned one directive counts.** -/
theorem exists_counts {directives : List Directive} {mentioned : Directive}
    (listed : mentioned ∈ directives) :
    ∃ last, Counts directives last ∧ mentioned.SameSubject last := by
  obtain ⟨last, before, after, divided, same, none⟩ :=
    Entries.exists_isLast ⟨mentioned, listed, Directive.SameSubject.refl mentioned⟩
  exact ⟨last, ⟨before, after, divided, .refl last, fun other later about =>
    none other later (same.trans about)⟩, same⟩

/-- A directive that passes a test is put in its place before the later ones that do. -/
theorem placeAll_filter_cons (test : Directive → Bool) (start directives : List Directive)
    (directive : Directive) :
    placeAll start ((directive :: directives).filter test) =
      placeAll (if test directive then place directive start else start) (directives.filter test) := by
  rw [List.filter_cons]
  split <;> rfl

/-- The directives about events, and those about spans, are each put in their places. -/
theorem foldl_add (filter : Filter) (directives : List Directive) :
    (directives.foldl add filter).directives =
        placeAll filter.directives (directives.filter Directive.isForEvents) ∧
      (directives.foldl add filter).spanDirectives =
        placeAll filter.spanDirectives (directives.filter Directive.isForSpans) := by
  induction directives generalizing filter with
  | nil => exact ⟨rfl, rfl⟩
  | cons directive directives later =>
    rw [List.foldl_cons, (later _).1, (later _).2, placeAll_filter_cons, placeAll_filter_cons]
    exact ⟨rfl, rfl⟩

/-- The directives of a table that is filled with those that pass a test are the ones that pass and
count. -/
theorem mem_placeAll_filter_iff {test : Directive → Bool}
    (sameTest : ∀ {first second}, Directive.SameSubject first second → test first = test second)
    {directives : List Directive} {directive : Directive} :
    directive ∈ placeAll [] (directives.filter test) ↔
      test directive = true ∧ Counts directives directive := by
  rw [mem_placeAll_iff List.Pairwise.nil]
  have passes : test directive = true → ∀ other, directive.SameSubject other → test other = true :=
    fun passed _ same => (sameTest same).symm.trans passed
  constructor
  · rintro (last | ⟨listed, -⟩)
    · have passed : test directive = true := by
        obtain ⟨before, after, divided, -⟩ := last
        have listed : directive ∈ directives.filter test :=
          divided ▸ List.mem_append_right _ List.mem_cons_self
        exact (List.mem_filter.mp listed).2
      exact ⟨passed, (Entries.isLast_filter_iff (passes passed)).mp last⟩
    · cases listed
  · rintro ⟨passed, counts⟩
    exact .inl ((Entries.isLast_filter_iff (passes passed)).mpr counts)

/-- **A filter has the directives about events that count.** -/
theorem mem_directives_iff {directives : List Directive} {directive : Directive} :
    directive ∈ (ofDirectives directives).directives ↔
      directive.isForEvents = true ∧ Counts directives directive := by
  rw [ofDirectives, (foldl_add _ _).1]
  exact mem_placeAll_filter_iff Directive.SameSubject.isForEvents_eq

/-- **A filter has the directives about spans of work that count.** -/
theorem mem_spanDirectives_iff {directives : List Directive} {directive : Directive} :
    directive ∈ (ofDirectives directives).spanDirectives ↔
      directive.isForSpans = true ∧ Counts directives directive := by
  rw [ofDirectives, (foldl_add _ _).2]
  exact mem_placeAll_filter_iff Directive.SameSubject.isForSpans_eq

/-- The directives of a filter are in order. -/
theorem inOrder_directives (directives : List Directive) :
    InOrder (ofDirectives directives).directives := by
  rw [ofDirectives, (foldl_add _ _).1]
  exact InOrder.placeAll List.Pairwise.nil _

/-- **The most specific directive about an event decides about it.** -/
theorem directiveFor?_eq_some_iff {directives : List Directive} {event : Event} {directive : Directive} :
    (ofDirectives directives).directiveFor? event = some directive ↔
      directive ∈ (ofDirectives directives).directives ∧ directive.covers event = true ∧
        ∀ other ∈ (ofDirectives directives).directives, other.covers event = true →
          other = directive ∨ directive.order other = .lt := by
  have inOrder := inOrder_directives directives
  generalize (ofDirectives directives) = filter at inOrder ⊢
  rw [directiveFor?, List.find?_eq_some_iff_append]
  constructor
  · rintro ⟨covers, before, after, divided, none⟩
    rw [divided] at inOrder ⊢
    refine ⟨List.mem_append_right _ List.mem_cons_self, covers, fun other listed otherCovers => ?_⟩
    rcases List.mem_append.mp listed with listed | listed
    · have not := none other listed
      rw [otherCovers] at not
      cases not
    · rcases List.mem_cons.mp listed with rfl | listed
      · exact .inl rfl
      · exact .inr ((List.pairwise_cons.mp (List.pairwise_append.mp inOrder).2.1).1 other listed)
  · rintro ⟨listed, covers, least⟩
    obtain ⟨before, after, divided⟩ := List.append_of_mem listed
    refine ⟨covers, before, after, divided, fun other otherListed => ?_⟩
    rw [divided] at inOrder least
    have earlier := (List.pairwise_append.mp inOrder).2.2 other otherListed directive List.mem_cons_self
    rw [Bool.not_eq_true', ← Bool.not_eq_true]
    intro otherCovers
    rcases least other (List.mem_append_left _ otherListed) otherCovers with rfl | later
    · rw [Directive.order_self] at earlier
      cases earlier
    · rw [Std.OrientedCmp.gt_of_lt earlier] at later
      cases later

end NameDomains.Filter
