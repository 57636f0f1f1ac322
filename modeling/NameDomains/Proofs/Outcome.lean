/-
**Outcomes of steps taken one after another.**

A step that may fail, taken after another one, succeeds exactly when both do; logged steps leave the value
that the steps leave without their events.

* `Outcome.map_eq_ok_iff`, `Outcome.mapError_eq_ok_iff`, `Outcome.bind_eq_ok_iff` — when a step that may
  fail succeeds.
* `Outcome.mapError_foldlM`, `Outcome.foldlM_eq_error_iff`, `Outcome.mapM_eq_error_iff` — failures of steps
  over a list.
* `Outcome.exists_ok_of_foldlM`, `Outcome.forall₂_of_mapM` — every step of a list that succeeds succeeds.
* `Outcome.Alike`, `Outcome.Alike.foldlM` — two runs that fail with one error or succeed with related values.
* `Outcome.value_foldlM` — the value of logged steps over a list.
* `Outcome.failure?` — how an outcome fails, if it does.
-/

import Mathlib.Data.List.Forall2
import NameDomains.Log.Event

namespace NameDomains.Outcome

variable {ε α β : Type}

/-- An outcome that leaves a value is a success with it. -/
theorem toOption_eq_some_iff {outcome : Except ε α} {value : α} :
    outcome.toOption = some value ↔ outcome = .ok value := by
  cases outcome with
  | error error => simp [Except.toOption]
  | ok first => simp [Except.toOption]

/-- A changed outcome is a success exactly when the outcome is. -/
theorem map_eq_ok_iff {outcome : Except ε α} {change : α → β} {value : β} :
    outcome.map change = .ok value ↔ ∃ first, outcome = .ok first ∧ change first = value := by
  cases outcome with
  | error error => simp [Except.map]
  | ok first => simp [Except.map]

/-- Renaming the failures of an outcome keeps its successes. -/
theorem mapError_eq_ok_iff {δ : Type} {outcome : Except ε α} {rename : ε → δ} {value : α} :
    outcome.mapError rename = .ok value ↔ outcome = .ok value := by
  cases outcome with
  | error error =>
    show Except.error (rename error) = .ok value ↔ _
    simp
  | ok first =>
    show Except.ok first = .ok value ↔ _
    simp

/-- Renaming the failures of an outcome renames its failure, if it is one. -/
theorem mapError_eq_error_iff {δ : Type} {outcome : Except ε α} {rename : ε → δ} {error : δ} :
    outcome.mapError rename = .error error ↔ ∃ first, outcome = .error first ∧ rename first = error := by
  cases outcome with
  | error first =>
    show Except.error (rename first) = .error error ↔ _
    simp
  | ok value =>
    show Except.ok value = .error error ↔ _
    simp

/-- Failures that are renamed twice are renamed by both in turn. -/
theorem mapError_mapError {δ φ : Type} (outcome : Except ε α) (rename : ε → δ) (again : δ → φ) :
    (outcome.mapError rename).mapError again = outcome.mapError (again ∘ rename) := by
  cases outcome <;> rfl

/-- Two steps succeed exactly when the first one does and the second one does after it. -/
theorem bind_eq_ok_iff {outcome : Except ε α} {next : α → Except ε β} {value : β} :
    (outcome >>= next) = .ok value ↔ ∃ first, outcome = .ok first ∧ next first = .ok value := by
  cases outcome with
  | error error => simp [bind, Except.bind]
  | ok first => simp [bind, Except.bind]

/-- An outcome fails with its success changed exactly when it fails. -/
theorem bind_return_eq_error_iff {outcome : Except ε α} {change : α → β} {error : ε} :
    (outcome >>= fun value => return change value) = .error error ↔ outcome = .error error := by
  cases outcome with
  | error found => simp [bind, Except.bind]
  | ok value => exact ⟨nofun, nofun⟩

/-- Renaming the failures of two steps renames those of each. -/
theorem mapError_bind {δ : Type} (rename : ε → δ) (outcome : Except ε α) (next : α → Except ε β) :
    (outcome >>= next).mapError rename =
      outcome.mapError rename >>= fun value => (next value).mapError rename := by
  cases outcome <;> rfl

/-- Renaming the failures of steps over a list renames those of each step. -/
theorem mapError_foldlM {δ : Type} (rename : ε → δ) (step : β → α → Except ε β) (start : β)
    (items : List α) :
    (items.foldlM step start).mapError rename =
      items.foldlM (fun state item => (step state item).mapError rename) start := by
  induction items generalizing start with
  | nil => rfl
  | cons item items same =>
    rw [List.foldlM_cons, List.foldlM_cons, mapError_bind]
    exact congrArg _ (funext same)

/-- Two steps fail exactly when the first one does or the second one does after it. -/
theorem bind_eq_error_iff {outcome : Except ε α} {next : α → Except ε β} {error : ε} :
    (outcome >>= next) = .error error ↔
      outcome = .error error ∨ ∃ value, outcome = .ok value ∧ next value = .error error := by
  cases outcome with
  | error found => simp [bind, Except.bind]
  | ok value => simp [bind, Except.bind]

/-- **Steps over a list fail exactly as one of them does** once those before it have succeeded. -/
theorem foldlM_eq_error_iff {step : β → α → Except ε β} {start : β} {items : List α} {error : ε} :
    items.foldlM step start = .error error ↔
      ∃ before item after state, items = before ++ item :: after ∧
        before.foldlM step start = .ok state ∧ step state item = .error error := by
  constructor
  · intro failed
    induction items generalizing start with
    | nil => cases failed
    | cons item items later =>
      rw [List.foldlM_cons, bind_eq_error_iff] at failed
      obtain first | ⟨next, first, rest⟩ := failed
      · exact ⟨[], item, items, start, rfl, rfl, first⟩
      · obtain ⟨before, other, after, state, divided, reached, here⟩ := later rest
        refine ⟨item :: before, other, after, state, congrArg (item :: ·) divided, ?_, here⟩
        rw [List.foldlM_cons, first]
        exact reached
  · rintro ⟨before, item, after, state, rfl, reached, here⟩
    rw [List.foldlM_append, reached]
    show ((item :: after).foldlM step state : Except ε β) = .error error
    rw [List.foldlM_cons, here]
    rfl

/-- Steps over a list fail as one of them does. -/
theorem exists_error_of_foldlM {step : β → α → Except ε β} {start : β} {items : List α} {error : ε}
    (failed : items.foldlM step start = .error error) :
    ∃ state, ∃ item ∈ items, step state item = .error error := by
  obtain ⟨before, item, after, state, rfl, _, here⟩ := foldlM_eq_error_iff.mp failed
  exact ⟨state, item, List.mem_append_right before List.mem_cons_self, here⟩

/-- Steps over a list that succeed have each succeeded. -/
theorem exists_ok_of_foldlM {step : β → α → Except ε β} {start last : β} {items : List α}
    (succeeded : items.foldlM step start = .ok last) {item : α} (listed : item ∈ items) :
    ∃ state next, step state item = .ok next := by
  induction items generalizing start with
  | nil => cases listed
  | cons first items rest =>
    rw [List.foldlM_cons] at succeeded
    obtain ⟨next, here, later⟩ := bind_eq_ok_iff.mp succeeded
    rcases List.mem_cons.mp listed with rfl | listed
    · exact ⟨start, next, here⟩
    · exact rest later listed

/-- The values of items that each have one are theirs, in order. -/
theorem forall₂_of_mapM {step : α → Except ε β} {items : List α} {values : List β}
    (succeeded : items.mapM step = .ok values) :
    List.Forall₂ (fun item value => step item = .ok value) items values := by
  induction items generalizing values with
  | nil =>
    obtain rfl := Except.ok.inj succeeded
    exact .nil
  | cons item items rest =>
    rw [List.mapM_cons] at succeeded
    obtain ⟨value, here, later⟩ := bind_eq_ok_iff.mp succeeded
    obtain ⟨others, found, same⟩ := bind_eq_ok_iff.mp later
    obtain rfl := Except.ok.inj same
    exact .cons here (rest found)

/-- **Items are mapped to a failure exactly as one of them fails** once those before it have succeeded. -/
theorem mapM_eq_error_iff {step : α → Except ε β} {items : List α} {error : ε} :
    items.mapM step = .error error ↔
      ∃ before item after, items = before ++ item :: after ∧
        (∀ other ∈ before, ∃ value, step other = .ok value) ∧ step item = .error error := by
  constructor
  · intro failed
    induction items with
    | nil => cases failed
    | cons item items later =>
      rw [List.mapM_cons, bind_eq_error_iff] at failed
      obtain here | ⟨value, here, rest⟩ := failed
      · exact ⟨[], item, items, rfl, nofun, here⟩
      · obtain ⟨before, other, after, divided, reached, there⟩ := later (bind_return_eq_error_iff.mp rest)
        exact ⟨item :: before, other, after, congrArg (item :: ·) divided,
          List.forall_mem_cons.mpr ⟨⟨value, here⟩, reached⟩, there⟩
  · rintro ⟨before, item, after, rfl, reached, here⟩
    induction before with
    | nil =>
      rw [List.nil_append, List.mapM_cons, here]
      rfl
    | cons first before later =>
      obtain ⟨⟨value, found⟩, others⟩ := List.forall_mem_cons.mp reached
      rw [List.cons_append, List.mapM_cons, found]
      exact bind_return_eq_error_iff.mpr (later others)

/-- Both outcomes are failures with one error, or both are successes with related values. -/
inductive Alike (related : α → β → Prop) : Except ε α → Except ε β → Prop
  | failed (error : ε) : Alike related (.error error) (.error error)
  | done {first : α} {second : β} : related first second → Alike related (.ok first) (.ok second)

/-- What is done after two outcomes that are alike is alike if it is after related values. -/
theorem Alike.bind {γ δ : Type} {related : α → β → Prop} {after : γ → δ → Prop}
    {first : Except ε α} {second : Except ε β} {next : α → Except ε γ} {otherNext : β → Except ε δ}
    (alike : Alike related first second)
    (each : ∀ value other, related value other → Alike after (next value) (otherNext other)) :
    Alike after (first >>= next) (second >>= otherNext) := by
  cases alike with
  | failed error => exact .failed error
  | done kept => exact each _ _ kept

/-- What outcomes that are alike succeed with is related to begin with, and is what they succeed with. -/
theorem Alike.attained {related : α → β → Prop} {first : Except ε α} {second : Except ε β}
    (alike : Alike related first second) :
    Alike (fun value other => related value other ∧ first = .ok value ∧ second = .ok other)
      first second := by
  cases alike with
  | failed error => exact .failed error
  | done kept => exact .done ⟨kept, rfl, rfl⟩

/-- Outcomes that are alike stay so when their successes are changed to related ones. -/
theorem Alike.map {γ δ : Type} {related : α → β → Prop} {after : γ → δ → Prop} {first : Except ε α}
    {second : Except ε β} (alike : Alike related first second) {change : α → γ} {otherChange : β → δ}
    (each : ∀ value other, related value other → after (change value) (otherChange other)) :
    Alike after (first.map change) (second.map otherChange) := by
  cases alike with
  | failed error => exact .failed error
  | done kept => exact .done (each _ _ kept)

/-- Outcomes that are alike stay so when their failures are renamed. -/
theorem Alike.mapError {φ : Type} {related : α → β → Prop} {first : Except ε α} {second : Except ε β}
    (alike : Alike related first second) (rename : ε → φ) :
    Alike related (first.mapError rename) (second.mapError rename) := by
  cases alike with
  | failed error => exact .failed (rename error)
  | done kept => exact .done kept

/-- **Steps that keep two states related make runs alike** over lists whose items are related. -/
theorem Alike.foldlM {σ τ : Type} {related : σ → τ → Prop} {itemsRelated : α → β → Prop}
    {step : σ → α → Except ε σ} {otherStep : τ → β → Except ε τ}
    (each : ∀ state other, related state other → ∀ item otherItem, itemsRelated item otherItem →
      Alike related (step state item) (otherStep other otherItem))
    {items : List α} {otherItems : List β} (listed : List.Forall₂ itemsRelated items otherItems)
    {start : σ} {otherStart : τ} (started : related start otherStart) :
    Alike related (items.foldlM step start) (otherItems.foldlM otherStep otherStart) := by
  induction listed generalizing start otherStart with
  | nil => exact .done started
  | @cons item otherItem items otherItems here later rest =>
    rw [List.foldlM_cons, List.foldlM_cons]
    exact (each start otherStart started item otherItem here).bind fun _ _ kept => rest kept

/-- Logged steps over a list leave the value that they leave without their events. -/
theorem value_foldlM (step : β → α → Logged β) (start : β) (list : List α) :
    (list.foldlM step start).value = list.foldl (fun state item => (step state item).value) start := by
  induction list generalizing start with
  | nil => rfl
  | cons item list same => rw [List.foldlM_cons, Logged.value_bind, same, List.foldl_cons]

/-- The failure of an outcome, if it is one. -/
def failure? : Except ε α → Option ε
  | .error error => some error
  | .ok _ => none

end NameDomains.Outcome
