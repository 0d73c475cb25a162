import ViewCompiler.Proofs.Edit.Nest
import Mathlib.Tactic.Push

/-!
# Which plans can be applied

A plan can be applied exactly when every edit lies within the text (`Plan.Fits`) and no two of them cross
(`Plan.Laminar`). Both are properties of the ranges alone, and neither depends on the order in which the
edits were planned. The result depends on that order only where edits have the same range.
-/

namespace ViewCompiler

/-- Every edit of the plan lies within the text. -/
def Plan.Fits (plan : Plan) (text : Text) : Prop :=
  ∀ e ∈ plan, 0 ≤ e.range.start ∧ e.range.stop ≤ text.length

/-- No two edits of the plan cross. -/
def Plan.Laminar (plan : Plan) : Prop := ∀ a ∈ plan, ∀ b ∈ plan, ¬ a.range.Crosses b.range

instance (plan : Plan) (text : Text) : Decidable (plan.Fits text) :=
  inferInstanceAs (Decidable (∀ e ∈ plan, 0 ≤ e.range.start ∧ e.range.stop ≤ text.length))

instance (plan : Plan) : Decidable plan.Laminar :=
  inferInstanceAs (Decidable (∀ a ∈ plan, ∀ b ∈ plan, ¬ a.range.Crosses b.range))

theorem Plan.Fits.perm {plan plan' : Plan} {text : Text} (hfits : plan.Fits text) (hperm : plan.Perm plan') :
    plan'.Fits text :=
  fun e he => hfits e (hperm.mem_iff.2 he)

theorem Plan.Laminar.perm {plan plan' : Plan} (hlaminar : plan.Laminar) (hperm : plan.Perm plan') :
    plan'.Laminar :=
  fun a ha b hb => hlaminar a (hperm.mem_iff.2 ha) b (hperm.mem_iff.2 hb)

theorem Plan.not_fits_iff {plan : Plan} {text : Text} :
    ¬ plan.Fits text ↔ ∃ e ∈ plan, e.range.start < 0 ∨ text.length < e.range.stop := by
  rw [Plan.Fits]
  push Not
  refine exists_congr fun e => and_congr_right fun _ => ?_
  omega

theorem Plan.not_laminar_iff {plan : Plan} :
    ¬ plan.Laminar ↔ ∃ a ∈ plan, ∃ b ∈ plan, a.range.Crosses b.range := by
  rw [Plan.Laminar]
  push Not
  rfl

namespace Edit

theorem problemsOf_eq_nil_iff {length place : Nat} {e : Edit} :
    problemsOf length place e = [] ↔ 0 ≤ e.range.start ∧ e.range.stop ≤ length := by
  rw [problemsOf, List.append_eq_nil_iff]
  split <;> split <;> simp <;> omega

theorem problems_eq_nil_iff {text : Text} {plan : Plan} : problems text plan = [] ↔ plan.Fits text := by
  rw [problems, List.flatMap_eq_nil_iff]
  constructor
  · intro hnone e he
    rw [← List.zipIdx_map_fst 0 plan, List.mem_map] at he
    obtain ⟨a, ha, rfl⟩ := he
    exact problemsOf_eq_nil_iff.1 (hnone a ha)
  · intro hfits a ha
    exact problemsOf_eq_nil_iff.2 (hfits a.1 (List.fst_mem_of_mem_zipIdx ha))

/-- For edits in order it is enough to compare each with those after it. -/
theorem pairwise_not_crosses_iff {l : List Edit} (hsorted : l.Pairwise fun a b => a.range.Precedes b.range) :
    (l.Pairwise fun a b => ¬ a.range.Crosses b.range) ↔ Plan.Laminar l := by
  constructor
  · intro happart
    induction l with
    | nil => exact fun a ha => absurd ha List.not_mem_nil
    | cons e rest ih =>
        rw [List.pairwise_cons] at hsorted happart
        intro a ha b hb
        rcases List.mem_cons.1 ha with rfl | ha'
        · rcases List.mem_cons.1 hb with rfl | hb'
          · exact Range.not_crosses_self _
          · exact happart.1 b hb'
        · rcases List.mem_cons.1 hb with rfl | hb'
          · exact (hsorted.1 a ha').not_crosses
          · exact ih hsorted.2 happart.2 a ha' b hb'
  · intro hlaminar
    exact hsorted.imp_of_mem fun ha hb _ => hlaminar _ ha _ hb

theorem nest_eq_forest {plan : Plan} (hlaminar : plan.Laminar) : nest plan = .ok (forest (ordered plan)) := by
  have happart := (pairwise_not_crosses_iff (ordered_pairwise plan)).2
    (hlaminar.perm (ordered_perm plan).symm)
  rw [nest, nestFrom_eq_resume [] (ordered_pairwise plan) happart (fun f hf => absurd hf List.not_mem_nil),
    resume, List.reverse_nil, List.nil_append]

theorem laminar_of_nest {plan : Plan} {outermost : List Nested} (hnest : nest plan = .ok outermost) :
    plan.Laminar := by
  have happart := (not_crosses_of_nestFrom hnest (ordered_pairwise plan)
    (fun f hf => absurd hf List.not_mem_nil) List.Pairwise.nil).1
  exact ((pairwise_not_crosses_iff (ordered_pairwise plan)).1 happart).perm (ordered_perm plan)

theorem crosses_of_nest {plan : Plan} {error : Error} (hnest : nest plan = .error error) :
    ∃ a ∈ plan, ∃ b ∈ plan, error = .overlap a.range b.range ∧ a.range.Crosses b.range := by
  obtain ⟨a, ha, b, hb, hfound⟩ := error_of_nestFrom hnest (ordered_pairwise plan)
    (fun f hf => absurd hf List.not_mem_nil)
  exact ⟨a, (ordered_perm plan).mem_iff.1 ha, b, (ordered_perm plan).mem_iff.1 hb, hfound⟩

/-! ### Success and failure of a whole application -/

/-- The outcome of applying a plan, given its nesting. -/
theorem apply_of_fits {text : Text} {plan : Plan} (hfits : plan.Fits text) :
    apply text plan = (nest plan).map fun outermost =>
      let result := Nested.render.splice text 0 text.length outermost
      (result, ⟨plan.length, covered outermost, result.length - text.length + covered outermost⟩) := by
  rw [apply, problems_eq_nil_iff.2 hfits]
  cases nest plan <;> rfl

theorem apply_of_not_fits {text : Text} {plan : Plan} (hfits : ¬ plan.Fits text) :
    apply text plan = .error (.outOfBounds (problems text plan)) := by
  rw [apply]
  split
  · rename_i hnone
    exact absurd (problems_eq_nil_iff.1 hnone) hfits
  · rfl

theorem apply_of_laminar {text : Text} {plan : Plan} (hfits : plan.Fits text) (hlaminar : plan.Laminar) :
    ∃ stats, apply text plan =
      .ok (Nested.render.splice text 0 text.length (forest (ordered plan)), stats) := by
  rw [apply_of_fits hfits, nest_eq_forest hlaminar]
  exact ⟨_, rfl⟩

theorem fits_and_laminar_of_apply {text : Text} {plan : Plan} {outcome : Text × Stats}
    (h : apply text plan = .ok outcome) : plan.Fits text ∧ plan.Laminar := by
  have hfits : plan.Fits text := by
    by_contra hfits
    simp [apply_of_not_fits hfits] at h
  refine ⟨hfits, ?_⟩
  rw [apply_of_fits hfits] at h
  cases hnest : nest plan with
  | ok outermost => exact laminar_of_nest hnest
  | error error => simp [hnest, Except.map] at h

theorem apply_eq_ok_iff {text : Text} {plan : Plan} :
    (∃ outcome, apply text plan = .ok outcome) ↔ plan.Fits text ∧ plan.Laminar := by
  constructor
  · rintro ⟨outcome, h⟩
    exact fits_and_laminar_of_apply h
  · rintro ⟨hfits, hlaminar⟩
    obtain ⟨stats, h⟩ := apply_of_laminar hfits hlaminar
    exact ⟨_, h⟩

theorem crosses_of_apply {text : Text} {plan : Plan} {first second : Range}
    (h : apply text plan = .error (.overlap first second)) :
    ∃ a ∈ plan, ∃ b ∈ plan, a.range = first ∧ b.range = second ∧ a.range.Crosses b.range := by
  have hfits : plan.Fits text := by
    by_contra hfits
    simp [apply_of_not_fits hfits] at h
  rw [apply_of_fits hfits] at h
  cases hnest : nest plan with
  | ok outermost => simp [hnest, Except.map] at h
  | error error =>
      obtain ⟨a, ha, b, hb, rfl, hcross⟩ := crosses_of_nest hnest
      simp only [hnest, Except.map, Except.error.injEq, Error.overlap.injEq] at h
      exact ⟨a, ha, b, hb, h.1, h.2, hcross⟩

/-- A plan is refused exactly when an edit does not fit the text or two edits cross, that is, overlap
while neither contains the other. A refusal for an overlap names two edits that cross, so an empty range
is never the reason. -/
theorem apply_refused_iff (text : Text) (plan : Plan) :
    ((∃ error, apply text plan = .error error) ↔
      (∃ e ∈ plan, e.range.start < 0 ∨ text.length < e.range.stop) ∨
        ∃ a ∈ plan, ∃ b ∈ plan, a.range.Crosses b.range) ∧
    ((∃ a ∈ plan, ∃ b ∈ plan, a.range.Crosses b.range) ↔
      ∃ a ∈ plan, ∃ b ∈ plan, a.range.overlaps b.range = true ∧
        ¬ a.range.contains b.range = true ∧ ¬ b.range.contains a.range = true) ∧
    ∀ first second, apply text plan = .error (.overlap first second) →
      (¬ first.isEmpty = true ∧ ¬ second.isEmpty = true) ∧ first.Crosses second ∧
        (∃ a ∈ plan, a.range = first) ∧ ∃ b ∈ plan, b.range = second := by
  refine ⟨?_, ?_, ?_⟩
  · rw [← Plan.not_fits_iff, ← Plan.not_laminar_iff, ← not_and_or, ← apply_eq_ok_iff]
    cases apply text plan with
    | error error => simp
    | ok outcome => simp
  · constructor
    · rintro ⟨a, ha, b, hb, hcross⟩
      exact ⟨a, ha, b, hb, Range.overlaps_and_not_contains_iff.2 (Or.inl hcross)⟩
    · rintro ⟨a, ha, b, hb, hoverlap⟩
      rcases Range.overlaps_and_not_contains_iff.1 hoverlap with hcross | hcross
      · exact ⟨a, ha, b, hb, hcross⟩
      · exact ⟨b, hb, a, ha, hcross⟩
  · intro first second herror
    obtain ⟨a, ha, b, hb, rfl, rfl, hcross⟩ := crosses_of_apply herror
    exact ⟨hcross.not_isEmpty, hcross, ⟨a, ha, rfl⟩, ⟨b, hb, rfl⟩⟩

/-! ### The order of planning -/

theorem nest_eq_of_filter_eq {plan plan' : Plan} (hperm : plan.Perm plan')
    (hsame : ∀ r, plan.filter (·.range = r) = plan'.filter (·.range = r)) : nest plan = nest plan' := by
  rw [nest, nest, ordered_eq_of_filter_eq hperm hsame]

/-- The order in which edits are planned matters only among edits of exactly the same range: a plan that
is rearranged otherwise is refused as before or gives the same text with the same statistics. -/
theorem apply_rearranged (text : Text) {plan plan' : Plan} (hperm : plan.Perm plan')
    (hsame : ∀ r, plan.filter (·.range = r) = plan'.filter (·.range = r)) :
    (∃ error error', apply text plan = .error error ∧ apply text plan' = .error error') ∨
      ∃ result stats, apply text plan = .ok (result, stats) ∧ apply text plan' = .ok (result, stats) := by
  by_cases hfits : plan.Fits text
  · have heq : apply text plan = apply text plan' := by
      rw [apply_of_fits hfits, apply_of_fits (hfits.perm hperm), nest_eq_of_filter_eq hperm hsame,
        hperm.length_eq]
    cases happly : apply text plan with
    | error error => exact Or.inl ⟨error, error, rfl, heq ▸ happly⟩
    | ok outcome => exact Or.inr ⟨outcome.1, outcome.2, rfl, heq ▸ happly⟩
  · have hfits' : ¬ plan'.Fits text := fun h => hfits (h.perm hperm.symm)
    exact Or.inl ⟨_, _, apply_of_not_fits hfits, apply_of_not_fits hfits'⟩

/-- Two insertions at one point and a replacement that starts there: the replacement may be planned
between them or before them. -/
theorem apply_rearranged_insertions :
    let first := insertion 1 "x" none
    let second := insertion 1 "y" none
    let other := replacement ⟨1, 3, by decide⟩ "z" none
    ([first, other, second].Perm [other, first, second] ∧
      ∀ r, [first, other, second].filter (·.range = r) = [other, first, second].filter (·.range = r)) ∧
    ∃ result stats, apply "abcd" [first, other, second] = .ok (result, stats) ∧
      apply "abcd" [other, first, second] = .ok (result, stats) := by
  intro first second other
  have hperm : [first, other, second].Perm [other, first, second] := List.Perm.swap other first [second]
  have hsame (r : Range) : [first, other, second].filter (·.range = r) =
      [other, first, second].filter (·.range = r) := by
    by_cases hother : other.range = r
    · subst hother
      rfl
    · simp [List.filter_cons, hother]
  refine ⟨⟨hperm, hsame⟩, ?_⟩
  rcases apply_rearranged "abcd" hperm hsame with ⟨error, -, hrefused, -⟩ | hdone
  · have hok : ∃ stats, apply "abcd" [first, other, second] = .ok (_, stats) :=
      apply_of_laminar (by decide) (by decide)
    obtain ⟨stats, hok⟩ := hok
    rw [hok] at hrefused
    cases hrefused
  · exact hdone

end Edit

end ViewCompiler
