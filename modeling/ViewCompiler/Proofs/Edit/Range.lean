import ViewCompiler.Edit.Range

/-!
# How two ranges lie to each other

The order in which edits are nested compares ranges only (`Precedes`): by start, an empty range before
the ranges that start where it stands, longer ranges before shorter ones. Of two ranges in this order the
first contains the second, crosses it, or stops before it (`contains_or_crosses_or_stop_le`). That is all
the nesting relies on. Once a range has stopped before another, no later range lies within it
(`not_contains_of_precedes`), so an edit that is closed once can stay closed.
-/

namespace ViewCompiler.Range

/-- The second range starts strictly inside the first and stops after it. -/
def Crosses (r s : Range) : Prop := r.start < s.start ∧ s.start < r.stop ∧ r.stop < s.stop

instance (r s : Range) : Decidable (r.Crosses s) :=
  inferInstanceAs (Decidable (r.start < s.start ∧ s.start < r.stop ∧ r.stop < s.stop))

/-- The order of ranges: by start, empty ranges first, then the longer range first. -/
def Precedes (r s : Range) : Prop :=
  r.start < s.start ∨ r.start = s.start ∧ (r.start = r.stop ∨ s.start < s.stop ∧ s.stop ≤ r.stop)

theorem eq_iff {r s : Range} : r = s ↔ r.start = s.start ∧ r.stop = s.stop := by
  obtain ⟨start, stop, hle⟩ := r
  obtain ⟨start', stop', hle'⟩ := s
  simp only [Range.mk.injEq]

theorem make?_eq_some_iff {start stop : Int} {r : Range} :
    make? start stop = some r ↔ r.start = start ∧ r.stop = stop := by
  unfold make?
  constructor
  · intro h
    split at h
    · cases h
      exact ⟨rfl, rfl⟩
    · cases h
  · rintro ⟨rfl, rfl⟩
    exact dif_pos r.start_le_stop

theorem isEmpty_iff {r : Range} : r.isEmpty = true ↔ r.start = r.stop := by
  simp only [isEmpty, decide_eq_true_eq]

theorem overlaps_iff {r s : Range} : r.overlaps s = true ↔ s.start < r.stop ∧ r.start < s.stop := by
  simp only [overlaps, Bool.not_eq_true', Bool.or_eq_false_iff, decide_eq_false_iff_not, Int.not_le]

/-- Containment as inequalities. The last clause keeps an empty range off the edges of the other one. -/
theorem contains_iff {r s : Range} : r.contains s = true ↔
    r.start ≤ s.start ∧ s.stop ≤ r.stop ∧
      (s.start = s.stop → r.start < r.stop → r.start < s.start ∧ s.start < r.stop) := by
  have hr := r.start_le_stop
  have hs := s.start_le_stop
  simp only [contains, isEmpty, Bool.and_eq_true, decide_eq_true_eq, Bool.not_eq_true',
    decide_eq_false_iff_not]
  split
  · simp only [Bool.and_eq_true, decide_eq_true_eq]
    omega
  · simp only [Bool.and_eq_true, decide_eq_true_eq]
    omega

/-! ### Containment and crossing -/

theorem contains_refl (r : Range) : r.contains r = true := by
  rw [contains_iff]
  omega

theorem contains_trans {r s t : Range} (hrs : r.contains s = true) (hst : s.contains t = true) :
    r.contains t = true := by
  have hs := s.start_le_stop
  rw [contains_iff] at *
  omega

theorem Crosses.overlaps {r s : Range} (h : r.Crosses s) : r.overlaps s = true := by
  unfold Crosses at h
  rw [overlaps_iff]
  omega

theorem Crosses.not_contains {r s : Range} (h : r.Crosses s) : ¬ r.contains s = true := by
  unfold Crosses at h
  rw [contains_iff]
  omega

/-- Crossing, one way or the other, is to overlap without containment. -/
theorem overlaps_and_not_contains_iff {r s : Range} :
    (r.overlaps s = true ∧ ¬ r.contains s = true ∧ ¬ s.contains r = true) ↔ r.Crosses s ∨ s.Crosses r := by
  have hr := r.start_le_stop
  have hs := s.start_le_stop
  unfold Crosses
  rw [overlaps_iff, contains_iff, contains_iff]
  omega

theorem not_crosses_self (r : Range) : ¬ r.Crosses r := by
  unfold Crosses
  omega

theorem not_crosses_of_stop_le {r s t : Range} (hstop : r.stop ≤ s.start) (hst : s.start ≤ t.start) :
    ¬ r.Crosses t := by
  unfold Crosses
  omega

theorem Crosses.not_isEmpty {r s : Range} (h : r.Crosses s) : ¬ r.isEmpty = true ∧ ¬ s.isEmpty = true := by
  unfold Crosses at h
  rw [isEmpty_iff, isEmpty_iff]
  omega

/-! ### Ranges in order -/

theorem Precedes.refl (r : Range) : r.Precedes r := by
  have hr := r.start_le_stop
  unfold Precedes
  omega

theorem Precedes.trans {r s t : Range} (hrs : r.Precedes s) (hst : s.Precedes t) : r.Precedes t := by
  have hs := s.start_le_stop
  have ht := t.start_le_stop
  unfold Precedes at *
  omega

theorem Precedes.antisymm {r s : Range} (hrs : r.Precedes s) (hsr : s.Precedes r) : r = s := by
  have hr := r.start_le_stop
  have hs := s.start_le_stop
  unfold Precedes at *
  rw [eq_iff]
  omega

theorem Precedes.total (r s : Range) : r.Precedes s ∨ s.Precedes r := by
  have hr := r.start_le_stop
  have hs := s.start_le_stop
  unfold Precedes
  omega

theorem Precedes.start_le {r s : Range} (h : r.Precedes s) : r.start ≤ s.start := by
  unfold Precedes at h
  omega

theorem Precedes.not_crosses {r s : Range} (h : r.Precedes s) : ¬ s.Crosses r := by
  have hle := h.start_le
  unfold Crosses
  omega

theorem precedes_of_contains {r s : Range} (h : r.contains s = true) : r.Precedes s := by
  have hr := r.start_le_stop
  have hs := s.start_le_stop
  rw [contains_iff] at h
  unfold Precedes
  omega

/-- The three ways in which two ranges in order can lie. -/
theorem contains_or_crosses_or_stop_le {r s : Range} (h : r.Precedes s) :
    r.contains s = true ∨ r.Crosses s ∨ r.stop ≤ s.start := by
  have hr := r.start_le_stop
  have hs := s.start_le_stop
  unfold Precedes at h
  unfold Crosses
  rw [contains_iff]
  omega

/-- Of ranges in order, overlapping without containment is crossing. -/
theorem crosses_of_overlaps {r s : Range} (h : r.Precedes s) (hoverlaps : r.overlaps s = true)
    (hcontains : ¬ r.contains s = true) : r.Crosses s := by
  rcases contains_or_crosses_or_stop_le h with hin | hcross | hapart
  · exact absurd hin hcontains
  · exact hcross
  · rw [overlaps_iff] at hoverlaps
    omega

theorem stop_le_of_not_overlaps {r s : Range} (h : r.Precedes s) (hoverlaps : ¬ r.overlaps s = true)
    (hcontains : ¬ r.contains s = true) : r.stop ≤ s.start := by
  rcases contains_or_crosses_or_stop_le h with hin | hcross | hapart
  · exact absurd hin hcontains
  · exact absurd hcross.overlaps hoverlaps
  · exact hapart

/-- What does not lie within a range keeps everything after it from lying within that range. -/
theorem not_contains_of_precedes {r s t : Range} (hrs : r.Precedes s) (hst : s.Precedes t)
    (hcross : ¬ r.Crosses s) (hcontains : ¬ r.contains s = true) : ¬ r.contains t = true := by
  have hr := r.start_le_stop
  have hs := s.start_le_stop
  have ht := t.start_le_stop
  unfold Precedes at hrs hst
  unfold Crosses at hcross
  rw [contains_iff] at *
  omega

end ViewCompiler.Range
