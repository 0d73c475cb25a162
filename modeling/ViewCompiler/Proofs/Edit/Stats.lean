import ViewCompiler.Proofs.Edit.Kept
import Mathlib.Algebra.GroupWithZero.Nat

/-!
# What the statistics of an application count

Only the ranges of the outermost edits are summed up, and what was added is found by subtraction. Both are right
because the outermost edits lie beside each other and cover whatever is nested in them: a character is removed exactly
if some edit covers it, however many do (`InOrder.covered_forest`), and the result is longer than what is left of the
text by what the outermost edits render (`InOrder.length_splice`). Both inductions are along the nesting.
-/

namespace ViewCompiler

theorem Text.length_slice {t : Text} {start stop : Nat} (hstop : stop ≤ t.length) :
    (t.slice start stop).length = stop - start := by
  rw [slice, List.length_drop, List.length_take_of_le hstop]

namespace Edit

variable {text : Text} {start middle stop : Nat} {a : Edit × Nat} {rest l : List (Edit × Nat)}

/-- How many characters from `start` to `stop` some edit of a list covers. -/
def reached (l : List (Edit × Nat)) (start stop : Nat) : Nat :=
  (List.range' start (stop - start)).countP fun p => ∃ a ∈ l, a.1.range.Covers p

/-- The total length of what the outermost edits of a list render. -/
def renderedLength (text : Text) (l : List (Edit × Nat)) : Nat :=
  ((tops l).map fun a => (a.1.render (argumentIn text l a)).length).sum

/-! ### Characters that are removed -/

theorem reached_append (hle : start ≤ middle) (hle' : middle ≤ stop) :
    reached l start middle + reached l middle stop = reached l start stop := by
  have hlength : stop - start = middle - start + (stop - middle) := by omega
  have hmiddle : start + (middle - start) = middle := by omega
  rw [reached, reached, reached, ← List.countP_append, hlength, ← List.range'_append_1, hmiddle]

theorem reached_eq_zero (hnone : ∀ b ∈ l, stop ≤ b.1.range.start) : reached l start stop = 0 := by
  rw [reached, List.countP_eq_zero]
  intro p hp hcovers
  obtain ⟨b, hb, hle, -⟩ := of_decide_eq_true hcovers
  have hlater := hnone b hb
  rw [List.mem_range'_1] at hp
  omega

theorem reached_eq_length (ha : a ∈ l) (hstart : a.1.range.start ≤ start) (hstop : stop ≤ a.1.range.stop) :
    reached l start stop = stop - start := by
  have hall : ∀ p ∈ List.range' start (stop - start),
      decide (∃ b ∈ l, b.1.range.Covers p) = true := by
    intro p hp
    rw [List.mem_range'_1] at hp
    exact decide_eq_true ⟨a, ha, by omega, by omega⟩
  rw [reached, List.countP_eq_length.2 hall, List.length_range']

/-- Behind the first edit of a list only those count that are not nested in it. -/
theorem reached_outside (hstart : a.1.range.stop ≤ start) :
    reached (a :: rest) start stop = reached (outside rest a) start stop := by
  refine List.countP_congr fun p hp => ?_
  rw [List.mem_range'_1] at hp
  rw [decide_eq_true_eq, decide_eq_true_eq]
  constructor
  · rintro ⟨b, hb, hle, hlt⟩
    rcases List.mem_cons.1 hb with rfl | hb
    · omega
    · refine ⟨b, mem_outside.2 ⟨hb, fun hwithin => ?_⟩, hle, hlt⟩
      have hcontains := Range.contains_iff.1 hwithin.1
      omega
  · rintro ⟨b, hb, hcovers⟩
    exact ⟨b, List.mem_cons_of_mem a (mem_outside.1 hb).1, hcovers⟩

/-- The ranges of the outermost edits together have as many characters as all edits cover. -/
theorem InOrder.covered_forest (h : InOrder l) (hle : start ≤ stop)
    (hbounds : ∀ b ∈ l, start ≤ b.1.range.start ∧ b.1.range.stop ≤ stop) :
    covered (forest (l.map Prod.fst)) = reached l start stop := by
  induction l, h using InOrder.induction generalizing start with
  | nil =>
      rw [List.map_nil, forest, covered, reached_eq_zero fun b hb => absurd hb List.not_mem_nil]
      rfl
  | cons a rest h _ ih =>
      have ha := a.1.range.start_le_stop
      obtain ⟨hstart, hstop⟩ := hbounds a List.mem_cons_self
      have hfront : reached (a :: rest) start a.1.range.start.toNat = 0 := by
        refine reached_eq_zero fun b hb => ?_
        rcases List.mem_cons.1 hb with rfl | hb
        · omega
        · have hprecedes := (h.before hb).1.start_le
          omega
      have hwithin : reached (a :: rest) a.1.range.start.toNat a.1.range.stop.toNat =
          a.1.range.stop.toNat - a.1.range.start.toNat :=
        reached_eq_length List.mem_cons_self (by omega) (by omega)
      have hbehind := ih (by omega) (h.bounds_outside hstart fun b hb => (hbounds b hb).2)
      rw [h.forest_cons, covered, hbehind, ← reached_outside (by omega),
        ← reached_append (show start ≤ a.1.range.start.toNat by omega) (show a.1.range.start.toNat ≤ stop by omega),
        ← reached_append (show a.1.range.start.toNat ≤ a.1.range.stop.toNat by omega)
          (show a.1.range.stop.toNat ≤ stop by omega), hfront, hwithin, Nested.edit, Range.length]
      omega

/-! ### Characters that are added -/

theorem InOrder.renderedLength_cons (h : InOrder (a :: rest)) :
    renderedLength text (a :: rest) =
      (a.1.render (Nested.render.splice text a.1.range.start.toNat a.1.range.stop.toNat
        (forest ((Edit.inside rest a).map Prod.fst)))).length + renderedLength text (Edit.outside rest a) := by
  have hbehind : (tops (Edit.outside rest a)).map
        (fun b => (b.1.render (argumentIn text (Edit.outside rest a) b)).length) =
      (tops (Edit.outside rest a)).map fun b => (b.1.render (argumentIn text (a :: rest) b)).length :=
    List.map_congr_left fun b hb => by rw [h.argumentIn_behind (mem_of_mem_tops hb)]
  rw [renderedLength, renderedLength, h.tops_cons, List.map_cons, List.sum_cons, InOrder.argumentIn_head, hbehind]

theorem InOrder.length_splice (h : InOrder l) (hle : start ≤ stop) (hlength : stop ≤ text.length)
    (hbounds : ∀ b ∈ l, start ≤ b.1.range.start ∧ b.1.range.stop ≤ stop) :
    ((Nested.render.splice text start stop (forest (l.map Prod.fst))).length : Int) =
      stop - start - covered (forest (l.map Prod.fst)) + renderedLength text l := by
  induction l, h using InOrder.induction generalizing start with
  | nil =>
      rw [List.map_nil, forest, Nested.render.splice, covered, Text.length_slice hlength]
      simp only [renderedLength, tops, List.filter_nil, List.map_nil, List.sum_nil]
      omega
  | cons a rest h _ ih =>
      have ha := a.1.range.start_le_stop
      obtain ⟨hstart, hstop⟩ := hbounds a List.mem_cons_self
      have hbehind := ih (by omega) (h.bounds_outside hstart fun b hb => (hbounds b hb).2)
      rw [h.splice_cons, List.length_append, List.length_append, Text.length_slice (by omega),
        h.renderedLength_cons, h.forest_cons, covered, Nested.edit, Range.length]
      omega

/-! ### The statistics of a plan -/

theorem renderedLength_placed (text : Text) (plan : Plan) :
    renderedLength text (placed plan) = ((plan.zipIdx.filter (Outermost plan ·)).map fun a =>
      (a.1.render (argumentIn text (placed plan) a)).length).sum :=
  ((tops_placed_perm plan).map _).sum_nat

theorem reached_placed (plan : Plan) (stop : Nat) :
    reached (placed plan) 0 stop = (List.range stop).countP fun p => ∃ e ∈ plan, e.range.Covers p := by
  rw [reached, Nat.sub_zero, ← List.range_eq_range']
  refine List.countP_congr fun p _ => ?_
  rw [decide_eq_true_eq, decide_eq_true_eq]
  constructor
  · rintro ⟨a, ha, hcovers⟩
    exact ⟨a.1, List.fst_mem_of_mem_zipIdx (mem_placed.1 ha), hcovers⟩
  · rintro ⟨e, he, hcovers⟩
    obtain ⟨a, ha, rfl⟩ := exists_mem_placed he
    exact ⟨a, ha, hcovers⟩

/-- The statistics of an application count every edit of the plan, every character that some edit covers, once, and
all that the outermost edits render. -/
theorem apply_stats_exact {text result : Text} {plan : Plan} {stats : Stats}
    (h : apply text plan = .ok (result, stats)) :
    stats.applied = plan.length ∧
      stats.removed = ((List.range text.length).countP fun p => ∃ e ∈ plan, e.range.Covers p) ∧
      (∃ calls argument, applyTraced text plan = .ok ((result, stats), calls) ∧
        Renders text plan calls argument result ∧
        stats.added = ((plan.zipIdx.filter (Outermost plan ·)).map fun a => (a.1.render (argument a)).length).sum) ∧
      0 ≤ stats.added ∧ (result.length : Int) = text.length - stats.removed + stats.added := by
  obtain ⟨hfits, hlaminar⟩ := fits_and_laminar_of_apply h
  have horder := inOrder_placed hlaminar
  have hbounds : ∀ a ∈ placed plan, ((0 : Nat) : Int) ≤ a.1.range.start ∧ a.1.range.stop ≤ text.length :=
    fun a ha => hfits a.1 (List.fst_mem_of_mem_zipIdx (mem_placed.1 ha))
  have hremoved := horder.covered_forest (Nat.zero_le _) hbounds
  have hlength := horder.length_splice (Nat.zero_le _) (Nat.le_refl _) hbounds
  have htraced : applyTraced text plan =
      .ok ((result, stats), (Nested.trace.splice text 0 text.length (forest (ordered plan))).2) := by
    obtain ⟨stats', htraced⟩ := applyTraced_of_laminar hfits hlaminar
    rw [← applyTraced_map_fst, htraced, Except.map, Except.ok.injEq] at h
    rw [← h]
    exact htraced
  rw [apply_of_fits hfits, nest_eq_forest hlaminar, Except.map, Except.ok.injEq, Prod.mk.injEq] at h
  obtain ⟨rfl, rfl⟩ := h
  rw [← ordered_eq_map_placed] at hremoved hlength
  rw [reached_placed] at hremoved
  rw [renderedLength_placed] at hlength
  refine ⟨rfl, hremoved, ⟨_, _, htraced, renders_placed hfits hlaminar, ?_⟩, ?_, ?_⟩
  all_goals
    dsimp only
    omega

/-- Two edits around a replacement, a second replacement, and insertions at one of their edges and within them. -/
theorem apply_stats_exact_wrapped :
    let wrap (range : Range) : Edit := ⟨range, fun current => "(" ++ current ++ ")", none⟩
    let plan : Plan := [wrap ⟨1, 4, by decide⟩, replacement ⟨2, 3, by decide⟩ "xyz" none, insertion 1 "i" none,
      wrap ⟨1, 4, by decide⟩, insertion 3 "j" none, replacement ⟨4, 5, by decide⟩ [] none]
    ∃ result stats, apply "abcdef" plan = .ok (result, stats) ∧ stats.applied = 6 ∧ stats.removed = 4 ∧
      0 ≤ stats.added ∧ (result.length : Int) = 6 - 4 + stats.added := by
  intro wrap plan
  obtain ⟨⟨result, stats⟩, happly⟩ : ∃ outcome, apply "abcdef" plan = .ok outcome :=
    apply_eq_ok_iff.2 ⟨by decide, by decide⟩
  obtain ⟨happlied, hremoved, -, hadded, hlength⟩ := apply_stats_exact happly
  have hcount : stats.removed = 4 := hremoved.trans (by decide)
  rw [hcount] at hlength
  exact ⟨result, stats, happly, happlied, hcount, hadded, hlength⟩

end Edit

end ViewCompiler
