import ViewCompiler.Proofs.Edit.Kept
import Mathlib.Data.List.Pairwise

/-!
# Insertions and replacements, offset by offset

A change inserts a text at an offset or puts one in the place of a range, whatever the range holds. For changes of which
no two replace the same character, applying them comes to a walk over the text (`walk`): at each offset it gives what
is inserted there, in the order of planning, then the new text of the range that starts there and goes on behind it,
or else the character itself.

What is inserted at one point nests, a later insertion around the earlier ones (`InOrder.splice_one_range`), and an
insertion on the edge of a replacement lies beside it. So every insertion that is not strictly inside a replacement
stands among the outermost edits or in one of them at the same point (`InOrder.flatMap_standing`).
-/

namespace ViewCompiler

/-- The empty range at an offset. -/
def Range.point (p : Nat) : Range := ⟨p, p, Int.le_refl p⟩

theorem Range.standsAt_iff {r : Range} {p : Nat} : r.StandsAt p ↔ r = point p := by
  rw [StandsAt, eq_iff, point]

namespace Edit

variable {text : Text} {p : Nat} {a b : Edit × Nat} {l : List (Edit × Nat)} {r : Range}

/-! ### Edits of one range -/

theorem Before.within_of_eq (h : Before a b) (heq : a.1.range = b.1.range) : Within b a :=
  h.within_iff.2 (by rw [encloses, heq]; exact Range.contains_refl _)

/-- Of edits of one range each is rendered around the next. -/
theorem InOrder.splice_one_range (h : InOrder l) (text : Text) (hl : ∀ b ∈ l, b.1.range = r) :
    Nested.render.splice text r.start.toNat r.stop.toNat (forest (l.map Prod.fst)) =
      l.foldr (fun b current => b.1.render current) (text.slice r.start.toNat r.stop.toNat) := by
  induction l, h using InOrder.induction with
  | nil => rw [List.map_nil, forest, Nested.render.splice, List.foldr_nil]
  | cons a rest h ih _ =>
      rw [List.forall_mem_cons] at hl
      have hwithin : ∀ b ∈ rest, Within b a := fun b hb =>
        (h.before hb).within_of_eq (hl.1.trans (hl.2 b hb).symm)
      have hinside : Edit.inside rest a = rest := List.filter_eq_self.2 fun b hb => decide_eq_true (hwithin b hb)
      have houtside : Edit.outside rest a = [] :=
        List.filter_eq_nil_iff.2 fun b hb hout => of_decide_eq_true hout (hwithin b hb)
      rw [hinside] at ih
      rw [h.splice_cons, hinside, houtside, hl.1, ih hl.2, List.map_nil, forest, Nested.render.splice, Text.slice_self,
        Text.slice_self, List.nil_append, List.append_nil, List.foldr_cons]

theorem ordered_of_one_range {plan : Plan} (hplan : ∀ e ∈ plan, e.range = r) : ordered plan = plan.reverse := by
  have hfilter := filter_ordered plan r
  have hordered : ∀ e ∈ ordered plan, e.range = r := fun e he => hplan e ((ordered_perm plan).mem_iff.1 he)
  rwa [List.filter_eq_self.2 fun e he => decide_eq_true (hordered e he),
    List.filter_eq_self.2 fun e he => decide_eq_true (hplan e he)] at hfilter

/-- A plan of edits of one range replaces it by what the edits make of it one after the other. -/
theorem apply_of_one_range {plan : Plan} (hplan : ∀ e ∈ plan, e.range = r) (hstart : 0 ≤ r.start)
    (hstop : r.stop ≤ text.length) :
    ∃ stats, apply text plan = .ok (text.slice 0 r.start.toNat ++
      plan.foldl (fun current e => e.render current) (text.slice r.start.toNat r.stop.toNat) ++
        text.slice r.stop.toNat text.length, stats) := by
  have hr := r.start_le_stop
  have hfits : plan.Fits text := fun e he => by rw [hplan e he]; exact ⟨hstart, hstop⟩
  have hlaminar : plan.Laminar := fun e he f hf => by rw [hplan e he, hplan f hf]; exact Range.not_crosses_self r
  have hplaced : ∀ b ∈ placed plan, b.1.range = r := fun b hb =>
    hplan b.1 (List.fst_mem_of_mem_zipIdx (mem_placed.1 hb))
  have hbounds : ∀ b ∈ placed plan, (r.start.toNat : Int) ≤ b.1.range.start ∧ b.1.range.stop ≤ r.stop.toNat := by
    intro b hb
    rw [hplaced b hb]
    omega
  obtain ⟨stats, happly⟩ := apply_of_laminar hfits hlaminar
  refine ⟨stats, ?_⟩
  rw [happly, ordered_eq_map_placed, splice_forest_between (Nat.zero_le _) (by omega) (by omega) hbounds,
    (inOrder_placed hlaminar).splice_one_range text hplaced, ← List.foldr_map, ← ordered_eq_map_placed,
    ordered_of_one_range hplan, List.foldr_reverse]

/-! ### Edits that stand at one offset -/

/-- The edits of a list that stand at an offset. -/
def standing (l : List (Edit × Nat)) (p : Nat) : List (Edit × Nat) := l.filter (·.1.range.StandsAt p)

theorem mem_standing : b ∈ standing l p ↔ b ∈ l ∧ b.1.range = Range.point p := by
  rw [standing, List.mem_filter, decide_eq_true_eq, Range.standsAt_iff]

theorem standing_cons_of_eq (ha : a.1.range = Range.point p) : standing (a :: l) p = a :: standing l p := by
  rw [standing, List.filter_cons, if_pos (decide_eq_true (Range.standsAt_iff.2 ha)), standing]

theorem standing_cons_of_ne (ha : a.1.range ≠ Range.point p) : standing (a :: l) p = standing l p := by
  rw [standing, List.filter_cons, if_neg fun h => ha (Range.standsAt_iff.1 (of_decide_eq_true h)), standing]

/-- What stands at the same offset as the first edit of a list is nested in it, and nothing else is. -/
theorem InOrder.inside_eq_standing {rest : List (Edit × Nat)} (h : InOrder (a :: rest))
    (ha : a.1.range = Range.point p) : Edit.inside rest a = standing rest p := by
  refine List.filter_congr fun b hb => ?_
  rw [Bool.eq_iff_iff, decide_eq_true_eq, decide_eq_true_eq, Range.standsAt_iff]
  constructor
  · intro hwithin
    have hb := b.1.range.start_le_stop
    have hcontains := Range.contains_iff.1 (ha ▸ hwithin.1)
    rw [Range.eq_iff]
    simp only [Range.point] at hcontains ⊢
    omega
  · exact fun hpoint => (h.before hb).within_of_eq (ha.trans hpoint.symm)

/-- An edit that neither stands at an offset nor reaches across it has nothing nested in it that stands there. -/
theorem standing_outside {rest : List (Edit × Nat)} (ha : a.1.range ≠ Range.point p)
    (hfree : ¬ (a.1.range.start < p ∧ p < a.1.range.stop)) : standing (outside rest a) p = standing rest p := by
  rw [standing, outside, List.filter_filter]
  refine List.filter_congr fun b _ => ?_
  rw [Bool.and_eq_left_iff_imp, decide_eq_true_eq, decide_eq_true_eq, Range.standsAt_iff]
  intro hpoint hwithin
  obtain ⟨hstart, hstop, hstrict⟩ := Range.contains_iff.1 (hpoint ▸ hwithin.1)
  have hstrict := hstrict rfl
  have hle := a.1.range.start_le_stop
  rw [ne_eq, Range.eq_iff] at ha
  simp only [Range.point] at hstart hstop hstrict ha
  omega

/-- At an offset that no edit reaches across, the outermost edits insert what all edits that stand there make
together. -/
theorem InOrder.flatMap_standing (h : InOrder l) (text : Text)
    (hfree : ∀ b ∈ l, ¬ (b.1.range.start < p ∧ p < b.1.range.stop)) :
    (standing (tops l) p).flatMap (fun b => b.1.render (argumentIn text l b)) =
      (standing l p).foldr (fun b current => b.1.render current) [] := by
  induction l, h using InOrder.induction with
  | nil => rfl
  | cons a rest h _ ih =>
      rw [List.forall_mem_cons] at hfree
      have hbehind : (standing (tops (Edit.outside rest a)) p).flatMap
            (fun b => b.1.render (argumentIn text (a :: rest) b)) =
          (standing (Edit.outside rest a) p).foldr (fun b current => b.1.render current) [] := by
        rw [← ih fun b hb => hfree.2 b (mem_outside.1 hb).1]
        refine List.flatMap_congr fun b hb => ?_
        rw [h.argumentIn_behind (mem_of_mem_tops (mem_standing.1 hb).1)]
      rw [h.tops_cons]
      by_cases ha : a.1.range = Range.point p
      · have hinside := h.inside_eq_standing ha
        have houtside : standing (Edit.outside rest a) p = [] := by
          refine List.filter_eq_nil_iff.2 fun b hb hpoint => (mem_outside.1 hb).2 ?_
          rw [decide_eq_true_eq, Range.standsAt_iff] at hpoint
          exact (h.before (mem_outside.1 hb).1).within_of_eq (ha.trans hpoint.symm)
        have hargument := (h.tail.inside a).splice_one_range text fun b hb => (mem_standing.1 (hinside ▸ hb)).2
        rw [houtside] at hbehind
        rw [standing_cons_of_eq ha, standing_cons_of_eq ha, List.flatMap_cons, hbehind, List.foldr_cons,
          InOrder.argumentIn_head, ha, hargument, hinside, List.foldr_nil, List.append_nil]
        exact congrArg _ (congrArg (List.foldr _ · _) (Text.slice_self text p))
      · rw [standing_cons_of_ne ha, standing_cons_of_ne ha, hbehind, standing_outside ha hfree.1]

/-! ### Changes -/

/-- An edit that does not look at what it changes: a text goes in at an offset, or into the place of a range. -/
inductive Change where
  | insert (offset : Int) (new : Text) (label : Option Text)
  | replace (range : Range) (new : Text) (label : Option Text)

namespace Change

def edit : Change → Edit
  | insert offset new label => insertion offset new label
  | replace range new label => replacement range new label

/-- The range that gives way. -/
def replaced? : Change → Option Range
  | insert _ _ _ => none
  | replace range _ _ => some range

def insertedAt (p : Nat) : Change → Text
  | insert offset new _ => if offset = p then new else []
  | replace _ _ _ => []

def replacementAt? (p : Nat) : Change → Option (Range × Text)
  | insert _ _ _ => none
  | replace range new _ => if range.BeginsAt p then some (range, new) else none

end Change

def planOf (changes : List Change) : Plan := changes.map Change.edit

/-- The ranges that give way. -/
def replacedRanges (changes : List Change) : List Range := changes.filterMap Change.replaced?

/-- What is inserted at an offset, in the order of planning. -/
def insertedAt (changes : List Change) (p : Nat) : Text := changes.flatMap (Change.insertedAt p)

/-- The range that starts at an offset and gives way, with its new text. -/
def replacementAt? (changes : List Change) (p : Nat) : Option (Range × Text) :=
  changes.findSome? (Change.replacementAt? p)

variable {changes : List Change} {new : Text}

theorem mem_replacedRanges : r ∈ replacedRanges changes ↔ ∃ new label, .replace r new label ∈ changes := by
  rw [replacedRanges, List.mem_filterMap]
  constructor
  · rintro ⟨c, hc, heq⟩
    cases c with
    | insert offset new label => cases heq
    | replace range new label =>
        cases heq
        exact ⟨new, label, hc⟩
  · rintro ⟨new, label, hc⟩
    exact ⟨_, hc, rfl⟩

theorem mem_of_replacementAt? (h : replacementAt? changes p = some (r, new)) :
    ∃ label, .replace r new label ∈ changes ∧ r.BeginsAt p := by
  obtain ⟨c, hc, heq⟩ := List.exists_of_findSome?_eq_some h
  cases c with
  | insert offset text label => cases heq
  | replace range text label =>
      simp only [Change.replacementAt?, Option.ite_none_right_eq_some, Option.some.injEq, Prod.mk.injEq] at heq
      obtain ⟨hbegins, rfl, rfl⟩ := heq
      exact ⟨label, hc, hbegins⟩

theorem not_beginsAt_of_replacementAt? (h : replacementAt? changes p = none) (hr : r ∈ replacedRanges changes) :
    ¬ r.BeginsAt p := by
  obtain ⟨new, label, hc⟩ := mem_replacedRanges.1 hr
  have hnone := List.findSome?_eq_none_iff.1 h _ hc
  simpa only [Change.replacementAt?, ite_eq_right_iff, reduceCtorEq, imp_false] using hnone

/-- The text from an offset on: what is inserted there, then the new text of the range that starts there and the walk
from its end, or else the character and the walk from the next. -/
def walk (text : Text) (changes : List Change) (p : Nat) : Text :=
  insertedAt changes p ++
    if hp : p < text.length then
      match hreplaced : replacementAt? changes p with
      | some (range, new) => new ++ walk text changes range.stop.toNat
      | none => text[p] :: walk text changes (p + 1)
    else []
  termination_by text.length - p
  decreasing_by
    · obtain ⟨-, -, hbegins⟩ := mem_of_replacementAt? hreplaced
      have hstop := hbegins.2
      omega
    · omega

theorem walk_replaced (hp : p < text.length) (hreplaced : replacementAt? changes p = some (r, new)) :
    walk text changes p = insertedAt changes p ++ new ++ walk text changes r.stop.toNat := by
  rw [walk, dif_pos hp, List.append_assoc]
  split
  · rename_i range new' hfound
    cases hfound.symm.trans hreplaced
    rfl
  · rename_i hnone
    cases hnone.symm.trans hreplaced

theorem walk_kept (hp : p < text.length) (hnone : replacementAt? changes p = none) :
    walk text changes p = insertedAt changes p ++ text[p] :: walk text changes (p + 1) := by
  rw [walk, dif_pos hp]
  split
  · rename_i hfound
    cases hfound.symm.trans hnone
  · rfl

theorem walk_end (hp : text.length ≤ p) : walk text changes p = insertedAt changes p := by
  rw [walk, dif_neg (Nat.not_lt.2 hp), List.append_nil]

/-- No change replaces nothing, and no two replace the same character. -/
structure Separate (changes : List Change) : Prop where
  full : ∀ r ∈ replacedRanges changes, ¬ r.isEmpty = true
  apart : (replacedRanges changes).Pairwise fun r s => ¬ r.overlaps s = true

/-- The offset lies strictly inside a range that gives way. -/
def Inside (changes : List Change) (p : Nat) : Prop := ∃ r ∈ replacedRanges changes, r.start < p ∧ p < r.stop

theorem Separate.lt (h : Separate changes) (hr : r ∈ replacedRanges changes) : r.start < r.stop := by
  have hfull := h.full r hr
  rw [Range.isEmpty_iff] at hfull
  have hle := r.start_le_stop
  omega

/-- Two ranges that give way are the same or share no character. -/
theorem Separate.eq_or_apart (h : Separate changes) {s : Range} (hr : r ∈ replacedRanges changes)
    (hs : s ∈ replacedRanges changes) : r = s ∨ r.stop ≤ s.start ∨ s.stop ≤ r.start := by
  by_cases heq : r = s
  · exact Or.inl heq
  · have hsymm : Std.Symm fun r s : Range => ¬ r.overlaps s = true := by
      refine ⟨fun r s hrs hsr => hrs ?_⟩
      rw [Range.overlaps_iff] at hsr ⊢
      exact ⟨hsr.2, hsr.1⟩
    have hapart := h.apart.forall hr hs heq
    rw [Range.overlaps_iff] at hapart
    omega

/-! ### Their places -/

theorem mem_planOf {e : Edit} : e ∈ planOf changes ↔ ∃ c ∈ changes, c.edit = e := List.mem_map

/-- An edit that is not empty comes from a replacement. -/
theorem range_mem_replacedRanges {e : Edit} (he : e ∈ planOf changes) (hfull : e.range.start < e.range.stop) :
    e.range ∈ replacedRanges changes := by
  obtain ⟨c, hc, rfl⟩ := mem_planOf.1 he
  cases c with
  | insert offset new label => exact absurd hfull (Int.lt_irrefl offset)
  | replace range new label => exact mem_replacedRanges.2 ⟨new, label, hc⟩

theorem exists_placed {label : Option Text} (hc : .replace r new label ∈ changes) :
    ∃ a ∈ placed (planOf changes), a.1 = replacement r new label :=
  exists_mem_placed (mem_planOf.2 ⟨_, hc, rfl⟩)

theorem Separate.laminar (h : Separate changes) : (planOf changes).Laminar := by
  intro e he f hf hcross
  have hr := range_mem_replacedRanges he (by unfold Range.Crosses at hcross; omega)
  have hs := range_mem_replacedRanges hf (by unfold Range.Crosses at hcross; omega)
  rcases h.eq_or_apart hr hs with heq | happart
  · exact Range.not_crosses_self _ (heq ▸ hcross)
  · unfold Range.Crosses at hcross
    omega

/-- Edits of which neither is empty share no character. -/
def Disjoint (e f : Edit) : Prop :=
  e.range.start < e.range.stop → f.range.start < f.range.stop → ¬ e.range.overlaps f.range = true

theorem Disjoint.symm {e f : Edit} (h : Disjoint e f) : Disjoint f e := by
  intro hfull hfull' hoverlaps
  rw [Range.overlaps_iff] at hoverlaps
  exact h hfull' hfull (Range.overlaps_iff.2 ⟨hoverlaps.2, hoverlaps.1⟩)

theorem Separate.pairwise_placed (h : Separate changes) :
    (placed (planOf changes)).Pairwise fun a b => Disjoint a.1 b.1 := by
  have hplan : (planOf changes).Pairwise Disjoint := by
    rw [planOf, List.pairwise_map]
    refine (List.pairwise_filterMap.1 h.apart).imp fun {c d} hapart hfull hfull' => ?_
    cases c with
    | insert offset new label => exact absurd hfull (Int.lt_irrefl offset)
    | replace range new label =>
        cases d with
        | insert offset new label => exact absurd hfull' (Int.lt_irrefl offset)
        | replace range' new' label' => exact hapart range rfl range' rfl
  rw [← List.zipIdx_map_fst 0 (planOf changes), List.pairwise_map] at hplan
  exact (placed_perm (planOf changes)).symm.pairwise hplan Disjoint.symm

/-- No replacement is nested in another edit. -/
theorem Separate.mem_tops (h : Separate changes) (ha : a ∈ placed (planOf changes))
    (hfull : a.1.range.start < a.1.range.stop) : a ∈ tops (placed (planOf changes)) := by
  refine List.mem_filter.2 ⟨ha, decide_eq_true fun b hb hwithin => ?_⟩
  have hsymm : Std.Symm fun a b : Edit × Nat => Disjoint a.1 b.1 := ⟨fun _ _ => Disjoint.symm⟩
  have hne : a ≠ b := fun heq => Within.irrefl b (heq ▸ hwithin)
  have hcontains := Range.contains_iff.1 hwithin.1
  refine h.pairwise_placed.forall ha hb hne hfull (by omega) (Range.overlaps_iff.2 ?_)
  omega

/-! ### What stands at an offset -/

theorem foldl_insertedAt (hfull : ∀ r ∈ replacedRanges changes, ¬ r.isEmpty = true) (current : Text) :
    ((planOf changes).filter (·.range = Range.point p)).foldl (fun current e => e.render current) current =
      current ++ insertedAt changes p := by
  induction changes generalizing current with
  | nil => exact (List.append_nil current).symm
  | cons c rest ih =>
      have hrest := ih fun r hr => hfull r (mem_replacedRanges.2 (by
        obtain ⟨new, label, hc⟩ := mem_replacedRanges.1 hr
        exact ⟨new, label, List.mem_cons_of_mem c hc⟩))
      rw [planOf, List.map_cons, ← planOf, List.filter_cons, insertedAt, List.flatMap_cons, ← insertedAt]
      cases c with
      | insert offset new label =>
          by_cases hp : offset = p
          · rw [if_pos (by simp [Change.edit, insertion, Range.point, hp]), List.foldl_cons, hrest, Change.insertedAt,
              if_pos hp, ← List.append_assoc]
            rfl
          · rw [if_neg (by simp [Change.edit, insertion, Range.point, hp]), hrest, Change.insertedAt, if_neg hp,
              List.nil_append]
      | replace range new label =>
          have hrange : range ≠ Range.point p := by
            intro heq
            refine hfull range (mem_replacedRanges.2 ⟨new, label, List.mem_cons_self⟩) ?_
            rw [heq, Range.isEmpty_iff]
            rfl
          rw [if_neg (by simp [Change.edit, replacement, hrange]), hrest, Change.insertedAt, List.nil_append]

theorem map_standing (plan : Plan) (p : Nat) :
    (standing (placed plan) p).map Prod.fst = (plan.filter (·.range = Range.point p)).reverse := by
  rw [← filter_ordered, ordered_eq_map_placed, List.filter_map, standing]
  refine congrArg _ (List.filter_congr fun b _ => ?_)
  rw [Function.comp_apply, Bool.eq_iff_iff, decide_eq_true_eq, decide_eq_true_eq, Range.standsAt_iff]

/-- What the changes leave at an offset. -/
def leftAt (text : Text) (changes : List Change) (p : Nat) : Text :=
  insertedAt changes p ++
    match replacementAt? changes p with
    | some (_, new) => new
    | none => text[p]?.toList

/-- The outermost edits with what they render. -/
def outcome (text : Text) (changes : List Change) : List (Range × Text) :=
  rendered (argumentIn text (placed (planOf changes))) (tops (placed (planOf changes)))

theorem Separate.flatMap_inserted (h : Separate changes) (hfree : ¬ Inside changes p) :
    ((outcome text changes).filter (·.1.StandsAt p)).flatMap Prod.snd = insertedAt changes p := by
  have hacross : ∀ b ∈ placed (planOf changes), ¬ (b.1.range.start < p ∧ p < b.1.range.stop) := by
    intro b hb hin
    have hmem := List.fst_mem_of_mem_zipIdx (mem_placed.1 hb)
    exact hfree ⟨b.1.range, range_mem_replacedRanges hmem (by omega), hin⟩
  have hfold : (standing (placed (planOf changes)) p).foldr (fun b current => b.1.render current) [] =
      ((standing (placed (planOf changes)) p).map Prod.fst).foldr (fun e current => e.render current) [] :=
    List.foldr_map.symm
  rw [map_standing, List.foldr_reverse, foldl_insertedAt h.full, List.nil_append] at hfold
  rw [outcome, rendered, List.filter_map, List.flatMap_map, ← hfold,
    ← (inOrder_placed h.laminar).flatMap_standing text hacross]
  rfl

theorem range_mem_of_mem_outcome {q : Range × Text} (hq : q ∈ outcome text changes) (hfull : q.1.start < q.1.stop) :
    q.1 ∈ replacedRanges changes := by
  obtain ⟨b, hb, rfl⟩ := List.mem_map.1 hq
  exact range_mem_replacedRanges (List.fst_mem_of_mem_zipIdx (mem_placed.1 (mem_of_mem_tops hb))) hfull

theorem Separate.mem_outcome (h : Separate changes) {label : Option Text} (hc : .replace r new label ∈ changes) :
    (r, new) ∈ outcome text changes := by
  obtain ⟨a, ha, heq⟩ := exists_placed hc
  have hfull := h.lt (mem_replacedRanges.2 ⟨new, label, hc⟩)
  have hrange : a.1.range = r := by rw [heq, replacement]
  refine List.mem_map.2 ⟨a, h.mem_tops ha (hrange ▸ hfull), ?_⟩
  rw [heq, replacement]

theorem Separate.flatMap_replaced (h : Separate changes) :
    ((outcome text changes).filter (·.1.BeginsAt p)).flatMap Prod.snd =
      match replacementAt? changes p with
      | some (_, new) => new
      | none => [] := by
  cases hreplaced : replacementAt? changes p with
  | none =>
      have hnone : (outcome text changes).filter (·.1.BeginsAt p) = [] := by
        refine List.filter_eq_nil_iff.2 fun q hq hbegins => ?_
        rw [decide_eq_true_eq] at hbegins
        have hr := range_mem_of_mem_outcome hq (hbegins.1 ▸ hbegins.2)
        exact not_beginsAt_of_replacementAt? hreplaced hr hbegins
      rw [hnone, List.flatMap_nil]
  | some found =>
      obtain ⟨label, hc, hbegins⟩ := mem_of_replacementAt? hreplaced
      have hone : (outcome text changes).Pairwise fun q q' =>
          ¬ (decide (q.1.BeginsAt p) = true ∧ decide (q'.1.BeginsAt p) = true) := by
        rw [outcome, rendered, List.pairwise_map]
        refine (inOrder_placed h.laminar).tops_pairwise.imp fun hbeside hboth => ?_
        rw [decide_eq_true_eq, decide_eq_true_eq, Range.BeginsAt, Range.BeginsAt] at hboth
        have hle := hbeside.1
        dsimp only at hboth
        omega
      rw [filter_eq_singleton (List.mem_filter.2 ⟨h.mem_outcome hc, decide_eq_true hbegins⟩) hone,
        List.flatMap_singleton]

theorem Separate.covers_iff (h : Separate changes) :
    (∀ q ∈ outcome text changes, ¬ q.1.Covers p) ↔ ∀ r ∈ replacedRanges changes, ¬ r.Covers p := by
  constructor
  · intro hnone r hr
    obtain ⟨new, label, hc⟩ := mem_replacedRanges.1 hr
    exact hnone _ (h.mem_outcome hc)
  · intro hnone q hq hcovers
    exact hnone q.1 (range_mem_of_mem_outcome hq (by have hlt := hcovers.2; have hle := hcovers.1; omega)) hcovers

theorem Separate.textAt_free (h : Separate changes) (hfree : ¬ Inside changes p) :
    textAt text text.length (outcome text changes) p = leftAt text changes p := by
  rw [textAt, h.flatMap_inserted hfree, h.flatMap_replaced, leftAt]
  cases hreplaced : replacementAt? changes p with
  | some found =>
      obtain ⟨label, hc, hbegins⟩ := mem_of_replacementAt? hreplaced
      have hcovered : ¬ (p < text.length ∧ ∀ q ∈ outcome text changes, ¬ q.1.Covers p) := fun hnone =>
        hnone.2 found (h.mem_outcome hc) ⟨Int.le_of_eq hbegins.1, hbegins.2⟩
      rw [if_neg hcovered, List.append_nil]
  | none =>
      have hnone : ∀ r ∈ replacedRanges changes, ¬ r.Covers p := by
        intro r hr hcovers
        have hbegins := not_beginsAt_of_replacementAt? hreplaced hr
        refine hfree ⟨r, hr, ?_⟩
        unfold Range.BeginsAt at hbegins
        unfold Range.Covers at hcovers
        omega
      rw [List.append_nil]
      by_cases hp : p < text.length
      · rw [if_pos ⟨hp, h.covers_iff.2 hnone⟩]
      · rw [if_neg fun h => hp h.1, List.getElem?_eq_none (Nat.le_of_not_lt hp), Option.toList_none]

/-- Inside a range that gives way nothing is left, whatever was inserted there. -/
theorem Separate.textAt_inside (h : Separate changes) (hin : Inside changes p) :
    textAt text text.length (outcome text changes) p = [] := by
  obtain ⟨r, hr, hstart, hstop⟩ := hin
  obtain ⟨new, label, hc⟩ := mem_replacedRanges.1 hr
  have hstands : (outcome text changes).filter (·.1.StandsAt p) = [] := by
    refine List.filter_eq_nil_iff.2 fun q hq hpoint => ?_
    obtain ⟨b, hb, rfl⟩ := List.mem_map.1 hq
    obtain ⟨a, ha, heq⟩ := exists_placed hc
    rw [decide_eq_true_eq, Range.StandsAt] at hpoint
    dsimp only at hpoint
    have hrange : a.1.range = r := by rw [heq, replacement]
    refine of_decide_eq_true (List.mem_filter.1 hb).2 a ha ⟨?_, fun hsame => ?_⟩
    · rw [hrange, Range.contains_iff]
      omega
    · rw [hsame, hrange] at hpoint
      omega
  have hbegins : replacementAt? changes p = none := by
    cases hreplaced : replacementAt? changes p with
    | none => rfl
    | some found =>
        obtain ⟨label', hc', hstart', hstop'⟩ := mem_of_replacementAt? hreplaced
        rcases h.eq_or_apart hr (mem_replacedRanges.2 ⟨found.2, label', hc'⟩) with rfl | hapart
        · omega
        · omega
  have hcovered : ¬ (p < text.length ∧ ∀ q ∈ outcome text changes, ¬ q.1.Covers p) := fun hnone =>
    hnone.2 (r, new) (h.mem_outcome hc) ⟨Int.le_of_lt hstart, hstop⟩
  rw [textAt, hstands, h.flatMap_replaced, hbegins, if_neg hcovered]
  rfl

/-! ### The walk -/

/-- Neither edge of a range that gives way lies inside another one. -/
theorem Separate.not_inside_edge (h : Separate changes) (hr : r ∈ replacedRanges changes)
    (hedge : r.start = p ∨ r.stop = p) : ¬ Inside changes p := by
  rintro ⟨s, hs, hstart, hstop⟩
  have hfull := h.lt hr
  rcases h.eq_or_apart hr hs with rfl | hapart
  · omega
  · omega

theorem not_inside_succ (hfree : ¬ Inside changes p) (hnone : replacementAt? changes p = none) :
    ¬ Inside changes (p + 1) := by
  rintro ⟨r, hr, hstart, hstop⟩
  have hbegins := not_beginsAt_of_replacementAt? hnone hr
  unfold Range.BeginsAt at hbegins
  exact hfree ⟨r, hr, by omega, by omega⟩

theorem Separate.replaced_first (h : Separate changes) (hp : p ≤ text.length) (hfree : ¬ Inside changes p) :
    replaced text p text.length (outcome text changes) =
      leftAt text changes p ++ replaced text (p + 1) text.length (outcome text changes) := by
  obtain ⟨length, hlength⟩ : ∃ length, text.length + 1 - p = length + 1 := ⟨text.length - p, by omega⟩
  have hlength' : text.length + 1 - (p + 1) = length := by omega
  rw [replaced, hlength, List.range'_succ, List.flatMap_cons, h.textAt_free hfree, replaced, hlength']

/-- The offsets inside a range that gives way add nothing. -/
theorem Separate.replaced_jump (h : Separate changes) (hr : r ∈ replacedRanges changes) (hstart : r.start < p)
    (hp : p ≤ r.stop) (hstop : r.stop ≤ text.length) :
    replaced text p text.length (outcome text changes) =
      replaced text r.stop.toNat text.length (outcome text changes) := by
  have hnothing : (List.range' p (r.stop.toNat - p)).flatMap (textAt text text.length (outcome text changes)) = [] := by
    refine List.flatMap_eq_nil_iff.2 fun q hq => h.textAt_inside ⟨r, hr, ?_⟩
    rw [List.mem_range'_1] at hq
    omega
  rw [replaced, flatMap_range'_append _ (show p ≤ r.stop.toNat by omega) (by omega), hnothing, List.nil_append,
    replaced]

theorem Separate.replaced_eq_walk (h : Separate changes) (hfits : (planOf changes).Fits text) (hp : p ≤ text.length)
    (hfree : ¬ Inside changes p) :
    replaced text p text.length (outcome text changes) = walk text changes p := by
  induction p using walk.induct text changes with
  | case1 p ihjump ihnext =>
      rw [h.replaced_first hp hfree, leftAt]
      cases hreplaced : replacementAt? changes p with
      | some found =>
          obtain ⟨label, hc, hstart, hstop⟩ := mem_of_replacementAt? hreplaced
          have hr := mem_replacedRanges.2 ⟨found.2, label, hc⟩
          have hbounds : found.1.stop ≤ text.length := (hfits _ (mem_planOf.2 ⟨_, hc, rfl⟩)).2
          have hedge : ¬ Inside changes found.1.stop.toNat := h.not_inside_edge hr (Or.inr (by omega))
          have hlt : p < text.length := by omega
          rw [walk_replaced hlt hreplaced, ← ihjump hlt _ _ hreplaced (by omega) hedge,
            h.replaced_jump hr (by omega) (by omega) hbounds]
      | none =>
          by_cases hlt : p < text.length
          · rw [walk_kept hlt hreplaced, ← ihnext hlt hlt (not_inside_succ hfree hreplaced),
              List.getElem?_eq_getElem hlt, List.append_assoc]
            rfl
          · have hnothing : text.length + 1 - (p + 1) = 0 := by omega
            rw [walk_end (Nat.le_of_not_lt hlt), List.getElem?_eq_none (Nat.le_of_not_lt hlt), replaced, hnothing,
              List.range'_zero, List.flatMap_nil, Option.toList_none, List.append_nil, List.append_nil]

/-- Applying insertions and separate replacements gives the text that the walk over its offsets gives. What is
inserted at an offset stands there together and in the order of planning, unless the offset lies strictly inside a
range that gives way; on an edge of such a range it does not. -/
theorem apply_eq_walk (text : Text) (changes : List Change) (hfits : (planOf changes).Fits text)
    (hseparate : Separate changes) :
    (∃ stats, apply text (planOf changes) = .ok (walk text changes 0, stats)) ∧
      (∀ p ≤ text.length, ¬ Inside changes p →
        ∃ before behind, walk text changes 0 = before ++ insertedAt changes p ++ behind) ∧
      ∀ r ∈ replacedRanges changes, ∀ p : Nat, r.start = p ∨ r.stop = p → ¬ Inside changes p := by
  have horder := inOrder_placed hseparate.laminar
  have hbounds : ∀ a ∈ placed (planOf changes), ((0 : Nat) : Int) ≤ a.1.range.start ∧ a.1.range.stop ≤ text.length :=
    fun a ha => hfits a.1 (List.fst_mem_of_mem_zipIdx (mem_placed.1 ha))
  have hstart : ¬ Inside changes 0 := by
    rintro ⟨r, hr, hlt, -⟩
    obtain ⟨new, label, hc⟩ := mem_replacedRanges.1 hr
    have hle : 0 ≤ r.start := (hfits _ (mem_planOf.2 ⟨_, hc, rfl⟩)).1
    omega
  have hwalk := hseparate.replaced_eq_walk hfits (Nat.zero_le _) hstart
  refine ⟨?_, ?_, fun r hr p => hseparate.not_inside_edge hr⟩
  · obtain ⟨stats, happly⟩ := apply_of_laminar hfits hseparate.laminar
    refine ⟨stats, ?_⟩
    rw [happly, ordered_eq_map_placed, horder.splice_forest (Nat.zero_le _) hbounds, ← outcome, hwalk]
  · intro p hp hfree
    have hsplit := flatMap_range'_append (textAt text text.length (outcome text changes)) (Nat.zero_le p)
      (show p ≤ text.length + 1 by omega)
    rw [← replaced, ← replaced, hseparate.replaced_first hp hfree, leftAt, List.append_assoc,
      ← List.append_assoc] at hsplit
    exact ⟨_, _, hwalk.symm.trans hsplit⟩

/-- Two ranges that touch, with insertions inside the first, at each of their edges and at the end of the text. -/
theorem apply_eq_walk_touching :
    let changes : List Change := [.insert 1 "x" none, .replace ⟨1, 3, by decide⟩ "Y" none, .insert 2 "lost" none,
      .insert 3 "z" none, .replace ⟨3, 4, by decide⟩ [] none, .insert 1 "w" none, .insert 6 "end" none]
    ((planOf changes).Fits "abcdef" ∧ Separate changes) ∧
      ∃ stats, apply "abcdef" (planOf changes) = .ok ("axwYzefend".toList, stats) := by
  intro changes
  have hfits : (planOf changes).Fits "abcdef" := by decide
  have hseparate : Separate changes := ⟨by decide, by decide⟩
  have hwalk : walk "abcdef" changes 0 = "axwYzefend".toList := by decide +kernel
  refine ⟨⟨hfits, hseparate⟩, ?_⟩
  rw [← hwalk]
  exact (apply_eq_walk "abcdef" changes hfits hseparate).1

end Edit

end ViewCompiler
