import ViewCompiler.Edit.Apply
import ViewCompiler.Proofs.Edit.Range

/-!
# The order in which edits are nested

An edit is told apart from its equals by its place in the plan. `placed` is the plan in the order in
which the nesting is found, with the places kept, and `Before` is that order, strict because no two
edits have the same place.

Seen without the places, the order depends only on the edits of each range and on the order among
those (`ordered_eq_of_filter_eq`).
-/

namespace ViewCompiler.Edit

/-- The edits of a plan with their places, in the order in which the nesting is found. -/
def placed (plan : Plan) : List (Edit × Nat) := plan.zipIdx.mergeSort comesFirst

/-- The strict order of placed edits: by range, and of two edits of one range the later one first. -/
def Before (a b : Edit × Nat) : Prop :=
  a.1.range.Precedes b.1.range ∧ (a.1.range = b.1.range → b.2 < a.2)

theorem ordered_eq_map_placed (plan : Plan) : ordered plan = (placed plan).map Prod.fst := rfl

theorem comesFirst_iff {a b : Edit × Nat} : comesFirst a b = true ↔
    a.1.range.Precedes b.1.range ∧ (a.1.range = b.1.range → b.2 ≤ a.2) := by
  have ha := a.1.range.start_le_stop
  have hb := b.1.range.start_le_stop
  rw [comesFirst, Range.Precedes, Range.eq_iff]
  by_cases hstart : a.1.range.start = b.1.range.start
  · rw [if_neg (not_not_intro hstart)]
    by_cases hempty : a.1.isInsertion = b.1.isInsertion
    · rw [if_neg (not_not_intro hempty)]
      have hiff : a.1.range.start = a.1.range.stop ↔ b.1.range.start = b.1.range.stop := by
        rw [← Range.isEmpty_iff, ← Range.isEmpty_iff]
        exact iff_of_eq (congrArg (· = true) hempty)
      split
      · rw [decide_eq_true_eq]
        omega
      · rw [decide_eq_true_eq]
        omega
    · rw [if_pos hempty]
      have hiff : ¬ (a.1.range.start = a.1.range.stop ↔ b.1.range.start = b.1.range.stop) := by
        rw [← Range.isEmpty_iff, ← Range.isEmpty_iff]
        exact fun h => hempty (Bool.eq_iff_iff.2 h)
      rw [isInsertion, Range.isEmpty_iff]
      omega
  · rw [if_pos hstart, decide_eq_true_eq]
    omega

theorem comesFirst_trans (a b c : Edit × Nat) (hab : comesFirst a b = true) (hbc : comesFirst b c = true) :
    comesFirst a c = true := by
  rw [comesFirst_iff] at *
  refine ⟨hab.1.trans hbc.1, fun heq => ?_⟩
  have hsame : a.1.range = b.1.range := hab.1.antisymm (heq ▸ hbc.1)
  exact Nat.le_trans (hbc.2 (hsame ▸ heq)) (hab.2 hsame)

theorem comesFirst_total (a b : Edit × Nat) : (comesFirst a b || comesFirst b a) = true := by
  rw [Bool.or_eq_true, comesFirst_iff, comesFirst_iff]
  by_cases heq : a.1.range = b.1.range
  · rcases Nat.le_total b.2 a.2 with hle | hle
    · exact Or.inl ⟨heq ▸ Range.Precedes.refl _, fun _ => hle⟩
    · exact Or.inr ⟨heq ▸ Range.Precedes.refl _, fun _ => hle⟩
  · rcases Range.Precedes.total a.1.range b.1.range with hprec | hprec
    · exact Or.inl ⟨hprec, fun h => absurd h heq⟩
    · exact Or.inr ⟨hprec, fun h => absurd h.symm heq⟩

theorem placed_perm (plan : Plan) : (placed plan).Perm plan.zipIdx := List.mergeSort_perm _ _

theorem mem_placed {plan : Plan} {a : Edit × Nat} : a ∈ placed plan ↔ a ∈ plan.zipIdx :=
  (placed_perm plan).mem_iff

theorem exists_mem_placed {plan : Plan} {e : Edit} (he : e ∈ plan) : ∃ a ∈ placed plan, a.1 = e := by
  rw [← List.zipIdx_map_fst 0 plan, List.mem_map] at he
  obtain ⟨a, ha, heq⟩ := he
  exact ⟨a, mem_placed.2 ha, heq⟩

theorem ordered_perm (plan : Plan) : (ordered plan).Perm plan := by
  rw [ordered_eq_map_placed]
  have h := (placed_perm plan).map Prod.fst
  rwa [List.zipIdx_map_fst] at h

theorem zipIdx_pairwise (plan : Plan) : plan.zipIdx.Pairwise fun a b => a.2 < b.2 := by
  rw [← List.pairwise_map, List.zipIdx_map_snd]
  exact List.pairwise_lt_range'

theorem placed_pairwise (plan : Plan) : (placed plan).Pairwise Before := by
  have hsorted : (placed plan).Pairwise fun a b => comesFirst a b = true :=
    List.pairwise_mergeSort comesFirst_trans comesFirst_total _
  have hdistinct : (placed plan).Pairwise fun a b => a.2 ≠ b.2 :=
    (placed_perm plan).symm.pairwise ((zipIdx_pairwise plan).imp Nat.ne_of_lt) fun h => h.symm
  refine (hsorted.and hdistinct).imp ?_
  rintro a b ⟨hfirst, hne⟩
  rw [comesFirst_iff] at hfirst
  exact ⟨hfirst.1, fun heq => Nat.lt_of_le_of_ne (hfirst.2 heq) hne.symm⟩

/-- There is only one way to put a plan in order. -/
theorem placed_eq_of_pairwise {plan : Plan} {l : List (Edit × Nat)} (hperm : l.Perm plan.zipIdx)
    (hsorted : l.Pairwise fun a b => comesFirst a b = true) : placed plan = l := by
  have hplaced : (placed plan).Pairwise fun a b => comesFirst a b = true :=
    List.pairwise_mergeSort comesFirst_trans comesFirst_total _
  refine List.Perm.eq_of_pairwise ?_ hplaced hsorted ((placed_perm plan).trans hperm.symm)
  intro a b ha hb hab hba
  rw [comesFirst_iff] at hab hba
  have hrange : a.1.range = b.1.range := hab.1.antisymm hba.1
  have hplace : a.2 = b.2 := Nat.le_antisymm (hba.2 hrange.symm) (hab.2 hrange)
  have hfirst := List.mem_zipIdx_iff_getElem?.1 (mem_placed.1 ha)
  have hsecond := List.mem_zipIdx_iff_getElem?.1 (hperm.mem_iff.1 hb)
  rw [hplace, hsecond] at hfirst
  exact Prod.ext (Option.some.inj hfirst).symm hplace

theorem ordered_pairwise (plan : Plan) : (ordered plan).Pairwise fun a b => a.range.Precedes b.range := by
  rw [ordered_eq_map_placed, List.pairwise_map]
  exact (placed_pairwise plan).imp fun h => h.1

/-! ### What the order depends on -/

/-- Among the edits of one range the order is the reverse of the plan's. -/
theorem filter_ordered (plan : Plan) (r : Range) :
    (ordered plan).filter (·.range = r) = (plan.filter (·.range = r)).reverse := by
  have hplaced : (placed plan).filter (·.1.range = r) = (plan.zipIdx.filter (·.1.range = r)).reverse := by
    have hfalling : ((placed plan).filter (·.1.range = r)).Pairwise fun a b => b.2 < a.2 := by
      rw [List.pairwise_filter]
      refine (placed_pairwise plan).imp fun {a b} h ha hb => h.2 ?_
      rw [of_decide_eq_true ha, of_decide_eq_true hb]
    have hreversed : (plan.zipIdx.filter (·.1.range = r)).reverse.Pairwise fun a b => b.2 < a.2 := by
      rw [List.pairwise_reverse]
      exact (zipIdx_pairwise plan).filter _
    have hasymm (a b : Edit × Nat) (hab : b.2 < a.2) (hba : a.2 < b.2) : a = b :=
      absurd hab (Nat.lt_asymm hba)
    exact List.Perm.eq_of_pairwise (fun a b _ _ => hasymm a b) hfalling hreversed
      (((placed_perm plan).filter _).trans (List.reverse_perm _).symm)
  have hmap := congrArg (List.map Prod.fst) hplaced
  rw [List.map_reverse] at hmap
  have hfilter (l : List (Edit × Nat)) :
      (l.filter (·.1.range = r)).map Prod.fst = (l.map Prod.fst).filter (·.range = r) := by
    rw [List.filter_map]
    rfl
  rwa [hfilter, hfilter, List.zipIdx_map_fst, ← ordered_eq_map_placed] at hmap

/-- A list is known by the ranges in it and by its edits of each range. -/
theorem eq_of_map_range_eq {l l' : List Edit} (hranges : l.map range = l'.map range)
    (hsame : ∀ r, l.filter (·.range = r) = l'.filter (·.range = r)) : l = l' := by
  induction l generalizing l' with
  | nil =>
      rw [List.map_nil, eq_comm, List.map_eq_nil_iff] at hranges
      exact hranges.symm
  | cons e rest ih =>
      cases l' with
      | nil => simp at hranges
      | cons e' rest' =>
          rw [List.map_cons, List.map_cons, List.cons.injEq] at hranges
          obtain ⟨hrange, hranges⟩ := hranges
          have hhead := hsame e.range
          rw [List.filter_cons_of_pos (by simp), List.filter_cons_of_pos (by simp [hrange]),
            List.cons.injEq] at hhead
          obtain ⟨rfl, -⟩ := hhead
          rw [ih hranges fun r => ?_]
          have hr := hsame r
          rw [List.filter_cons, List.filter_cons] at hr
          split at hr
          · exact (List.cons.inj hr).2
          · exact hr

/-- Two plans with the same edits of each range, in the same order, are nested in one order. -/
theorem ordered_eq_of_filter_eq {plan plan' : Plan} (hperm : plan.Perm plan')
    (hsame : ∀ r, plan.filter (·.range = r) = plan'.filter (·.range = r)) : ordered plan = ordered plan' := by
  refine eq_of_map_range_eq ?_ fun r => ?_
  · have hranges : ((ordered plan).map range).Perm ((ordered plan').map range) :=
      (((ordered_perm plan).trans hperm).trans (ordered_perm plan').symm).map range
    exact hranges.eq_of_pairwise (fun r s _ _ => Range.Precedes.antisymm)
      (List.pairwise_map.2 (ordered_pairwise plan)) (List.pairwise_map.2 (ordered_pairwise plan'))
  · rw [filter_ordered, filter_ordered, hsame r]

end ViewCompiler.Edit
