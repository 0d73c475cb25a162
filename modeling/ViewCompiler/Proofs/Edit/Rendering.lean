import ViewCompiler.Proofs.Edit.Apply
import ViewCompiler.Proofs.Edit.Replaced

/-!
# What every edit is given and what it leaves

Nesting is a relation between the edits of a plan, told apart by their places (`Within`). It does not
mention how the nesting is found. An edit is given the text of its range with every edit directly within
it replaced by what that edit made of its own range, and the result is the text with every outermost edit
replaced in the same way.

The pass that renders the edits calls each of them once. `trace` renders with those calls kept, and is
the same rendering (`trace_fst`).
-/

namespace ViewCompiler.Edit

/-- Rendering with its calls kept: every edit with the text it was given, in the order of the calls. -/
def Nested.trace (text : Text) : Nested → Text × List (Edit × Text)
  | mk edit inner =>
      let current := splice edit.range.start.toNat edit.range.stop.toNat inner
      (edit.render current.1, current.2 ++ [(edit, current.1)])
where
  /-- The text from `start` to `stop` with the given edits, in order, rendered in place. -/
  splice (start stop : Nat) : List Nested → Text × List (Edit × Text)
  | [] => (text.slice start stop, [])
  | n :: rest =>
      let new := n.trace text
      let behind := splice n.edit.range.stop.toNat stop rest
      (text.slice start n.edit.range.start.toNat ++ new.1 ++ behind.1, new.2 ++ behind.2)

/-- Applying a plan with the calls of its edits kept. -/
def applyTraced (text : Text) (plan : Plan) : Except Error ((Text × Stats) × List (Edit × Text)) :=
  match problems text plan with
  | [] =>
      match nest plan with
      | .ok outermost =>
          let traced := Nested.trace.splice text 0 text.length outermost
          let removed := covered outermost
          .ok ((traced.1, ⟨plan.length, removed, traced.1.length - text.length + removed⟩), traced.2)
      | .error error => .error error
  | found => .error (.outOfBounds found)

mutual

theorem Nested.trace_fst (text : Text) : (n : Nested) → (n.trace text).1 = n.render text
  | mk edit inner => by
      rw [Nested.trace, Nested.render, Nested.trace_splice_fst text _ _ inner]

theorem Nested.trace_splice_fst (text : Text) (start stop : Nat) : (l : List Nested) →
    (Nested.trace.splice text start stop l).1 = Nested.render.splice text start stop l
  | [] => by rw [Nested.trace.splice, Nested.render.splice]
  | n :: rest => by
      rw [Nested.trace.splice, Nested.render.splice, Nested.trace_fst text n,
        Nested.trace_splice_fst text _ stop rest]

end

theorem Nested.trace_splice_snd_cons (text : Text) (start stop : Nat) (e : Edit) (inner rest : List Nested) :
    (Nested.trace.splice text start stop (.mk e inner :: rest)).2 =
      (Nested.trace.splice text e.range.start.toNat e.range.stop.toNat inner).2 ++
        (e, Nested.render.splice text e.range.start.toNat e.range.stop.toNat inner) ::
          (Nested.trace.splice text e.range.stop.toNat stop rest).2 := by
  rw [Nested.trace.splice, Nested.trace, Nested.trace_splice_fst, Nested.edit]
  dsimp only
  rw [List.append_assoc, List.singleton_append]

theorem applyTraced_map_fst (text : Text) (plan : Plan) :
    (applyTraced text plan).map Prod.fst = apply text plan := by
  rw [applyTraced, apply]
  cases problems text plan with
  | cons problem others => rfl
  | nil =>
      cases nest plan with
      | error error => rfl
      | ok outermost => simp only [Except.map, Nested.trace_splice_fst]

/-! ### Nesting as a relation -/

/-- The first edit is nested in the second: its range lies within the other's, and of two edits of one
range the earlier one is nested in the later one. -/
def Within (a b : Edit × Nat) : Prop :=
  b.1.range.contains a.1.range = true ∧ (a.1.range = b.1.range → a.2 < b.2)

instance (a b : Edit × Nat) : Decidable (Within a b) := inferInstanceAs (Decidable (_ ∧ _))

/-- The first edit is nested in the second and in no edit that is itself nested there. -/
def DirectlyWithin (plan : Plan) (a b : Edit × Nat) : Prop :=
  Within a b ∧ ∀ c ∈ plan.zipIdx, ¬ (Within a c ∧ Within c b)

instance (plan : Plan) (a b : Edit × Nat) : Decidable (DirectlyWithin plan a b) :=
  inferInstanceAs (Decidable (_ ∧ _))

/-- The edit is nested in no other. -/
def Outermost (plan : Plan) (a : Edit × Nat) : Prop := ∀ b ∈ plan.zipIdx, ¬ Within a b

instance (plan : Plan) (a : Edit × Nat) : Decidable (Outermost plan a) :=
  inferInstanceAs (Decidable (∀ b ∈ plan.zipIdx, ¬ Within a b))

theorem Before.asymm {a b : Edit × Nat} (hab : Before a b) (hba : Before b a) : False := by
  have heq : a.1.range = b.1.range := hab.1.antisymm hba.1
  exact Nat.lt_asymm (hab.2 heq) (hba.2 heq.symm)

theorem Within.before {a b : Edit × Nat} (h : Within a b) : Before b a :=
  ⟨Range.precedes_of_contains h.1, fun heq => h.2 heq.symm⟩

theorem Within.irrefl (a : Edit × Nat) : ¬ Within a a := fun h => h.before.asymm h.before

theorem Within.trans {a b c : Edit × Nat} (hab : Within a b) (hbc : Within b c) : Within a c := by
  refine ⟨Range.contains_trans hbc.1 hab.1, fun heq => ?_⟩
  have hsame : a.1.range = b.1.range :=
    (heq ▸ Range.precedes_of_contains hbc.1 : a.1.range.Precedes b.1.range).antisymm
      (Range.precedes_of_contains hab.1)
  exact Nat.lt_trans (hab.2 hsame) (hbc.2 (hsame ▸ heq))

theorem Before.within_iff {a b : Edit × Nat} (h : Before a b) :
    Within b a ↔ a.1.encloses b.1 = true :=
  ⟨fun hwithin => hwithin.1, fun hin => ⟨hin, fun heq => h.2 heq.symm⟩⟩

/-! ### Edits in order -/

/-- Edits in order, none of which crosses another. -/
structure InOrder (l : List (Edit × Nat)) : Prop where
  sorted : l.Pairwise Before
  apart : l.Pairwise fun a b => ¬ a.1.range.Crosses b.1.range

/-- The edits of a list that are nested in an edit. -/
def inside (l : List (Edit × Nat)) (a : Edit × Nat) : List (Edit × Nat) := l.filter (Within · a)

def outside (l : List (Edit × Nat)) (a : Edit × Nat) : List (Edit × Nat) := l.filter (¬ Within · a)

/-- The edits of a list that are nested in no other edit of it. -/
def tops (l : List (Edit × Nat)) : List (Edit × Nat) := l.filter fun a => ∀ b ∈ l, ¬ Within a b

theorem InOrder.inside {l : List (Edit × Nat)} (h : InOrder l) (a : Edit × Nat) : InOrder (inside l a) :=
  ⟨h.sorted.filter _, h.apart.filter _⟩

theorem InOrder.outside {l : List (Edit × Nat)} (h : InOrder l) (a : Edit × Nat) : InOrder (outside l a) :=
  ⟨h.sorted.filter _, h.apart.filter _⟩

theorem InOrder.tail {a : Edit × Nat} {rest : List (Edit × Nat)} (h : InOrder (a :: rest)) : InOrder rest :=
  ⟨h.sorted.tail, h.apart.tail⟩

theorem InOrder.before {a x : Edit × Nat} {rest : List (Edit × Nat)} (h : InOrder (a :: rest))
    (hx : x ∈ rest) : Before a x :=
  (List.pairwise_cons.1 h.sorted).1 x hx

theorem InOrder.not_crosses {a x : Edit × Nat} {rest : List (Edit × Nat)} (h : InOrder (a :: rest))
    (hx : x ∈ rest) : ¬ a.1.range.Crosses x.1.range :=
  (List.pairwise_cons.1 h.apart).1 x hx

theorem inOrder_placed {plan : Plan} (hlaminar : plan.Laminar) : InOrder (placed plan) := by
  refine ⟨placed_pairwise plan, (placed_pairwise plan).imp_of_mem fun ha hb _ => ?_⟩
  exact hlaminar _ (List.fst_mem_of_mem_zipIdx (mem_placed.1 ha)) _
    (List.fst_mem_of_mem_zipIdx (mem_placed.1 hb))

/-- An edit that is not nested in the first of a list keeps those after it from being nested there. -/
theorem InOrder.not_within {a x y : Edit × Nat} {rest : List (Edit × Nat)} (h : InOrder (a :: rest))
    (hx : x ∈ rest) (hxy : x.1.range.Precedes y.1.range) (hout : ¬ Within x a) :
    ¬ a.1.range.contains y.1.range = true := by
  have hcontains : ¬ a.1.range.contains x.1.range = true := fun hin => hout ((h.before hx).within_iff.2 hin)
  exact Range.not_contains_of_precedes (h.before hx).1 hxy (h.not_crosses hx) hcontains

theorem InOrder.beside {a x : Edit × Nat} {rest : List (Edit × Nat)} (h : InOrder (a :: rest))
    (hx : x ∈ rest) (hout : ¬ Within x a) : a.1.range.Beside x.1.range := by
  have hcontains : ¬ a.1.range.contains x.1.range = true := fun hin => hout ((h.before hx).within_iff.2 hin)
  rcases Range.contains_or_crosses_or_stop_le (h.before hx).1 with hin | hcross | hapart
  · exact absurd hin hcontains
  · exact absurd hcross (h.not_crosses hx)
  · exact ⟨hapart, hcontains⟩

theorem InOrder.takeWhile_eq {a : Edit × Nat} {rest : List (Edit × Nat)} (h : InOrder (a :: rest)) :
    rest.takeWhile (fun x => a.1.encloses x.1) = Edit.inside rest a ∧
      rest.dropWhile (fun x => a.1.encloses x.1) = Edit.outside rest a := by
  have hprefix : rest.Pairwise fun x y => a.1.encloses y.1 = true → a.1.encloses x.1 = true := by
    refine h.tail.sorted.imp_of_mem fun {x y} hx _ hxy hy => ?_
    by_contra hout
    exact h.not_within hx hxy.1 (fun hwithin => hout hwithin.1) hy
  obtain ⟨htake, hdrop⟩ := takeWhile_dropWhile_eq_filter hprefix
  rw [htake, hdrop]
  refine ⟨List.filter_congr fun x hx => ?_, List.filter_congr fun x hx => ?_⟩
  · rw [Bool.eq_iff_iff, decide_eq_true_eq]
    exact (h.before hx).within_iff.symm
  · rw [Bool.eq_iff_iff, decide_eq_true_eq, Bool.not_eq_true', ← Bool.not_eq_true]
    exact not_congr (h.before hx).within_iff.symm

theorem InOrder.forest_cons {a : Edit × Nat} {rest : List (Edit × Nat)} (h : InOrder (a :: rest)) :
    forest ((a :: rest).map Prod.fst) =
      .mk a.1 (forest ((Edit.inside rest a).map Prod.fst)) :: forest ((Edit.outside rest a).map Prod.fst) := by
  obtain ⟨htake, hdrop⟩ := h.takeWhile_eq
  rw [List.map_cons, Edit.forest_cons, List.takeWhile_map, List.dropWhile_map, ← htake, ← hdrop]
  rfl

/-- Induction along the nesting: an edit with what is nested in it, and what comes behind. -/
theorem InOrder.induction {motive : (l : List (Edit × Nat)) → InOrder l → Prop}
    (nil : motive [] ⟨List.Pairwise.nil, List.Pairwise.nil⟩)
    (cons : ∀ a rest (h : InOrder (a :: rest)), motive (Edit.inside rest a) (h.tail.inside a) →
      motive (Edit.outside rest a) (h.tail.outside a) → motive (a :: rest) h)
    (l : List (Edit × Nat)) (h : InOrder l) : motive l h := by
  induction hlength : l.length using Nat.strong_induction_on generalizing l with
  | _ n ih =>
      cases l with
      | nil => exact nil
      | cons a rest =>
          subst hlength
          refine cons a rest h (ih _ ?_ _ _ rfl) (ih _ ?_ _ _ rfl)
          · exact Nat.lt_succ_of_le (List.length_filter_le _ _)
          · exact Nat.lt_succ_of_le (List.length_filter_le _ _)

/-! ### What lies within what -/

theorem mem_inside {l : List (Edit × Nat)} {a x : Edit × Nat} : x ∈ inside l a ↔ x ∈ l ∧ Within x a := by
  rw [inside, List.mem_filter, decide_eq_true_eq]

theorem mem_outside {l : List (Edit × Nat)} {a x : Edit × Nat} : x ∈ outside l a ↔ x ∈ l ∧ ¬ Within x a := by
  rw [outside, List.mem_filter, decide_eq_true_eq]

theorem mem_of_mem_tops {l : List (Edit × Nat)} {a : Edit × Nat} (h : a ∈ tops l) : a ∈ l :=
  (List.mem_filter.1 h).1

theorem inside_inside {l : List (Edit × Nat)} {a x : Edit × Nat} (hx : Within x a) :
    inside (inside l a) x = inside l x := by
  rw [inside, inside, inside, List.filter_filter]
  refine List.filter_congr fun y _ => ?_
  rw [Bool.eq_iff_iff, Bool.and_eq_true, decide_eq_true_eq, decide_eq_true_eq]
  exact ⟨fun h => h.1, fun h => ⟨h, h.trans hx⟩⟩

theorem InOrder.inside_head {a : Edit × Nat} (rest : List (Edit × Nat)) :
    Edit.inside (a :: rest) a = Edit.inside rest a :=
  List.filter_cons_of_neg fun h => Within.irrefl a (of_decide_eq_true h)

theorem InOrder.inside_tail {a x : Edit × Nat} {rest : List (Edit × Nat)} (h : InOrder (a :: rest))
    (hx : x ∈ rest) : Edit.inside (a :: rest) x = Edit.inside rest x :=
  List.filter_cons_of_neg fun hwithin => (of_decide_eq_true hwithin).before.asymm (h.before hx)

theorem InOrder.inside_outside {a x : Edit × Nat} {rest : List (Edit × Nat)} (h : InOrder (a :: rest))
    (hx : x ∈ rest) (hout : ¬ Within x a) : Edit.inside (Edit.outside rest a) x = Edit.inside rest x := by
  rw [Edit.inside, Edit.outside, Edit.inside, List.filter_filter]
  refine List.filter_congr fun y _ => ?_
  rw [Bool.eq_iff_iff, Bool.and_eq_true, decide_eq_true_eq, decide_eq_true_eq]
  exact ⟨fun hy => hy.1, fun hy => ⟨hy, fun hya => h.not_within hx hy.before.1 hout hya.1⟩⟩

theorem InOrder.tops_cons {a : Edit × Nat} {rest : List (Edit × Nat)} (h : InOrder (a :: rest)) :
    tops (a :: rest) = a :: tops (Edit.outside rest a) := by
  have hhead : ∀ b ∈ a :: rest, ¬ Within a b := by
    intro b hb hwithin
    rcases List.mem_cons.1 hb with rfl | hb
    · exact Within.irrefl b hwithin
    · exact hwithin.before.asymm (h.before hb)
  rw [tops, List.filter_cons, if_pos (decide_eq_true hhead), tops, Edit.outside, List.filter_filter]
  congr 1
  refine List.filter_congr fun x _ => ?_
  rw [Bool.eq_iff_iff, Bool.and_eq_true, decide_eq_true_eq, decide_eq_true_eq, decide_eq_true_eq,
    List.forall_mem_cons]
  constructor
  · rintro ⟨hout, hnone⟩
    exact ⟨fun b hb => hnone b (List.mem_filter.1 hb).1, hout⟩
  · rintro ⟨hnone, hout⟩
    refine ⟨hout, fun b hb hwithin => hnone b (List.mem_filter.2 ⟨hb, decide_eq_true fun hba => ?_⟩) hwithin⟩
    exact hout (hwithin.trans hba)

theorem InOrder.tops_pairwise {l : List (Edit × Nat)} (h : InOrder l) :
    (tops l).Pairwise fun a b => a.1.range.Beside b.1.range := by
  induction l, h using InOrder.induction with
  | nil => exact List.Pairwise.nil
  | cons a rest h _ ih =>
      rw [h.tops_cons, List.pairwise_cons]
      refine ⟨fun b hb => ?_, ih⟩
      obtain ⟨hmem, hout⟩ := mem_outside.1 (mem_of_mem_tops hb)
      exact h.beside hmem hout

/-! ### What an edit is given -/

/-- The text that an edit is given, among the edits of a list. -/
def argumentIn (text : Text) (l : List (Edit × Nat)) (a : Edit × Nat) : Text :=
  Nested.render.splice text a.1.range.start.toNat a.1.range.stop.toNat (forest ((inside l a).map Prod.fst))

/-- The ranges of some edits with what the edits make of them. -/
def rendered (argument : Edit × Nat → Text) (l : List (Edit × Nat)) : List (Range × Text) :=
  l.map fun a => (a.1.range, a.1.render (argument a))

theorem rendered_congr {argument argument' : Edit × Nat → Text} {l : List (Edit × Nat)}
    (h : ∀ a ∈ l, argument a = argument' a) : rendered argument l = rendered argument' l :=
  List.map_congr_left fun a ha => by rw [h a ha]

theorem argumentIn_inside {text : Text} {l : List (Edit × Nat)} {a x : Edit × Nat} (hx : Within x a) :
    argumentIn text (inside l a) x = argumentIn text l x := by
  rw [argumentIn, argumentIn, inside_inside hx]

theorem InOrder.argumentIn_head (text : Text) {a : Edit × Nat} (rest : List (Edit × Nat)) :
    argumentIn text (a :: rest) a = Nested.render.splice text a.1.range.start.toNat a.1.range.stop.toNat
      (forest ((Edit.inside rest a).map Prod.fst)) := by
  rw [argumentIn, InOrder.inside_head]

theorem InOrder.argumentIn_within {text : Text} {a x : Edit × Nat} {rest : List (Edit × Nat)}
    (h : InOrder (a :: rest)) (hx : x ∈ Edit.inside rest a) :
    argumentIn text (Edit.inside rest a) x = argumentIn text (a :: rest) x := by
  obtain ⟨hmem, hwithin⟩ := mem_inside.1 hx
  rw [argumentIn, argumentIn, inside_inside hwithin, h.inside_tail hmem]

theorem InOrder.argumentIn_behind {text : Text} {a x : Edit × Nat} {rest : List (Edit × Nat)}
    (h : InOrder (a :: rest)) (hx : x ∈ Edit.outside rest a) :
    argumentIn text (Edit.outside rest a) x = argumentIn text (a :: rest) x := by
  obtain ⟨hmem, hout⟩ := mem_outside.1 hx
  rw [argumentIn, argumentIn, h.inside_outside hmem hout, h.inside_tail hmem]

/-- Splicing the nesting replaces the outermost edits and nothing else. -/
theorem InOrder.splice_forest {text : Text} {l : List (Edit × Nat)} (h : InOrder l) {start stop : Nat}
    (hle : start ≤ stop) (hbounds : ∀ a ∈ l, start ≤ a.1.range.start ∧ a.1.range.stop ≤ stop) :
    Nested.render.splice text start stop (forest (l.map Prod.fst)) =
      replaced text start stop (rendered (argumentIn text l) (tops l)) := by
  induction l, h using InOrder.induction generalizing start with
  | nil =>
      rw [List.map_nil, forest, Nested.render.splice]
      exact (replaced_nil hle).symm
  | cons a rest h _ ih =>
      have ha := a.1.range.start_le_stop
      obtain ⟨hstart, hstop⟩ := hbounds a List.mem_cons_self
      have hbeside : ∀ b ∈ Edit.outside rest a, a.1.range.Beside b.1.range := fun b hb =>
        h.beside (mem_outside.1 hb).1 (mem_outside.1 hb).2
      have hbehind : ∀ b ∈ Edit.outside rest a,
          (a.1.range.stop.toNat : Int) ≤ b.1.range.start ∧ b.1.range.stop ≤ stop := by
        intro b hb
        have hle := (hbeside b hb).1
        have hb_stop := (hbounds b (List.mem_cons_of_mem _ (mem_outside.1 hb).1)).2
        omega
      have hpieces : ∀ q ∈ rendered (argumentIn text (a :: rest)) (tops (Edit.outside rest a)),
          a.1.range.Beside q.1 := by
        intro q hq
        obtain ⟨b, hb, rfl⟩ := List.mem_map.1 hq
        exact hbeside b (mem_of_mem_tops hb)
      -- What the edits behind the first are given does not depend on the first.
      have hrendered : rendered (argumentIn text (Edit.outside rest a)) (tops (Edit.outside rest a)) =
          rendered (argumentIn text (a :: rest)) (tops (Edit.outside rest a)) :=
        rendered_congr fun b hb => h.argumentIn_behind (mem_of_mem_tops hb)
      rw [h.forest_cons, Nested.render.splice, h.tops_cons, rendered, List.map_cons, ← rendered,
        replaced_cons hstart hstop hpieces, InOrder.argumentIn_head]
      have hrest := ih (by omega) hbehind
      rw [hrendered] at hrest
      rw [← hrest, Nested.render]
      rfl

theorem InOrder.calls_perm {text : Text} {l : List (Edit × Nat)} (h : InOrder l) (start stop : Nat) :
    (Nested.trace.splice text start stop (forest (l.map Prod.fst))).2.Perm
      (l.map fun a => (a.1, argumentIn text l a)) := by
  induction l, h using InOrder.induction generalizing start stop with
  | nil =>
      rw [List.map_nil, forest, Nested.trace.splice]
      exact List.Perm.refl _
  | cons a rest h ihin ihout =>
      have hin : ((Edit.inside rest a).map fun x => (x.1, argumentIn text (Edit.inside rest a) x)) =
          (Edit.inside rest a).map fun x => (x.1, argumentIn text (a :: rest) x) :=
        List.map_congr_left fun x hx => by rw [h.argumentIn_within hx]
      have hout : ((Edit.outside rest a).map fun x => (x.1, argumentIn text (Edit.outside rest a) x)) =
          (Edit.outside rest a).map fun x => (x.1, argumentIn text (a :: rest) x) :=
        List.map_congr_left fun x hx => by rw [h.argumentIn_behind hx]
      have hinside := ihin a.1.range.start.toNat a.1.range.stop.toNat
      have hbehind := ihout a.1.range.stop.toNat stop
      rw [hin] at hinside
      rw [hout] at hbehind
      -- The calls come in the order of the nesting: all within an edit before all behind it.
      have hsplit : (Edit.inside rest a ++ Edit.outside rest a).Perm rest := by
        have hperm := List.filter_append_perm (fun x => decide (Within x a)) rest
        simpa only [Edit.inside, Edit.outside, decide_not] using hperm
      rw [h.forest_cons, Nested.trace_splice_snd_cons, List.map_cons, InOrder.argumentIn_head]
      have happend := hinside.append hbehind
      rw [← List.map_append] at happend
      exact List.perm_middle.trans ((happend.trans (hsplit.map _)).cons _)

/-! ### The whole plan -/

theorem tops_placed_perm (plan : Plan) :
    (tops (placed plan)).Perm (plan.zipIdx.filter (Outermost plan ·)) := by
  have heq : tops (placed plan) = (placed plan).filter (Outermost plan ·) := by
    refine List.filter_congr fun a _ => ?_
    rw [Bool.eq_iff_iff, decide_eq_true_eq, decide_eq_true_eq]
    exact forall_congr' fun b => imp_congr_left mem_placed
  rw [heq]
  exact (placed_perm plan).filter _

theorem tops_inside_perm (plan : Plan) (a : Edit × Nat) :
    (tops (inside (placed plan) a)).Perm (plan.zipIdx.filter (DirectlyWithin plan · a)) := by
  have heq : tops (inside (placed plan) a) = (placed plan).filter (DirectlyWithin plan · a) := by
    rw [tops, inside, List.filter_filter]
    refine List.filter_congr fun x _ => ?_
    rw [Bool.eq_iff_iff, Bool.and_eq_true, decide_eq_true_eq, decide_eq_true_eq, decide_eq_true_eq,
      DirectlyWithin, and_comm]
    refine and_congr_right fun _ => forall_congr' fun c => ?_
    rw [← inside, mem_inside, mem_placed]
    exact ⟨fun h hc hboth => h ⟨hc, hboth.2⟩ hboth.1, fun h hc hwithin => h hc.1 ⟨hwithin, hc.2⟩⟩
  rw [heq]
  exact (placed_perm plan).filter _

theorem InOrder.replaced_tops {text : Text} {l : List (Edit × Nat)} (h : InOrder l)
    {others : List (Edit × Nat)} (hperm : (tops l).Perm others) (argument : Edit × Nat → Text)
    (start stop : Nat) :
    replaced text start stop (rendered argument (tops l)) = replaced text start stop (rendered argument others) :=
  replaced_perm (hperm.map _) (List.pairwise_map.2 h.tops_pairwise)

/-- How a plan is rendered: the calls that are made, the text that each edit is given, and the result. -/
structure Renders (text : Text) (plan : Plan) (calls : List (Edit × Text)) (argument : Edit × Nat → Text)
    (result : Text) : Prop where
  /-- Every edit of the plan is called exactly once, with the text it is given. -/
  once : calls.Perm (plan.zipIdx.map fun a => (a.1, argument a))
  /-- An edit is given the text of its range with the edits directly within it replaced. -/
  given : ∀ a ∈ plan.zipIdx, argument a = replaced text a.1.range.start.toNat a.1.range.stop.toNat
    (rendered argument (plan.zipIdx.filter (DirectlyWithin plan · a)))
  /-- The result is the text with the outermost edits replaced. -/
  result_eq : result = replaced text 0 text.length (rendered argument (plan.zipIdx.filter (Outermost plan ·)))

theorem argumentIn_placed {text : Text} {plan : Plan} (hfits : plan.Fits text) (hlaminar : plan.Laminar)
    {a : Edit × Nat} (ha : a ∈ plan.zipIdx) :
    argumentIn text (placed plan) a = replaced text a.1.range.start.toNat a.1.range.stop.toNat
      (rendered (argumentIn text (placed plan)) (plan.zipIdx.filter (DirectlyWithin plan · a))) := by
  have hinside := (inOrder_placed hlaminar).inside a
  have hstart := (hfits a.1 (List.fst_mem_of_mem_zipIdx ha)).1
  have hle := a.1.range.start_le_stop
  have hbounds : ∀ b ∈ inside (placed plan) a, (a.1.range.start.toNat : Int) ≤ b.1.range.start ∧
      b.1.range.stop ≤ a.1.range.stop.toNat := by
    intro b hb
    have hcontains := (mem_inside.1 hb).2.1
    rw [Range.contains_iff] at hcontains
    omega
  have hrendered : rendered (argumentIn text (inside (placed plan) a)) (tops (inside (placed plan) a)) =
      rendered (argumentIn text (placed plan)) (tops (inside (placed plan) a)) :=
    rendered_congr fun b hb => argumentIn_inside (mem_inside.1 (mem_of_mem_tops hb)).2
  rw [← hinside.replaced_tops (tops_inside_perm plan a), ← hrendered, ← hinside.splice_forest (by omega) hbounds,
    argumentIn]

theorem applyTraced_of_laminar {text : Text} {plan : Plan} (hfits : plan.Fits text) (hlaminar : plan.Laminar) :
    ∃ stats, applyTraced text plan =
      .ok ((Nested.render.splice text 0 text.length (forest (ordered plan)), stats),
        (Nested.trace.splice text 0 text.length (forest (ordered plan))).2) := by
  rw [applyTraced, problems_eq_nil_iff.2 hfits]
  simp only [nest_eq_forest hlaminar, Nested.trace_splice_fst]
  exact ⟨_, rfl⟩

/-- Applying edits that fit the text and do not cross succeeds and has the semantics of nested edits. -/
theorem apply_renders_nesting (text : Text) (plan : Plan) (hfits : plan.Fits text) (hlaminar : plan.Laminar) :
    ∃ result stats calls argument, apply text plan = .ok (result, stats) ∧
      applyTraced text plan = .ok ((result, stats), calls) ∧ Renders text plan calls argument result := by
  have horder := inOrder_placed hlaminar
  have hbounds : ∀ a ∈ placed plan, ((0 : Nat) : Int) ≤ a.1.range.start ∧ a.1.range.stop ≤ text.length :=
    fun a ha => hfits a.1 (List.fst_mem_of_mem_zipIdx (mem_placed.1 ha))
  obtain ⟨stats, htraced⟩ := applyTraced_of_laminar hfits hlaminar
  refine ⟨_, stats, _, argumentIn text (placed plan), ?_, htraced, ?_, ?_, ?_⟩
  · rw [← applyTraced_map_fst, htraced, Except.map]
  · exact (horder.calls_perm 0 text.length).trans ((placed_perm plan).map _)
  · exact fun a ha => argumentIn_placed hfits hlaminar ha
  · rw [← horder.replaced_tops (tops_placed_perm plan), ordered_eq_map_placed,
      horder.splice_forest (Nat.zero_le _) hbounds]

/-- Two edits of one range around a third, with insertions on both edges of them. -/
theorem apply_renders_nesting_wrapped :
    let wrap (range : Range) (mark : Text) : Edit := ⟨range, fun current => mark ++ current ++ mark, none⟩
    let plan : Plan := [insertion 1 "x" none, wrap ⟨1, 4, by decide⟩ "'", replacement ⟨2, 3, by decide⟩ "z" none,
      wrap ⟨1, 4, by decide⟩ "*", insertion 4 "y" none, insertion 1 "w" none]
    (plan.Fits "abcdef" ∧ plan.Laminar) ∧
      ∃ result stats calls argument, apply "abcdef" plan = .ok (result, stats) ∧
        applyTraced "abcdef" plan = .ok ((result, stats), calls) ∧
          Renders "abcdef" plan calls argument result := by
  intro wrap plan
  have hfits : plan.Fits "abcdef" := by decide
  have hlaminar : plan.Laminar := by decide
  exact ⟨⟨hfits, hlaminar⟩, apply_renders_nesting "abcdef" plan hfits hlaminar⟩

end ViewCompiler.Edit
