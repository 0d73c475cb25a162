import ViewCompiler.Proofs.Edit.Rendering

/-!
# What nested edits keep of a text

Some characters of a text are to survive its edits: `kept` are those of them in a stretch of the text. An edit
retains them if they still stand, in order, in what it makes of its range. It need not look at all it is given:
`Retains` lets it cut off the margins of its range, where nothing is to be kept and no other edit reaches.

If every edit of a list retains what is to be kept, so does the rendering of all of them (`kept_sublist_splice`).
The induction is along the nesting. An edit is given the text that the edits within it leave of its range; by
induction all that is to be kept stands in there, between the untouched margins.
-/

namespace ViewCompiler

theorem Text.slice_self (t : Text) (p : Nat) : t.slice p p = [] := by
  rw [slice, List.drop_take, Nat.sub_self, List.take_zero]

theorem Text.slice_succ {t : Text} {p : Nat} {c : Char} (h : t[p]? = some c) : t.slice p (p + 1) = [c] := by
  have hslice := Edit.flatMap_range'_eq_slice t p 1
  rw [← hslice, List.range'_one, List.flatMap_singleton, h]
  rfl

theorem Text.slice_append (t : Text) {start middle stop : Nat} (hle : start ≤ middle) (hle' : middle ≤ stop) :
    t.slice start middle ++ t.slice middle stop = t.slice start stop := by
  have hdrop : t.drop middle = (t.drop start).drop (middle - start) := by
    rw [List.drop_drop, Nat.add_sub_of_le hle]
  have hlength : stop - start = middle - start + (stop - middle) := by omega
  rw [slice, slice, slice, List.drop_take, List.drop_take, List.drop_take, hdrop, hlength, List.take_add]

namespace Edit

variable {keep : Nat → Char → Bool} {text : Text} {start middle stop : Nat} {a : Edit × Nat}
  {l : List (Edit × Nat)}

/-! ### What is to be kept -/

/-- The characters from `start` to `stop` that are to be kept. -/
def kept (keep : Nat → Char → Bool) (text : Text) (start stop : Nat) : Text :=
  (List.range' start (stop - start)).flatMap fun p => text[p]?.toList.filter (keep p)

theorem kept_append (hle : start ≤ middle) (hle' : middle ≤ stop) :
    kept keep text start middle ++ kept keep text middle stop = kept keep text start stop :=
  (flatMap_range'_append _ hle hle').symm

theorem mem_kept {c : Char} : c ∈ kept keep text start stop ↔
    ∃ p, start ≤ p ∧ p < stop ∧ text[p]? = some c ∧ keep p c = true := by
  simp only [kept, List.mem_flatMap, List.mem_range'_1, List.mem_filter, Option.mem_toList]
  constructor
  · rintro ⟨p, ⟨hstart, hstop⟩, hc, hkeep⟩
    exact ⟨p, hstart, by omega, hc, hkeep⟩
  · rintro ⟨p, hstart, hstop, hc, hkeep⟩
    exact ⟨p, ⟨hstart, by omega⟩, hc, hkeep⟩

theorem kept_eq_nil_iff : kept keep text start stop = [] ↔
    ∀ p c, start ≤ p → p < stop → text[p]? = some c → keep p c = false := by
  rw [List.eq_nil_iff_forall_not_mem]
  simp only [mem_kept]
  constructor
  · intro hnone p c hstart hstop hc
    exact Bool.eq_false_iff.2 fun hkeep => hnone c ⟨p, hstart, hstop, hc, hkeep⟩
  · rintro hnone c ⟨p, hstart, hstop, hc, hkeep⟩
    rw [hnone p c hstart hstop hc] at hkeep
    cases hkeep

theorem kept_sublist_slice (hle : start ≤ stop) :
    (kept keep text start stop).Sublist (text.slice start stop) := by
  rw [← Nat.add_sub_of_le hle, ← flatMap_range'_eq_slice, kept, Nat.add_sub_cancel_left]
  induction List.range' start (stop - start) with
  | nil => exact List.Sublist.refl _
  | cons p others ih =>
      rw [List.flatMap_cons, List.flatMap_cons]
      exact List.filter_sublist.append ih

theorem kept_self (keep : Nat → Char → Bool) (text : Text) (p : Nat) : kept keep text p p = [] := by
  rw [kept, Nat.sub_self, List.range'_zero, List.flatMap_nil]

/-! ### Splicing between margins -/

theorem edit_mem_of_mem_forest {n : Nested} {edits : List Edit} (h : n ∈ forest edits) : n.edit ∈ edits := by
  induction edits using forest.induct with
  | case1 =>
      rw [forest] at h
      exact absurd h List.not_mem_nil
  | case2 e rest _ ih =>
      rw [forest_cons] at h
      rcases List.mem_cons.1 h with rfl | hlater
      · exact List.mem_cons_self
      · exact List.mem_cons_of_mem e ((List.dropWhile_sublist _).subset (ih hlater))

theorem splice_behind {nested : List Nested} (hle : start ≤ middle) (hle' : middle ≤ stop)
    (hnested : ∀ n ∈ nested, n.edit.range.stop ≤ middle) :
    Nested.render.splice text start stop nested =
      Nested.render.splice text start middle nested ++ text.slice middle stop := by
  induction nested generalizing start with
  | nil =>
      rw [Nested.render.splice, Nested.render.splice, Text.slice_append text hle hle']
  | cons n rest ih =>
      have hn := hnested n List.mem_cons_self
      have hrest : ∀ n ∈ rest, n.edit.range.stop ≤ middle := fun n hn => hnested n (List.mem_cons_of_mem _ hn)
      rw [Nested.render.splice, Nested.render.splice, ih (by omega) hrest]
      simp only [List.append_assoc]

/-- Edits between two points leave the text before the first and behind the second as it is. -/
theorem splice_between {nested : List Nested} {first last : Nat} (hfirst : start ≤ first) (hle : first ≤ last)
    (hlast : last ≤ stop)
    (hnested : ∀ n ∈ nested, first ≤ n.edit.range.start ∧ n.edit.range.stop ≤ last) :
    Nested.render.splice text start stop nested =
      text.slice start first ++ Nested.render.splice text first last nested ++ text.slice last stop := by
  rw [splice_behind (Nat.le_trans hfirst hle) hlast fun n hn => (hnested n hn).2]
  congr 1
  cases nested with
  | nil => rw [Nested.render.splice, Nested.render.splice, Text.slice_append text hfirst hle]
  | cons n rest =>
      have hn := (hnested n List.mem_cons_self).1
      rw [Nested.render.splice, Nested.render.splice, ← List.append_assoc, ← List.append_assoc,
        Text.slice_append text hfirst (by omega)]

theorem splice_forest_between {first last : Nat} (hfirst : start ≤ first) (hle : first ≤ last)
    (hlast : last ≤ stop) (hl : ∀ b ∈ l, first ≤ b.1.range.start ∧ b.1.range.stop ≤ last) :
    Nested.render.splice text start stop (forest (l.map Prod.fst)) =
      text.slice start first ++ Nested.render.splice text first last (forest (l.map Prod.fst)) ++
        text.slice last stop := by
  apply splice_between hfirst hle hlast
  intro n hn
  obtain ⟨b, hb, heq⟩ := List.mem_map.1 (edit_mem_of_mem_forest hn)
  rw [← heq]
  exact hl b hb

/-- The first edit of a list with what is nested in it, and what stands behind it. -/
theorem InOrder.splice_cons {rest : List (Edit × Nat)} (horder : InOrder (a :: rest)) (start stop : Nat) :
    Nested.render.splice text start stop (forest ((a :: rest).map Prod.fst)) =
      text.slice start a.1.range.start.toNat ++ a.1.render (Nested.render.splice text a.1.range.start.toNat
        a.1.range.stop.toNat (forest ((Edit.inside rest a).map Prod.fst))) ++
      Nested.render.splice text a.1.range.stop.toNat stop (forest ((Edit.outside rest a).map Prod.fst)) := by
  rw [horder.forest_cons, Nested.render.splice, Nested.render, Nested.edit]

theorem InOrder.bounds_outside {rest : List (Edit × Nat)} (horder : InOrder (a :: rest)) (hstart : start ≤ a.1.range.start)
    (hbounds : ∀ b ∈ a :: rest, b.1.range.stop ≤ stop) :
    ∀ b ∈ Edit.outside rest a, (a.1.range.stop.toNat : Int) ≤ b.1.range.start ∧ b.1.range.stop ≤ stop := by
  intro b hb
  have hle := a.1.range.start_le_stop
  have hbeside := (horder.beside (mem_outside.1 hb).1 (mem_outside.1 hb).2).1
  have hstop := hbounds b (List.mem_cons_of_mem a (mem_outside.1 hb).1)
  omega

/-! ### Edits that retain it -/

/-- All that is to be kept of the range of an edit stands between `first` and `last`, and the edits of the list
that are nested in it stay there. -/
structure Margins (keep : Nat → Char → Bool) (text : Text) (l : List (Edit × Nat)) (a : Edit × Nat)
    (first last : Nat) : Prop where
  start_le : a.1.range.start.toNat ≤ first
  le : first ≤ last
  le_stop : last ≤ a.1.range.stop.toNat
  before : kept keep text a.1.range.start.toNat first = []
  behind : kept keep text last a.1.range.stop.toNat = []
  inner : ∀ b ∈ l, Within b a → first ≤ b.1.range.start ∧ b.1.range.stop ≤ last

/-- What is to be kept of the range of an edit stands in what the edit makes of it, if it stands in what the edit
is given. -/
def Retains (keep : Nat → Char → Bool) (text : Text) (l : List (Edit × Nat)) (a : Edit × Nat) : Prop :=
  kept keep text a.1.range.start.toNat a.1.range.stop.toNat = [] ∨
    ∃ first last, Margins keep text l a first last ∧
      ∀ between, (kept keep text first last).Sublist between →
        (kept keep text first last).Sublist (a.1.render
          (text.slice a.1.range.start.toNat first ++ between ++ text.slice last a.1.range.stop.toNat))

theorem Margins.kept_eq {first last : Nat} (h : Margins keep text l a first last) :
    kept keep text a.1.range.start.toNat a.1.range.stop.toNat = kept keep text first last := by
  rw [← kept_append h.start_le (Nat.le_trans h.le h.le_stop), ← kept_append h.le h.le_stop, h.before, h.behind,
    List.nil_append, List.append_nil]

/-- An edit without margins. -/
theorem Retains.of_render (hstart : 0 ≤ a.1.range.start)
    (hrender : ∀ between, (kept keep text a.1.range.start.toNat a.1.range.stop.toNat).Sublist between →
      (kept keep text a.1.range.start.toNat a.1.range.stop.toNat).Sublist (a.1.render between)) :
    Retains keep text l a := by
  have hle := a.1.range.start_le_stop
  refine Or.inr ⟨a.1.range.start.toNat, a.1.range.stop.toNat,
    ⟨Nat.le_refl _, by omega, Nat.le_refl _, kept_self _ _ _, kept_self _ _ _, ?_⟩, ?_⟩
  · intro b _ hwithin
    have hcontains := Range.contains_iff.1 hwithin.1
    omega
  · intro between hbetween
    rw [Text.slice_self, Text.slice_self, List.nil_append, List.append_nil]
    exact hrender between hbetween

/-- One edit: if what is to be kept stands in the rendering of the edits within it, it stands in its own. -/
theorem Retains.render_splice {inner : List (Edit × Nat)} (h : Retains keep text l a)
    (hinner : ∀ b ∈ inner, b ∈ l ∧ Within b a)
    (hsplice : ∀ first last : Nat, first ≤ last →
      (∀ b ∈ inner, first ≤ b.1.range.start ∧ b.1.range.stop ≤ last) →
      (kept keep text first last).Sublist (Nested.render.splice text first last (forest (inner.map Prod.fst)))) :
    (kept keep text a.1.range.start.toNat a.1.range.stop.toNat).Sublist
      (a.1.render (Nested.render.splice text a.1.range.start.toNat a.1.range.stop.toNat
        (forest (inner.map Prod.fst)))) := by
  rcases h with hnone | ⟨first, last, hmargins, hrender⟩
  · rw [hnone]
    exact List.nil_sublist _
  · have hbounds : ∀ b ∈ inner, first ≤ b.1.range.start ∧ b.1.range.stop ≤ last := fun b hb =>
      hmargins.inner b (hinner b hb).1 (hinner b hb).2
    rw [hmargins.kept_eq, splice_forest_between hmargins.start_le hmargins.le hmargins.le_stop hbounds]
    exact hrender _ (hsplice first last hmargins.le hbounds)

theorem InOrder.kept_sublist_splice {edits : List (Edit × Nat)} (horder : InOrder edits) (hsub : edits ⊆ l)
    (hl : ∀ b ∈ l, Retains keep text l b) {start stop : Nat} (hle : start ≤ stop)
    (hbounds : ∀ b ∈ edits, start ≤ b.1.range.start ∧ b.1.range.stop ≤ stop) :
    (kept keep text start stop).Sublist (Nested.render.splice text start stop (forest (edits.map Prod.fst))) := by
  induction edits, horder using InOrder.induction generalizing start stop with
  | nil =>
      rw [List.map_nil, forest, Nested.render.splice]
      exact kept_sublist_slice hle
  | cons b rest horder ihin ihout =>
      have hb := b.1.range.start_le_stop
      obtain ⟨hstart, hstop⟩ := hbounds b List.mem_cons_self
      have hrest : rest ⊆ l := fun x hx => hsub (List.mem_cons_of_mem b hx)
      have hinside : ∀ x ∈ Edit.inside rest b, x ∈ l ∧ Within x b := fun x hx =>
        ⟨hrest (mem_inside.1 hx).1, (mem_inside.1 hx).2⟩
      have hbehind := horder.bounds_outside hstart fun x hx => (hbounds x hx).2
      have hfront : (kept keep text start b.1.range.start.toNat).Sublist (text.slice start b.1.range.start.toNat) :=
        kept_sublist_slice (by omega)
      have hwithin := (hl b (hsub List.mem_cons_self)).render_splice hinside fun first last hle =>
        ihin (fun x hx => (hinside x hx).1) hle
      have hlater := ihout (fun x hx => hrest (mem_outside.1 hx).1) (by omega) hbehind
      rw [horder.splice_cons,
        ← kept_append (show start ≤ b.1.range.start.toNat by omega)
          (show b.1.range.start.toNat ≤ stop by omega),
        ← kept_append (show b.1.range.start.toNat ≤ b.1.range.stop.toNat by omega)
          (show b.1.range.stop.toNat ≤ stop by omega), ← List.append_assoc]
      exact (hfront.append hwithin).append hlater

/-- Edits that all stand at one point and only add texts of one sort leave such a text there. -/
theorem InOrder.splice_point {sort : Text → Prop} {edits : List (Edit × Nat)} (horder : InOrder edits) {point : Nat}
    (hnil : sort []) (happend : ∀ s t, sort s → sort t → sort (s ++ t))
    (hedits : ∀ b ∈ edits, b.1.range.start = point ∧ b.1.range.stop = point ∧
      ∀ t, sort t → sort (b.1.render t)) :
    sort (Nested.render.splice text point point (forest (edits.map Prod.fst))) := by
  induction edits, horder using InOrder.induction with
  | nil =>
      rw [List.map_nil, forest, Nested.render.splice, Text.slice_self]
      exact hnil
  | cons b rest horder ihin ihout =>
      obtain ⟨hstart, hstop, hrender⟩ := hedits b List.mem_cons_self
      have hinside := ihin fun x hx => hedits x (List.mem_cons_of_mem b (mem_inside.1 hx).1)
      have hbehind := ihout fun x hx => hedits x (List.mem_cons_of_mem b (mem_outside.1 hx).1)
      rw [horder.splice_cons, hstart, hstop, Int.toNat_natCast, Text.slice_self, List.nil_append]
      exact happend _ _ (hrender _ hinside) hbehind

/-! ### The whole plan -/

theorem renders_placed {plan : Plan} (hfits : plan.Fits text) (hlaminar : plan.Laminar) :
    Renders text plan (Nested.trace.splice text 0 text.length (forest (ordered plan))).2
      (argumentIn text (placed plan)) (Nested.render.splice text 0 text.length (forest (ordered plan))) := by
  have horder := inOrder_placed hlaminar
  have hbounds : ∀ a ∈ placed plan, ((0 : Nat) : Int) ≤ a.1.range.start ∧ a.1.range.stop ≤ text.length :=
    fun a ha => hfits a.1 (List.fst_mem_of_mem_zipIdx (mem_placed.1 ha))
  refine ⟨?_, fun a ha => argumentIn_placed hfits hlaminar ha, ?_⟩
  · exact (horder.calls_perm 0 text.length).trans ((placed_perm plan).map _)
  · rw [← horder.replaced_tops (tops_placed_perm plan), ordered_eq_map_placed,
      horder.splice_forest (Nat.zero_le _) hbounds]

theorem Retains.render_argumentIn {plan : Plan} (hlaminar : plan.Laminar)
    (hplan : ∀ b ∈ placed plan, Retains keep text (placed plan) b) (ha : a ∈ plan.zipIdx) :
    (kept keep text a.1.range.start.toNat a.1.range.stop.toNat).Sublist
      (a.1.render (argumentIn text (placed plan) a)) := by
  have horder := inOrder_placed hlaminar
  apply (hplan a (mem_placed.2 ha)).render_splice fun b hb => mem_inside.1 hb
  intro first last hle hbounds
  exact (horder.inside a).kept_sublist_splice (fun b hb => (mem_inside.1 hb).1) hplan hle hbounds

theorem kept_sublist_rendered {plan : Plan} (hfits : plan.Fits text) (hlaminar : plan.Laminar)
    (hplan : ∀ b ∈ placed plan, Retains keep text (placed plan) b) :
    (kept keep text 0 text.length).Sublist
      (Nested.render.splice text 0 text.length (forest (ordered plan))) := by
  rw [ordered_eq_map_placed]
  apply (inOrder_placed hlaminar).kept_sublist_splice (fun _ => id) hplan (Nat.zero_le _)
  exact fun b hb => hfits b.1 (List.fst_mem_of_mem_zipIdx (mem_placed.1 hb))

end Edit

end ViewCompiler
