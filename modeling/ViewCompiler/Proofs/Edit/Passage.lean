import ViewCompiler.Proofs.Edit.Kept
import ViewCompiler.Proofs.Text.Layout

/-!
# A passage under nested edits

No edit reaches into a passage of the text: each lies beside it or around it. An edit around it is given a text with
the passage in it, and what it makes of the passage does not depend on the rest (`Passes`). Then the same holds of all
edits together (`InOrder.splice_passage`): what they leave around the passage is the same whatever stands in its place,
and the passage comes out as the edits around it make it, from the innermost to the outermost (`layered`).

The induction is along the nesting. An edit beside the passage sees nothing of it (`InOrder.splice_exchange`).
-/

namespace ViewCompiler

/-- The text with something else in place of the passage from `first` to `last`. -/
def Text.exchange (t : Text) (first last : Nat) (x : Text) : Text := t.take first ++ x ++ t.drop last

namespace Text

variable {t x : Text} {first last start stop : Nat}

section Exchange

variable (hle : first ≤ last) (hlast : last ≤ t.length)

include hle hlast

theorem slice_exchange_before (hstop : stop ≤ first) : (t.exchange first last x).slice start stop = t.slice start stop := by
  have htake : (t.take first).length = first := List.length_take_of_le (by omega)
  rw [slice, slice, exchange, List.append_assoc, List.take_append_of_le_length (by omega), List.take_take,
    Nat.min_eq_left hstop]

variable (hx : x.length = last - first)

include hx

theorem slice_exchange_behind (hstart : last ≤ start) : (t.exchange first last x).slice start stop = t.slice start stop := by
  have hfront : (t.take first ++ x).length = last := by
    rw [List.length_append, List.length_take_of_le (by omega), hx]
    omega
  rw [slice, slice, List.drop_take, List.drop_take, exchange, List.drop_append, List.drop_eq_nil_of_le (by omega),
    List.nil_append, hfront, List.drop_drop, Nat.add_sub_of_le hstart]

theorem slice_exchange (hstart : start ≤ first) (hstop : last ≤ stop) :
    (t.exchange first last x).slice start stop = t.slice start first ++ x ++ t.slice last stop := by
  have hfront : (t.take first).length = first := List.length_take_of_le (by omega)
  have hmiddle : (t.exchange first last x).slice first last = x := by
    rw [slice, List.drop_take, exchange, List.append_assoc, List.drop_left' hfront, List.take_left' hx]
  rw [← slice_append _ hstart (Nat.le_trans hle hstop), ← slice_append _ hle hstop,
    slice_exchange_before hle hlast (Nat.le_refl first), hmiddle, slice_exchange_behind hle hlast hx (Nat.le_refl last),
    List.append_assoc]

theorem length_exchange : (t.exchange first last x).length = t.length := by
  rw [exchange, List.length_append, List.length_append, List.length_take_of_le (by omega), List.length_drop, hx]
  omega

omit hlast hx in
theorem exchange_slice : t.exchange first last (t.slice first last) = t := by
  have hfront := List.take_append_drop first (t.take last)
  rw [List.take_take, Nat.min_eq_left hle] at hfront
  rw [exchange, slice, hfront, List.take_append_drop]

end Exchange

end Text

namespace Edit

open Text (Lays Firm)

variable {text : Text} {first last start stop : Nat} {a b : Edit × Nat} {l edits : List (Edit × Nat)}
  {layer : Edit × Nat → Text → Text} {x : Text}

/-- The edit lies around the passage. -/
def Around (first last : Nat) (a : Edit × Nat) : Prop := a.1.range.start ≤ first ∧ last ≤ a.1.range.stop

instance (first last : Nat) (a : Edit × Nat) : Decidable (Around first last a) := inferInstanceAs (Decidable (_ ∧ _))

/-- The edit lies beside the passage. -/
def Aside (first last : Nat) (a : Edit × Nat) : Prop := a.1.range.stop ≤ first ∨ last ≤ a.1.range.start

/-- What an edit around the passage makes of it depends on nothing else. The edit may cut off the margins of its range,
where no edit reaches. -/
def Passes (text : Text) (first last : Nat) (l : List (Edit × Nat)) (a : Edit × Nat) (h : Text → Text) : Prop :=
  ∃ front back : Nat, a.1.range.start.toNat ≤ front ∧ front ≤ first ∧ last ≤ back ∧ back ≤ a.1.range.stop.toNat ∧
    (∀ b ∈ l, Within b a → front ≤ b.1.range.start ∧ b.1.range.stop ≤ back) ∧
    Lays (fun x => a.1.render
      (text.slice a.1.range.start.toNat front ++ x ++ text.slice back a.1.range.stop.toNat)) h

/-- An edit without margins. -/
theorem Passes.of_lays {h : Text → Text} (hstart : 0 ≤ a.1.range.start) (haround : Around first last a)
    (hlays : Lays a.1.render h) : Passes text first last l a h := by
  unfold Around at haround
  refine ⟨a.1.range.start.toNat, a.1.range.stop.toNat, Nat.le_refl _, by omega, by omega, Nat.le_refl _, ?_, ?_⟩
  · intro b _ hwithin
    have hcontains := Range.contains_iff.1 hwithin.1
    omega
  · rw [Text.slice_self, Text.slice_self]
    simpa using hlays

/-- What the edits around the passage make of it, the innermost first. -/
def layered (layer : Edit × Nat → Text → Text) (first last : Nat) (edits : List (Edit × Nat)) (x : Text) : Text :=
  (edits.filter (Around first last ·)).foldr layer x

section Passage

variable (hle : first < last) (hlast : last ≤ text.length)

include hle hlast

/-- Edits beside the passage do not see it. -/
theorem InOrder.splice_exchange (horder : InOrder edits) (hx : x.length = last - first) (start stop : Nat)
    (hbounds : ∀ b ∈ edits, start ≤ b.1.range.start ∧ b.1.range.stop ≤ stop) (haside : stop ≤ first ∨ last ≤ start) :
    Nested.render.splice (text.exchange first last x) start stop (forest (edits.map Prod.fst)) =
      Nested.render.splice text start stop (forest (edits.map Prod.fst)) := by
  have hslice {p q : Nat} (hpq : q ≤ first ∨ last ≤ p) :
      (text.exchange first last x).slice p q = text.slice p q := by
    rcases hpq with h | h
    · exact Text.slice_exchange_before (Nat.le_of_lt hle) hlast h
    · exact Text.slice_exchange_behind (Nat.le_of_lt hle) hlast hx h
  induction edits, horder using InOrder.induction generalizing start stop with
  | nil =>
      rw [List.map_nil, forest, Nested.render.splice, Nested.render.splice]
      exact hslice haside
  | cons b rest horder ihin ihout =>
      have hb := b.1.range.start_le_stop
      obtain ⟨hstart, hstop⟩ := hbounds b List.mem_cons_self
      have hwithin := ihin b.1.range.start.toNat b.1.range.stop.toNat (fun x hx => by
        have hcontains := Range.contains_iff.1 (mem_inside.1 hx).2.1
        omega) (by omega)
      have hbehind := ihout b.1.range.stop.toNat stop (horder.bounds_outside hstart fun x hx => (hbounds x hx).2) (by omega)
      rw [horder.splice_cons, horder.splice_cons, hwithin, hbehind, hslice (by omega)]

omit hlast in
theorem InOrder.around_of_around {rest : List (Edit × Nat)} (horder : InOrder (b :: rest)) (hb : Around first last b) :
    rest.filter (Around first last ·) = (Edit.inside rest b).filter (Around first last ·) := by
  rw [Edit.inside, List.filter_filter]
  apply List.filter_congr
  intro y hy
  by_cases haround : Around first last y
  · -- Both lie around the passage, so they are not beside each other.
    have hwithin : Within y b := by
      by_contra hout
      have hbeside := (horder.beside hy hout).1
      unfold Around at hb haround
      omega
    simp [haround, hwithin]
  · simp [haround]

omit hlast in
theorem InOrder.around_of_before {rest : List (Edit × Nat)} (hb : b.1.range.stop ≤ first) :
    (b :: rest).filter (Around first last ·) = (Edit.outside rest b).filter (Around first last ·) := by
  have hnot : ¬ Around first last b := by
    unfold Around
    omega
  rw [List.filter_cons_of_neg (by simpa using hnot), Edit.outside, List.filter_filter]
  apply List.filter_congr
  intro y hy
  by_cases haround : Around first last y
  · have hout : ¬ Within y b := by
      intro hwithin
      have hcontains := Range.contains_iff.1 hwithin.1
      unfold Around at haround
      omega
    simp [haround, hout]
  · simp [haround]

omit hlast in
theorem InOrder.around_of_behind {rest : List (Edit × Nat)} (horder : InOrder (b :: rest)) (hb : last ≤ b.1.range.start) :
    (b :: rest).filter (Around first last ·) = [] := by
  apply List.filter_eq_nil_iff.2
  intro y hy
  have hstart : b.1.range.start ≤ y.1.range.start := by
    rcases List.mem_cons.1 hy with rfl | hrest
    · exact Int.le_refl _
    · have hprecedes := (horder.before hrest).1
      unfold Range.Precedes at hprecedes
      omega
  have hnot : ¬ Around first last y := by
    unfold Around
    omega
  simpa using hnot

/-- The edits leave the same around the passage whatever stands in its place, and make of it what the edits around it
make of it. -/
theorem InOrder.splice_passage (horder : InOrder edits) (hsub : edits ⊆ l)
    (hl : ∀ b ∈ l, Aside first last b ∨ Around first last b ∧ Passes text first last l b (layer b))
    (hstart : start ≤ first) (hstop : last ≤ stop)
    (hbounds : ∀ b ∈ edits, start ≤ b.1.range.start ∧ b.1.range.stop ≤ stop) :
    ∃ s t, ∀ x, Firm x → x.length = last - first → Firm (layered layer first last edits x) ∧
      Nested.render.splice (text.exchange first last x) start stop (forest (edits.map Prod.fst)) =
        s ++ layered layer first last edits x ++ t := by
  induction edits, horder using InOrder.induction generalizing start stop with
  | nil =>
      refine ⟨text.slice start first, text.slice last stop, fun x hfirm hx => ⟨hfirm, ?_⟩⟩
      rw [List.map_nil, forest, Nested.render.splice, Text.slice_exchange (Nat.le_of_lt hle) hlast hx hstart hstop]
      rfl
  | cons b rest horder ihin ihout =>
      have hb := b.1.range.start_le_stop
      obtain ⟨hbstart, hbstop⟩ := hbounds b List.mem_cons_self
      have hrest : rest ⊆ l := fun y hy => hsub (List.mem_cons_of_mem b hy)
      have hin : ∀ y ∈ Edit.inside rest b, y ∈ l ∧ Within y b := fun y hy =>
        ⟨hrest (mem_inside.1 hy).1, (mem_inside.1 hy).2⟩
      have hout := horder.bounds_outside hbstart fun y hy => (hbounds y hy).2
      -- What the edit is given and what is behind it, if the passage is not there.
      have hgiven {x : Text} (hx : x.length = last - first)
          (haside : b.1.range.stop.toNat ≤ first ∨ last ≤ b.1.range.start.toNat) :=
        (horder.tail.inside b).splice_exchange hle hlast hx b.1.range.start.toNat b.1.range.stop.toNat (fun y hy => by
            have hcontains := Range.contains_iff.1 (hin y hy).2.1
            omega) haside
      have hbehind {x : Text} (hx : x.length = last - first) (haside : last ≤ b.1.range.stop.toNat) :=
        (horder.tail.outside b).splice_exchange hle hlast hx _ stop hout (Or.inr haside)
      rcases hl b (hsub List.mem_cons_self) with (hbefore | hafter) | ⟨haround, hpasses⟩
      · -- The edit stands before the passage.
        obtain ⟨s, t, hlater⟩ := ihout (fun y hy => hrest (mem_outside.1 hy).1) (by omega) hstop hout
        refine ⟨text.slice start b.1.range.start.toNat ++ b.1.render (Nested.render.splice text b.1.range.start.toNat
          b.1.range.stop.toNat (forest ((Edit.inside rest b).map Prod.fst))) ++ s, t, fun x hfirm hx => ?_⟩
        obtain ⟨hfirm', hlater⟩ := hlater x hfirm hx
        rw [layered, InOrder.around_of_before hle hbefore]
        refine ⟨hfirm', ?_⟩
        rw [horder.splice_cons, hgiven hx (by omega), hlater,
          Text.slice_exchange_before (Nat.le_of_lt hle) hlast (by omega)]
        simp [layered]
      · -- The edit stands behind the passage, and so do all that follow.
        refine ⟨text.slice start first, text.slice last b.1.range.start.toNat ++
          b.1.render (Nested.render.splice text b.1.range.start.toNat b.1.range.stop.toNat
            (forest ((Edit.inside rest b).map Prod.fst))) ++
          Nested.render.splice text b.1.range.stop.toNat stop (forest ((Edit.outside rest b).map Prod.fst)),
          fun x hfirm hx => ?_⟩
        rw [layered, horder.around_of_behind hle hafter]
        refine ⟨hfirm, ?_⟩
        rw [horder.splice_cons, hgiven hx (by omega), hbehind hx (by omega),
          Text.slice_exchange (Nat.le_of_lt hle) hlast hx hstart (by omega)]
        simp
      · obtain ⟨front, back, hfront, hfront', hback, hback', hmargins, hlays⟩ := hpasses
        obtain ⟨s, t, hpassage⟩ := ihin (fun y hy => (hin y hy).1) hfront' hback fun y hy =>
          hmargins y (hin y hy).1 (hin y hy).2
        obtain ⟨s', t', hrender⟩ := hlays.around s t
        refine ⟨text.slice start b.1.range.start.toNat ++ s', t' ++ Nested.render.splice text b.1.range.stop.toNat stop
          (forest ((Edit.outside rest b).map Prod.fst)), fun x hfirm hx => ?_⟩
        obtain ⟨hfirm', hpassage⟩ := hpassage x hfirm hx
        have hlayered : layered layer first last (b :: rest) x =
            layer b (layered layer first last (Edit.inside rest b) x) := by
          rw [layered, List.filter_cons_of_pos (by simpa using haround), List.foldr_cons, layered,
            horder.around_of_around hle haround]
        unfold Around at haround
        rw [hlayered]
        refine ⟨hlays.firm _ hfirm', ?_⟩
        rw [horder.splice_cons, hbehind hx (by omega),
          splice_forest_between hfront (by omega) hback' fun y hy => hmargins y (hin y hy).1 (hin y hy).2, hpassage,
          Text.slice_exchange_before (Nat.le_of_lt hle) hlast hfront',
          Text.slice_exchange_behind (Nat.le_of_lt hle) hlast hx hback,
          Text.slice_exchange_before (Nat.le_of_lt hle) hlast (by omega), hrender _ hfirm']
        simp

theorem apply_exchange {plan : Plan} (hfits : plan.Fits text) (hlaminar : plan.Laminar)
    (hplan : ∀ b ∈ placed plan, Aside first last b ∨
      Around first last b ∧ Passes text first last (placed plan) b (layer b)) :
    ∃ s t, ∀ x, Firm x → x.length = last - first → ∃ stats,
      apply (text.exchange first last x) plan = .ok (s ++ layered layer first last (placed plan) x ++ t, stats) := by
  have hbounds : ∀ b ∈ placed plan, ((0 : Nat) : Int) ≤ b.1.range.start ∧ b.1.range.stop ≤ text.length :=
    fun b hb => hfits b.1 (List.fst_mem_of_mem_zipIdx (mem_placed.1 hb))
  obtain ⟨s, t, hpassage⟩ := (inOrder_placed hlaminar).splice_passage hle hlast (fun _ => id) hplan (Nat.zero_le _) hlast
    hbounds
  refine ⟨s, t, fun x hfirm hx => ?_⟩
  have hlength := Text.length_exchange (Nat.le_of_lt hle) hlast hx
  have hfits' : plan.Fits (text.exchange first last x) := by
    intro e he
    rw [hlength]
    exact hfits e he
  obtain ⟨stats, happly⟩ := apply_of_laminar hfits' hlaminar
  refine ⟨stats, ?_⟩
  rw [happly, hlength, ordered_eq_map_placed, (hpassage x hfirm hx).2]

end Passage

end Edit

end ViewCompiler
