import ViewCompiler.Edit.Apply
import ViewCompiler.Proofs.Edit.Range
import ViewCompiler.Proofs.Members

/-!
# A text with some ranges replaced, offset by offset

`replaced` says what a stretch of text becomes when some of its ranges give way to new texts. It says so
for each offset on its own: what is inserted there, then the new text of the range that begins there,
then the character itself, unless a range covers it. Nothing in it depends on the order of the ranges or
on how far a scan has come.

For ranges that lie beside each other in order it can be computed from left to right (`replaced_cons`),
which is how edits are spliced.
-/

namespace ViewCompiler

namespace Range

/-- The empty range at an offset. -/
def StandsAt (r : Range) (p : Nat) : Prop := r.start = p ∧ r.stop = p

/-- A range that is not empty and starts at an offset. -/
def BeginsAt (r : Range) (p : Nat) : Prop := r.start = p ∧ p < r.stop

/-- The character at an offset lies in the range. -/
def Covers (r : Range) (p : Nat) : Prop := r.start ≤ p ∧ p < r.stop

instance (r : Range) (p : Nat) : Decidable (r.StandsAt p) := inferInstanceAs (Decidable (_ ∧ _))

instance (r : Range) (p : Nat) : Decidable (r.BeginsAt p) := inferInstanceAs (Decidable (_ ∧ _))

instance (r : Range) (p : Nat) : Decidable (r.Covers p) := inferInstanceAs (Decidable (_ ∧ _))

/-- The second range lies behind the first. Of two empty ranges at one point neither lies behind the other. -/
def Beside (r s : Range) : Prop := r.stop ≤ s.start ∧ ¬ r.contains s = true

end Range

namespace Edit

/-- What stands at an offset once each range has given way to its new text. -/
def textAt (text : Text) (stop : Nat) (pieces : List (Range × Text)) (p : Nat) : Text :=
  (pieces.filter (·.1.StandsAt p)).flatMap Prod.snd ++ (pieces.filter (·.1.BeginsAt p)).flatMap Prod.snd ++
    if p < stop ∧ ∀ q ∈ pieces, ¬ q.1.Covers p then text[p]?.toList else []

/-- The text from `start` to `stop` with each range replaced by its new text. -/
def replaced (text : Text) (start stop : Nat) (pieces : List (Range × Text)) : Text :=
  (List.range' start (stop + 1 - start)).flatMap (textAt text stop pieces)

/-! ### One offset -/

theorem textAt_of_lt {text : Text} {stop p : Nat} {pieces : List (Range × Text)}
    (hlater : ∀ q ∈ pieces, p < q.1.start) (hp : p < stop) :
    textAt text stop pieces p = text[p]?.toList := by
  have hstands : pieces.filter (·.1.StandsAt p) = [] := by
    rw [List.filter_eq_nil_iff]
    intro q hq h
    have hlt := hlater q hq
    rw [decide_eq_true_eq, Range.StandsAt] at h
    omega
  have hbegins : pieces.filter (·.1.BeginsAt p) = [] := by
    rw [List.filter_eq_nil_iff]
    intro q hq h
    have hlt := hlater q hq
    rw [decide_eq_true_eq, Range.BeginsAt] at h
    omega
  have hfree : ∀ q ∈ pieces, ¬ q.1.Covers p := by
    intro q hq h
    have hlt := hlater q hq
    unfold Range.Covers at h
    omega
  rw [textAt, hstands, hbegins, if_pos ⟨hp, hfree⟩]
  rfl

/-- Where a range covers the text, its new text stands at the first offset and nothing at the others. -/
theorem textAt_of_covers {text : Text} {stop p : Nat} {r : Range} {new : Text}
    {pieces : List (Range × Text)} (hlater : ∀ q ∈ pieces, r.stop ≤ q.1.start) (hcovers : r.Covers p) :
    textAt text stop ((r, new) :: pieces) p = if r.start = p then new else [] := by
  have hle := hcovers.1
  have hlt := hcovers.2
  have hstands : ((r, new) :: pieces).filter (·.1.StandsAt p) = [] := by
    rw [List.filter_eq_nil_iff]
    intro q hq h
    rw [decide_eq_true_eq, Range.StandsAt] at h
    rcases List.mem_cons.1 hq with rfl | hq
    · dsimp only at h
      omega
    · have hbehind := hlater q hq
      omega
  have hbegins : pieces.filter (·.1.BeginsAt p) = [] := by
    rw [List.filter_eq_nil_iff]
    intro q hq h
    have hbehind := hlater q hq
    rw [decide_eq_true_eq, Range.BeginsAt] at h
    omega
  have hcovered : ¬ (p < stop ∧ ∀ q ∈ (r, new) :: pieces, ¬ q.1.Covers p) :=
    fun h => h.2 (r, new) List.mem_cons_self hcovers
  rw [textAt, hstands, if_neg hcovered, List.filter_cons, hbegins]
  by_cases hp : r.start = p
  · rw [if_pos (decide_eq_true ⟨hp, hlt⟩), if_pos hp]
    simp
  · rw [if_neg (fun h => hp (of_decide_eq_true h).1), if_neg hp]
    rfl

/-- Behind a range the text is what the other ranges make it, after what an empty range inserts. -/
theorem textAt_of_stop_le {text : Text} {stop p : Nat} {r : Range} {new : Text}
    {pieces : List (Range × Text)} (hstop : r.stop ≤ p) :
    textAt text stop ((r, new) :: pieces) p =
      (if r.start = p then new else []) ++ textAt text stop pieces p := by
  have hr := r.start_le_stop
  have hfree : (∀ q ∈ (r, new) :: pieces, ¬ q.1.Covers p) ↔ ∀ q ∈ pieces, ¬ q.1.Covers p := by
    rw [List.forall_mem_cons]
    exact and_iff_right fun h => absurd h.2 (Int.not_lt.2 hstop)
  have hbegins : ¬ r.BeginsAt p := fun h => absurd h.2 (Int.not_lt.2 hstop)
  rw [textAt, textAt, List.filter_cons, List.filter_cons, if_neg (fun h => hbegins (of_decide_eq_true h))]
  simp only [hfree]
  by_cases hp : r.start = p
  · have hstands : r.StandsAt p := ⟨hp, by omega⟩
    rw [if_pos (decide_eq_true hstands), if_pos hp, List.flatMap_cons]
    simp only [List.append_assoc]
  · rw [if_neg (fun h => hp (of_decide_eq_true h).1), if_neg hp, List.nil_append]

/-! ### A stretch of text -/

theorem flatMap_range'_eq_slice (text : Text) (start length : Nat) :
    (List.range' start length).flatMap (fun p => text[p]?.toList) = text.slice start (start + length) := by
  rw [Text.slice, List.drop_take, Nat.add_sub_cancel_left]
  induction length generalizing start with
  | zero => rw [List.range'_zero, List.flatMap_nil, List.take_zero]
  | succ length ih =>
      rw [List.range'_succ, List.flatMap_cons, ih]
      by_cases hstart : start < text.length
      · rw [List.getElem?_eq_getElem hstart, List.drop_eq_getElem_cons hstart]
        rfl
      · have hle : text.length ≤ start := Nat.le_of_not_lt hstart
        rw [List.getElem?_eq_none hle, List.drop_eq_nil_of_le hle,
          List.drop_eq_nil_of_le (Nat.le_succ_of_le hle)]
        simp

theorem flatMap_range'_append (f : Nat → Text) {start middle stop : Nat} (hle : start ≤ middle)
    (hle' : middle ≤ stop) :
    (List.range' start (stop - start)).flatMap f =
      (List.range' start (middle - start)).flatMap f ++ (List.range' middle (stop - middle)).flatMap f := by
  have hlength : stop - start = middle - start + (stop - middle) := by omega
  have hmiddle : start + (middle - start) = middle := by omega
  rw [← List.flatMap_append, hlength, ← List.range'_append_1, hmiddle]

theorem replaced_nil {text : Text} {start stop : Nat} (hle : start ≤ stop) :
    replaced text start stop [] = text.slice start stop := by
  have hlast : textAt text stop [] stop = [] := by
    rw [textAt, if_neg fun h => Nat.lt_irrefl _ h.1]
    rfl
  have hbefore : (List.range' start (stop - start)).flatMap (textAt text stop []) =
      text.slice start stop := by
    rw [← Nat.add_sub_of_le hle, ← flatMap_range'_eq_slice, Nat.add_sub_cancel_left]
    refine List.flatMap_congr fun p hp => textAt_of_lt (fun q hq => absurd hq List.not_mem_nil) ?_
    rw [List.mem_range'_1] at hp
    omega
  rw [replaced, flatMap_range'_append _ hle (show stop ≤ stop + 1 by omega), hbefore, Nat.add_sub_cancel_left,
    List.range'_one, List.flatMap_cons, hlast, List.flatMap_nil, List.append_nil, List.append_nil]

theorem flatMap_textAt_front {text : Text} {start stop : Nat} {r : Range} {new : Text}
    {pieces : List (Range × Text)} (hstart : start ≤ r.start) (hstop : r.stop ≤ stop)
    (hlater : ∀ q ∈ pieces, r.stop ≤ q.1.start) :
    (List.range' start (r.start.toNat - start)).flatMap (textAt text stop ((r, new) :: pieces)) =
      text.slice start r.start.toNat := by
  have hr := r.start_le_stop
  rw [← Nat.add_sub_of_le (show start ≤ r.start.toNat by omega), ← flatMap_range'_eq_slice,
    Nat.add_sub_cancel_left]
  refine List.flatMap_congr fun p hp => textAt_of_lt (fun q hq => ?_) ?_
  · rw [List.mem_range'_1] at hp
    rcases List.mem_cons.1 hq with rfl | hq
    · dsimp only
      omega
    · have hbehind := hlater q hq
      omega
  · rw [List.mem_range'_1] at hp
    omega

theorem flatMap_textAt_within {text : Text} {stop : Nat} {r : Range} {new : Text}
    {pieces : List (Range × Text)} (hstart : 0 ≤ r.start) (hlater : ∀ q ∈ pieces, r.stop ≤ q.1.start) :
    (List.range' r.start.toNat (r.stop.toNat - r.start.toNat)).flatMap (textAt text stop ((r, new) :: pieces)) =
      if r.start = r.stop then [] else new := by
  have hr := r.start_le_stop
  by_cases hempty : r.start = r.stop
  · rw [if_pos hempty, hempty, Nat.sub_self, List.range'_zero, List.flatMap_nil]
  · obtain ⟨length, hlength⟩ : ∃ length, r.stop.toNat - r.start.toNat = length + 1 :=
      ⟨r.stop.toNat - r.start.toNat - 1, by omega⟩
    have hrest : (List.range' (r.start.toNat + 1) length).flatMap (textAt text stop ((r, new) :: pieces)) =
        [] := by
      rw [List.flatMap_eq_nil_iff]
      intro p hp
      rw [List.mem_range'_1] at hp
      rw [textAt_of_covers hlater ⟨by omega, by omega⟩, if_neg (by omega)]
    rw [if_neg hempty, hlength, List.range'_succ, List.flatMap_cons, hrest,
      textAt_of_covers hlater ⟨by omega, by omega⟩, if_pos (by omega), List.append_nil]

theorem flatMap_textAt_behind {text : Text} {stop : Nat} {r : Range} {new : Text}
    {pieces : List (Range × Text)} (hstart : 0 ≤ r.start) (hstop : r.stop ≤ stop) :
    (List.range' r.stop.toNat (stop + 1 - r.stop.toNat)).flatMap (textAt text stop ((r, new) :: pieces)) =
      (if r.start = r.stop then new else []) ++ replaced text r.stop.toNat stop pieces := by
  have hr := r.start_le_stop
  obtain ⟨length, hlength⟩ : ∃ length, stop + 1 - r.stop.toNat = length + 1 :=
    ⟨stop - r.stop.toNat, by omega⟩
  have hfirst : textAt text stop ((r, new) :: pieces) r.stop.toNat =
      (if r.start = r.stop then new else []) ++ textAt text stop pieces r.stop.toNat := by
    rw [textAt_of_stop_le (by omega), Int.toNat_of_nonneg (by omega)]
  rw [replaced, hlength, List.range'_succ, List.flatMap_cons, List.flatMap_cons, hfirst, List.append_assoc]
  congr 2
  refine List.flatMap_congr fun p hp => ?_
  rw [List.mem_range'_1] at hp
  rw [textAt_of_stop_le (by omega), if_neg (by omega), List.nil_append]

/-- Replacing from left to right: the text in front of the first range, its new text, and what the other
ranges make of the text behind it. -/
theorem replaced_cons {text : Text} {start stop : Nat} {r : Range} {new : Text} {pieces : List (Range × Text)}
    (hstart : start ≤ r.start) (hstop : r.stop ≤ stop) (hbeside : ∀ q ∈ pieces, r.Beside q.1) :
    replaced text start stop ((r, new) :: pieces) =
      text.slice start r.start.toNat ++ new ++ replaced text r.stop.toNat stop pieces := by
  have hr := r.start_le_stop
  have hlater : ∀ q ∈ pieces, r.stop ≤ q.1.start := fun q hq => (hbeside q hq).1
  rw [replaced, flatMap_range'_append _ (show start ≤ r.start.toNat by omega) (by omega),
    flatMap_textAt_front hstart hstop hlater,
    flatMap_range'_append _ (show r.start.toNat ≤ r.stop.toNat by omega) (by omega),
    flatMap_textAt_within (by omega) hlater, flatMap_textAt_behind (by omega) hstop]
  -- An empty range is inserted at its one offset, the text of any other stands at its first.
  by_cases hempty : r.start = r.stop
  · rw [if_pos hempty, if_pos hempty, List.nil_append, List.append_assoc]
  · rw [if_neg hempty, if_neg hempty, List.nil_append, List.append_assoc]

/-! ### The order of the ranges -/

theorem replaced_perm {text : Text} {start stop : Nat} {pieces pieces' : List (Range × Text)}
    (hperm : pieces.Perm pieces') (hbeside : pieces.Pairwise fun q q' => q.1.Beside q'.1) :
    replaced text start stop pieces = replaced text start stop pieces' := by
  refine List.flatMap_congr fun p _ => ?_
  have hstands : pieces.filter (·.1.StandsAt p) = pieces'.filter (·.1.StandsAt p) := by
    refine filter_eq_of_perm hperm (hbeside.imp fun {q q'} h hboth => h.2 ?_)
    rw [decide_eq_true_eq, decide_eq_true_eq, Range.StandsAt, Range.StandsAt] at hboth
    have heq : q.1 = q'.1 := Range.eq_iff.2 ⟨by omega, by omega⟩
    exact heq ▸ Range.contains_refl _
  have hbegins : pieces.filter (·.1.BeginsAt p) = pieces'.filter (·.1.BeginsAt p) := by
    refine filter_eq_of_perm hperm (hbeside.imp fun {q q'} h hboth => ?_)
    rw [decide_eq_true_eq, decide_eq_true_eq, Range.BeginsAt, Range.BeginsAt] at hboth
    have hle := h.1
    omega
  have hfree : (∀ q ∈ pieces, ¬ q.1.Covers p) ↔ ∀ q ∈ pieces', ¬ q.1.Covers p :=
    forall_congr' fun q => imp_congr_left hperm.mem_iff
  rw [textAt, textAt, hstands, hbegins]
  simp only [hfree]

end Edit

end ViewCompiler
