import ViewCompiler.Text.Basic
import Mathlib.Data.List.Infix
import Mathlib.Data.List.TakeWhile

/-!
# Where a text is cut

Every reader of this library takes characters while they belong to some class, or up to the first
occurrence of a mark. Both cuts are settled by what lies before them and the first character or mark
behind: whatever comes after that may be exchanged (`takeWhile_append_stops`, `cut?_append`).
-/

namespace ViewCompiler.Text

variable {p : Char → Bool} {s t : Text}

/-- A text that does not start with a character of a class. -/
def Stops (p : Char → Bool) (t : Text) : Prop := ∀ c ∈ t.head?, p c = false

@[simp] theorem stops_nil : Stops p [] := by simp [Stops]

@[simp] theorem stops_cons {c : Char} : Stops p (c :: t) ↔ p c = false := by simp [Stops]

theorem stops_dropWhile (p : Char → Bool) (t : Text) : Stops p (t.dropWhile p) := by
  intro c hc
  have hhead := List.head?_dropWhile_not p t
  rw [Option.mem_def.1 hc] at hhead
  exact hhead

theorem takeWhile_eq_nil (h : Stops p t) : t.takeWhile p = [] := by
  cases t with
  | nil => rfl
  | cons c rest => rw [List.takeWhile_cons, stops_cons.1 h, if_neg Bool.false_ne_true]

theorem dropWhile_eq_self (h : Stops p t) : t.dropWhile p = t := by
  cases t with
  | nil => rfl
  | cons c rest => rw [List.dropWhile_cons, stops_cons.1 h, if_neg Bool.false_ne_true]

theorem takeWhile_append_stops (hs : ∀ c ∈ s, p c = true) (ht : Stops p t) : (s ++ t).takeWhile p = s := by
  rw [List.takeWhile_append_of_pos hs, takeWhile_eq_nil ht, List.append_nil]

theorem dropWhile_append_stops (hs : ∀ c ∈ s, p c = true) (ht : Stops p t) : (s ++ t).dropWhile p = t := by
  rw [List.dropWhile_append_of_pos hs, dropWhile_eq_self ht]

/-- A text that a class does not exhaust is cut within. -/
theorem dropWhile_append_of_exists (h : ∃ c ∈ s, p c = false) (t : Text) :
    (s ++ t).dropWhile p = s.dropWhile p ++ t := by
  obtain ⟨c, hc, hp⟩ := h
  rw [List.dropWhile_append, if_neg]
  intro hempty
  have hall := List.dropWhile_eq_nil_iff.1 (List.isEmpty_iff.1 hempty) c hc
  rw [hp] at hall
  exact Bool.false_ne_true hall

/-! ### The first occurrence of a mark -/

theorem startsWith_iff {head : Text} : startsWith t head = true ↔ head <+: t := List.isPrefixOf_iff_prefix

variable {pattern before after : Text}

theorem eq_of_cut? (h : cut? pattern t = some (before, after)) : t = before ++ pattern ++ after := by
  induction t generalizing before with
  | nil =>
      rw [cut?] at h
      split at h
      · rename_i hpattern
        cases h
        rw [hpattern, List.append_nil, List.append_nil]
      · cases h
  | cons c rest ih =>
      rw [cut?] at h
      split at h
      · rename_i hstarts
        obtain ⟨beyond, heq⟩ := startsWith_iff.1 hstarts
        cases h
        rw [← heq, List.drop_left, List.nil_append]
      · obtain ⟨⟨front, behind⟩, hcut, hpair⟩ := Option.map_eq_some_iff.1 h
        cases hpair
        rw [ih hcut, List.cons_append, List.cons_append]

/-- The text after the first occurrence does not decide where it is. -/
theorem cut?_append (h : cut? pattern t = some (before, after)) (u : Text) :
    cut? pattern (before ++ pattern ++ u) = some (before, u) := by
  induction t generalizing before with
  | nil =>
      rw [cut?] at h
      split at h
      · rename_i hpattern
        cases h
        subst hpattern
        cases u <;> rfl
      · cases h
  | cons c rest ih =>
      rw [cut?] at h
      split at h
      · cases h
        cases hpattern : pattern ++ u with
        | nil =>
            obtain ⟨rfl, rfl⟩ := List.append_eq_nil_iff.1 hpattern
            rfl
        | cons d others =>
            rw [List.nil_append, hpattern, cut?, ← hpattern, if_pos (startsWith_iff.2 (List.prefix_append _ _)),
              List.drop_left]
      · rename_i hstarts
        obtain ⟨⟨front, behind⟩, hcut, hpair⟩ := Option.map_eq_some_iff.1 h
        cases hpair
        -- The pattern would have to start within what lies before the text that is exchanged.
        have hfits : pattern.length ≤ (c :: front ++ pattern).length := by
          simp only [List.cons_append, List.length_cons, List.length_append]
          omega
        have hnot : ¬ startsWith (c :: front ++ pattern ++ u) pattern = true := by
          rw [eq_of_cut? hcut, ← List.cons_append, ← List.cons_append, startsWith_iff,
            List.isPrefix_append_of_length hfits] at hstarts
          rwa [startsWith_iff, List.isPrefix_append_of_length hfits]
        rw [List.cons_append, List.cons_append] at hnot ⊢
        rw [cut?, if_neg hnot, ih hcut, Option.map_some]

/-! ### Pieces between separators -/

theorem mem_pieces {c : Char} (sep : Char) (hc : c ∈ t) :
    c = sep ∨ ∃ piece ∈ (pieces sep t).1 :: (pieces sep t).2, c ∈ piece := by
  induction t with
  | nil => cases hc
  | cons d rest ih =>
      simp only [pieces]
      by_cases hd : d = sep
      · rw [if_pos hd]
        rcases List.mem_cons.1 hc with rfl | hc
        · exact Or.inl hd
        · exact (ih hc).imp_right fun ⟨piece, hpiece, hmem⟩ => ⟨piece, List.mem_cons_of_mem _ hpiece, hmem⟩
      · rw [if_neg hd]
        rcases List.mem_cons.1 hc with rfl | hc
        · exact Or.inr ⟨_, List.mem_cons_self, List.mem_cons_self⟩
        · refine (ih hc).imp_right fun ⟨piece, hpiece, hmem⟩ => ?_
          rcases List.mem_cons.1 hpiece with rfl | hpiece
          · exact ⟨_, List.mem_cons_self, List.mem_cons_of_mem _ hmem⟩
          · exact ⟨piece, List.mem_cons_of_mem _ hpiece, hmem⟩

theorem pieces_map {sep : Char} {f : Char → Char} (hf : ∀ c, f c = sep ↔ c = sep) (t : Text) :
    pieces sep (t.map f) = ((pieces sep t).1.map f, (pieces sep t).2.map (List.map f)) := by
  induction t with
  | nil => rfl
  | cons d rest ih =>
      simp only [List.map_cons, pieces, ih, hf]
      split <;> simp

end ViewCompiler.Text
