import ViewCompiler.Proofs.Text.Strip
import ViewCompiler.Text.Word

/-!
# Words

Words with single spaces between them are found again (`words_join`), and such a text has no blank at its ends. What a
variable name is made of is never blank (`isBlank_of_isWordChar`).
-/

namespace ViewCompiler.Text

variable {c : Char} {s t w : Text} {parts ws : List Text}

theorem join_cons {sep : Text} (h : parts ≠ []) (p : Text) : join sep (p :: parts) = p ++ (sep ++ join sep parts) := by
  obtain ⟨q, others, rfl⟩ := List.exists_cons_of_ne_nil h
  simp [join, List.intercalate]

theorem join_singleton (sep p : Text) : join sep [p] = p := List.intercalate_singleton

theorem join_append {sep : Text} {others : List Text} (h : parts ≠ []) (h' : others ≠ []) :
    join sep (parts ++ others) = join sep parts ++ (sep ++ join sep others) := by
  induction parts with
  | nil => exact absurd rfl h
  | cons p parts ih =>
      by_cases hlast : parts = []
      · rw [hlast, List.singleton_append, join_cons h', join_singleton]
      · rw [List.cons_append, join_cons (by simp [hlast]), ih hlast, join_cons hlast]
        simp only [List.append_assoc]

theorem pieces_append_of_notMem {sep : Char} (h : sep ∉ s) (t : Text) :
    pieces sep (s ++ t) = (s ++ (pieces sep t).1, (pieces sep t).2) := by
  induction s with
  | nil => rfl
  | cons c s ih =>
      have hc : c ≠ sep := fun heq => h (heq ▸ List.mem_cons_self)
      have hs := ih fun hmem => h (List.mem_cons_of_mem c hmem)
      rw [List.cons_append, pieces, hs]
      simp only [if_neg hc]
      rfl

/-! ### Texts without blanks -/

/-- A text that is not empty and has no blank in it. -/
def IsWord (w : Text) : Prop := w ≠ [] ∧ ∀ c ∈ w, isBlank c = false

instance (w : Text) : Decidable (IsWord w) :=
  -- The characters of the text are tried, and not all that there are.
  decidable_of_iff ((!w.isEmpty && w.all (!isBlank ·)) = true) (by simp [IsWord])

theorem IsWord.append (hs : IsWord s) (ht : IsWord t) : IsWord (s ++ t) :=
  ⟨List.append_ne_nil_of_left_ne_nil hs.1 t, List.forall_mem_append.2 ⟨hs.2, ht.2⟩⟩

theorem IsWord.strip_eq (h : IsWord w) : w.strip = w := by
  apply strip_eq_self
  · exact fun c hc => h.2 c (List.mem_of_mem_head? hc)
  · exact fun c hc => h.2 c (List.mem_of_mem_getLast? hc)

theorem join_ne_nil {sep : Text} (hne : ws ≠ []) (h : ∀ w ∈ ws, IsWord w) : join sep ws ≠ [] := by
  obtain ⟨w, others, rfl⟩ := List.exists_cons_of_ne_nil hne
  have hw := (h w List.mem_cons_self).1
  by_cases hothers : others = []
  · rwa [hothers, join_singleton]
  · rw [join_cons hothers]
    simp [hw]

theorem stops_join {sep : Text} (h : ∀ w ∈ ws, IsWord w) : Stops isBlank (join sep ws) := by
  cases ws with
  | nil => exact stops_nil
  | cons w others =>
      have hw := h w List.mem_cons_self
      intro c hc
      by_cases hothers : others = []
      · rw [hothers, join_singleton] at hc
        exact hw.2 c (List.mem_of_mem_head? hc)
      · rw [join_cons hothers, List.head?_append_of_ne_nil _ hw.1] at hc
        exact hw.2 c (List.mem_of_mem_head? hc)

theorem isBlank_of_getLast?_join {sep : Text} (h : ∀ w ∈ ws, IsWord w) :
    ∀ c ∈ (join sep ws).getLast?, isBlank c = false := by
  induction ws with
  | nil => exact nofun
  | cons w others ih =>
      rw [List.forall_mem_cons] at h
      intro c hc
      by_cases hothers : others = []
      · rw [hothers, join_singleton] at hc
        exact h.1.2 c (List.mem_of_mem_getLast? hc)
      · apply ih h.2
        rwa [join_cons hothers, ← List.append_assoc, List.getLast?_append_of_ne_nil _ (join_ne_nil hothers h.2)] at hc

theorem strip_join {sep : Text} (h : ∀ w ∈ ws, IsWord w) : (join sep ws).strip = join sep ws :=
  strip_eq_self (stops_join h) (isBlank_of_getLast?_join h)

/-! ### The words of a text -/

theorem split_append (h : ∀ c ∈ w, isBlank c = false) (t : Text) :
    words.split (w ++ t) = (w ++ (words.split t).1, (words.split t).2) := by
  induction w with
  | nil => rfl
  | cons c w ih =>
      rw [List.forall_mem_cons] at h
      rw [List.cons_append, words.split, ih h.2, h.1]
      rfl

theorem split_blank (hc : isBlank c = true) (t : Text) : words.split (c :: t) = ([], words t) := by
  rw [words.split, hc]
  rfl

theorem words_word (h : IsWord w) : words w = [w] := by
  have hsplit := split_append h.2 []
  rw [List.append_nil] at hsplit
  simp [words, hsplit, words.split, h.1]

theorem words_word_append (h : IsWord w) (hc : isBlank c = true) (t : Text) : words (w ++ c :: t) = w :: words t := by
  rw [words, split_append h.2, split_blank hc]
  simp [h.1]

theorem words_join (h : ∀ w ∈ ws, IsWord w) : words (join [' '] ws) = ws := by
  induction ws with
  | nil => rfl
  | cons w others ih =>
      rw [List.forall_mem_cons] at h
      by_cases hothers : others = []
      · rw [hothers, join_singleton, words_word h.1]
      · rw [join_cons hothers, List.singleton_append, words_word_append h.1 (by decide), ih h.2]

/-! ### Characters of words -/

/-- The runs of blank characters, in order. -/
def blankRuns : List (Nat × Nat) :=
  [(0x9, 0xD), (0x1C, 0x20), (0x85, 0x85), (0xA0, 0xA0), (0x1680, 0x1680), (0x2000, 0x200A), (0x2028, 0x2029),
   (0x202F, 0x202F), (0x205F, 0x205F), (0x3000, 0x3000)]

theorem isBlank_iff : isBlank c = true ↔ ∃ run ∈ blankRuns, run.1 ≤ c.toNat ∧ c.toNat ≤ run.2 := by
  simp only [isBlank, blankRuns, List.exists_mem_cons_iff, List.not_mem_nil, false_and, exists_false, or_false,
    Bool.or_eq_true, Bool.and_eq_true, decide_eq_true_eq, beq_iff_eq]
  omega

theorem wordRuns_apart : ∀ run ∈ wordRunsLow ++ wordRunsHigh, ∀ gap ∈ blankRuns, run.2 < gap.1 ∨ gap.2 < run.1 := by
  decide +kernel

theorem isWordChar_iff : isWordChar c = true ↔
    ∃ run ∈ if c.toNat < 0x3000 then wordRunsLow else wordRunsHigh, run.1 ≤ c.toNat ∧ c.toNat ≤ run.2 := by
  simp [isWordChar]

theorem isBlank_of_isWordChar (h : isWordChar c = true) : isBlank c = false := by
  obtain ⟨run, hrun, hfirst, hlast⟩ := isWordChar_iff.1 h
  have hmem : run ∈ wordRunsLow ++ wordRunsHigh := by
    split at hrun
    · exact List.mem_append_left _ hrun
    · exact List.mem_append_right _ hrun
  rw [Bool.eq_false_iff]
  intro hblank
  obtain ⟨gap, hgap, hbegin, hend⟩ := isBlank_iff.1 hblank
  have hapart := wordRuns_apart run hmem gap hgap
  omega

theorem isWordChar_of_isAlpha (h : c.isAlpha = true) : isWordChar c = true := by
  have hcase : c.isUpper = true ∨ c.isLower = true := Bool.or_eq_true_iff.1 h
  rw [isWordChar_iff]
  rcases hcase with hupper | hlower
  · have hcode : 0x41 ≤ c.toNat ∧ c.toNat ≤ 0x5A := of_decide_eq_true hupper
    rw [if_pos (by omega)]
    exact ⟨(0x41, 0x5A), by decide, hcode⟩
  · have hcode : 0x61 ≤ c.toNat ∧ c.toNat ≤ 0x7A :=
      (Bool.and_eq_true_iff.1 hlower).imp of_decide_eq_true of_decide_eq_true
    rw [if_pos (by omega)]
    exact ⟨(0x61, 0x7A), by decide, hcode⟩

end ViewCompiler.Text
