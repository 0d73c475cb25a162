import ViewCompiler.Proofs.Text.Cut
import ViewCompiler.Proofs.Text.Ink

/-!
# Texts without the blanks at their ends

Stripping leaves a part of the text that neither starts nor ends with a blank, and nothing at all only of blanks.
-/

namespace ViewCompiler.Text

variable {c : Char} {t : Text}

theorem stripRight_isPrefix (t : Text) : stripRight t <+: t := by
  rw [stripRight, ← List.reverse_suffix, List.reverse_reverse]
  exact List.dropWhile_suffix isBlank

theorem strip_infix (t : Text) : t.strip <:+: t :=
  (stripRight_isPrefix _).isInfix.trans (List.dropWhile_suffix isBlank).isInfix

theorem isBlank_of_getLast?_strip (h : c ∈ t.strip.getLast?) : isBlank c = false := by
  rw [strip, stripRight, List.getLast?_reverse] at h
  exact stops_dropWhile isBlank _ c h

theorem stops_strip (t : Text) : Stops isBlank t.strip := by
  intro c hc
  obtain ⟨rest, hrest⟩ := stripRight_isPrefix (stripLeft t)
  have hhead : c ∈ (stripLeft t).head? := by
    rw [← hrest, List.head?_append_of_ne_nil]
    · exact hc
    · exact List.ne_nil_of_mem (List.mem_of_mem_head? hc)
  exact stops_dropWhile isBlank t c hhead

theorem strip_eq_self (hfront : Stops isBlank t) (hback : ∀ c ∈ t.getLast?, isBlank c = false) : t.strip = t := by
  have hreverse : Stops isBlank t.reverse := by
    intro c hc
    rw [List.head?_reverse] at hc
    exact hback c hc
  rw [strip, stripLeft, dropWhile_eq_self hfront, stripRight, dropWhile_eq_self hreverse, List.reverse_reverse]

theorem strip_strip (t : Text) : t.strip.strip = t.strip :=
  strip_eq_self (stops_strip t) fun _ => isBlank_of_getLast?_strip

theorem strip_blanks_append {blanks : Text} (h : blanks.isAllBlank = true) (t : Text) : (blanks ++ t).strip = t.strip := by
  rw [strip, stripLeft, List.dropWhile_append_of_pos (List.all_eq_true.1 h), strip, stripLeft]

theorem strip_space (t : Text) : strip (' ' :: t) = t.strip := by
  have hblank : isAllBlank [' '] = true := by decide
  exact strip_blanks_append hblank t

/-- What stripping takes off is blank. -/
theorem exists_blanks_around (t : Text) :
    ∃ front back : Text, t = front ++ (t.strip ++ back) ∧ front.isAllBlank = true ∧ back.isAllBlank = true := by
  refine ⟨t.takeWhile isBlank, ((stripLeft t).reverse.takeWhile isBlank).reverse, ?_, List.all_takeWhile, ?_⟩
  · have hback := List.takeWhile_append_dropWhile (p := isBlank) (l := (stripLeft t).reverse)
    rw [← List.reverse_inj, List.reverse_append, List.reverse_reverse] at hback
    rw [strip, stripRight, hback, stripLeft, List.takeWhile_append_dropWhile]
  · rw [isAllBlank, List.all_reverse]
    exact List.all_takeWhile

theorem isAllBlank_iff : t.isAllBlank = true ↔ ink t = [] := by
  simp [isAllBlank, ink]

theorem isAllBlank_strip (t : Text) : t.strip.isAllBlank = t.isAllBlank := by
  rw [Bool.eq_iff_iff, isAllBlank_iff, isAllBlank_iff, ink_strip]

theorem isAllBlank_of_strip_ne_nil (h : t.strip ≠ []) : t.isAllBlank = false := by
  rw [← isAllBlank_strip, ← Bool.not_eq_true, isAllBlank, List.all_eq_true]
  intro hblank
  have hlast := isBlank_of_getLast?_strip (List.getLast?_eq_some_getLast h)
  rw [hblank _ (List.getLast_mem h)] at hlast
  cases hlast

end ViewCompiler.Text
