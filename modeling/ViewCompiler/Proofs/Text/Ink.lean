import ViewCompiler.Text.Blank
import ViewCompiler.Text.Indentation
import Mathlib.Data.List.TakeWhile

/-!
# What of a text is not blank

Laying out code anew moves blanks around and nothing else. The ink of a text is what remains of it without
its blanks. Lines are only a way to read a text (`unlines_lines`), and the breaks between them are blank, so
stripping, dedenting and indenting all leave the ink as it is as long as the base consists of blanks.
-/

namespace ViewCompiler.Text

/-- The characters of a text that are not blank, in order. -/
def ink (t : Text) : Text := t.filter fun c => !isBlank c

@[simp] theorem ink_nil : ink [] = [] := rfl

@[simp] theorem ink_append (s t : Text) : ink (s ++ t) = ink s ++ ink t := List.filter_append s t

theorem ink_sublist (t : Text) : (ink t).Sublist t := List.filter_sublist

theorem ink_mono {s t : Text} (h : s.Sublist t) : (ink s).Sublist (ink t) := h.filter _

theorem isBlank_of_layout {c : Char} (h : (c == ' ' || c == '\t') = true) : isBlank c = true := by
  rcases Bool.or_eq_true_iff.1 h with hspace | htab
  · rw [beq_iff_eq.1 hspace]
    decide
  · rw [beq_iff_eq.1 htab]
    decide

theorem ink_eq_self {t : Text} (h : ∀ c ∈ t, isBlank c = false) : ink t = t := by
  apply List.filter_eq_self.2
  intro c hc
  rw [h c hc]
  rfl

theorem ink_eq_nil {t : Text} (h : t.isAllBlank = true) : ink t = [] := by
  apply List.filter_eq_nil_iff.2
  intro c hc
  rw [List.all_eq_true.1 h c hc]
  decide

/-! ### Dropping blanks at the ends -/

theorem ink_dropWhile {p : Char → Bool} (hp : ∀ c, p c = true → isBlank c = true) (t : Text) :
    ink (t.dropWhile p) = ink t := by
  have hfront : isAllBlank (t.takeWhile p) = true := by
    apply List.all_eq_true.2
    intro c hc
    exact hp c (List.mem_takeWhile_imp hc)
  calc ink (t.dropWhile p) = ink (t.takeWhile p) ++ ink (t.dropWhile p) := by rw [ink_eq_nil hfront, List.nil_append]
    _ = ink t := by rw [← ink_append, List.takeWhile_append_dropWhile]

theorem ink_reverse (t : Text) : ink t.reverse = (ink t).reverse := List.filter_reverse

@[simp] theorem ink_strip (t : Text) : ink t.strip = ink t := by
  rw [strip, stripRight, ink_reverse, ink_dropWhile (fun _ => id), ink_reverse, List.reverse_reverse, stripLeft,
    ink_dropWhile fun _ => id]

/-! ### Lines -/

theorem unlines_pieces (t : Text) : join ['\n'] ((pieces '\n' t).1 :: (pieces '\n' t).2) = t := by
  induction t with
  | nil => rfl
  | cons c rest ih =>
      rcases hrest : pieces '\n' rest with ⟨first, others⟩
      simp only [hrest] at ih
      simp only [pieces, hrest]
      by_cases hbreak : c = '\n'
      · rw [if_pos hbreak, hbreak, ← ih]
        simp [join, List.intercalate]
      · rw [if_neg hbreak, ← ih]
        cases others <;> simp [join, List.intercalate]

theorem unlines_lines (t : Text) : unlines (lines t).1 (lines t).2 = t := unlines_pieces t

theorem ink_join (parts : List Text) : ink (join ['\n'] parts) = parts.flatMap ink := by
  induction parts with
  | nil => rfl
  | cons part others ih =>
      cases others with
      | nil => simp [join, List.intercalate]
      | cons next others =>
          have hbreak : ink ['\n'] = [] := by decide
          have hsplit : join ['\n'] (part :: next :: others) = part ++ ['\n'] ++ join ['\n'] (next :: others) := by
            simp [join, List.intercalate]
          rw [hsplit, ink_append, ink_append, hbreak, ih, List.append_nil, List.flatMap_cons (x := part)]

theorem ink_unlines (first : Text) (others : List Text) :
    ink (unlines first others) = ink first ++ others.flatMap ink := by
  rw [unlines, ink_join, List.flatMap_cons]

theorem ink_lines (t : Text) : ink (lines t).1 ++ (lines t).2.flatMap ink = ink t := by
  rw [← ink_unlines, unlines_lines]

theorem ink_map_lines {f : Text → Text} (hf : ∀ line, ink (f line) = ink line) (t : Text) :
    ink (unlines (lines t).1 ((lines t).2.map f)) = ink t := by
  rw [ink_unlines, List.flatMap_map]
  simp only [hf]
  exact ink_lines t

/-! ### Indentation -/

section Base

variable {base : Text}

theorem ink_dedentLine (hbase : base.isAllBlank = true) (line : Text) : ink (dedentLine base line) = ink line := by
  unfold dedentLine
  split
  · rename_i hstarts
    obtain ⟨rest, rfl⟩ := List.isPrefixOf_iff_prefix.1 hstarts
    rw [List.drop_left, ink_append, ink_eq_nil hbase, List.nil_append]
  · exact ink_dropWhile (fun _ => isBlank_of_layout) line

theorem ink_dedent (hbase : base.isAllBlank = true) (t : Text) : ink (dedent base t) = ink t :=
  ink_map_lines (ink_dedentLine hbase) t

theorem ink_indent (hbase : base.isAllBlank = true) (t : Text) : ink (indent base t) = ink t := by
  apply ink_map_lines
  intro line
  split
  · rfl
  · rw [ink_append, ink_eq_nil hbase, List.nil_append]

end Base

end ViewCompiler.Text
