import ViewCompiler.Text.Position
import ViewCompiler.Proofs.Text.Layout

/-!
# Positions in the order of a text

Offsets are compared by the positions that are told of them: a later offset has a later line, or a later column of
the same line. This holds past the end of a text too, since columns go on there.

A position leads back to its offset. The line says where to count the column from: counting as many line feeds from
the start of the text ends where the search back from the offset ended (`lineOffset?_count`). Only one line starts
up to an offset and goes on behind it, so the positions of offsets are exactly those that lie on their lines.
-/

namespace ViewCompiler

/-- Positions in the order in which one reads. -/
def Position.Before (p q : Position) : Prop := p.line < q.line ∨ p.line = q.line ∧ p.column < q.column

instance (p q : Position) : Decidable (p.Before q) := inferInstanceAs (Decidable (_ ∨ _))

namespace Position

theorem not_before_self (p : Position) : ¬ p.Before p := by
  unfold Before
  omega

theorem Before.trans {p q r : Position} (hpq : p.Before q) (hqr : q.Before r) : p.Before r := by
  unfold Before at *
  omega

end Position

namespace Text

variable {t : Text} {offset later : Nat}

theorem positionAt_zero (t : Text) : t.positionAt 0 = ⟨1, 1⟩ := by simp [positionAt, lineStart]

theorem take_of_le (h : offset ≤ later) (t : Text) :
    t.take later = t.take offset ++ (t.drop offset).take (later - offset) := by
  rw [← List.take_add, Nat.add_sub_cancel' h]

/-- A search back for a line feed passes over a text without one. -/
theorem passes_reverse {line : Text} (h : '\n' ∉ line) : ∀ c ∈ line.reverse, (c != '\n') = true := by
  intro c hc
  rw [bne_iff_ne]
  rintro rfl
  exact h (List.mem_reverse.1 hc)

/-- A line goes on as long as no line feed comes. -/
theorem lineStart_of_no_line_feed (h : offset ≤ later) (hline : '\n' ∉ (t.drop offset).take (later - offset)) :
    t.lineStart later = t.lineStart offset := by
  simp only [lineStart, take_of_le h t, List.reverse_append, List.takeWhile_append_of_pos (passes_reverse hline),
    List.length_append, List.length_reverse]
  omega

theorem positionAt_before (t : Text) (h : offset < later) : (t.positionAt offset).Before (t.positionAt later) := by
  have hcount : (t.take later).count '\n' =
      (t.take offset).count '\n' + ((t.drop offset).take (later - offset)).count '\n' := by
    rw [take_of_le (Nat.le_of_lt h) t, List.count_append]
  unfold Position.Before positionAt
  by_cases hline : '\n' ∈ (t.drop offset).take (later - offset)
  · have hpos := List.count_pos_iff.2 hline
    left
    simp only
    omega
  · have hzero := List.count_eq_zero.2 hline
    have hstart := lineStart_of_no_line_feed (Nat.le_of_lt h) hline
    right
    simp only
    omega

/-- The order of positions is the order of offsets. -/
theorem positionAt_before_iff (t : Text) : (t.positionAt offset).Before (t.positionAt later) ↔ offset < later := by
  refine ⟨fun h => ?_, positionAt_before t⟩
  rcases Nat.lt_trichotomy offset later with hlt | rfl | hgt
  · exact hlt
  · exact absurd h (Position.not_before_self _)
  · exact absurd (h.trans (positionAt_before t hgt)) (Position.not_before_self _)

/-! ### Where a line starts -/

/-- The offset at which a line starts, the first line being line 1: where the text starts, or just behind the line
feed that ends the line before. -/
def lineOffset? (t : Text) : Nat → Option Nat
  | 0 => none
  | 1 => some 0
  | n + 2 => (t.idxsOf '\n')[n]?.map (· + 1)

theorem lineStart_le (t : Text) (offset : Nat) : t.lineStart offset ≤ offset :=
  Nat.le_trans (Nat.sub_le _ _) (List.length_take_le offset t)

theorem lineStart_of_notMem (h : '\n' ∉ t.take offset) : t.lineStart offset = 0 :=
  lineStart_of_no_line_feed (Nat.zero_le offset) h

/-- A line starts just behind the last line feed in front. -/
theorem lineStart_of_last_line {s line : Text} (h : t.take offset = s ++ '\n' :: line) (hline : '\n' ∉ line) :
    t.lineStart offset = s.length + 1 := by
  have hstops : Stops (· != '\n') ('\n' :: s.reverse) := stops_cons.2 (bne_self_eq_false _)
  have hreverse : (s ++ '\n' :: line).reverse = line.reverse ++ '\n' :: s.reverse := by simp
  simp only [lineStart, h, hreverse, takeWhile_append_stops (passes_reverse hline) hstops, List.length_append,
    List.length_cons, List.length_reverse]
  omega

/-- Counted from 0, the first line feed behind a text has the number of those within it. -/
theorem getElem?_idxsOf_append (s rest : Text) :
    ((s ++ rest).idxsOf '\n')[s.count '\n']? = (rest.idxsOf '\n' s.length)[0]? := by
  rw [List.idxsOf_append, Nat.zero_add, ← List.length_idxsOf, List.getElem?_append_right (Nat.le_refl _), Nat.sub_self]

/-- Counting the line feeds from the start of a text and searching back for one lead to the same line. -/
theorem lineOffset?_count (t : Text) (offset : Nat) :
    t.lineOffset? ((t.take offset).count '\n' + 1) = some (t.lineStart offset) := by
  by_cases hbreak : '\n' ∈ t.take offset
  · obtain ⟨s, line, htake, hline⟩ := exists_last_line hbreak
    have hcount : (t.take offset).count '\n' = s.count '\n' + 1 := by
      rw [htake, List.count_append, List.count_cons_self, List.count_eq_zero.2 hline]
    have ht : t = s ++ '\n' :: (line ++ t.drop offset) := by
      rw [← List.cons_append, ← List.append_assoc, ← htake, List.take_append_drop]
    have hfeed : (t.idxsOf '\n')[s.count '\n']? = some s.length := by
      rw [ht, getElem?_idxsOf_append, List.idxsOf_cons, if_pos (beq_self_eq_true _), List.getElem?_cons_zero]
    rw [hcount, lineOffset?, hfeed, Option.map_some, lineStart_of_last_line htake hline]
  · rw [List.count_eq_zero.2 hbreak, lineOffset?, lineStart_of_notMem hbreak]

/-- The next line starts behind the offset, if there is one. -/
theorem lt_of_mem_lineOffset?_next {next : Nat} (h : next ∈ t.lineOffset? ((t.take offset).count '\n' + 2)) :
    offset < next := by
  obtain ⟨feed, hfeed, rfl⟩ := Option.map_eq_some_iff.1 h
  have hbehind : ((t.drop offset).idxsOf '\n' (t.take offset).length)[0]? = some feed := by
    rw [← getElem?_idxsOf_append, List.take_append_drop]
    exact hfeed
  have hmem := List.mem_of_getElem? hbehind
  have hge := List.ge_of_mem_idxsOf feed hmem
  have hlt := List.lt_add_of_mem_idxsOf feed hmem
  rw [List.length_take] at hge hlt
  rw [List.length_drop] at hlt
  omega

/-- A text that has a line has the lines before, and they start earlier. -/
theorem exists_lineOffset?_of_lt {m n start : Nat} (hlt : m < n) (h : t.lineOffset? n = some start) :
    ∃ earlier ≤ start, t.lineOffset? (m + 1) = some earlier := by
  match m, n with
  | 0, _ => exact ⟨0, Nat.zero_le start, rfl⟩
  | m + 1, n + 2 =>
      obtain ⟨feed, hfeed, rfl⟩ := Option.map_eq_some_iff.1 h
      obtain ⟨hn, rfl⟩ := List.getElem?_eq_some_iff.1 hfeed
      have hle : m ≤ n := by omega
      have hm : m < (t.idxsOf '\n').length := Nat.lt_of_le_of_lt hle hn
      refine ⟨(t.idxsOf '\n')[m] + 1, Nat.succ_le_succ ?_, ?_⟩
      · rw [List.getElem_idxOf_eq_idxOfNth, List.getElem_idxOf_eq_idxOfNth]
        exact List.idxOfNth_mono hle
      · rw [lineOffset?, List.getElem?_eq_getElem hm, Option.map_some]

/-- A line that starts up to an offset comes no later than one that goes on behind the offset. -/
theorem le_of_lineOffset? {m n start : Nat} (hstart : t.lineOffset? n = some start) (hle : start ≤ offset)
    (hnext : ∀ next ∈ t.lineOffset? (m + 1), offset < next) : n ≤ m := by
  by_contra hlt
  obtain ⟨next, hnext_le, hmem⟩ := exists_lineOffset?_of_lt (Nat.lt_of_not_le hlt) hstart
  have hafter := hnext next hmem
  omega

/-! ### Back to the offset -/

/-- The offset of a position, if the text has its line. -/
def offsetOf? (t : Text) (p : Position) : Option Int :=
  (t.lineOffset? p.line.toNat).map fun start : Nat => (start : Int) + p.column - 1

/-- A position that lies on its line: from the start of the line on, and before the next line starts. -/
def HasPosition (t : Text) (p : Position) : Prop :=
  1 ≤ p.column ∧ ∃ offset ∈ t.offsetOf? p, ∀ next ∈ t.lineOffset? (p.line.toNat + 1), offset < next

theorem line_toNat_positionAt (t : Text) (offset : Nat) :
    (t.positionAt offset).line.toNat = (t.take offset).count '\n' + 1 := rfl

theorem one_le_column_positionAt (t : Text) (offset : Nat) : 1 ≤ (t.positionAt offset).column := by
  have hstart := lineStart_le t offset
  simp only [positionAt]
  omega

theorem offsetOf?_positionAt (t : Text) (offset : Nat) : t.offsetOf? (t.positionAt offset) = some (offset : Int) := by
  rw [offsetOf?, line_toNat_positionAt, lineOffset?_count, Option.map_some, positionAt]
  simp only [Option.some.injEq]
  omega

theorem hasPosition_positionAt (t : Text) (offset : Nat) : t.HasPosition (t.positionAt offset) := by
  refine ⟨one_le_column_positionAt t offset, offset, offsetOf?_positionAt t offset, fun next hnext => ?_⟩
  exact Int.ofNat_lt.2 (lt_of_mem_lineOffset?_next hnext)

/-- A text has no positions but those of its offsets. -/
theorem HasPosition.exists_positionAt {p : Position} (h : t.HasPosition p) : ∃ offset, t.positionAt offset = p := by
  obtain ⟨hcolumn, offset, hoffset, hnext⟩ := h
  obtain ⟨start, hstart, rfl⟩ := Option.map_eq_some_iff.1 hoffset
  obtain ⟨before, hbefore⟩ : ∃ before : Nat, p.column = before + 1 := ⟨(p.column - 1).toNat, by omega⟩
  -- Both the line of `p` and the line of the offset start up to the offset and go on behind it.
  have hline : p.line.toNat = (t.take (start + before)).count '\n' + 1 := by
    apply Nat.le_antisymm
    · exact le_of_lineOffset? hstart (Nat.le_add_right start before) fun _ => lt_of_mem_lineOffset?_next
    · refine le_of_lineOffset? (lineOffset?_count t _) (lineStart_le t _) fun next hmem => ?_
      have hlt := hnext next hmem
      omega
  have hsame : t.lineStart (start + before) = start := by
    rw [hline, lineOffset?_count] at hstart
    exact Option.some.inj hstart
  have hline' : ((t.take (start + before)).count '\n' : Int) + 1 = p.line := by omega
  have hcolumn' : (start + before : Nat) - (t.lineStart (start + before) : Int) + 1 = p.column := by omega
  exact ⟨start + before, congrArg₂ Position.mk hline' hcolumn'⟩

theorem positionAt_invertible (t : Text) :
    (∀ offset later, (t.positionAt offset).Before (t.positionAt later) ↔ offset < later) ∧
      (∀ offset : Nat, 1 ≤ (t.positionAt offset).line ∧ 1 ≤ (t.positionAt offset).column ∧
        t.offsetOf? (t.positionAt offset) = some (offset : Int)) ∧
      ∀ p, (∃ offset, t.positionAt offset = p) ↔ t.HasPosition p := by
  refine ⟨fun _ _ => positionAt_before_iff t, fun offset => ?_, fun p => ⟨?_, HasPosition.exists_positionAt⟩⟩
  · have hline := line_toNat_positionAt t offset
    exact ⟨by omega, one_le_column_positionAt t offset, offsetOf?_positionAt t offset⟩
  · rintro ⟨offset, rfl⟩
    exact hasPosition_positionAt t offset

-- The last character of a line, its line feed, the starts of the next two lines, and an offset past the end.
example :
    [1, 2, 3, 4, 9].map (Text.positionAt "ab\n\nc".toList) = [⟨1, 2⟩, ⟨1, 3⟩, ⟨2, 1⟩, ⟨3, 1⟩, ⟨3, 6⟩] := by
  decide

end Text

end ViewCompiler
