import ViewCompiler.Proofs.Text.Layout

/-!
# All lines of a text

The first line of a text is set apart where lines are moved, since it starts in the middle of another one. For what a
text looks like as a whole it is a line like the others: `rows` are all of them. They are found again in any text that
is put together from lines (`rows_unlines`), so a change of every line but the first is read off the lines it leaves
(`rows_mapLines`).
-/

namespace ViewCompiler.Text

variable {f : Text → Text} {s t u base line : Text} {others : List Text}

/-- All lines of a text. Even the empty text has one. -/
def rows (t : Text) : List Text := (lines t).1 :: (lines t).2

theorem lines_of_notMem (h : '\n' ∉ t) : lines t = (t, []) := by
  have hlines := lines_append_of_notMem h []
  rwa [List.append_nil, show lines [] = ([], []) from rfl, List.append_nil] at hlines

theorem rows_of_notMem (h : '\n' ∉ t) : rows t = [t] := by
  rw [rows, lines_of_notMem h]

theorem rows_append_break (s t : Text) : rows (s ++ '\n' :: t) = rows s ++ rows t := by
  rw [rows, lines_append_break, rows, rows, List.cons_append]

theorem notMem_of_mem_rows (h : line ∈ rows t) : '\n' ∉ line := by
  induction t generalizing line with
  | nil =>
      rw [List.mem_singleton.1 h]
      exact List.not_mem_nil
  | cons c t ih =>
      simp only [rows, lines, pieces] at h ih
      split at h
      · rcases List.mem_cons.1 h with rfl | hlater
        · exact List.not_mem_nil
        · exact ih hlater
      · rename_i hc
        rcases List.mem_cons.1 h with rfl | hlater
        · intro hmem
          rcases List.mem_cons.1 hmem with heq | hrest
          · exact hc heq.symm
          · exact ih List.mem_cons_self hrest
        · exact ih (List.mem_cons_of_mem _ hlater)

/-- The lines that a text is put together from. -/
theorem rows_unlines (hs : '\n' ∉ s) (hothers : ∀ line ∈ others, '\n' ∉ line) :
    rows (unlines s others) = s :: others := by
  rw [unlines_eq]
  induction others generalizing s with
  | nil => rw [List.flatMap_nil, List.append_nil, rows_of_notMem hs]
  | cons line others ih =>
      rw [List.forall_mem_cons] at hothers
      rw [List.flatMap_cons, List.cons_append, rows_append_break, rows_of_notMem hs, ih hothers.1 hothers.2,
        List.singleton_append]

theorem rows_mapLines (hf : ∀ line ∈ (lines t).2, '\n' ∉ f line) :
    rows (mapLines f t) = (lines t).1 :: (lines t).2.map f := by
  refine rows_unlines (notMem_of_mem_rows (List.mem_cons_self : (lines t).1 ∈ rows t)) fun line hline => ?_
  obtain ⟨old, hold, rfl⟩ := List.mem_map.1 hline
  exact hf old hold

/-! ### Indentation -/

theorem notMem_indentLine (hbase : '\n' ∉ base) (hline : '\n' ∉ line) : '\n' ∉ indentLine base line := by
  unfold indentLine
  split
  · exact hline
  · exact fun h => (List.mem_append.1 h).elim hbase hline

theorem indentLine_of_ne_nil (h : line ≠ []) : indentLine base line = base ++ line := by
  rw [indentLine, if_neg (by simpa using h)]

theorem indentLine_eq_nil_iff : indentLine base line = [] ↔ line = [] := by
  by_cases hline : line = []
  · simp [hline, indentLine]
  · simp [indentLine_of_ne_nil hline, hline]

theorem repeated_add (unit : Text) (k l : Nat) : repeated unit (k + l) = repeated unit k ++ repeated unit l := by
  rw [repeated, ← List.replicate_append_replicate, List.flatten_append, repeated, repeated]

theorem indentLine_indentLine (base unit line : Text) :
    indentLine base (indentLine unit line) = indentLine (base ++ unit) line := by
  by_cases hline : line = []
  · rw [hline]
    rfl
  · rw [indentLine_of_ne_nil hline, indentLine_of_ne_nil (List.append_ne_nil_of_right_ne_nil unit hline),
      indentLine_of_ne_nil hline, List.append_assoc]

theorem rows_indent (hbase : '\n' ∉ base) (h : rows t = s :: others) :
    rows (indent base t) = s :: others.map (indentLine base) := by
  obtain ⟨rfl, rfl⟩ := List.cons.inj h
  rw [indent_eq_mapLines, rows_mapLines fun line hline =>
    notMem_indentLine hbase (notMem_of_mem_rows (List.mem_cons_of_mem _ hline))]

theorem rows_dedent (base t : Text) : rows (dedent base t) = (lines t).1 :: (lines t).2.map (dedentLine base) := by
  rw [dedent_eq_mapLines, rows_mapLines fun line hline hmem =>
    notMem_of_mem_rows (List.mem_cons_of_mem _ hline) ((dedentLine_suffix base line).subset hmem)]

theorem dedentLine_append (base line : Text) : dedentLine base (base ++ line) = line := by
  rw [dedentLine, if_pos (startsWith_iff.2 (List.prefix_append base line)), List.drop_left]

/-- An empty line has no base to lose, and any other one got it. -/
theorem dedentLine_indentLine (base line : Text) : dedentLine base (indentLine base line) = line := by
  by_cases hline : line = []
  · rw [hline]
    exact List.suffix_nil.1 (dedentLine_suffix base [])
  · rw [indentLine_of_ne_nil hline, dedentLine_append]

/-- The base that is put on is the base that is taken off, since it starts no line of its own. -/
theorem dedent_indent (hbase : '\n' ∉ base) (t : Text) : dedent base (indent base t) = t := by
  obtain ⟨hfirst, hothers⟩ := List.cons.inj (rows_indent hbase (rfl : rows t = (lines t).1 :: (lines t).2))
  have hsame : dedentLine base ∘ indentLine base = id := funext (dedentLine_indentLine base)
  rw [dedent_eq_mapLines, mapLines, hfirst, hothers, List.map_map, hsame, List.map_id, unlines_lines]

/-- If the line that a text starts in has the base, the base is taken off before the text and within it separately. -/
theorem dedent_append (hlast : ∀ line, (lines s).2.getLast? = some line → base <+: line) (t : Text) :
    dedent base (s ++ t) = dedent base s ++ dedent base t := by
  rw [dedent_eq_mapLines]
  by_cases hbreak : '\n' ∈ s
  · obtain ⟨front, line, rfl, hline⟩ := exists_last_line hbreak
    obtain ⟨rest, rfl⟩ : base <+: line := hlast line (by simp [lines_append_break, lines_of_notMem hline])
    rw [mapLines_last_line _ _ hline, dedentLine_append, List.append_assoc, List.cons_append, mapLines_append_break,
      mapLines_break, lines_append_of_notMem hline, List.append_assoc base, dedentLine_append, mapLines_eq _ t]
    simp only [List.append_assoc, List.cons_append]
  · rw [mapLines_append_of_notMem hbreak, mapLines_of_notMem hbreak]

/-! ### Something behind the last line -/

/-- What is put behind a text stands behind its last line. -/
theorem getElem?_lines_append (t : Text) (hu : '\n' ∉ u) (i : Nat) :
    (lines (t ++ u)).2[i]? =
      (lines t).2[i]?.map fun line => if i + 1 = (lines t).2.length then line ++ u else line := by
  by_cases hbreak : '\n' ∈ t
  · obtain ⟨front, last, rfl, hlast⟩ := exists_last_line hbreak
    have hend : '\n' ∉ last ++ u := fun h => (List.mem_append.1 h).elim hlast hu
    rw [List.append_assoc, List.cons_append, lines_append_break, lines_of_notMem hend, lines_append_break,
      lines_of_notMem hlast]
    rcases Nat.lt_trichotomy i (lines front).2.length with hlt | rfl | hgt
    · rw [List.getElem?_append_left hlt, List.getElem?_append_left hlt, List.getElem?_eq_getElem hlt, Option.map_some,
        if_neg (by simp; omega)]
    · simp
    · rw [List.getElem?_eq_none (by simp; omega), List.getElem?_eq_none (by simp; omega), Option.map_none]
  · rw [lines_append_of_notMem hbreak, lines_of_notMem hu, lines_of_notMem hbreak]
    rfl

end ViewCompiler.Text
