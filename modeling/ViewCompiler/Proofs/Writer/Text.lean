import ViewCompiler.Proofs.Text.Layout
import ViewCompiler.Writer

/-!
# The text of a writer

Each operation adds to the text that has been written so far: a line feed, or a text with every line that it starts
indented to the level (`text_write`). A block that is written on lines of its own is therefore read off line by line
(`At.line`), and so is what stands in braces around it (`text_braces`).
-/

namespace ViewCompiler

open Text

namespace Writer

variable {w : Writer} {unit s t : Text} {level : Nat}

/-! ### What a writer has written -/

theorem text_eq (w : Writer) : w.text = w.finished.reverse.flatMap (· ++ ['\n']) ++ w.current := by
  unfold text allLines join
  induction w.finished.reverse with
  | nil => rw [List.nil_append, List.intercalate_singleton, List.flatMap_nil, List.nil_append]
  | cons line others ih =>
      rw [List.flatMap_cons, List.append_assoc, ← ih]
      cases others <;> simp [List.intercalate_cons_cons]

theorem text_newLine (w : Writer) : w.newLine.text = w.text ++ ['\n'] := by
  rw [text_eq, text_eq, newLine]
  simp

/-- At the start of a line, what has been written ends with a line feed. -/
theorem getLast?_text (h : w.current = []) : w.text = [] ∨ w.text.getLast? = some '\n' := by
  rw [text_eq, h, List.append_nil]
  cases w.finished with
  | nil => exact Or.inl rfl
  | cons line others =>
      right
      rw [List.reverse_cons, List.flatMap_append, List.flatMap_singleton, ← List.append_assoc, List.getLast?_concat]

def pad (w : Writer) : Text := repeated w.unit w.level

theorem text_append (w : Writer) (piece : Text) :
    (w.append piece).text = w.text ++ (if w.atLineStart then indentLine w.pad piece else piece) := by
  unfold append
  split
  · rename_i hempty
    simp [List.isEmpty_iff.1 hempty, indentLine]
  · rename_i hfull
    split
    · rename_i hstart
      rw [text_eq, text_eq, List.isEmpty_iff.1 hstart, indentLine, if_neg hfull]
      simp [pad]
    · rw [text_eq, text_eq, List.append_assoc]

/-- The writer keeps its unit and its level. -/
def SameLevel (w w' : Writer) : Prop := w'.unit = w.unit ∧ w'.level = w.level

theorem SameLevel.trans {w w' w'' : Writer} (h : SameLevel w w') (h' : SameLevel w' w'') : SameLevel w w'' :=
  ⟨h'.1.trans h.1, h'.2.trans h.2⟩

theorem sameLevel_freshLine (w : Writer) : SameLevel w w.freshLine := by
  unfold freshLine
  split <;> exact ⟨rfl, rfl⟩

theorem sameLevel_append (w : Writer) (piece : Text) : SameLevel w (w.append piece) := by
  unfold append
  split
  · exact ⟨rfl, rfl⟩
  · split <;> exact ⟨rfl, rfl⟩

theorem text_foldl (others : List Text) (w : Writer) :
    (others.foldl (fun w piece => w.newLine.append piece) w).text =
        w.text ++ others.flatMap (fun line => '\n' :: indentLine w.pad line) ∧
      SameLevel w (others.foldl (fun w piece => w.newLine.append piece) w) := by
  induction others generalizing w with
  | nil => exact ⟨(List.append_nil _).symm, rfl, rfl⟩
  | cons line others ih =>
      obtain ⟨htext, hsame⟩ := ih (w.newLine.append line)
      have hfirst : SameLevel w (w.newLine.append line) := sameLevel_append w.newLine line
      have hpad : (w.newLine.append line).pad = w.pad := by rw [pad, hfirst.1, hfirst.2, pad]
      constructor
      · have hstart : w.newLine.atLineStart = true := rfl
        rw [List.foldl_cons, htext, text_append, text_newLine, hpad, if_pos hstart, List.flatMap_cons]
        simp [pad, newLine]
      · exact hfirst.trans hsame

theorem text_write (w : Writer) (t : Text) :
    (w.write t).text = w.text ++ (if w.atLineStart then indentLine w.pad (lines t).1 else (lines t).1) ++
        (lines t).2.flatMap (fun line => '\n' :: indentLine w.pad line) ∧ SameLevel w (w.write t) := by
  obtain ⟨htext, hsame⟩ := text_foldl (lines t).2 (w.append (lines t).1)
  have hfirst := sameLevel_append w (lines t).1
  have hpad : (w.append (lines t).1).pad = w.pad := by rw [pad, hfirst.1, hfirst.2, pad]
  constructor
  · rw [write, htext, text_append, hpad]
  · exact hfirst.trans hsame

theorem text_write_of_level_eq_zero (h : w.level = 0) (t : Text) : (w.write t).text = w.text ++ t := by
  have hpad : w.pad = [] := by
    rw [pad, h]
    rfl
  have hline (line : Text) : indentLine [] line = line := by
    unfold indentLine
    split <;> rfl
  rw [(text_write w t).1, hpad]
  simp only [hline, ite_self, List.append_assoc, ← unlines_eq, unlines_lines]

/-! ### Lines and blocks -/

/-- The writer stands at the start of a line, with `s` written. -/
structure At (unit : Text) (level : Nat) (s : Text) (w : Writer) : Prop where
  unit_eq : w.unit = unit
  level_eq : w.level = level
  start : w.current = []
  text_eq : w.text = s

/-- A text of its own lines, all of them indented. -/
def indented (unit t : Text) : Text :=
  indentLine unit (lines t).1 ++ (lines t).2.flatMap (fun line => '\n' :: indentLine unit line) ++ ['\n']

theorem At.writeLine (h : At unit level s w) (t : Text) :
    At unit level (s ++ indented (repeated unit level) t) (w.writeLine t) := by
  have hfresh : w.freshLine = w := by
    rw [freshLine, if_pos]
    rw [atLineStart, h.start]
    rfl
  obtain ⟨htext, hunit, hlevel⟩ := text_write w t
  refine ⟨?_, ?_, rfl, ?_⟩
  · rw [Writer.writeLine, hfresh]
    exact hunit.trans h.unit_eq
  · rw [Writer.writeLine, hfresh]
    exact hlevel.trans h.level_eq
  · rw [Writer.writeLine, hfresh, text_newLine, htext, h.text_eq, pad, h.unit_eq, h.level_eq, if_pos, indented]
    · simp only [List.append_assoc]
    · rw [atLineStart, h.start]
      rfl

/-- A line of a block that is not nested in another. -/
theorem At.line (h : At unit 1 s w) (t : Text) : At unit 1 (s ++ indented unit t) (w.writeLine t) := by
  have hline := h.writeLine t
  rwa [repeated, List.replicate_one, List.flatten_singleton] at hline

/-- A block between a line and a closing brace. -/
theorem text_braces {head code : Text} {body : Writer → Writer} (hhead : head.getLast? = some '\x7b')
    (hbody : ∀ s w, At unit 1 s w → At unit 1 (s ++ code) (body w)) :
    ((((empty unit).write head).block body).write "\x7d").text = head ++ ['\n'] ++ code ++ ['\x7d'] := by
  have htext : ((empty unit).write head).text = head := text_write_of_level_eq_zero rfl head
  obtain ⟨-, hunit, hlevel⟩ := text_write (empty unit) head
  have hcurrent : ((empty unit).write head).current ≠ [] := by
    intro hstart
    rcases getLast?_text hstart with hnil | hlast
    · rw [htext] at hnil
      rw [hnil] at hhead
      cases hhead
    · rw [htext, hhead] at hlast
      exact absurd hlast (by decide)
  have hopen : At unit 1 (head ++ ['\n']) ((empty unit).write head).openBlock := by
    have hfresh : ((empty unit).write head).freshLine = ((empty unit).write head).newLine := by
      rw [freshLine, if_neg]
      rwa [atLineStart, List.isEmpty_iff]
    refine ⟨?_, ?_, ?_, ?_⟩
    · rw [openBlock, hfresh]
      exact hunit
    · rw [openBlock, hfresh, hlevel]
      rfl
    · rw [openBlock, hfresh]
      rfl
    · rw [openBlock, hfresh]
      show ((empty unit).write head).newLine.text = _
      rw [text_newLine, htext]
  have hclosed := hbody _ _ hopen
  have hclose : (((empty unit).write head).block body).text = head ++ ['\n'] ++ code ∧
      (((empty unit).write head).block body).level = 0 := by
    unfold block closeBlock freshLine
    rw [if_pos]
    · exact ⟨hclosed.text_eq, by rw [hclosed.level_eq]⟩
    · show (body _).current.isEmpty = true
      rw [hclosed.start]
      rfl
  rw [text_write_of_level_eq_zero hclose.2, hclose.1]
  rfl

theorem indented_cons {c : Char} (hc : c ≠ '\n') (unit t : Text) :
    indented unit (c :: t) = unit ++ indent unit (c :: t) ++ ['\n'] := by
  have hlines := lines_append_of_notMem (s := [c]) (by simpa using hc.symm) t
  rw [List.singleton_append] at hlines
  rw [indented, indent_eq_mapLines, mapLines_eq, hlines, indentLine, if_neg (by simp)]
  simp

/-- A block whose first line starts with something. -/
theorem text_block_line {head line : Text} {c : Char} {body : Writer → Writer} (hhead : head.getLast? = some '\x7b')
    (hc : c ≠ '\n') (later : Text)
    (hbody : ∀ s w, At unit 1 s w → At unit 1 (s ++ (indented unit (c :: line) ++ later)) (body w)) :
    ((((empty unit).write head).block body).write "\x7d").text =
      (head ++ '\n' :: unit) ++ indent unit (c :: line) ++ ('\n' :: later ++ ['\x7d']) := by
  rw [text_braces hhead hbody, indented_cons hc]
  simp

end Writer

end ViewCompiler
