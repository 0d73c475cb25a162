import ViewCompiler.Proofs.Text.Layout
import ViewCompiler.Writer

/-!
# Writing as a stream of characters

A write cuts its text into lines and indents those that start something, so it might matter where a text is cut into
writes. It does not, because a text is written character by character (`write_eq_foldl_put`): a line feed ends the line,
and any other character is put behind what is on the line, with the indentation in front if that is nothing.
-/

namespace ViewCompiler.Writer

open Text

variable {w : Writer} {c : Char}

/-- Writes a single character. -/
def put (w : Writer) (c : Char) : Writer := if c = '\n' then w.newLine else w.append [c]

/-! ### Pieces of a line -/

theorem append_nil (w : Writer) : w.append [] = w := rfl

theorem append_of_start {piece : Text} (hstart : w.current = []) (hpiece : piece ≠ []) :
    w.append piece = { w with current := repeated w.unit w.level ++ piece } := by
  rw [append, if_neg (by simpa using hpiece), atLineStart, hstart]
  rfl

theorem append_of_started {piece : Text} (hstarted : w.current ≠ []) :
    w.append piece = { w with current := w.current ++ piece } := by
  have hbehind : w.atLineStart = false := by simpa [atLineStart] using hstarted
  rw [append, hbehind]
  split
  · rename_i hempty
    rw [List.isEmpty_iff.1 hempty, List.append_nil]
  · rfl

/-- Once a piece is on the line it is no longer at its start, so a line is indented once, whatever the pieces. -/
theorem append_append (w : Writer) (piece later : Text) :
    (w.append piece).append later = w.append (piece ++ later) := by
  by_cases hpiece : piece = []
  · rw [hpiece, append_nil, List.nil_append]
  by_cases hstart : w.current = []
  · rw [append_of_start hstart hpiece, append_of_started (List.append_ne_nil_of_right_ne_nil _ hpiece),
      append_of_start hstart (List.append_ne_nil_of_left_ne_nil hpiece _), List.append_assoc]
  · rw [append_of_started hstart, append_of_started (List.append_ne_nil_of_left_ne_nil hstart _),
      append_of_started hstart, List.append_assoc]

/-! ### Texts -/

theorem write_break (w : Writer) (t : Text) : w.write ('\n' :: t) = w.newLine.write t := rfl

theorem write_cons (hc : c ≠ '\n') (w : Writer) (t : Text) : w.write (c :: t) = (w.append [c]).write t := by
  have hlines := lines_append_of_notMem (s := [c]) (by simpa using hc.symm) t
  rw [List.singleton_append] at hlines
  rw [write, hlines, write]
  dsimp only
  rw [← append_append]

theorem write_eq_foldl_put (w : Writer) (t : Text) : w.write t = t.foldl put w := by
  induction t generalizing w with
  | nil => rfl
  | cons c t ih =>
      rw [List.foldl_cons, put]
      split
      · rename_i hbreak
        rw [hbreak, write_break, ih]
      · rename_i hc
        rw [write_cons hc, ih]

theorem write_write (w : Writer) (s t : Text) : (w.write s).write t = w.write (s ++ t) := by
  rw [write_eq_foldl_put, write_eq_foldl_put, write_eq_foldl_put, List.foldl_append]

theorem foldl_write (w : Writer) (pieces : List Text) : pieces.foldl write w = w.write pieces.flatten := by
  induction pieces generalizing w with
  | nil => rfl
  | cons piece pieces ih => rw [List.foldl_cons, ih, write_write, List.flatten_cons]

/-- Writing takes texts behind one another to writes one after the other, whatever has been written, at any level and
with any indentation. So the pieces that a text is written in leave the same writer as the whole of it. -/
theorem write_homomorphism (w : Writer) :
    (∀ s t, (w.write s).write t = w.write (s ++ t)) ∧
      w.write [] = w ∧
      w.write ['\n'] = w.newLine ∧
      ∀ pieces : List Text, pieces.foldl write w = w.write pieces.flatten :=
  ⟨write_write w, rfl, write_break w [], foldl_write w⟩

end ViewCompiler.Writer
