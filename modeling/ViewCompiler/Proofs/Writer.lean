import ViewCompiler.Writer
import ViewCompiler.Proofs.Text.Ink

/-!
# A writer loses nothing

Every operation of a writer keeps what has been written and adds to it. `Writes x f` says so for a step `f`,
up to blanks: after it the ink holds the earlier ink and behind it `x`, with room for indentation and for
whatever else the step puts between. Steps compose, so the ink of a generated text is read off the order in
which it is written.
-/

namespace ViewCompiler.Writer

open Text

/-- After the step, what was written before is still there, and `x` behind it. -/
def Writes (x : Text) (f : Writer → Writer) : Prop := ∀ w, (ink w.text ++ x).Sublist (ink (f w).text)

theorem ink_text (w : Writer) : ink w.text = w.finished.reverse.flatMap ink ++ ink w.current := by
  rw [text, allLines, ink_join, List.flatMap_append, List.flatMap_singleton]

theorem Writes.mono {x y : Text} {f : Writer → Writer} (hf : Writes y f) (hxy : x.Sublist y) : Writes x f :=
  fun w => ((List.Sublist.refl _).append hxy).trans (hf w)

theorem Writes.comp {x y : Text} {f g : Writer → Writer} (hf : Writes x f) (hg : Writes y g) :
    Writes (x ++ y) fun w => g (f w) := by
  intro w
  rw [← List.append_assoc]
  exact ((hf w).append (List.Sublist.refl y)).trans (hg (f w))

/-! ### Breaking lines -/

@[simp] theorem ink_newLine (w : Writer) : ink w.newLine.text = ink w.text := by
  rw [ink_text, ink_text, newLine]
  simp

@[simp] theorem ink_freshLine (w : Writer) : ink w.freshLine.text = ink w.text := by
  unfold freshLine
  split
  · rfl
  · exact ink_newLine w

@[simp] theorem ink_openBlock (w : Writer) : ink w.openBlock.text = ink w.text := ink_freshLine w

@[simp] theorem ink_closeBlock (w : Writer) : ink w.closeBlock.text = ink w.text :=
  ink_freshLine { w with level := w.level - 1 }

/-! ### Writing -/

theorem writes_append (piece : Text) : Writes (ink piece) fun w => w.append piece := by
  intro w
  dsimp only [append]
  split
  · rename_i hempty
    simp [List.isEmpty_iff.1 hempty]
  · split
    · rename_i hstart
      -- At the start of a line nothing was there, and the indentation comes in front of the piece.
      rw [ink_text, ink_text, List.isEmpty_iff.1 hstart, ink_nil, List.append_nil, ink_append]
      exact (List.Sublist.refl _).append (List.sublist_append_right _ _)
    · simp [ink_text]

theorem writes_lines (others : List Text) :
    Writes (others.flatMap ink) fun w => others.foldl (fun w piece => w.newLine.append piece) w := by
  induction others with
  | nil =>
      intro w
      simp
  | cons piece others ih =>
      have hfirst : Writes (ink piece) fun w => w.newLine.append piece := by
        intro w
        simpa using writes_append piece w.newLine
      exact hfirst.comp ih

theorem writes_write (t : Text) : Writes (ink t) fun w => w.write t := by
  rw [← ink_lines t]
  exact (writes_append (lines t).1).comp (writes_lines (lines t).2)

theorem writes_writeLine (t : Text) : Writes (ink t) fun w => w.writeLine t := by
  intro w
  simpa [writeLine] using writes_write t w.freshLine

theorem Writes.block {x : Text} {body : Writer → Writer} (hbody : Writes x body) :
    Writes x fun w => w.block body := by
  intro w
  simpa [Writer.block] using hbody w.openBlock

theorem Writes.text {x : Text} {f : Writer → Writer} (hf : Writes x f) (unit : Text) :
    x.Sublist (ink (f (empty unit)).text) := by
  have hstart : ink (empty unit).text = [] := by
    rw [ink_text]
    rfl
  simpa [hstart] using hf (empty unit)

end ViewCompiler.Writer
