import ViewCompiler.Proofs.Text.Rows
import ViewCompiler.Proofs.Writer.Stream
import ViewCompiler.Proofs.Writer.Text

/-!
# Embedding a block at a deeper level

Whether a writer breaks a line depends on what is on the line, and what is on the line depends on the level. Still a
program of writes does the same at every level: putting everything that has been written some levels deeper
(`Writer.deepen`) commutes with each operation, since it leaves a line empty exactly if it was. So it commutes with
whole programs (`Program.run_deepen`), and on an empty writer it only sets the level.
-/

namespace ViewCompiler.Writer

open Text

/-- A program for a writer. Its blocks are nested as they are written down. -/
inductive Program where
  | skip
  | write (t : Text)
  | writeLine (t : Text)
  | newLine
  | seq (first second : Program)
  | block (body : Program)
  deriving DecidableEq, Repr

def Program.run : Program → Writer → Writer
  | skip, w => w
  | write t, w => w.write t
  | writeLine t, w => w.writeLine t
  | newLine, w => w.newLine
  | seq first second, w => second.run (first.run w)
  | block body, w => w.block body.run

/-- The writer with all that has been written `k` levels deeper. -/
def deepen (k : Nat) (w : Writer) : Writer where
  unit := w.unit
  level := k + w.level
  finished := w.finished.map (indentLine (repeated w.unit k))
  current := indentLine (repeated w.unit k) w.current

variable {w : Writer}

/-! ### The level of a writer -/

theorem sameLevel_writeLine (w : Writer) (t : Text) : SameLevel w (w.writeLine t) :=
  (sameLevel_freshLine w).trans (text_write w.freshLine t).2

/-- A block is left at the level it was entered at, if what is written into it keeps its level. -/
theorem sameLevel_block {body : Writer → Writer} (hbody : SameLevel w.openBlock (body w.openBlock)) :
    SameLevel w (w.block body) := by
  obtain ⟨hunit, hlevel⟩ := sameLevel_freshLine { body w.openBlock with level := (body w.openBlock).level - 1 }
  constructor
  · exact hunit.trans (hbody.1.trans (sameLevel_freshLine w).1)
  · refine hlevel.trans ?_
    show (body w.openBlock).level - 1 = w.level
    rw [hbody.2]
    rfl

theorem Program.sameLevel_run (p : Program) (w : Writer) : SameLevel w (p.run w) := by
  induction p generalizing w with
  | skip => exact ⟨rfl, rfl⟩
  | write t => exact (text_write w t).2
  | writeLine t => exact sameLevel_writeLine w t
  | newLine => exact ⟨rfl, rfl⟩
  | seq first second ihfirst ihsecond => exact (ihfirst w).trans (ihsecond (first.run w))
  | block body ih => exact sameLevel_block (ih w.openBlock)

/-! ### One operation -/

theorem deepen_newLine (k : Nat) (w : Writer) : (w.deepen k).newLine = w.newLine.deepen k := rfl

theorem deepen_append (k : Nat) (w : Writer) (piece : Text) :
    (w.deepen k).append piece = (w.append piece).deepen k := by
  by_cases hpiece : piece = []
  · rw [hpiece, append_nil, append_nil]
  by_cases hstart : w.current = []
  · -- The indentation of the deeper line is that of the line with `k` levels in front.
    have hdeep : (w.deepen k).current = [] := indentLine_eq_nil_iff.2 hstart
    rw [append_of_start hdeep hpiece, append_of_start hstart hpiece]
    simp only [deepen, indentLine_of_ne_nil (List.append_ne_nil_of_right_ne_nil _ hpiece), repeated_add,
      List.append_assoc]
  · have hdeep : (w.deepen k).current ≠ [] := indentLine_eq_nil_iff.not.2 hstart
    rw [append_of_started hdeep, append_of_started hstart]
    simp only [deepen, indentLine_of_ne_nil hstart, indentLine_of_ne_nil (List.append_ne_nil_of_left_ne_nil hstart _),
      List.append_assoc]

theorem deepen_put (k : Nat) (w : Writer) (c : Char) : (w.deepen k).put c = (w.put c).deepen k := by
  unfold put
  split
  · rfl
  · exact deepen_append k w [c]

theorem deepen_write (k : Nat) (w : Writer) (t : Text) : (w.deepen k).write t = (w.write t).deepen k := by
  rw [write_eq_foldl_put, write_eq_foldl_put]
  exact List.foldl_hom (deepen k) fun w c => deepen_put k w c

theorem deepen_freshLine (k : Nat) (w : Writer) : (w.deepen k).freshLine = w.freshLine.deepen k := by
  have hstart : (w.deepen k).atLineStart = w.atLineStart := by
    rw [Bool.eq_iff_iff, atLineStart, atLineStart, List.isEmpty_iff, List.isEmpty_iff]
    exact indentLine_eq_nil_iff
  rw [freshLine, hstart, freshLine]
  split <;> rfl

theorem deepen_openBlock (k : Nat) (w : Writer) : (w.deepen k).openBlock = w.openBlock.deepen k := by
  rw [openBlock, deepen_freshLine]
  rfl

theorem deepen_closeBlock (k : Nat) (h : 0 < w.level) : (w.deepen k).closeBlock = w.closeBlock.deepen k := by
  have hlevel : k + w.level - 1 = k + (w.level - 1) := Nat.add_sub_assoc h k
  have hclose : { w.deepen k with level := (w.deepen k).level - 1 } = deepen k { w with level := w.level - 1 } := by
    simp only [deepen, hlevel]
  rw [closeBlock, hclose, deepen_freshLine, closeBlock]

/-! ### Programs -/

theorem Program.run_deepen (p : Program) (k : Nat) (w : Writer) : p.run (w.deepen k) = (p.run w).deepen k := by
  induction p generalizing w with
  | skip => rfl
  | write t => exact deepen_write k w t
  | writeLine t => rw [run, Writer.writeLine, deepen_freshLine, deepen_write, deepen_newLine, run, Writer.writeLine]
  | newLine => rfl
  | seq first second ihfirst ihsecond => rw [run, ihfirst, ihsecond, run]
  | block body ih =>
      -- The block is closed at the level it was opened at, which is not the outermost.
      have hopen : 0 < (body.run w.openBlock).level := by
        rw [(sameLevel_run body w.openBlock).2]
        exact Nat.succ_pos w.level
      rw [run, Writer.block, deepen_openBlock, ih, deepen_closeBlock k hopen, run, Writer.block]

theorem allLines_deepen (k : Nat) (w : Writer) :
    (w.deepen k).allLines = w.allLines.map (indentLine (repeated w.unit k)) := by
  simp [allLines, deepen]

/-- A program leaves as many lines on an empty writer at level `k` as at the outermost level. A line that is empty in
one is empty in both, and any other one has the indentation of `k` levels in front. The level ends at `k` again. -/
theorem Program.run_at_level (p : Program) (unit : Text) (k : Nat) :
    let flat := p.run (empty unit)
    let deep := p.run { empty unit with level := k }
    deep.allLines.length = flat.allLines.length ∧
      deep.allLines = flat.allLines.map (fun line => if line = [] then [] else repeated unit k ++ line) ∧
      deep.level = k := by
  intro flat deep
  have hdeep : deep = flat.deepen k := run_deepen p k (empty unit)
  have hline : indentLine (repeated unit k) = fun line => if line = [] then [] else repeated unit k ++ line := by
    funext line
    by_cases hempty : line = []
    · rw [if_pos hempty, hempty]
      rfl
    · rw [if_neg hempty, indentLine_of_ne_nil hempty]
  have hunit : flat.unit = unit := (sameLevel_run p (empty unit)).1
  have hlines : deep.allLines = flat.allLines.map (indentLine (repeated unit k)) := by
    rw [hdeep, allLines_deepen, hunit]
  refine ⟨?_, hline ▸ hlines, (sameLevel_run p { empty unit with level := k }).2⟩
  rw [hlines, List.length_map]

/-- A line that is left open in front of a block, an empty line within it and a block within the block. -/
example :
    let inner : Program := .block (.write "b")
    let p : Program := .seq (.write "a \x7b") (.seq (.block (.seq (.writeLine "x\n\ny") inner)) (.write "\x7d"))
    (p.run (empty "\t")).allLines =
        ["a \x7b".toList, "\tx".toList, [], "\ty".toList, "\t\tb".toList, "\x7d".toList] ∧
      (p.run { empty "\t" with level := 2 }).text = "\t\ta \x7b\n\t\t\tx\n\n\t\t\ty\n\t\t\t\tb\n\t\t\x7d".toList := by
  decide +kernel

end ViewCompiler.Writer
