import ViewCompiler.Text.Basic

/-!
# Positions

Lines and columns are counted from 1. An offset past the end of a text counts as lying on its last
line.
-/

namespace ViewCompiler

structure Position where
  line : Int
  column : Int
  deriving DecidableEq, Repr

namespace Position

def text (p : Position) : Text := Text.ofInt p.line ++ ":" ++ Text.ofInt p.column

end Position

/-- The offset at which the line starts that `offset` lies on. -/
def Text.lineStart (t : Text) (offset : Nat) : Nat :=
  let before := t.take offset
  before.length - (before.reverse.takeWhile (· != '\n')).length

/-- The position of an offset. -/
def Text.positionAt (t : Text) (offset : Nat) : Position :=
  ⟨(t.take offset).count '\n' + 1, offset - t.lineStart offset + 1⟩

end ViewCompiler
