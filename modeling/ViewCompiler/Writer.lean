import ViewCompiler.Text.Basic

/-!
# Writing code

A writer builds a text line by line. Whatever is written at the start of a line is indented to the
current level, line by line, so a block written at a deeper level keeps its own layout; an empty line
stays empty.
-/

namespace ViewCompiler

structure Writer where
  /-- The indentation of one level. -/
  unit : Text
  level : Nat
  /-- The finished lines, last first. -/
  finished : List Text
  /-- The line being written. -/
  current : Text
  deriving DecidableEq, Repr

namespace Writer

def empty (unit : Text) : Writer := ⟨unit, 0, [], []⟩

def atLineStart (w : Writer) : Bool := w.current.isEmpty

def newLine (w : Writer) : Writer := { w with finished := w.current :: w.finished, current := [] }

/-- Writes a piece of a line. -/
def append (w : Writer) (piece : Text) : Writer :=
  if piece.isEmpty then w
  else if w.atLineStart then { w with current := Text.repeated w.unit w.level ++ piece }
  else { w with current := w.current ++ piece }

def write (w : Writer) (text : Text) : Writer :=
  let (first, others) := Text.lines text
  others.foldl (fun w piece => w.newLine.append piece) (w.append first)

/-- Ends the current line unless nothing is on it. -/
def freshLine (w : Writer) : Writer := if w.atLineStart then w else w.newLine

/-- Writes a text on lines of its own. -/
def writeLine (w : Writer) (text : Text) : Writer := (w.freshLine.write text).newLine

/-- Starts a block one level deeper, on lines of its own. -/
def openBlock (w : Writer) : Writer := { w.freshLine with level := w.level + 1 }

def closeBlock (w : Writer) : Writer := { w with level := w.level - 1 }.freshLine

/-- What `body` writes, one level deeper. -/
def block (w : Writer) (body : Writer → Writer) : Writer := (body w.openBlock).closeBlock

def allLines (w : Writer) : List Text := w.finished.reverse ++ [w.current]

def text (w : Writer) : Text := Text.join ['\n'] w.allLines

end Writer

end ViewCompiler
