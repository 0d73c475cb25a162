import ViewCompiler.Text.Basic

/-!
# Ranges

A range of a text by character offsets. An offset may be negative or lie past the end: whether a
range fits a text is asked only when edits are applied to it.
-/

namespace ViewCompiler

structure Range where
  start : Int
  stop : Int
  start_le_stop : start ≤ stop
  deriving DecidableEq, Repr

namespace Range

/-- The range from `start` to `stop`, if they are in order. -/
def make? (start stop : Int) : Option Range := if h : start ≤ stop then some ⟨start, stop, h⟩ else none

def length (r : Range) : Int := r.stop - r.start

def isEmpty (r : Range) : Bool := r.start = r.stop

/-- Whether two ranges share a stretch of text. An empty range overlaps the ranges it lies strictly inside
of. -/
def overlaps (r s : Range) : Bool := !(r.stop ≤ s.start || s.stop ≤ r.start)

/-- Whether the second range lies within the first. An empty range on the edge of a range that is not
empty lies beside it, not within it. -/
def contains (r s : Range) : Bool :=
  if s.isEmpty && !r.isEmpty then r.start < s.start && s.start < r.stop
  else r.start ≤ s.start && s.stop ≤ r.stop

end Range

end ViewCompiler
