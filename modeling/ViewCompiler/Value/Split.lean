import ViewCompiler.Value.Basic

/-!
# Splitting expressions

A separator counts only outside of brackets and quotes. A quote closes at the next mark of its kind
that no backslash stands right before.
-/

namespace ViewCompiler.Expression

/-- Where a scan of an expression stands: the brackets open, the quote open, and the character read last. -/
structure Scan where
  depth : Int
  quote : Option Char
  last : Char
  deriving DecidableEq, Repr

namespace Scan

def start : Scan := ⟨0, none, ' '⟩

def isOpening (c : Char) : Bool := c == '(' || c == '[' || c == '\x7b'

def isClosing (c : Char) : Bool := c == ')' || c == ']' || c == '\x7d'

def step (s : Scan) (c : Char) : Scan :=
  match s.quote with
  | some mark => { s with quote := if c == mark && s.last != '\\' then none else some mark, last := c }
  | none =>
      if isQuoteMark c then { s with quote := some c, last := c }
      else if isOpening c then { s with depth := s.depth + 1, last := c }
      else if isClosing c then { s with depth := s.depth - 1, last := c }
      else { s with last := c }

/-- Whether a character read here stands outside of all brackets and quotes and is none itself. -/
def isFree (s : Scan) (c : Char) : Bool :=
  s.quote.isNone && s.depth == 0 && !isQuoteMark c && !isOpening c && !isClosing c

def run (s : Scan) (t : Text) : Scan := t.foldl step s

end Scan

/-- The part up to the first free separator and the parts after it. -/
def splitFrom (separator : Text) (s : Scan) : Text → Text × List Text
  | [] => ([], [])
  | c :: rest =>
      let (first, others) := splitFrom separator (s.step c) rest
      if s.isFree c && separator = [c] then ([], first :: others) else (c :: first, others)

/-- The parts of an expression between the separators that stand outside of brackets and quotes. A
separator that is not a single character never splits. -/
def split (separator t : Text) : List Text :=
  let (first, others) := splitFrom separator .start t
  first :: others

end ViewCompiler.Expression
