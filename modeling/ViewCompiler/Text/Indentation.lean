import ViewCompiler.Text.Basic

/-!
# Indentation of continuation lines

A piece of code that starts in the middle of a line carries the indentation of its surroundings on
every line but the first. `dedent` takes that base off, `indent` puts one on.
-/

namespace ViewCompiler.Text

/-- One line without the base it starts with; a line that does not start with it loses all its spaces and
tabs. -/
def dedentLine (base line : Text) : Text :=
  if startsWith line base then line.drop base.length else line.dropWhile fun c => c == ' ' || c == '\t'

/-- Takes the base off every line but the first. -/
def dedent (base text : Text) : Text :=
  let (first, others) := lines text
  unlines first (others.map (dedentLine base))

/-- Puts the base before every line but the first, except before empty ones. -/
def indent (base text : Text) : Text :=
  let (first, others) := lines text
  unlines first (others.map fun line => if line.isEmpty then line else base ++ line)

end ViewCompiler.Text
