import ViewCompiler.Text.Basic

/-!
# Styled texts

A text for a terminal may hold escape sequences that change how the terminal shows it: an escape
character and a bracket, then digits and other marks, then a letter. Where no terminal reads the text
they are left out.
-/

namespace ViewCompiler.Text

def escapeChar : Char := '\x1b'

def isStyleMark (c : Char) : Bool := c.isDigit || c == ';' || c == '?'

/-- How many characters the escape sequence at the start of a text has. -/
def styleLength? : Text → Option Nat
  | first :: '[' :: rest =>
      let marks := (rest.takeWhile isStyleMark).length
      if first = escapeChar && (rest.drop marks).head?.any Char.isAlpha then some (marks + 3) else none
  | _ => none

/-- A text without its escape sequences. -/
def withoutStyle : Text → Text
  | [] => []
  | c :: rest =>
      match styleLength? (c :: rest) with
      | some length => withoutStyle (rest.drop (length - 1))
      | none => c :: withoutStyle rest
  termination_by t => t.length
  decreasing_by all_goals simp only [List.length_drop, List.length_cons]; omega

end ViewCompiler.Text
