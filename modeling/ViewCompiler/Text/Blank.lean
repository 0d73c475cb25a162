import ViewCompiler.Text.Basic

/-!
# White space

Blank characters are those with the Unicode white space property, together with the four
information separators. The zero-width space and the byte order mark are not blank.
-/

namespace ViewCompiler.Text

def isBlank (c : Char) : Bool :=
  let n := c.toNat
  (0x9 ≤ n && n ≤ 0xD) || (0x1C ≤ n && n ≤ 0x20) || n == 0x85 || n == 0xA0 || n == 0x1680 ||
    (0x2000 ≤ n && n ≤ 0x200A) || n == 0x2028 || n == 0x2029 || n == 0x202F || n == 0x205F || n == 0x3000

def stripLeft (t : Text) : Text := t.dropWhile isBlank

def stripRight (t : Text) : Text := (t.reverse.dropWhile isBlank).reverse

/-- The text without the blanks at its two ends. -/
def strip (t : Text) : Text := stripRight (stripLeft t)

def isAllBlank (t : Text) : Bool := t.all isBlank

/-- The maximal runs of characters that are not blank, in order. -/
def words (t : Text) : List Text :=
  let (word, others) := split t
  if word = [] then others else word :: others
where
  /-- The word the text starts with, which may be empty, and the words after it. -/
  split : Text → Text × List Text
  | [] => ([], [])
  | c :: rest =>
      let (word, others) := split rest
      if isBlank c then ([], if word = [] then others else word :: others) else (c :: word, others)

end ViewCompiler.Text
