/-!
# Texts

A text is the list of its characters. Every length, offset and slice in this library therefore
counts characters, never the bytes of an encoding; `Text.Bytes` relates the two where a byte offset
has to be read.
-/

namespace ViewCompiler

/-- A text, as the list of its characters. -/
abbrev Text := List Char

instance : Coe String Text := ⟨String.toList⟩

namespace Text

/-- The characters from offset `start` up to, not including, offset `stop`. -/
def slice (t : Text) (start stop : Nat) : Text := (t.take stop).drop start

def startsWith (t head : Text) : Bool := head.isPrefixOf t

def endsWith (t tail : Text) : Bool := tail.isSuffixOf t

/-- The piece before the first separator and the pieces after it, one per separator. -/
def pieces (sep : Char) : Text → Text × List Text
  | [] => ([], [])
  | c :: rest =>
      let (first, others) := pieces sep rest
      if c = sep then ([], first :: others) else (c :: first, others)

/-- The first line and the lines after it. A text always has a first line, which may be empty. -/
def lines (t : Text) : Text × List Text := pieces '\n' t

def join (sep : Text) (parts : List Text) : Text := List.intercalate sep parts

def unlines (first : Text) (others : List Text) : Text := join ['\n'] (first :: others)

def repeated (t : Text) (n : Nat) : Text := (List.replicate n t).flatten

/-- Everything before the first occurrence of `pattern` and everything after it, if it occurs. -/
def cut? (pattern : Text) : Text → Option (Text × Text)
  | [] => if pattern = [] then some ([], []) else none
  | c :: rest =>
      if startsWith (c :: rest) pattern then some ([], (c :: rest).drop pattern.length)
      else (cut? pattern rest).map fun (before, after) => (c :: before, after)

def contains (t : Text) (c : Char) : Bool := t.any (· == c)

/-- Every occurrence of a non-empty `pattern`, from left to right, gives way to `replacement`. -/
def replaceAll (pattern replacement : Text) : Text → Text
  | [] => []
  | c :: rest =>
      if pattern ≠ [] ∧ startsWith (c :: rest) pattern then
        replacement ++ replaceAll pattern replacement (rest.drop (pattern.length - 1))
      else c :: replaceAll pattern replacement rest
  termination_by t => t.length
  decreasing_by all_goals simp only [List.length_drop, List.length_cons]; omega

def ofNat (n : Nat) : Text := (toString n).toList

def ofInt (n : Int) : Text := (toString n).toList

/-- Letters `A` to `Z` become small; every other character stays. Tag names and directive names hold no
other capital letter that could matter. -/
def lower (t : Text) : Text := t.map Char.toLower

end Text

end ViewCompiler
