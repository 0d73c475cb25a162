import ViewCompiler.Text.Basic

/-!
# Attribute keys and tag names

How the spelling of an attribute's key or of a tag tells what it stands for.
-/

namespace ViewCompiler

/-- A pair of marks that a key may be wrapped in. -/
structure Delimiters where
  opening : Text
  closing : Text
  deriving DecidableEq, Repr

namespace Delimiters

def property : Delimiters := ⟨"[", "]"⟩

def explicitAttribute : Delimiters := ⟨"[attr.", "]"⟩

def event : Delimiters := ⟨"(", ")"⟩

/-- Whether a key starts with the opening mark and ends with the closing one. The two do not overlap. -/
def wraps (d : Delimiters) (key : Text) : Bool :=
  d.opening.length + d.closing.length ≤ key.length && key.startsWith d.opening && key.endsWith d.closing

/-- What is left of a key without as many characters at its ends as the marks have. -/
def unwrap (d : Delimiters) (key : Text) : Text := (key.take (key.length - d.closing.length)).drop d.opening.length

end Delimiters

/-- Whether a tag names a directive, in small or capital letters. -/
def isDirectiveTag (tag : Text) : Bool := tag.lower.startsWith "w:"

/-- Whether a tag names a component: a dash is in it. -/
def isComponentTag (tag : Text) : Bool := tag.contains '-'

/-- The words of letters and digits in a tag, each with a capital letter, put together. -/
def pascalCase (tag : Text) : Text := capitalized true tag
where
  /-- The rest of a tag; `fresh` says that no character of the current word has been read. -/
  capitalized (fresh : Bool) : Text → Text
  | [] => []
  | c :: rest =>
      if c.isAlphanum then (if fresh then c.toUpper else c) :: capitalized false rest
      else capitalized true rest

end ViewCompiler
