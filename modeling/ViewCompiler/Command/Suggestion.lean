import ViewCompiler.Files.Path
import ViewCompiler.Text.Quoted

/-!
# Suggestions

A name that is not known may be meant for one that is alike. How much two texts are alike is measured by
the runs of characters that they share: the longest one, and then those to the left and to the right
of it.
-/

namespace ViewCompiler.Command

/-- The number of characters that two texts start with alike. -/
def commonStart : Text → Text → Nat
  | a :: s, b :: t => if a = b then commonStart s t + 1 else 0
  | _, _ => 0

/-- A run of characters that two texts share: where it starts in each of them, and its length. -/
structure Run where
  left : Nat
  right : Nat
  length : Nat
  deriving DecidableEq, Repr

/-- The longest run that two texts share. Of several it is the one that starts first in the first text, and
then in the second. -/
def longestRun (s t : Text) : Run :=
  let runs := (List.range s.length).flatMap fun i =>
    (List.range t.length).map fun j => (⟨i, j, commonStart (s.drop i) (t.drop j)⟩ : Run)
  runs.foldl (fun best run => if best.length < run.length then run else best) ⟨0, 0, 0⟩

/-- The number of characters in the runs that two texts share. The fuel is the length of the first. -/
def sharedWithin : Nat → Text → Text → Nat
  | 0, _, _ => 0
  | fuel + 1, s, t =>
      let run := longestRun s t
      if run.length = 0 then 0
      else
        sharedWithin fuel (s.take run.left) (t.take run.right) + run.length +
          sharedWithin fuel (s.drop (run.left + run.length)) (t.drop (run.right + run.length))

/-- How much a name is like a text: the characters that they share, out of all that they have. -/
structure Likeness where
  name : Text
  shared : Nat
  total : Nat
  deriving DecidableEq, Repr

def likeness (t name : Text) : Likeness := ⟨name, sharedWithin name.length name t, name.length + t.length⟩

/-- Whether at least three fifths of the characters are shared. -/
def Likeness.isClose (l : Likeness) : Bool := 3 * l.total ≤ 10 * l.shared

/-- The order of names by how much they are alike, the most first. -/
def Likeness.atLeast (k l : Likeness) : Bool :=
  let a := k.shared * l.total
  let b := l.shared * k.total
  b < a || (a = b && Path.textAtMost l.name k.name)

/-- The number of names that are suggested at most. -/
def maxSuggestions : Nat := 3

/-- The names that a text is close to, in order. -/
def closeNames (names : List Text) (t : Text) : List Text :=
  let close := ((names.map (likeness t)).filter Likeness.isClose).mergeSort Likeness.atLeast
  ((close.take maxSuggestions).map (·.name)).mergeSort Path.textAtMost

/-- A sentence that suggests names, after another one. -/
def suggestion : List Text → Text
  | [] => []
  | [name] => " Did you mean " ++ name.inspect ++ "?"
  | names => " (Did you mean one of: " ++ Text.join ", " (names.map Text.inspect) ++ "?)"

end ViewCompiler.Command
