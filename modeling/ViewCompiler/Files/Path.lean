import ViewCompiler.Text.Basic

/-!
# Paths

A path is a list of names. Empty names and single dots count for nothing when a path is read; a double
dot is kept as it was written and only followed when a file is looked up.
-/

namespace ViewCompiler

structure Path where
  absolute : Bool
  names : List Text
  deriving DecidableEq, Repr

namespace Path

/-- The name that leads nowhere. -/
def current : Text := "."

/-- The name that leads out of a directory. -/
def parent : Text := ".."

def here : Path := ⟨false, []⟩

def ofText (t : Text) : Path :=
  let (first, others) := Text.pieces '/' t
  ⟨t.startsWith "/", (first :: others).filter fun name => !name.isEmpty && name != current⟩

def text (p : Path) : Text :=
  let joined := Text.join "/" p.names
  if p.absolute then '/' :: joined else if joined.isEmpty then current else joined

def append (p : Path) (names : List Text) : Path := { p with names := p.names ++ names }

/-- The last name, or nothing for the place that a path starts from. -/
def name (p : Path) : Text := p.names.getLast?.getD []

/-- The directory that a place lies in. -/
def up (p : Path) : Path :=
  if !p.absolute && p.names.all (· = parent) then p.append [parent] else { p with names := p.names.dropLast }

/-- The path to the same place with no more double dots than it needs. -/
def resolved (p : Path) : Path :=
  p.names.foldl (fun place name => if name = parent then place.up else place.append [name]) ⟨p.absolute, []⟩

/-- The names that lead from a directory to a place further down. -/
def namesTo? (directory place : Path) : Option (List Text) :=
  let below := directory.names.isPrefixOf place.names && directory.names.length < place.names.length
  if directory.absolute = place.absolute && below then some (place.names.drop directory.names.length) else none

def textAtMost : Text → Text → Bool
  | [], _ => true
  | _ :: _, [] => false
  | a :: s, b :: t => if a = b then textAtMost s t else a.toNat < b.toNat

def namesAtMost : List Text → List Text → Bool
  | [], _ => true
  | _ :: _, [] => false
  | a :: s, b :: t => if a = b then namesAtMost s t else textAtMost a b

/-- The order of paths, name by name. What lies in a directory comes before the names that only start like
it. -/
def atMost (p q : Path) : Bool := namesAtMost p.names q.names

end Path

end ViewCompiler
