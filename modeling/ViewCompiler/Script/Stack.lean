import ViewCompiler.Script.Derivation
import ViewCompiler.Script.State
import ViewCompiler.Text.Basic

/-!
# The stack of a reading

Several readings of a script are followed side by side. Their stacks share what they have in common: a
cell of the stack is linked to the cells below it, more than one where readings have met again in the
same state at the same place. A link carries the derivation of what was read between the two cells.
-/

namespace ViewCompiler.Script

structure Link where
  below : Nat
  derivation : Derivation

structure Cell where
  state : Nat
  place : Nat
  links : List Link
  /-- The weight of the heaviest reading that leads here. -/
  weight : Int

/-- The number of links that a cell has at most. Further readings are given up. -/
def maxLinks : Nat := 8

abbrev Cells := Array Cell

namespace Cells

def weightOf (cells : Cells) (n : Nat) : Int := (cells[n]?.map (·.weight)).getD 0

def placeOf (cells : Cells) (n : Nat) : Nat := (cells[n]?.map (·.place)).getD 0

/-- Whether two cells are in the same state at the same place. -/
def meet (cells : Cells) (m n : Nat) : Bool :=
  match cells[m]?, cells[n]? with
  | some a, some b => a.state = b.state && a.place = b.place
  | _, _ => false

/-- A new cell on top of another. -/
def push (cells : Cells) (below : Nat) (derivation : Derivation) (state : Nat) : Cells :=
  Array.push cells
    ⟨state, derivation.span.stop, [⟨below, derivation⟩], cells.weightOf below + derivation.weight⟩

/-- Links a cell to a further one below it. Links that stand for the same thing are made one where the cells
below them are one or meet; `depth` bounds how far down cells are joined. -/
def link : (depth : Nat) → Cells → Nat → Link → Cells
  | 0, cells, _, _ => cells
  | depth + 1, cells, n, new =>
      match cells[n]? with
      | none => cells
      | some cell =>
          let weight := cells.weightOf new.below + new.derivation.weight
          let like := fun (old : Link) =>
            old.derivation.isLike new.derivation && (old.below = new.below || cells.meet old.below new.below)
          if new.below = n then cells
          else match cell.links.find? like with
            | some old =>
                if old.below = new.below then
                  if old.derivation.weight < new.derivation.weight then
                    let links := replaceFirst like new cell.links
                    cells.setIfInBounds n { cell with links, weight }
                  else cells
                else
                  let further := (cells[new.below]?.map (·.links)).getD []
                  let joined := further.foldl (fun cells l => link depth cells old.below l) cells
                  raise joined n weight
            | none =>
                if cell.links.length < maxLinks then
                  raise (cells.setIfInBounds n { cell with links := cell.links ++ [new] }) n weight
                else cells
where
  replaceFirst (like : Link → Bool) (new : Link) : List Link → List Link
    | [] => []
    | l :: rest => if like l then new :: rest else l :: replaceFirst like new rest
  /-- Lets a cell weigh at least as much as given. -/
  raise (cells : Cells) (n : Nat) (weight : Int) : Cells :=
    cells.modify n fun cell => if cell.weight < weight then { cell with weight } else cell

/-- A way down from a cell: the cell it has come to, how many derivations it still has to pass, extras not
counted, and what it has passed, from the bottom up. -/
structure Way where
  cell : Nat
  count : Nat
  passed : List Derivation

/-- The ways that go on from one by one link. -/
def Way.further (cells : Cells) (w : Way) : List Way :=
  ((cells[w.cell]?.map (·.links)).getD []).map fun l =>
    ⟨l.below, if l.derivation.isExtra then w.count else w.count - 1, l.derivation :: w.passed⟩

/-- The number of ways that are followed side by side. Further ones are given up. -/
def maxWays : Nat := 64

/-- Follows ways down until each has passed what it has to, by at most `depth` links: the cells they end at and
what they pass. Shorter ways come first. -/
def follow (cells : Cells) : (depth : Nat) → List Way → List (Nat × List Derivation)
  | 0, _ => []
  | depth + 1, ways =>
      let (done, going) := ways.partition (·.count = 0)
      let next := going.map (Way.further cells)
      let found := done.map fun w => (w.cell, w.passed)
      if next.isEmpty then found
      else found ++ follow cells depth ((next.filterMap List.head? ++ next.flatMap List.tail).take maxWays)

/-- All ways down from a cell to the bottom, as what they pass. -/
def waysToBottom (cells : Cells) : (depth : Nat) → Nat → List Derivation → List (List Derivation)
  | 0, _, _ => []
  | depth + 1, n, passed =>
      match (cells[n]?.map (·.links)).getD [] with
      | [] => [passed]
      | links => links.flatMap fun l => waysToBottom cells depth l.below (l.derivation :: passed)

end Cells

end ViewCompiler.Script
