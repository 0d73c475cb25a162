import ViewCompiler.Script.Production
import ViewCompiler.Script.TokenSet

/-!
# Items

An item is a production that has been read up to some point. What has been read counts only as far as
the syntax tree shows it, so productions that agree from there on share their items. A transparent
construct that comes next is replaced by its bodies at once.

Items are numbered in the order in which they take precedence among equals: by how far they have been
read, then by their head.
-/

namespace ViewCompiler.Script

structure Item where
  /-- The number of the head, as in `Productions`. -/
  head : Nat
  /-- The number of steps that have been read. -/
  dot : Nat
  /-- The number of steps in all. -/
  size : Nat
  weight : Int
  /-- The strength and the grouping of the last step that has been read. -/
  strength : Strength
  grouping : Option Grouping
  /-- The marks of the steps that have been read. -/
  marks : List Mark
  rest : List Step
  deriving DecidableEq, Hashable, Repr

namespace Item

def ofBody (head : Nat) (b : Body) : Item := ⟨head, 0, b.steps.length, b.weight, .unset, none, [], b.steps⟩

/-- The steps that stand for a step of a transparent construct. They are shown as that step says, and the
last of them holds at least as it does. -/
def adopt (step : Step) (steps : List Step) : List Step :=
  let marked := steps.map fun s =>
    { s with mark := ⟨step.mark.shown.or s.mark.shown, step.mark.role.or s.mark.role⟩ }
  match marked.getLast? with
  | some last =>
      marked.dropLast ++
        [{ last with
            strength := if last.strength = .unset then step.strength else last.strength
            grouping := last.grouping.or step.grouping }]
  | none => []

/-- The items that stand for an item: those with the bodies of the transparent construct that comes next.
No transparent construct is more than `depth` levels deep in another. -/
def unfold (p : Productions) : (depth : Nat) → Item → List Item
  | 0, item => [item]
  | depth + 1, item =>
      match item.rest with
      | step :: rest =>
          match step.part with
          | .construct c =>
              if c.isTransparent then
                (p.bodiesOf c.ctorIdx).flatMap fun b =>
                  unfold p depth
                    { item with
                      rest := adopt step b.steps ++ rest
                      size := item.size + b.steps.length - 1
                      weight := heavier item.weight b.weight }
              else [item]
          | _ => [item]
      | [] => [item]

/-- The items after the next step. -/
def advance (p : Productions) (item : Item) : List Item :=
  match item.rest with
  | step :: rest =>
      unfold p 4
        { item with
          dot := item.dot + 1
          strength := step.strength
          grouping := step.grouping
          marks := item.marks ++ [step.mark]
          rest := rest }
  | [] => []

/-- The items that open a head. -/
def openings (p : Productions) (head : Nat) : List Item :=
  (p.bodiesOf head).flatMap fun b => unfold p 4 (ofBody head b)

/-- Whether an item takes precedence over another that has been read as far. -/
def precedes (a b : Item) : Bool :=
  a.head < b.head || (a.head = b.head && (a.weight < b.weight || (a.weight = b.weight && a.size ≤ b.size)))

/-- The different items of a list, in order. -/
def distinct (items : List Item) : List Item :=
  (items.foldl (fun (kept, seen) i => if seen.contains i then (kept, seen) else (i :: kept, seen.insert i))
    (([] : List Item), (∅ : Std.HashSet Item))).1.reverse

/-- All items that the given ones lead to in at most `length` steps. -/
def closure (p : Productions) : (length : Nat) → List Item → List Item
  | 0, _ => []
  | length + 1, items =>
      let level := (distinct items).mergeSort precedes
      if level.isEmpty then [] else level ++ closure p length (level.flatMap (advance p))

end Item

end ViewCompiler.Script
