import ViewCompiler.Script.Production

/-!
# Derivations

A derivation says how a stretch of a script was read: as a terminal, or as a head with what its items
read. Comments may come anywhere; they belong to no item and are marked as extra.

Where a stretch has several derivations, the one with the greater weight is taken, and among equals the
one that is first by `isBefore`.
-/

namespace ViewCompiler.Script

/-- The characters that a derivation covers, and where what comes before it ended. -/
structure Span where
  lead : Nat
  start : Nat
  stop : Nat
  deriving DecidableEq, Repr

inductive Derivation where
  | leaf (terminal : Nat) (span : Span) (extra : Bool)
  | node (head : Nat) (marks : List Mark) (span : Span) (weight : Int) (children : List Derivation)

namespace Derivation

def span : Derivation → Span
  | .leaf _ span _ => span
  | .node _ _ span _ _ => span

def weight : Derivation → Int
  | .leaf _ _ _ => 0
  | .node _ _ _ weight _ => weight

def isExtra : Derivation → Bool
  | .leaf _ _ extra => extra
  | .node _ _ _ _ _ => false

def children : Derivation → List Derivation
  | .leaf _ _ _ => []
  | .node _ _ _ _ children => children

/-- A derivation of a head from what its item read. -/
def ofChildren (head : Nat) (marks : List Mark) (weight : Int) (children : List Derivation) : Derivation :=
  let lead := (children.head?.map (·.span.lead)).getD 0
  let start := (children.head?.map (·.span.start)).getD 0
  let stop := (children.getLast?.map (·.span.stop)).getD start
  .node head marks ⟨lead, start, stop⟩ (children.foldl (fun sum c => sum + c.weight) weight) children

/-- Whether two derivations stand for the same thing at the same place. -/
def isLike (a b : Derivation) : Bool :=
  a.span = b.span && a.isExtra = b.isExtra && a.children.length = b.children.length &&
    match a, b with
    | .leaf s _ _, .leaf t _ _ => s = t
    | .node s _ _ _ _, .node t _ _ _ _ => s = t
    | _, _ => false

/-- The order of derivations: by what they start to differ in, where terminals come before heads. -/
def order : Derivation → Derivation → Ordering
  | .leaf s _ _, .leaf t _ _ => compare s t
  | .leaf _ _ _, .node _ _ _ _ _ => .lt
  | .node _ _ _ _ _, .leaf _ _ _ => .gt
  | .node s _ _ _ xs, .node t _ _ _ ys =>
      ((compare s t).then (compare xs.length ys.length)).then (orderAll xs ys)
where
  orderAll : List Derivation → List Derivation → Ordering
    | x :: xs, y :: ys => (order x y).then (orderAll xs ys)
    | _, _ => .eq

def isBefore (a b : Derivation) : Bool := a.order b = .lt

/-- The better of two derivations of the same stretch, the first where neither is. -/
def better (a b : Derivation) : Derivation :=
  if a.weight < b.weight then b
  else if b.weight < a.weight then a
  else if b.isBefore a then b else a

end Derivation

end ViewCompiler.Script
