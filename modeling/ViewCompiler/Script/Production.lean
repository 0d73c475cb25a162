import Std.Data.HashSet
import ViewCompiler.Script.Rule

/-!
# Productions

A rule is turned into its bodies: the plain sequences of steps that it allows, one for every way to
decide its choices. A repetition becomes a head of its own, which consists of two of its kind or of
what is repeated; equal repetitions share a head.
-/

namespace ViewCompiler.Script

/-- What one step of a production reads. -/
inductive Part where
  | terminal (t : Terminal)
  | construct (c : Construct)
  | repetition (n : Nat)
  deriving DecidableEq, Hashable, Repr

/-- How a step appears in the syntax tree: the kind it is shown as and the role it plays. -/
structure Mark where
  shown : Option Kind
  role : Option Role
  deriving DecidableEq, Hashable, Repr

structure Step where
  part : Part
  strength : Strength
  grouping : Option Grouping
  mark : Mark
  deriving DecidableEq, Hashable, Repr

/-- One way to write what a rule describes. -/
structure Body where
  steps : List Step
  weight : Int
  deriving DecidableEq, Hashable, Repr

/-- The heavier of two weights, the first where neither is. -/
def heavier (a b : Int) : Int := if b.natAbs > a.natAbs then b else a

namespace Body

def empty : Body := ⟨[], 0⟩

def append (a b : Body) : Body := ⟨a.steps ++ b.steps, heavier a.weight b.weight⟩

def weigh (b : Body) (weight : Int) : Body := { b with weight := heavier weight b.weight }

/-- Changes the last step, if there is one. -/
def mapLast (f : Step → Step) (b : Body) : Body :=
  match b.steps.getLast? with
  | some last => { b with steps := b.steps.dropLast ++ [f last] }
  | none => b

end Body

/-- What the rules around a part say about it. -/
structure Surrounding where
  strength : Strength
  grouping : Option Grouping
  mark : Mark

namespace Surrounding

def none : Surrounding := ⟨.unset, .none, ⟨.none, .none⟩⟩

def body (s : Surrounding) (part : Part) : Body := ⟨[⟨part, s.strength, s.grouping, s.mark⟩], 0⟩

/-- A strength holds between the steps of its rule. The last step meets what is around the rule, unless the
rule comes last there as well. -/
def release (s : Surrounding) (grouping : Option Grouping) (b : Body) : Body :=
  b.mapLast fun last =>
    { last with
      strength := s.strength
      grouping := if grouping.isSome then s.grouping else last.grouping }

end Surrounding

/-- What the repetitions met so far repeat, by their number. -/
abbrev Repetitions := Array (List Body)

/-- The number of the repetition of the given bodies. -/
def Repetitions.number (bodies : List Body) : StateM Repetitions Nat := do
  let known ← get
  match known.findIdx? (· == bodies) with
  | some n => pure n
  | none => set (known.push bodies) *> pure known.size

/-- The bodies of a rule. The flag says whether the rule comes last in what is around it. -/
def Rule.bodies (around : Surrounding) (final : Bool) : Rule → StateM Repetitions (List Body)
  | .nothing => pure [.empty]
  | .terminal t => pure [around.body (.terminal t)]
  | .construct c => pure [around.body (.construct c)]
  | .all parts => sequence around final parts
  | .any options => choice around final options
  | .repeated rule => do
      let repeated ← bodies .none true rule
      let n ← Repetitions.number repeated
      pure [around.body (.repetition n)]
  | .held strength grouping rule => do
      let inner ← bodies { around with strength, grouping := grouping.or around.grouping } final rule
      pure (if final then inner else inner.map (around.release grouping))
  | .weighted weight rule => do
      let inner ← bodies around final rule
      pure (inner.map (·.weigh weight))
  | .shown kind rule => bodies { around with mark := { around.mark with shown := some kind } } final rule
  | .role r rule => bodies { around with mark := { around.mark with role := some r } } final rule
where
  sequence (around : Surrounding) (final : Bool) : List Rule → StateM Repetitions (List Body)
    | [] => pure [.empty]
    | part :: rest => do
        let first ← bodies around (final && rest.isEmpty) part
        let others ← sequence around final rest
        pure (first.flatMap fun a => others.map a.append)
  choice (around : Surrounding) (final : Bool) : List Rule → StateM Repetitions (List Body)
    | [] => pure []
    | option :: rest => do
        let first ← bodies around final option
        let others ← choice around final rest
        pure (first ++ others)

/-- The productions of a grammar. A head is a construct, by its index, or one of the repetitions, which are
counted on from there. -/
structure Productions where
  bodies : Array (List Body)
  /-- The number of constructs. -/
  constructs : Nat

namespace Productions

/-- The steps of one repetition: two shorter ones, or what is repeated. -/
def repetition (n : Nat) (repeated : List Body) : List Body :=
  (Surrounding.none.body (.repetition n)).append (Surrounding.none.body (.repetition n)) :: repeated

/-- The different bodies that are not empty, in order. -/
def distinct (bodies : List Body) : List Body :=
  (bodies.foldl (fun (kept, seen) b =>
      if b.steps.isEmpty || seen.contains b then (kept, seen) else (b :: kept, seen.insert b))
    (([] : List Body), (∅ : Std.HashSet Body))).1.reverse

def ofRules (rules : List (Construct × Rule)) : Productions :=
  let ordered := rules.mergeSort fun a b => a.1.ctorIdx ≤ b.1.ctorIdx
  let read : StateM Repetitions (List (List Body)) := ordered.mapM fun r => r.2.bodies .none true
  let (bodies, repetitions) := read.run #[]
  let repeated := repetitions.toList.zipIdx.map fun (bodies, n) => repetition n bodies
  ⟨((bodies ++ repeated).map distinct).toArray, ordered.length⟩

/-- The number of a part that is read as a head. -/
def head? (p : Productions) : Part → Option Nat
  | .terminal _ => none
  | .construct c => some c.ctorIdx
  | .repetition n => some (p.constructs + n)

def bodiesOf (p : Productions) (head : Nat) : List Body := p.bodies.getD head []

end Productions

end ViewCompiler.Script
