import Std.Data.HashMap
import ViewCompiler.Script.Item

/-!
# The automaton of a grammar

The states of the automaton are sets of items, each with the terminals that may come after its head.
They are not worked out beforehand: a state is given by its kernel, the items that have been read
in part, and what follows from the kernel is found when it is needed.

`Automaton` holds what all states share: the numbers of terminals and items, the terminals that a head
may start with, and which heads may open together with a given one.
-/

namespace ViewCompiler.Script

/-- What an item reads next, by number. -/
inductive Symbol where
  | terminal (t : Nat)
  | head (n : Nat)
  deriving DecidableEq, Hashable, Repr

/-- A head that may open where another one does. -/
structure Lead where
  head : Nat
  /-- The terminals that may follow it there. -/
  after : TokenSet
  /-- Whether what follows the other one may follow it as well. -/
  ends : Bool

/-- What the automaton knows about an item, by number. -/
structure Progress where
  item : Item
  next : Option Symbol
  /-- The terminals that may come after the next step, unless it is the last. -/
  beyond : Option TokenSet
  advance : List Nat

structure Automaton where
  productions : Productions
  strengths : List (List Rank)
  terminals : Array Terminal
  numbers : Std.HashMap Terminal Nat
  /-- The terminals that are spelled like names. -/
  keywords : TokenSet
  progress : Array Progress
  /-- The terminals that each head may start with. -/
  first : Array TokenSet
  leads : Array (Array Lead)
  /-- The heads that have a production starting with a symbol, and the items after that symbol. -/
  openings : Std.HashMap Symbol (List (Nat × List Nat))
  start : List Nat

namespace Automaton

/-- The head of the whole: it comes after all heads of the grammar. -/
def startHead (p : Productions) : Nat := p.bodies.size

/-- The items of the whole before anything has been read. The script may be empty. -/
def startItems (p : Productions) : List Item :=
  [Item.ofBody (startHead p) (Surrounding.none.body (.construct .script)), Item.ofBody (startHead p) .empty]

/-- The terminals of the productions, and those that may come anywhere. -/
def terminalsOf (p : Productions) : List Terminal :=
  let used := p.bodies.toList.flatMap fun bodies => bodies.flatMap fun b =>
    b.steps.filterMap fun s => match s.part with | .terminal t => some t | _ => none
  let all := used ++ [.lexeme .comment, .lexeme .htmlComment, .finish]
  (all.foldl (fun (kept, seen) t => if seen.contains t then (kept, seen) else (t :: kept, seen.insert t))
    (([] : List Terminal), (∅ : Std.HashSet Terminal))).1.reverse

def isKeyword : Terminal → Bool
  | .literal spelling => Lexeme.name spelling.toList = spelling.toList.length
  | _ => false

def symbol (p : Productions) (numbers : Std.HashMap Terminal Nat) (part : Part) : Symbol :=
  match part, p.head? part with
  | .terminal t, _ => .terminal (numbers.getD t 0)
  | _, some n => .head n
  | _, none => .head 0

/-- The terminals that a symbol may start with. -/
def firstOf (first : Array TokenSet) : Symbol → TokenSet
  | .terminal t => .singleton t
  | .head n => first.getD n ∅

/-- One round of finding the terminals that heads start with, given the symbols that they start with. -/
def firstRound (starts : Array (List Symbol)) (first : Array TokenSet) : Array TokenSet :=
  starts.map fun symbols => symbols.foldl (fun set s => set ∪ firstOf first s) ∅

/-- Repeats a step until nothing changes, at most `rounds` times. -/
def settle {α : Type} [DecidableEq α] (step : α → α) : (rounds : Nat) → α → α
  | 0, a => a
  | rounds + 1, a => if step a = a then a else settle step rounds (step a)

/-- The heads that the productions of each head start with, and what follows them there. -/
def directLeads (p : Productions) (first : Part → TokenSet) (head : Nat) : List Lead :=
  (p.bodiesOf head).filterMap fun b =>
    match b.steps with
    | [only] => (p.head? only.part).map fun n => ⟨n, ∅, true⟩
    | step :: next :: _ => (p.head? step.part).map fun n => ⟨n, first next.part, false⟩
    | [] => none

/-- Adds a lead to those found so far, and says whether it says anything new. -/
def addLead (found : Array (Option Lead)) (lead : Lead) : Option (Array (Option Lead)) :=
  match found.getD lead.head none with
  | none => some (found.setIfInBounds lead.head (some lead))
  | some old =>
      let both : Lead := ⟨lead.head, old.after ∪ lead.after, old.ends || lead.ends⟩
      if both.after = old.after && both.ends = old.ends then none
      else some (found.setIfInBounds lead.head (some both))

/-- Follows the leads that are waiting, at most `steps` of them. -/
def follow (direct : Array (List Lead)) : (steps : Nat) → List Lead → Array (Option Lead) → Array (Option Lead)
  | 0, _, found => found
  | _, [], found => found
  | steps + 1, lead :: waiting, found =>
      match addLead found lead with
      | none => follow direct steps waiting found
      | some found =>
          let further := (direct.getD lead.head []).map fun (next : Lead) =>
            if next.ends then { lead with head := next.head } else next
          follow direct steps (further ++ waiting) found

/-- The heads that may open where the given one does, itself among them. -/
def leadsOf (direct : Array (List Lead)) (head : Nat) : Array Lead :=
  (follow direct (direct.size * direct.size) [⟨head, ∅, true⟩] (Array.replicate direct.size none)).filterMap id

def ofRules (rules : List (Construct × Rule)) (strengths : List (List Rank)) : Automaton :=
  let p := Productions.ofRules rules
  let terminals := terminalsOf p
  let numbers : Std.HashMap Terminal Nat := terminals.zipIdx.foldl (fun m (t, n) => m.insert t n) ∅
  let symbolOf := symbol p numbers
  let starts := p.bodies.map fun bodies => (bodies.filterMap (·.steps.head?)).map (symbolOf ·.part) |>.eraseDups
  let first := settle (firstRound starts) starts.size (Array.replicate starts.size ∅)
  let firstPart := fun part => firstOf first (symbolOf part)
  let direct := (Array.range p.bodies.size).map (directLeads p firstPart)
  let transparent := (rules.filter (·.1.isTransparent)).map (·.1.ctorIdx)
  let opening := (List.range p.bodies.size).filter (!transparent.contains ·)
  let items := Item.closure p 32 (startItems p ++ opening.flatMap (Item.openings p))
  let itemNumbers : Std.HashMap Item Nat := items.zipIdx.foldl (fun m (i, n) => m.insert i n) ∅
  let number := fun item => itemNumbers.getD item 0
  let progress := items.map fun item =>
    { item
      next := item.rest.head?.map (symbolOf ·.part)
      beyond := (item.rest.drop 1).head?.map (firstPart ·.part)
      advance := (Item.advance p item).map number : Progress }
  { productions := p
    strengths
    terminals := terminals.toArray
    numbers
    keywords := terminals.zipIdx.foldl (fun set (t, n) => if isKeyword t then set ∪ .singleton n else set) ∅
    progress := progress.toArray
    first
    leads := (Array.range direct.size).map (leadsOf direct)
    openings := progress.foldl addOpening ∅
    start := (startItems p).map number }
where
  /-- Files an item under the symbol that it starts with. -/
  addOpening (m : Std.HashMap Symbol (List (Nat × List Nat))) (progress : Progress) :
      Std.HashMap Symbol (List (Nat × List Nat)) :=
    match progress.next with
    | some s =>
        if progress.item.dot = 0 then
          m.insert s ((progress.item.head, progress.advance) :: m.getD s [])
        else m
    | none => m

end Automaton

end ViewCompiler.Script
