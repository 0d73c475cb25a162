import ViewCompiler.Script.Automaton

/-!
# States and their actions

A state is what the items of its kernel allow. On a terminal it may read it, or end one of the items
that have been read to their end and replace what they read by their head. Where several of these are
possible the strengths and groupings of the items decide; what they leave open is followed at once.
-/

namespace ViewCompiler.Script

/-- Items that have been read in part, by number and in order, with the terminals that may follow them. -/
abbrev Kernel := List (Nat × TokenSet)

structure State where
  kernel : Kernel
  /-- What may follow each head that may open here. It is empty for the others. -/
  opened : Array TokenSet
  /-- The terminals that something can be done on. -/
  expected : TokenSet

/-- What a state does on a terminal: it ends some items, each in a reading of its own, and may read it. -/
structure Choice where
  ends : List Nat
  reads : Bool

namespace Automaton

/-- How two sides compare in strength. A side is a strength and the heads it stands for. -/
def compare (a : Automaton) (left : Strength × List Nat) (right : Strength × List Nat) : Ordering :=
  match left.1.number?, right.1.number? with
  | some m, some n => if m = 0 && n = 0 then byLists else Ord.compare m n
  | some m, none => if right.1 = .unset && m ≠ 0 then Ord.compare m 0 else byLists
  | none, some n => if left.1 = .unset && n ≠ 0 then Ord.compare 0 n else byLists
  | none, none => byLists
where
  names (side : Strength × List Nat) : Rank → Bool
    | .level s => side.1 = s
    | .construct c => side.2.contains c.ctorIdx
  /-- Which side a list names first, once it has named the other one too. -/
  inList (sawLeft sawRight : Bool) : List Rank → Option Ordering
    | [] => none
    | rank :: rest =>
        if names left rank then if sawRight then some .lt else inList true sawRight rest
        else if names right rank then if sawLeft then some .gt else inList sawLeft true rest
        else inList sawLeft sawRight rest
  byLists : Ordering := (a.strengths.findSome? (inList false false)).getD .eq

/-- The items that may end on a terminal, as far as their strengths let them, and what is known of them. -/
structure Endings where
  items : List Nat
  strength : Strength
  heads : List Nat
  groupings : List (Option Grouping)

def progressOf? (a : Automaton) (n : Nat) : Option Progress := a.progress[n]?

/-- Adds an item that has been read to its end to those that may end. A stronger one replaces the others, a
weaker one is left out. -/
def addEnding (a : Automaton) (found : Endings) (n : Nat) (item : Item) : Endings :=
  let only : Endings := ⟨[n], item.strength, [item.head], [item.grouping]⟩
  if found.items.isEmpty then only
  else match a.compare (item.strength, [item.head]) (found.strength, found.heads) with
    | .gt => only
    | .lt => found
    | .eq =>
        { items := found.items ++ [n]
          strength := item.strength
          heads := if found.heads.contains item.head then found.heads else item.head :: found.heads
          groupings := item.grouping :: found.groupings }

def endings (a : Automaton) (kernel : Kernel) (t : Nat) : Endings :=
  kernel.foldl (fun found (n, after) =>
      match a.progressOf? n with
      | some p => if p.next.isNone && after.contains t then a.addEnding found n p.item else found
      | none => found)
    ⟨[], .unset, [], []⟩

/-- The items that go on with a terminal. -/
def continuations (a : Automaton) (kernel : Kernel) (t : Nat) : List Item :=
  kernel.filterMap fun (n, _) => do
    let p ← a.progressOf? n
    let next ← p.next
    if (firstOf a.first next).contains t then some p.item else none

/-- The items that have been read to their end and that a terminal may follow. -/
def completed (a : Automaton) (kernel : Kernel) (t : Nat) : List Item :=
  kernel.filterMap fun (n, after) => do
    let p ← a.progressOf? n
    if p.next.isNone && after.contains t then some p.item else none

def isRepetition (a : Automaton) (head : Nat) : Bool :=
  a.productions.constructs ≤ head && head < a.productions.bodies.size

/-- What to do on a terminal. Within one repetition the shorter reading always ends first. -/
def choose (a : Automaton) (kernel : Kernel) (t : Nat) : Choice :=
  let continuing := a.continuations kernel t
  let ending := a.endings kernel t
  if ending.items.isEmpty || continuing.isEmpty then ⟨ending.items, !continuing.isEmpty⟩
  else
    let rivals := continuing.filter (·.dot > 0) ++ a.completed kernel t
    match rivals with
    | [] => ⟨ending.items, true⟩
    | first :: _ =>
        if a.isRepetition first.head && rivals.all (·.head = first.head) then ⟨ending.items, false⟩
        else
          let orders := (continuing.filter (·.dot > 0)).map fun item =>
            a.compare (item.strength, [item.head]) (ending.strength, ending.heads)
          let stronger := orders.contains .gt
          let weaker := orders.contains .lt
          if stronger && !weaker then ⟨[], true⟩
          else if weaker && !stronger then ⟨ending.items, false⟩
          else if stronger && weaker then ⟨ending.items, true⟩
          else if ending.groupings.all (· = some .left) then ⟨ending.items, false⟩
          else if ending.groupings.all (· = some .right) then ⟨[], true⟩
          else ⟨ending.items, true⟩

/-- Adds what may follow the heads that may open before an item's next step. -/
def openFor (a : Automaton) (opened : Array TokenSet) (p : Progress) (after : TokenSet) : Array TokenSet :=
  match p.next with
  | some (.head n) =>
      let beyond := p.beyond.getD after
      (a.leads.getD n #[]).foldl (fun opened lead =>
          let set := if lead.ends then lead.after ∪ beyond else lead.after
          opened.modify lead.head (· ∪ set))
        opened
  | _ => opened

def expectedOf (a : Automaton) (expected : TokenSet) (p : Progress) (after : TokenSet) : TokenSet :=
  match p.next with
  | some s => expected ∪ firstOf a.first s
  | none => expected ∪ after

def state (a : Automaton) (kernel : Kernel) : State :=
  let known := kernel.filterMap fun (n, after) => (a.progressOf? n).map (·, after)
  { kernel
    opened := known.foldl (fun opened (p, after) => a.openFor opened p after) (Array.replicate a.first.size ∅)
    expected := known.foldl (fun expected (p, after) => a.expectedOf expected p after) ∅ }

/-- A kernel in order, every item once. -/
def gather (entries : List (Nat × TokenSet)) : Kernel :=
  merge (entries.mergeSort fun x y => x.1 ≤ y.1)
where
  merge : List (Nat × TokenSet) → Kernel
    | [] => []
    | (n, after) :: rest =>
        match merge rest with
        | (m, further) :: others =>
            if n = m then (n, after ∪ further) :: others else (n, after) :: (m, further) :: others
        | [] => [(n, after)]

/-- The kernel after a symbol has been read. -/
def successor (a : Automaton) (s : State) (x : Symbol) : Kernel :=
  let own := s.kernel.flatMap fun (n, after) =>
    match a.progressOf? n with
    | some p => if p.next = some x then p.advance.map (·, after) else []
    | none => []
  let opened := (a.openings.getD x []).flatMap fun (head, items) =>
    let after := s.opened.getD head ∅
    if after.isEmpty then [] else items.map (·, after)
  gather (own ++ opened)

/-- The kernel before anything has been read. -/
def startKernel (a : Automaton) : Kernel :=
  gather (a.start.map (·, .singleton (a.numbers.getD .finish 0)))

end Automaton

end ViewCompiler.Script
