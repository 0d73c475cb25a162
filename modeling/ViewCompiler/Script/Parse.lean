import ViewCompiler.Script.Scan
import ViewCompiler.Script.Stack

/-!
# Following all readings of a script

A reading goes on token by token. It looks for the tokens that its state expects, ends items while the
token tells it to, and then reads the token. Where a state leaves open what to do, the reading is
continued in every possible way; readings that arrive in the same state at the same place go on as
one. A reading that can do nothing on its token is given up as long as there are others.
-/

namespace ViewCompiler.Script

/-- The states that have been reached so far. -/
structure States where
  known : Array State
  numbers : Std.HashMap Kernel Nat
  /-- The states after a symbol, by the state before it. -/
  moves : Std.HashMap (Nat × Symbol) Nat

namespace States

def add (a : Automaton) (kernel : Kernel) : States → States × Nat
  | ⟨known, numbers, moves⟩ =>
      match numbers[kernel]? with
      | some n => (⟨known, numbers, moves⟩, n)
      | none =>
          let n := known.size
          (⟨known.push (a.state kernel), numbers.insert kernel n, moves⟩, n)

def get (s : States) (n : Nat) : State := s.known.getD n ⟨[], #[], ∅⟩

/-- The state after a symbol. -/
def move (a : Automaton) (s : States) (n : Nat) (x : Symbol) : States × Nat :=
  match s.moves[(n, x)]? with
  | some m => (s, m)
  | none =>
      let kernel := a.successor (s.get n) x
      let (⟨known, numbers, moves⟩, m) := States.add a kernel s
      (⟨known, numbers, moves.insert (n, x) m⟩, m)

end States

inductive Phase where
  | active
  /-- There is nothing to do on the next token. -/
  | stuck
  /-- The reading has come to its end or has become one with another. -/
  | over
  deriving DecidableEq

/-- One of the readings that are followed. -/
structure Reading where
  cell : Nat
  rest : Text
  phase : Phase

structure Parser where
  automaton : Automaton
  states : States
  cells : Cells
  readings : List Reading
  /-- The best derivation of the whole so far. -/
  result : Option Derivation

/-- The number of readings that are kept from one token to the next. -/
def maxReadings : Nat := 6

/-- The number of readings beyond which no further ones are started. -/
def readingLimit : Nat := 10

namespace Parser

def start (a : Automaton) (t : Text) : Parser :=
  let (states, first) := States.add a a.startKernel ⟨#[], ∅, ∅⟩
  { automaton := a
    states
    cells := #[⟨first, 0, [], 0⟩]
    readings := [⟨0, t, .active⟩]
    result := none }

def stateOf (p : Parser) (r : Reading) : Nat := (p.cells[r.cell]?.map (·.state)).getD 0

def setReading (p : Parser) (i : Nat) (r : Reading) : Parser := { p with readings := p.readings.set i r }

/-- Changes the cells and nothing else. -/
def mapCells (f : Cells → Cells) : Parser → Parser
  | ⟨automaton, states, cells, readings, result⟩ => ⟨automaton, states, f cells, readings, result⟩

/-- Puts a derivation on top of a cell, in the given state. -/
def push (p : Parser) (below : Nat) (d : Derivation) (state : Nat) : Parser × Nat :=
  let n := p.cells.size
  (p.mapCells (Cells.push · below d state), n)

/-- The state after a symbol. -/
def move (x : Symbol) (before : Nat) : Parser → Parser × Nat
  | ⟨automaton, states, cells, readings, result⟩ =>
      let (states, state) := states.move automaton before x
      (⟨automaton, states, cells, readings, result⟩, state)

def canJoin (p : Parser) (r : Reading) (cell : Nat) : Bool := r.phase = .active && p.cells.meet r.cell cell

/-- Lets a cell become part of a reading in the same state at the same place. -/
def join (p : Parser) (r : Reading) (cell : Nat) : Parser :=
  p.mapCells fun cells =>
    let links := (cells[cell]?.map (·.links)).getD []
    links.foldl (fun cells l => cells.link cells.size r.cell l) cells

/-- Joins a cell with the first reading that it meets, the `i`th left out, or else starts a new one with it. -/
def joinOrStart (p : Parser) (i : Nat) (new : Reading) : Parser :=
  match p.readings.zipIdx.find? fun (r, j) => j ≠ i && p.canJoin r new.cell with
  | some (r, _) => p.join r new.cell
  | none => { p with readings := p.readings ++ [new] }

/-- What an item read, without the extras after it, and those extras. -/
def splitExtras (passed : List Derivation) : List Derivation × List Derivation :=
  let extras := (passed.reverse.takeWhile Derivation.isExtra).reverse
  (passed.take (passed.length - extras.length), extras)

/-- The ways that end at the same cell, together. -/
def byCell (ways : List (Nat × List Derivation)) : List (Nat × List (List Derivation)) :=
  (ways.map (·.1)).eraseDups.map fun n => (n, (ways.filter (·.1 = n)).map (·.2))

/-- The best derivation of an item's head among several ways to read it, with the extras after it. -/
def bestWay (item : Item) (ways : List (List Derivation)) : Option (Derivation × List Derivation) :=
  ways.foldl (fun best way =>
      let (read, extras) := splitExtras way
      let new := Derivation.ofChildren item.head item.marks item.weight read
      match best with
      | none => some (new, extras)
      | some (old, kept) => if old.weight < new.weight || (old.weight = new.weight && new.isBefore old) then
          some (new, extras) else some (old, kept))
    none

/-- Ends an item on top of a cell: what it read is replaced by its head. -/
def replaceOn (p : Parser) (i : Nat) (rest : Text) (item : Item) (below : Nat) (ways : List (List Derivation)) :
    Parser :=
  match bestWay item ways with
  | none => p
  | some (d, extras) =>
      let before := (p.cells[below]?.map (·.state)).getD 0
      let (p, state) := p.move (.head item.head) before
      let (p, cell) := p.push below d state
      let (p, cell) := extras.foldl (fun (p, cell) extra => Parser.push p cell extra state) (p, cell)
      p.joinOrStart i ⟨cell, rest, .active⟩

/-- Ends an item in the `i`th reading. Every way back through the stack gives a reading of its own. -/
def endItem (p : Parser) (i : Nat) (r : Reading) (item : Item) : Parser :=
  (byCell (p.cells.follow (p.cells.size + 1) [⟨r.cell, item.dot, []⟩])).foldl (fun p (below, ways) =>
      if p.readings.length > readingLimit then p else p.replaceOn i r.rest item below ways)
    p

/-- The derivation of the whole script from what is on the stack: the script itself and the extras around it. -/
def whole (head : Nat) (parts : List Derivation) : Derivation :=
  .ofChildren head [] 0 (parts.flatMap fun d => if d.isExtra then [d] else d.children)

/-- The script has been read to its end. -/
def accept (p : Parser) (i : Nat) (r : Reading) (head : Nat) : Parser :=
  let found := (p.cells.waysToBottom (p.cells.size + 1) r.cell []).map (whole head)
  let best := found.foldl (fun best d => some (match best with | none => d | some b => b.better d)) p.result
  { p.setReading i { r with phase := .over } with result := best }

/-- Ends the given items in the `i`th reading, and says at which place the readings of the last of them start,
if there are new ones. -/
def endItems (p : Parser) (i : Nat) (r : Reading) (items : List Item) : Parser × Option Nat :=
  items.foldl (fun (p, last) item =>
      let count := p.readings.length
      let p := p.endItem i r item
      (p, if p.readings.length > count then some count else last))
    (p, none)

/-- Reads a token in the `i`th reading. -/
def shift (p : Parser) (i : Nat) (r : Reading) (token : Token) (extra : Bool) : Parser :=
  let before := p.stateOf r
  let lead := p.cells.placeOf r.cell
  let (p, state) := if extra then (p, before) else p.move (.terminal token.terminal) before
  let (p, cell) := p.push r.cell (.leaf token.terminal ⟨lead, token.start, token.stop⟩ extra) state
  p.setReading i ⟨cell, token.rest, .active⟩

/-- Moves the reading at place `j` to place `i`. -/
def replaceReading (p : Parser) (i j : Nat) : Parser :=
  match p.readings[j]? with
  | some r => { p with readings := (p.readings.set i r).eraseIdx j }
  | none => p

/-- Lets the `i`th reading deal with a token: it ends items, at most `steps` times over, and reads it. -/
def consume : (steps : Nat) → Parser → Nat → Token → Parser
  | 0, p, _, _ => p
  | steps + 1, p, i, token =>
      match p.readings[i]? with
      | none => p
      | some r =>
          let kernel := (p.states.get (p.stateOf r)).kernel
          let choice := p.automaton.choose kernel token.terminal
          let items := choice.ends.filterMap fun n => (p.automaton.progressOf? n).map (·.item)
          let head := Automaton.startHead p.automaton.productions
          let name := p.automaton.number (.lexeme .identifier)
          if items.any (·.head = head) then p.accept i r head
          else if items.isEmpty && !choice.reads then
            if p.automaton.isExtra token.terminal then p.shift i r token true
            else
              let asName := p.automaton.choose kernel name
              if token.isWord && (asName.reads || !asName.ends.isEmpty) then
                consume steps p i { token with terminal := name, isWord := false }
              else p.setReading i { r with phase := .stuck }
          else
            let (p, last) := p.endItems i r items
            if choice.reads then p.shift i r token false
            else match last with
              | some j => consume steps (p.replaceReading i j) i token
              | none => p.setReading i { r with phase := .over }

/-- Lets the `i`th reading deal with its next token. -/
def advance (p : Parser) (steps : Nat) (i : Nat) (r : Reading) : Parser :=
  let expected := (p.states.get (p.stateOf r)).expected
  match p.automaton.token? expected (p.cells.placeOf r.cell) r.rest with
  | some token => p.consume steps i token
  | none => p.setReading i { r with phase := .stuck }

/-- The place that the `i`th reading has come to. -/
def placeOf (p : Parser) (i : Nat) : Nat := (p.readings[i]?.map fun r => p.cells.placeOf r.cell).getD 0

/-- Lets every reading from the `i`th on go on until it is past the place `last`, with at most `tokens` tokens
in all. The answer holds the place that was reached. -/
def round (steps : Nat) : (tokens : Nat) → Parser → Nat → Nat → Parser × Nat
  | 0, p, _, last => (p, last)
  | tokens + 1, p, i, last =>
      match p.readings[i]? with
      | none => (p, last)
      | some r =>
          if r.phase = .active then
            let p := p.advance steps i r
            let place := p.placeOf i
            if last < place || (0 < i && place = last) then round steps tokens p (i + 1) place
            else round steps tokens p i last
          else round steps tokens p (i + 1) last

/-- Joins the `i`th reading with one before it where they meet, and puts heavier readings first. -/
def settle (p : Parser) (i : Nat) : (j : Nat) → Parser × Bool
  | 0 => (p, false)
  | j + 1 =>
      let (p, joined) := p.settle i j
      if joined then (p, true)
      else match p.readings[j]?, p.readings[i]? with
        | some a, some b =>
            if p.canJoin a b.cell then
              let joined := p.join a b.cell
              ({ joined with readings := joined.readings.eraseIdx i }, true)
            else if p.cells.weightOf a.cell < p.cells.weightOf b.cell then
              ({ p with readings := (p.readings.set j b).set i a }, false)
            else (p, false)
        | _, _ => (p, false)

/-- Settles the readings from the `i`th on. -/
def settleFrom : (count : Nat) → Parser → Nat → Parser
  | 0, p, _ => p
  | count + 1, p, i =>
      let (p, joined) := p.settle i i
      settleFrom count p (if joined then i else i + 1)

/-- Gives up the readings that are over, and those that are stuck if others are not. -/
def condense (p : Parser) : Parser :=
  let going := p.readings.filter (·.phase ≠ .over)
  let kept := if going.any (·.phase = .active) then going.filter (·.phase = .active) else []
  let p := settleFrom kept.length { p with readings := kept } 0
  { p with readings := p.readings.take maxReadings }

/-- Follows the readings until none is left. -/
def run (steps tokens : Nat) : (rounds : Nat) → Parser → Nat → Option Derivation
  | 0, p, _ => p.result
  | rounds + 1, p, last =>
      if p.readings.isEmpty then p.result
      else
        let (p, last) := p.round steps tokens 0 last
        run steps tokens rounds p.condense last

end Parser

/-- The derivation of a script, if it has one. The bounds are never reached: a script has at most one token
without characters before each of its other tokens, and a token ends a few items at most for each thing
that was read before it. -/
def Automaton.derive? (a : Automaton) (t : Text) : Option Derivation :=
  let size := t.length + 8
  (Parser.start a t).run (32 * size) (32 * size) (4 * size) 0

end ViewCompiler.Script
