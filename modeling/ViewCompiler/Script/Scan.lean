import ViewCompiler.Script.Automaton
import ViewCompiler.Script.Layout

/-!
# The next token

Only the terminals that are expected at a place are looked for there. The layout is asked first; of the
other terminals the one with the higher priority is taken, then the longer one. A name that spells an
expected keyword is that keyword.
-/

namespace ViewCompiler.Script

structure Token where
  /-- The number of the terminal. -/
  terminal : Nat
  start : Nat
  stop : Nat
  /-- What comes after the token. -/
  rest : Text
  /-- Whether the token is a keyword that could be a name elsewhere. -/
  isWord : Bool

namespace Automaton

def number (a : Automaton) (t : Terminal) : Nat := a.numbers.getD t a.terminals.size

def expects (a : Automaton) (expected : TokenSet) (t : Terminal) : Bool := expected.contains (a.number t)

/-- The terminals that may come anywhere. -/
def isExtra (a : Automaton) (t : Nat) : Bool :=
  t == a.number (.lexeme .comment) || t == a.number (.lexeme .htmlComment)

def allowed (a : Automaton) (expected : TokenSet) : Layout.Allowed :=
  let expects := fun l => a.expects expected (.lexeme l)
  { semicolon := expects .automaticSemicolon
    signatureEnd := expects .signatureSemicolon
    templateText := expects .templateText
    conditionalMark := expects .conditionalMark
    operator := a.expects expected (.literal "||")
    escape := expects .escape
    regexBody := expects .regexBody }

/-- A terminal that was found, before it is known whether it is the one to take. -/
structure Candidate where
  terminal : Nat
  priority : Nat
  start : Nat
  stop : Nat
  /-- Decides between candidates of equal length. -/
  exactness : Nat

def Candidate.isBetter (c d : Candidate) : Bool :=
  d.priority < c.priority ||
    (c.priority = d.priority && (d.stop < c.stop || (c.stop = d.stop && d.exactness < c.exactness)))

/-- The candidate for a terminal, where spacing takes the text `t` at `place` to `u` at `after`. Keywords are
read as names first. -/
def candidate? (a : Automaton) (place after : Nat) (t u : Text) (number : Nat) : Terminal → Option Candidate
  | .literal spelling =>
      let sign := spelling.toList
      if !a.keywords.contains number && Text.startsWith u sign then
        some ⟨number, 1, after, after + sign.length, 2⟩
      else none
  | .lexeme l =>
      match if l.isImmediate then (place, l.length t) else (after, l.length u) with
      | (_, 0) => none
      | (start, length) => some ⟨number, l.priority, start, start + length, if l.isImmediate then 1 else 0⟩
  | .finish => none

/-- Whether a terminal is looked for: it is expected, it may come anywhere, or it is the name that an expected
keyword would be read as. -/
def isSought (a : Automaton) (expected : TokenSet) (number : Nat) (t : Terminal) : Bool :=
  expected.contains number || a.isExtra number || (t = .lexeme .identifier && expected.meets a.keywords)

/-- The token at a place, if any terminal that is expected occurs there. -/
def token? (a : Automaton) (expected : TokenSet) (place : Nat) (t : Text) : Option Token :=
  match Layout.scan (a.allowed expected) t with
  | some found =>
      let start := place + found.skipped
      let rest := t.drop (found.skipped + found.length)
      some ⟨a.number (.lexeme found.lexeme), start, start + found.length, rest, false⟩
  | none =>
      let spacing := (t.takeWhile Lexeme.isSpacing).length
      let u := t.drop spacing
      let after := place + spacing
      let best := a.terminals.zipIdx.foldl (fun (best : Option Candidate) (terminal, number) =>
          if a.isSought expected number terminal then
            match best, a.candidate? place after t u number terminal with
            | some b, some c => if c.isBetter b then some c else some b
            | none, c => c
            | b, none => b
          else best)
        none
      match best with
      | none => if u.isEmpty then some ⟨a.number .finish, after, after, [], false⟩ else none
      | some c =>
          let rest := t.drop (c.stop - place)
          let keyword := a.number (.literal (String.ofList ((t.drop (c.start - place)).take (c.stop - c.start))))
          if c.terminal = a.number (.lexeme .identifier) && expected.contains keyword then
            some ⟨keyword, c.start, c.stop, rest, true⟩
          else some ⟨c.terminal, c.start, c.stop, rest, false⟩

end Automaton

end ViewCompiler.Script
