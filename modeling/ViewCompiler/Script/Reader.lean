import ViewCompiler.Script.Grammar.Rules
import ViewCompiler.Script.Parse
import ViewCompiler.Text.Bytes

/-!
# Reading a script

`read?` gives the syntax tree of a well-formed script. The tree is the derivation of the script without
the heads that leave no node and without the terminals that are mere signs or keywords.
-/

namespace ViewCompiler.Script

/-- The words that are nodes of their own. -/
def namedWords : List String := ["this", "super", "true", "false", "null", "undefined"]

/-- The kind of node that a terminal leaves, if it leaves one. -/
def Terminal.kind? : Terminal → Option Kind
  | .literal spelling =>
      if spelling == "get" || spelling == "set" then some .accessor
      else if namedWords.contains spelling then some .other
      else none
  | .lexeme l =>
      match l with
      | .identifier => some .identifier
      | .comment => some .comment
      | .htmlComment => some .htmlComment
      | .privateName | .number | .hashBang | .escape | .regexBody | .regexFlags => some .other
      | _ => none
  | .finish => none

/-- The kinds of the nodes that the heads of a grammar leave. -/
def headKinds (rules : List (Construct × Rule)) : Array (Option Kind) :=
  rules.foldl (fun kinds (c, _) =>
      if c.isHidden then kinds else kinds.setIfInBounds c.ctorIdx (some c.kind))
    (Array.replicate rules.length none)

/-- What is needed to turn a derivation into nodes. -/
structure Shape where
  terminals : Array (Option Kind)
  heads : Array (Option Kind)
  /-- The byte that each character starts at. -/
  bytes : Array Nat

namespace Shape

def byte (s : Shape) (place : Nat) : Nat := s.bytes.getD place 0

/-- A node that covers the characters of a span. -/
def spanning (s : Shape) (kind : Kind) (role : Option Role) (span : Span) (children : List Node) : Node :=
  ⟨kind, role, s.byte span.start, s.byte span.stop - s.byte span.start, children⟩

/-- Gives the nodes that have no role the role of what they are part of. -/
def adopt (role : Option Role) (nodes : List Node) : List Node :=
  match role with
  | some _ => nodes.map fun n => if n.role.isNone then { n with role } else n
  | none => nodes

mutual

/-- The nodes of a derivation, put in front of others. A hidden head gives way to what it consists of. -/
def nodes (s : Shape) (mark : Mark) : Derivation → List Node → List Node
  | .leaf terminal span _, others =>
      match mark.shown.or (s.terminals.getD terminal none) with
      | some kind => s.spanning kind mark.role span [] :: others
      | none => others
  | .node head marks span _ children, others =>
      match mark.shown.or (s.heads.getD head none) with
      | some kind => s.spanning kind mark.role span (nodesOf s marks children []) :: others
      | none =>
          match mark.role with
          | none => nodesOf s marks children others
          | some role => adopt (some role) (nodesOf s marks children []) ++ others

/-- The nodes of the parts of a derivation. Extras have no mark. -/
def nodesOf (s : Shape) : List Mark → List Derivation → List Node → List Node
  | _, [], others => others
  | marks, d :: rest, others =>
      if d.isExtra then nodes s ⟨none, none⟩ d (nodesOf s marks rest others)
      else nodes s (marks.headD ⟨none, none⟩) d (nodesOf s marks.tail rest others)

end

end Shape

/-- The byte that each character of a text starts at, and the one after the last. -/
def byteOffsets (t : Text) : Array Nat :=
  (t.foldl (fun (offsets, byte) c => (offsets.push (byte + c.utf8Size), byte + c.utf8Size)) (#[0], 0)).1

def terminalKinds : Array (Option Kind) := Grammar.automaton.terminals.map Terminal.kind?

def constructKinds : Array (Option Kind) := headKinds Grammar.rules

/-- The syntax tree of a script, or nothing when it is not well formed. -/
def read? (t : Text) : Option Node := do
  let d ← Grammar.automaton.derive? t
  let shape : Shape := ⟨terminalKinds, constructKinds, byteOffsets t⟩
  some ⟨.other, none, 0, Text.byteSize t, shape.nodesOf [] d.children []⟩

end ViewCompiler.Script
