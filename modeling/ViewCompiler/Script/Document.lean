import ViewCompiler.Script.Cursor
import ViewCompiler.Script.Reader

/-!
# Documents

A document is a script together with its syntax tree. The tree may be any tree over the text: the
queries below, and the instrumentation built on them, do not depend on how it was read.

Places in the tree are bytes. `charOffset` and `rangeOf` turn them into character offsets, which is
what edits are planned in; lines are counted from 1.
-/

namespace ViewCompiler.Script

structure Document where
  text : Text
  root : Node
  /-- Whether the text is a well-formed script. The tree of one that is not is empty. -/
  wellFormed : Bool

/-- A template given as a string to a decorator, and the line it starts on. -/
structure TemplateLiteral where
  text : Text
  line : Nat
  deriving DecidableEq, Repr

namespace Document

def read (t : Text) : Document :=
  match read? t with
  | some root => ⟨t, root, true⟩
  | none => ⟨t, ⟨.other, none, 0, Text.byteSize t, []⟩, false⟩

def textOf (doc : Document) (n : Node) : Text := Text.byteSlice doc.text n.start n.stop

/-- The character offset of a byte. A byte before the text counts as its start, one past the end as its end. -/
def charOffset (doc : Document) (byte : Int) : Nat := Text.charOffset byte.toNat doc.text

/-- The character offsets at which a node starts and stops. -/
def rangeOf (doc : Document) (n : Node) : Nat × Nat := (doc.charOffset n.start, doc.charOffset n.stop)

theorem rangeOf_le (doc : Document) (n : Node) : (doc.rangeOf n).1 ≤ (doc.rangeOf n).2 :=
  Text.charOffset_mono doc.text n.start_le_stop

/-- The line that a byte lies on. -/
def lineAt (doc : Document) (byte : Nat) : Nat := (Text.takeBytes byte doc.text).count '\n' + 1

/-- The line that a node starts on. -/
def lineOf (doc : Document) (n : Node) : Nat := doc.lineAt n.start

/-- The spaces and tabs at the start of the line that a character lies on. -/
def lineIndent (doc : Document) (offset : Nat) : Text :=
  let before := doc.text.take offset
  let onLine := (before.reverse.takeWhile (· != '\n')).length
  (doc.text.drop (before.length - onLine)).takeWhile fun c => c == ' ' || c == '\t'

def indentOf (doc : Document) (n : Node) : Text := doc.lineIndent (doc.rangeOf n).1

/-- The nodes of a kind, in order. -/
def nodesOf (doc : Document) (kind : Kind) : List Node := doc.root.walk.filter (·.kind = kind)

/-- Every class of the document, an outer class before the classes within it. -/
def classes (doc : Document) : List Node := doc.root.walk.filter (·.kind.isClass)

def className (doc : Document) (cls : Node) : Text :=
  match cls.child? .name with
  | some name => doc.textOf name
  | none => "<anonymous>"

/-- The names spelled within a tree, in order. -/
def namesIn (doc : Document) (n : Node) : List (Node × Text) :=
  (n.walk.filter (·.kind.isName)).map fun name => (name, doc.textOf name)

/-- The members of a class: what its body holds besides comments. -/
def members (cls : Node) : List Node := ((cls.child? .body).map Node.parts).getD []

/-- Whether a node is a string of its own or a template without substitutions. -/
def isPlainString (n : Node) : Bool :=
  n.kind = .string || (n.kind = .template && !(n.children.any (·.kind = .substitution)))

/-- The plain strings that one decorator is called with, if it has the given name. -/
def templatesOf (doc : Document) (decorator : Text) (n : Node) : List TemplateLiteral :=
  match n.children.find? (·.kind = .call) with
  | none => []
  | some call =>
      match call.child? .function, call.child? .arguments with
      | some function, some arguments =>
          if doc.textOf function = decorator then
            (arguments.parts.filter isPlainString).map fun argument =>
              ⟨((doc.textOf argument).drop 1).dropLast, doc.lineOf argument⟩
          else []
      | _, _ => []

/-- The templates that the classes of the document are decorated with. -/
def templates (doc : Document) (decorator : Text) : List TemplateLiteral :=
  (doc.nodesOf .decorator).flatMap (doc.templatesOf decorator)

end Document

end ViewCompiler.Script
