import ViewCompiler.Text.Basic

/-!
# Syntax trees of a script

A node covers `length` bytes of its source from `start` on and plays a role in its parent. The kinds
tell apart only what the instrumentation looks at; every other construct is `other`. Apart from
the two accessor keywords a tree holds no node for a bare keyword or bracket.

`preorder` is the recursive order of visit. `Script.Cursor` walks the same order step by step.
-/

namespace ViewCompiler.Script

inductive Kind where
  | classDeclaration
  | abstractClass
  | classExpression
  | classBody
  | methodDefinition
  /-- The keyword `get` or `set` in front of an accessor's name. -/
  | accessor
  | parameters
  | arguments
  | call
  | member
  | arrow
  | block
  | parenthesized
  | spread
  | decorator
  | string
  | template
  /-- An embedded expression of a template literal. -/
  | substitution
  | identifier
  | propertyName
  /-- A property of an object literal that is named like the variable it takes its value from. -/
  | shorthand
  /-- A property of an object pattern that is named like the variable it is bound to. -/
  | shorthandPattern
  | typeName
  | comment
  /-- A comment in the style of HTML. It counts as a part of what it stands in, unlike the others. -/
  | htmlComment
  | other
  deriving DecidableEq, Hashable, Repr

/-- The kinds of the nodes that spell a name of their own. -/
def Kind.isName : Kind → Bool
  | .identifier | .propertyName | .shorthand | .shorthandPattern | .typeName => true
  | _ => false

def Kind.isClass : Kind → Bool
  | .classDeclaration | .abstractClass | .classExpression => true
  | _ => false

/-- The part a node plays in its parent. -/
inductive Role where
  | name
  | body
  | parameters
  | function
  | arguments
  | property
  deriving DecidableEq, Hashable, Repr

structure Node where
  kind : Kind
  role : Option Role
  /-- The first byte of the node's text. -/
  start : Nat
  /-- The number of bytes of the node's text. -/
  length : Nat
  children : List Node
  deriving Repr

namespace Node

/-- The byte after the last byte of the node's text. -/
def stop (n : Node) : Nat := n.start + n.length

theorem start_le_stop (n : Node) : n.start ≤ n.stop := Nat.le_add_right _ _

/-- The first child with the given role. -/
def child? (n : Node) (role : Role) : Option Node := n.children.find? (·.role = some role)

/-- The children that are neither comments nor keywords. -/
def parts (n : Node) : List Node := n.children.filter fun c => c.kind ≠ .comment ∧ c.kind ≠ .accessor

/-- The number of nodes of the tree. -/
def size : Node → Nat
  | ⟨_, _, _, _, children⟩ => 1 + total children
where
  total : List Node → Nat
  | [] => 0
  | c :: rest => size c + total rest

/-- Every node of the tree, a parent before its children and the children in order. -/
def preorder : Node → List Node
  | ⟨kind, role, start, length, children⟩ => ⟨kind, role, start, length, children⟩ :: all children
where
  all : List Node → List Node
  | [] => []
  | c :: rest => preorder c ++ all rest

end Node

end ViewCompiler.Script
