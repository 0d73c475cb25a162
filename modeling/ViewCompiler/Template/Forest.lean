import ViewCompiler.Binding.Classify
import ViewCompiler.Template.Condition
import ViewCompiler.Template.Interpolation
import ViewCompiler.Template.Loop

/-!
# Forests of view nodes

`ofMarkup` gives each element of some markup its meaning and keeps the nesting. Comments leave no
trace. The first element, in the order of the template, that has no meaning decides the failure.
-/

namespace ViewCompiler.Template

inductive Tree where
  | node (value : Node) (children : List Tree)
  deriving Repr

abbrev Forest := List Tree

namespace Tree

def value : Tree → Node
  | node value _ => value

def children : Tree → List Tree
  | node _ children => children

end Tree

namespace Forest

mutual

/-- The nodes of a tree, each before those under it. -/
def treeNodes : Tree → List Node
  | .node value children => value :: nodes children

/-- The nodes of a forest, each before those under it. -/
def nodes : List Tree → List Node
  | [] => []
  | tree :: others => treeNodes tree ++ nodes others

end

mutual

def treeLines (indent : Text) (depth : Nat) : Tree → List Text
  | .node value children => (Text.repeated indent depth ++ value.describe) :: linesAt indent (depth + 1) children

def linesAt (indent : Text) (depth : Nat) : List Tree → List Text
  | [] => []
  | tree :: others => treeLines indent depth tree ++ linesAt indent depth others

end

/-- A line for each node, indented by its depth. -/
def pretty (forest : Forest) (indent : Text) : Text := Text.join "\n" (linesAt indent 0 forest)

end Forest

/-! ### From markup -/

open Markup (Attribute)

/-- The content of a directive. -/
def directive (tag : Text) (attributes : List Attribute) : Except Cause Content :=
  if tag.lower = "w:if".toList then condition attributes
  else if tag.lower = "w:for".toList then loop attributes
  else .error (.unsupportedDirective tag)

def directiveNode (tag : Text) (attributes : List Attribute) (position : Option Position) : Except Failure Node :=
  match directive tag attributes with
  | .ok content => .ok (.ofContent content (some position))
  | .error cause => refuse position cause

/-- The node of an element or a component, with one binding per attribute. -/
def taggedNode (rules : List Binding.Rule) (role : Binding.Role) (tag : Text) (attributes : List Attribute)
    (position : Option Position) : Except Failure Node := do
  let bindings ← attributes.mapM fun a => Binding.classify rules role position a.key a.value
  let content : Content := match role with
    | .element => .element tag
    | .component => .component tag
  match BindingSet.ofList bindings with
  | .ok set => return ⟨content, set, some position⟩
  | .error duplicate => refuse position (.duplicateBinding duplicate tag)

/-- The node that an element of markup stands for. -/
def elementNode (rules : List Binding.Rule) (tag : Text) (attributes : List Attribute) (position : Option Position) :
    Except Failure Node :=
  if isDirectiveTag tag then directiveNode tag attributes position
  else if isComponentTag tag then taggedNode rules .component tag attributes position
  else taggedNode rules .element tag attributes position

mutual

/-- The trees that a node of markup stands for: none for a comment, one for an element, and one for each
piece of a text. -/
def Forest.ofNode (rules : List Binding.Rule) : Markup.Node → Except Failure (List Tree)
  | .comment _ _ => .ok []
  | .text content position => .ok ((interpolate position content).map fun node => .node node [])
  | .element tag attributes position children => do
      let value ← elementNode rules tag attributes position
      return [.node value (← Forest.ofMarkup rules children)]

def Forest.ofMarkup (rules : List Binding.Rule) : List Markup.Node → Except Failure (List Tree)
  | [] => .ok []
  | node :: others => do
      let trees ← Forest.ofNode rules node
      return trees ++ (← Forest.ofMarkup rules others)

end

end ViewCompiler.Template
