import ViewCompiler.Binding.Key
import ViewCompiler.Binding.Set
import ViewCompiler.Text.Position

/-!
# View nodes

What a template is compiled into: elements and components with their bindings, the two directives, and
the pieces of text. Each node says which nodes of the document it creates.
-/

namespace ViewCompiler.Template

inductive Content where
  | element (tag : Text)
  | component (tag : Text)
  | conditional (value : Value) (negated : Bool)
  | repeating (value : Value) (item : Text) (index : Option Text) (key : Option Text)
  | interpolation (value : Value)
  | text (literal : Text)
  deriving DecidableEq, Repr

/-- A node of a view. Its origin, if it came from markup, is the position of the markup, which may be
unknown. -/
structure Node where
  content : Content
  bindings : BindingSet
  origin : Option (Option Position)
  deriving DecidableEq, Repr

namespace Content

/-- The binding that a directive or a piece of text stands for. Elements and components have theirs from
their attributes. -/
def binding? : Content → Option Binding
  | element _ | component _ => none
  | conditional value negated => some (.conditional value negated)
  | repeating value item index key => some (.repeating value item index key)
  | interpolation value => some (.interpolation value)
  | text literal => some (.text literal)

/-- The directive or piece of text that stands for a binding. -/
def ofBinding? : Binding → Option Content
  | .named _ _ _ => none
  | .conditional value negated => some (conditional value negated)
  | .repeating value item index key => some (repeating value item index key)
  | .interpolation value => some (interpolation value)
  | .text literal => some (text literal)

/-- A part of a loop's title, which an empty text leaves out. -/
def ifPresent (t : Option Text) (print : Text → Text) : Text :=
  match t with
  | some (c :: rest) => print (c :: rest)
  | _ => []

def title : Content → Text
  | element tag => "[Element] <" ++ tag ++ ">"
  | component tag => "[Component] <" ++ tag ++ ">"
  | conditional value negated => "[w:if] " ++ (if negated then "!".toList else []) ++ value.describe
  | repeating value item index key =>
      let binder := match index with
        | some (c :: rest) => "(" ++ item ++ ", " ++ (c :: rest) ++ ")"
        | _ => item
      "[w:for] " ++ binder ++ " of " ++ value.describe ++ ifPresent key fun path => "; key: " ++ path
  | interpolation value => "[Interpolation] \x7b\x7b " ++ value.describe ++ " \x7d\x7d"
  | text literal => "[Text] " ++ literal

/-- The expressions that create the nodes of the document. -/
def creation : Content → List Text
  | element tag | component tag => ["util.__wane__createElement('" ++ tag ++ "')"]
  | conditional _ _ => ["util.__wane__createComment('w:if')", "util.__wane__createComment('/w:if')"]
  | repeating _ _ _ _ => ["util.__wane__createComment('w:for')", "util.__wane__createComment('/w:for')"]
  | interpolation _ => ["util.__wane__createTextNode('')"]
  | text literal => ["util.__wane__createTextNode(" ++ literal ++ ")"]

/-- How many nodes of the document there are: a directive has one where it starts and one where it ends. -/
def nodeCount : Content → Nat
  | conditional _ _ | repeating _ _ _ _ => 2
  | _ => 1

/-- Whether the node consists of nodes of the document alone. A component does not. -/
def isPure : Content → Bool
  | component _ => false
  | _ => true

end Content

/-- There is no binding of this kind and name on a node. -/
structure Missing where
  kind : Binding.Kind
  name : Option Text
  node : Text
  deriving DecidableEq, Repr

def Missing.message (m : Missing) : Text :=
  let target := match m.name with
    | some name => " named '" ++ name ++ "'"
    | none => []
  "Cannot find " ++ m.kind.label ++ " binding" ++ target ++ " for " ++ m.node ++ "."

namespace Node

def title (n : Node) : Text := n.content.title

/-- The title, and for an element or a component its bindings. -/
def describe (n : Node) : Text :=
  match n.content, n.bindings.items with
  | .element _, b :: others | .component _, b :: others =>
      n.title ++ " " ++ Text.join ", " ((b :: others).map Binding.describe)
  | _, _ => n.title

def find (n : Node) (kind : Binding.Kind) (name : Option Text) : Except Missing Binding :=
  match n.bindings.get? kind name with
  | some b => .ok b
  | none => .error ⟨kind, name, n.title⟩

def add (n : Node) (b : Binding) : Except BindingSet.Duplicate Node := do
  return { n with bindings := ← n.bindings.add b }

/-- A node with the binding that its content stands for, and no other. -/
def ofContent (content : Content) (origin : Option (Option Position)) : Node :=
  ⟨content, .ofOption content.binding?, origin⟩

end Node

end ViewCompiler.Template
