import ViewCompiler.Value.Basic

/-!
# Bindings

A binding ties a value to a part of a node of the view. On an element or a component it has a target
and a name; the other kinds of nodes have one binding each. Within a node a binding is known by its
kind and its name.
-/

namespace ViewCompiler

/-- What a named binding sets: an attribute, a property or event of an element, or an input or output of a
component. -/
inductive Binding.Target where
  | attr
  | property
  | event
  | input
  | output
  deriving DecidableEq, Repr

inductive Binding.Kind where
  | named (target : Binding.Target)
  | conditional
  | repeating
  | interpolation
  | text
  deriving DecidableEq, Repr

inductive Binding where
  | named (target : Binding.Target) (name : Text) (value : Value)
  | conditional (value : Value) (negated : Bool)
  | repeating (value : Value) (item : Text) (index : Option Text) (key : Option Text)
  | interpolation (value : Value)
  | text (literal : Text)
  deriving DecidableEq, Repr

namespace Binding

def Target.label : Target → Text
  | attr => "attribute"
  | property => "html-element-prop"
  | event => "html-element-event"
  | input => "component-input"
  | output => "component-output"

/-- The name of the kind in messages. -/
def Kind.label : Kind → Text
  | named target => target.label
  | conditional => "conditional"
  | repeating => "repeating"
  | interpolation => "interpolation"
  | text => "text"

/-- The name under which a binding with this target is described. -/
def Target.title : Target → Text
  | attr => "AttributeBinding"
  | property => "HtmlElementPropBinding"
  | event => "HtmlElementEventBinding"
  | input => "ComponentInputBinding"
  | output => "ComponentOutputBinding"

def kind : Binding → Kind
  | named target _ _ => .named target
  | conditional _ _ => .conditional
  | repeating _ _ _ _ => .repeating
  | interpolation _ => .interpolation
  | text _ => .text

def name? : Binding → Option Text
  | named _ name _ => some name
  | _ => none

/-- What a binding is known by within a node. -/
def key (b : Binding) : Kind × Option Text := (b.kind, b.name?)

def value : Binding → Value
  | named _ _ value | conditional value _ | repeating value _ _ _ | interpolation value => value
  | text literal => .plain (.constant literal)

/-- The binding of a text, whose value has to be a constant. -/
def textOf : Value → Except Value.Misplaced Binding
  | .plain (.constant literal) => .ok (text literal)
  | value => .error (.textNotConstant value)

def describe : Binding → Text
  | named target name value => target.title ++ "(" ++ name ++ "=" ++ value.describe ++ ")"
  | conditional value negated =>
      "ConditionalBinding(" ++ (if negated then "!".toList else []) ++ value.describe ++ ")"
  | repeating value item index key =>
      "RepeatingBinding(item=" ++ item ++ ", index=" ++ index.getD "None" ++ ", of=" ++ value.describe ++ ", key=" ++
        key.getD "None" ++ ")"
  | interpolation value => "InterpolationBinding(" ++ value.describe ++ ")"
  | text literal => "TextBinding(" ++ (Argument.constant literal).describe ++ ")"

def inspect : Binding → Text
  | named target name value =>
      target.title ++ "(name=" ++ Text.inspect name ++ ", value=" ++ value.inspect ++ ")"
  | conditional value negated =>
      "ConditionalBinding(value=" ++ value.inspect ++ ", is_negated=" ++
        (if negated then "True".toList else "False".toList) ++ ")"
  | repeating value item index key =>
      "RepeatingBinding(value=" ++ value.inspect ++ ", item_name=" ++ Text.inspect item ++ ", index_name=" ++
        Text.inspectOptional index ++ ", key_path=" ++ Text.inspectOptional key ++ ")"
  | interpolation value => "InterpolationBinding(value=" ++ value.inspect ++ ")"
  | text literal => "TextBinding(value=" ++ (Argument.constant literal).inspect ++ ")"

end Binding

end ViewCompiler
