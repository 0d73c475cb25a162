import ViewCompiler.Binding.Key
import ViewCompiler.Template.Error
import ViewCompiler.Value.Call

/-!
# Classifying attributes

Which binding an attribute of an element or a component stands for. The rules are tried in order and
the first that accepts the key decides.
-/

namespace ViewCompiler

/-- What carries the attribute. -/
inductive Binding.Role where
  | element
  | component
  deriving DecidableEq, Repr

/-- A rule for attributes: `[attr.x]`, keys with a dash, `[x]`, `(x)`, and everything. -/
inductive Binding.Rule where
  | explicit
  | implicit
  | property
  | event
  | plain
  deriving DecidableEq, Repr

/-- The call that a text at a position denotes. -/
def Expression.call (position : Option Position) (t : Text) : Except Template.Failure Value :=
  match Expression.call? t with
  | some value => .ok value
  | none => Template.refuse position .invalidCall

namespace Binding

open Template (Failure refuse)

/-- The rules in the order they are tried. -/
def defaultRules : List Rule := [.explicit, .implicit, .property, .event, .plain]

def Rule.accepts (rule : Rule) (key : Text) : Bool :=
  match rule with
  | explicit => Delimiters.explicitAttribute.wraps key
  | implicit => key.contains '-' && !Delimiters.explicitAttribute.wraps key && !Delimiters.event.wraps key
  | property => Delimiters.property.wraps key
  | event => Delimiters.event.wraps key
  | plain => true

/-- The target of a property-like binding: a property of an element, an input of a component. -/
def Role.property : Role → Target
  | element => .property
  | component => .input

/-- The target of an event-like binding: an event of an element, an output of a component. -/
def Role.event : Role → Target
  | element => .event
  | component => .output

/-- The literal of a plain attribute's value. -/
def constantOf (written : Text) : Value := .plain (.constant written.quote)

/-- Passes on the value of an attribute that has to have one. -/
def withValue {α : Type} (key : Text) (value : Option Text) (position : Option Position)
    (next : Text → Except Failure α) : Except Failure α :=
  match value with
  | some written => next written
  | none => refuse position (.missingValue key)

/-- The binding that a rule makes of an attribute it accepts. -/
def Rule.bind (rule : Rule) (role : Role) (position : Option Position) (key : Text) (value : Option Text) :
    Except Failure Binding :=
  match rule with
  | explicit => withValue key value position fun written =>
      .ok (named .attr (Delimiters.explicitAttribute.unwrap key) (.ofText written))
  | implicit =>
      if Delimiters.property.wraps key then withValue key value position fun written =>
        .ok (named .attr (Delimiters.property.unwrap key) (.ofText written))
      else .ok (named .attr key (constantOf (value.getD [])))
  | property => withValue key value position fun written =>
      .ok (named role.property (Delimiters.property.unwrap key) (.ofText written))
  | event => withValue key value position fun written =>
      named role.event (Delimiters.event.unwrap key) <$> Expression.call position written
  | plain =>
      match value with
      | none => .ok (named .attr key (constantOf []))
      | some written => .ok (named role.property key (constantOf written))

/-- The binding of an attribute by the first rule that accepts its key. -/
def classify (rules : List Rule) (role : Role) (position : Option Position) (key : Text) (value : Option Text) :
    Except Failure Binding :=
  match rules.find? (·.accepts key) with
  | some rule => rule.bind role position key value
  | none => .error (.unclassified key)

end Binding

end ViewCompiler
