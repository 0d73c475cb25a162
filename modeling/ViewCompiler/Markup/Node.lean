import ViewCompiler.Text.Position

/-!
# Markup

A template as plain markup, before any of its tags and attributes has been given a meaning. Tags and
keys keep the spelling they have in the template.
-/

namespace ViewCompiler.Markup

structure Attribute where
  key : Text
  value : Option Text
  deriving DecidableEq, Repr

inductive Node where
  | text (content : Text) (position : Option Position)
  | comment (content : Text) (position : Option Position)
  | element (tag : Text) (attributes : List Attribute) (position : Option Position) (children : List Node)
  deriving Repr

namespace Node

def position : Node → Option Position
  | text _ position | comment _ position | element _ _ position _ => position

/-- A short text for an element: its tag and how much it holds. Other nodes have none. -/
def summary? : Node → Option Text
  | element tag attributes _ children =>
      some ("RawElement(<" ++ tag ++ ">, attrs=" ++ Text.ofNat attributes.length ++ ", children=" ++
        Text.ofNat children.length ++ ")")
  | _ => none

end Node

end ViewCompiler.Markup
