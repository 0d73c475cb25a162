import ViewCompiler.Edit.Range

/-!
# Edits

An edit says which range of a text it replaces and how the new text comes from the current one. Edits
are planned against one text and applied together by `Edit.Apply`; the list of edits planned so far,
in the order they were added, is a `Plan`.
-/

namespace ViewCompiler

structure Edit where
  range : Range
  /-- The new text of the range, from the text that the edits within it leave there. -/
  render : Text → Text
  /-- What kind of edit it is, for those who ask whether it has been planned already. -/
  label : Option Text

abbrev Plan := List Edit

namespace Edit

def replacement (range : Range) (text : Text) (label : Option Text) : Edit := ⟨range, fun _ => text, label⟩

/-- Inserts a text at an offset, after what was inserted there before. -/
def insertion (offset : Int) (text : Text) (label : Option Text) : Edit :=
  ⟨⟨offset, offset, Int.le_refl offset⟩, fun current => current ++ text, label⟩

def isInsertion (e : Edit) : Bool := e.range.isEmpty

end Edit

namespace Plan

def add (plan : Plan) (e : Edit) : Plan := plan ++ [e]

/-- Whether an edit of exactly this range is planned; with a label, one that has it. -/
def has (plan : Plan) (range : Range) (label : Option Text) : Bool :=
  plan.any fun e => e.range = range && (label.isNone || e.label = label)

end Plan

end ViewCompiler
