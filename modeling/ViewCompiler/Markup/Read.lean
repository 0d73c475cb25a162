import ViewCompiler.Markup.Outline
import ViewCompiler.Markup.Segment
import ViewCompiler.Text.Integer

/-!
# Reading markup

A template is numbered, its outline is read as plain markup, and each element of the outline gets back
the tag and the attributes that wait under its number. Text has the position of the element before it,
or else of the element around it.
-/

namespace ViewCompiler.Markup

/-- The start tag that the attributes of an element refer to. A reference that is not an integer, or too long
a one, is refused. -/
def referred? (tags : List StartTag) (attributes : List (Text × Text)) : Except Template.Failure (Option StartTag) :=
  match attributes.find? (·.1 = referenceKey) with
  | none => .ok none
  | some (_, reference) =>
      match reference.excessiveDigits?, reference.integer? with
      | some digits, _ => .error (.longReference digits)
      | none, none => .error (.badReference reference)
      | none, some (.ofNat n) => .ok tags[n]?
      | none, some (.negSucc _) => .ok none

mutual

/-- The markup of an element. One without a number keeps the name and the attributes of the outline. -/
def nodeOf (tags : List StartTag) (parent : Position) : Item → Except Template.Failure Node
  | .text content => .ok (.text content (some parent))
  | .comment content => .ok (.comment content (some parent))
  | .element name attributes line children => do
      match ← referred? tags attributes with
      | some tag =>
          return .element tag.name tag.attributes (some tag.position)
            (← nodesOf tags tag.position tag.position children)
      | none =>
          let position : Position := ⟨line, 0⟩
          return .element name (attributes.map fun (key, value) => ⟨key, some value⟩) (some position)
            (← nodesOf tags position position children)

/-- The markup of items within an element, where text is to have the position `near`. -/
def nodesOf (tags : List StartTag) (parent near : Position) : List Item → Except Template.Failure (List Node)
  | [] => .ok []
  | .text content :: others => do return .text content (some near) :: (← nodesOf tags parent parent others)
  | .comment content :: others => do return .comment content (some parent) :: (← nodesOf tags parent parent others)
  | item :: others => do
      let node ← nodeOf tags parent item
      return node :: (← nodesOf tags parent (node.position.getD parent) others)

end

/-- The markup of a template. -/
def read (template : Text) : Except Template.Failure (List Node) :=
  let start : Position := ⟨1, 1⟩
  if template.isEmpty then .ok []
  else if template.isAllBlank then .ok [.text template (some start)]
  else
    match number template with
    | .error e => .error (.refused e)
    | .ok numbered => nodesOf numbered.tags start start (Outline.ofText numbered.html)

end ViewCompiler.Markup
