import ViewCompiler.Markup.Tag
import ViewCompiler.Template.Error

/-!
# Segments

A template is cut into start tags, end tags and what stands between them. Then every start tag can be
written anew with a plain name and its number, so that a reader of plain markup gets the nesting
right while names and attributes of any spelling wait under their numbers.

Comments, declarations and the contents of `script` and `style` are passed over unread.
-/

namespace ViewCompiler.Markup

inductive Segment where
  | verbatim (source : Text)
  | endTag (source name : Text)
  | startTag (source name : Text) (attributes : List Attribute) (selfClosing : Bool)
  deriving DecidableEq, Repr

/-- Why a template cannot be cut. The place is told by how many characters are left from it on. -/
structure Fault where
  cause : Template.Cause
  remaining : Nat
  deriving DecidableEq, Repr

namespace Segment

/-- The text that a segment was cut from. -/
def source : Segment → Text
  | verbatim source | endTag source _ | startTag source _ _ _ => source

/-- The element whose unread content follows a segment. -/
def unread? : Segment → Option Text
  | startTag _ name _ false => if unreadElements.contains (plainName name) then some (plainName name) else none
  | _ => none

/-- Whether a character stands for a small letter in an end tag of unread content. -/
def spells (letter c : Char) : Bool :=
  c.toLower == letter || (letter == 's' && c == 'ſ') || (letter == 'i' && (c == 'ı' || c == 'İ'))

/-- Whether a text starts with the end tag of unread content. -/
def startsWithEndOf (name t : Text) : Bool :=
  match t with
  | '<' :: '/' :: rest =>
      let spelled := rest.take name.length
      spelled.length == name.length && (List.zipWith spells name spelled).all id &&
        ((rest.drop name.length).dropWhile Text.isBlank).head? == some '>'
  | _ => false

/-- The content of an element that ends at its end tag, or else with the text. -/
def unreadContent (name : Text) : Text → Text
  | [] => []
  | c :: rest => if startsWithEndOf name (c :: rest) then [] else c :: unreadContent name rest

/-- A text up to and including the first occurrence of `mark` after its first `skipped` characters, or
else all of it. -/
def through (skipped : Nat) (mark t : Text) : Text :=
  match Text.cut? mark (t.drop skipped) with
  | some (before, _) => t.take (skipped + before.length + mark.length)
  | none => t

/-- The end tag that a text starts with: its source and its name. -/
def endTag? : Text → Option (Text × Text)
  | '<' :: '/' :: rest => do
      let (name, after) ← name? rest
      match after.dropWhile Text.isBlank with
      | '>' :: beyond => some (('<' :: '/' :: rest).take (rest.length + 2 - beyond.length), name)
      | _ => none
  | _ => none

/-- The start tag that a text with a name after its first character starts with. -/
def startTag? (t name after : Text) : Except Fault Segment :=
  match tagBody after with
  | .ok body => .ok (startTag (t.take (t.length - body.rest.length)) name body.attributes body.selfClosing)
  | .error .unclosed => .error ⟨.unclosedTag name, t.length⟩
  | .error (.malformed remaining) => .error ⟨.malformedAttribute name, remaining⟩

/-- The segment that starts with an angle bracket. -/
def markup (t : Text) : Except Fault Segment :=
  if t.startsWith "<!--" then .ok (verbatim (through 4 "-->" t))
  else if t.startsWith "<!" || t.startsWith "<?" then .ok (verbatim (through 0 ">" t))
  else
    match endTag? t with
    | some (source, name) => .ok (endTag source name)
    | none =>
        match name? (t.drop 1) with
        | some (name, after) => startTag? t name after
        | none => .ok (verbatim (t.take 1))

/-- The segment that a text starts with. Content of the element `unread` comes first. -/
def next (unread : Option Text) (t : Text) : Except Fault Segment :=
  let content := match unread with
    | some name => unreadContent name t
    | none => []
  if !content.isEmpty then .ok (verbatim content)
  else if t.head? = some '<' then markup t
  else .ok (verbatim (t.takeWhile (· != '<')))

end Segment

/-- The segments of a text. -/
def segmentsAfter (unread : Option Text) : Text → Except Fault (List Segment)
  | [] => .ok []
  | c :: rest => do
      let segment ← Segment.next unread (c :: rest)
      return segment :: (← segmentsAfter segment.unread? (rest.drop (segment.source.length - 1)))
  termination_by t => t.length
  decreasing_by simp only [List.length_drop, List.length_cons]; omega

def segments (t : Text) : Except Fault (List Segment) := segmentsAfter none t

/-! ### Numbered markup -/

/-- The attribute that holds the number of a start tag. -/
def referenceKey : Text := "data-wane-ref"

def Segment.render (reference : Nat) : Segment → Text
  | verbatim source => source
  | endTag _ name => "</" ++ plainName name ++ ">"
  | startTag _ name _ selfClosing =>
      "<" ++ plainName name ++ " " ++ referenceKey ++ "=\"" ++ Text.ofNat reference ++ "\">" ++
        if selfClosing && !contentless.contains (plainName name) then "</" ++ plainName name ++ ">" else []

/-- How many numbers a segment takes. -/
def Segment.weight : Segment → Nat
  | startTag _ _ _ _ => 1
  | _ => 0

/-- The segments with their start tags numbered from `reference` on. -/
def renderFrom (reference : Nat) : List Segment → Text
  | [] => []
  | segment :: others => segment.render reference ++ renderFrom (reference + segment.weight) others

/-- A start tag as it stands in the template. -/
structure StartTag where
  name : Text
  attributes : List Attribute
  position : Position
  deriving DecidableEq, Repr

/-- The start tags of segments that begin at an offset of a text. -/
def startTagsFrom (t : Text) (offset : Nat) : List Segment → List StartTag
  | [] => []
  | segment :: others =>
      let later := startTagsFrom t (offset + segment.source.length) others
      match segment with
      | .startTag _ name attributes _ => ⟨name, attributes, t.positionAt offset⟩ :: later
      | _ => later

/-- A template as numbered markup, and its start tags in the order of their numbers. -/
structure Numbered where
  html : Text
  tags : List StartTag
  deriving DecidableEq, Repr

def number (t : Text) : Except Template.Error Numbered :=
  match segments t with
  | .ok parts => .ok ⟨renderFrom 0 parts, startTagsFrom t 0 parts⟩
  | .error fault => .error { cause := fault.cause, position := some (t.positionAt (t.length - fault.remaining)) }

end ViewCompiler.Markup
