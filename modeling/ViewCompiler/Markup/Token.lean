import ViewCompiler.Markup.Reference.Basic
import ViewCompiler.Text.Newline

/-!
# Tokens of plain markup

Plain markup is cut into start tags, end tags, comments and text by the rules of the HTML standard. The
content of some elements is text whatever it looks like; `Mode` says how the text after a token is read.
-/

namespace ViewCompiler.Markup

/-- A token. A start tag is also told by how many characters come after it. -/
inductive Token where
  | text (content : Text)
  | comment (content : Text)
  | startTag (name : Text) (attributes : List (Text × Text)) (selfClosing : Bool) (remaining : Nat)
  | endTag (name : Text)
  deriving DecidableEq, Repr

/-- How text is read: as markup, as the content of an element with or without references, or as text to
the very end. -/
inductive Mode where
  | markup
  | content (element : Text) (references : Bool)
  | plain
  deriving DecidableEq, Repr

namespace Token

def isSpace (c : Char) : Bool := c == ' ' || c == '\t' || c == '\n' || c == '\x0c'

def skipSpaces (t : Text) : Text := t.dropWhile isSpace

/-! ### Tags -/

def endsName (c : Char) : Bool := isSpace c || c == '/' || c == '>'

/-- The characters up to the first that satisfies a test, and the rest from it on. -/
def upTo (stop : Char → Bool) (t : Text) : Text × Text := (t.takeWhile (!stop ·), t.dropWhile (!stop ·))

/-- The value of an attribute after its equals sign, and the rest. A quote that does not close gives none. -/
def attributeValue? (t : Text) : Option (Text × Text) :=
  let quoted (mark : Char) (rest : Text) :=
    match upTo (· == mark) rest with
    | (value, _ :: after) => some (value, after)
    | (_, []) => none
  match t with
  | '"' :: rest => quoted '"' rest
  | '\'' :: rest => quoted '\'' rest
  | _ => some (upTo (fun c => isSpace c || c == '>') t)

/-- Reads the attributes of a tag up to its end. The fuel is the number of characters left. A tag that
does not end gives none. -/
def attributes? : Nat → Text → Option (List (Text × Text) × Bool × Text)
  | 0, _ => none
  | fuel + 1, t =>
      match skipSpaces t with
      | [] => none
      | '>' :: rest => some ([], false, rest)
      | '/' :: '>' :: rest => some ([], true, rest)
      | '/' :: rest => attributes? fuel rest
      | c :: rest => do
          -- An equals sign counts as part of a key that it starts.
          let (key, after) := upTo (fun c => endsName c || c == '=') rest
          let (value, after) ← match skipSpaces after with
            | '=' :: assigned => attributeValue? (skipSpaces assigned)
            | beyond => some ([], beyond)
          let (others, selfClosing, rest) ← attributes? fuel after
          return ((Text.lower (c :: key), Reference.decode .attributeValue value) :: others, selfClosing, rest)

/-- Without the attributes whose key an earlier one has. -/
def distinctKeys : List (Text × Text) → List (Text × Text)
  | [] => []
  | a :: others => a :: (distinctKeys others).filter (·.1 ≠ a.1)

/-- The name, the attributes and the end of the tag whose name a text starts with, and the rest. -/
def tag? (t : Text) : Option (Text × List (Text × Text) × Bool × Text) := do
  let (name, after) := upTo endsName t
  let (attributes, selfClosing, rest) ← attributes? (after.length + 1) after
  return (name.lower, distinctKeys attributes, selfClosing, rest)

/-! ### Comments -/

/-- A comment up to its end mark, and the rest. One that does not end takes everything. -/
def commentBody : Text → Text × Text
  | [] => ([], [])
  | c :: rest =>
      if Text.startsWith (c :: rest) "-->" then ([], rest.drop 2)
      else if Text.startsWith (c :: rest) "--!>" then ([], rest.drop 3)
      else
        let (content, after) := commentBody rest
        (c :: content, after)

/-- The content of a comment, from what stands after its start mark, and the rest. -/
def comment? : Text → Text × Text
  | '>' :: rest => ([], rest)
  | '-' :: '>' :: rest => ([], rest)
  | t => commentBody t

/-- What stands up to the next closing bracket, and the rest after it. -/
def throughBracket (t : Text) : Text × Text :=
  let (content, after) := upTo (· == '>') t
  (content, after.drop 1)

/-! ### Modes -/

def rawNames : List Text :=
  ["script".toList, "style".toList, "iframe".toList, "noembed".toList, "noframes".toList, "xmp".toList]

def decodedNames : List Text := ["title".toList, "textarea".toList]

/-- How the text after a token is read. -/
def mode : Token → Mode
  | startTag name _ false _ =>
      if rawNames.contains name then .content name false
      else if decodedNames.contains name then .content name true
      else if name = "plaintext".toList then .plain
      else .markup
  | _ => .markup

/-- Whether a text starts with a name and something that ends it, in letters of either case. -/
def startsWithName (name t : Text) : Bool :=
  Text.lower (t.take name.length) = name && (t.drop name.length).head?.any endsName

/-- Whether a text starts with the end tag of an element. -/
def startsWithEndTag (name : Text) : Text → Bool
  | '<' :: '/' :: rest => startsWithName name rest
  | _ => false

/-- Whether a text starts with the start tag of an element. -/
def startsWithStartTag (name : Text) : Text → Bool
  | '<' :: rest => startsWithName name rest
  | _ => false

/-- The content of an element up to its end tag. -/
def contentOf (name : Text) : Text → Text
  | [] => []
  | c :: rest => if startsWithEndTag name (c :: rest) then [] else c :: contentOf name rest

/-- Where a place in a script is: the script may hide within comment marks, and another one within these. An
end tag within the inner script does not end the outer one. -/
inductive Hiding where
  | unhidden
  | hidden
  | inner
  deriving DecidableEq, Repr

def scriptName : Text := "script"

/-- Where a script goes on after the first character of a text. -/
def Hiding.after (t : Text) : Hiding → Hiding
  | .unhidden => if t.startsWith "<!--" then .hidden else .unhidden
  | .hidden =>
      if t.startsWith "-->" then .unhidden else if startsWithStartTag scriptName t then .inner else .hidden
  | .inner =>
      if t.startsWith "-->" then .unhidden else if startsWithEndTag scriptName t then .hidden else .inner

/-- The content of a script up to its end tag. -/
def scriptContent (h : Hiding) : Text → Text
  | [] => []
  | c :: rest =>
      if h ≠ .inner && startsWithEndTag scriptName (c :: rest) then []
      else c :: scriptContent (h.after (c :: rest)) rest

/-- A token, if there is one, and the rest after it. -/
abbrev Step := Option Token × Text

/-- The step at a declaration, from what stands after its `<!`. -/
def declaration (t : Text) : Step :=
  if t.startsWith "--" then
    let (content, rest) := comment? (t.drop 2)
    (some (comment content), rest)
  else
    let (content, rest) := throughBracket t
    if Text.lower (t.take 7) = "doctype".toList then (none, rest) else (some (comment content), rest)

/-- The step at an angle bracket and the character after it. A tag that does not end takes everything. -/
def markupStep (c : Char) (rest : Text) : Step :=
  if c = '!' then declaration rest
  else if c = '?' then
    let (content, after) := throughBracket (c :: rest)
    (some (comment content), after)
  else if c = '/' then
    match rest with
    | [] => (some (text ['<', '/']), [])
    | d :: _ =>
        if d.isAlpha then
          match tag? rest with
          | some (name, _, _, after) => (some (endTag name), after)
          | none => (none, [])
        else
          let (content, after) := throughBracket rest
          (if d = '>' then none else some (comment content), after)
  else if c.isAlpha then
    match tag? (c :: rest) with
    | some (name, attributes, selfClosing, after) => (some (startTag name attributes selfClosing after.length), after)
    | none => (none, [])
  else (some (text ['<']), c :: rest)

/-- The first step of reading a text. -/
def next (mode : Mode) (t : Text) : Step :=
  let content := match mode with
    | .markup => []
    | .content element _ => if element = scriptName then scriptContent .unhidden t else contentOf element t
    | .plain => t
  if !content.isEmpty then
    let shown := if mode matches .content _ true then Reference.decode .text content else content
    (some (text shown), t.drop content.length)
  else
    match t with
    | '<' :: c :: rest => markupStep c rest
    | ['<'] => (some (text ['<']), [])
    | _ =>
        let (content, rest) := upTo (· == '<') t
        (some (text (Reference.decode .text content)), rest)

/-- The tokens of a text. The fuel is the number of its characters: no step leaves the text as long as it
was. -/
def tokensWithin : Nat → Mode → Text → List Token
  | 0, _, _ => []
  | _, _, [] => []
  | fuel + 1, mode, t =>
      match next mode t with
      | (some token, rest) => token :: tokensWithin fuel token.mode rest
      | (none, rest) => tokensWithin fuel .markup rest

end Token

/-- A text as plain markup is read: lines end with line feeds, and the character zero is replaced. -/
def normalize (t : Text) : Text := t.withLineFeeds.map fun c => if c.toNat = 0 then '\uFFFD' else c

/-- The tokens of plain markup. -/
def tokens (t : Text) : List Token := Token.tokensWithin t.length .markup t

end ViewCompiler.Markup
