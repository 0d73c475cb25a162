import ViewCompiler.Markup.Token

/-!
# Outlines

The tokens of plain markup are nested by the elements that are open. A start tag may close elements
that cannot hold it; an end tag closes what was left open within its element, unless something of
higher priority is in between, in which case it counts for nothing. Nothing is ever opened that has no
start tag.
-/

namespace ViewCompiler.Markup

/-- A piece of an outline. The line of an element is the one that its start tag ends on. -/
inductive Item where
  | text (content : Text)
  | comment (content : Text)
  | element (name : Text) (attributes : List (Text × Text)) (line : Nat) (children : List Item)
  deriving Repr

namespace Outline

/-! ### Rules for elements -/

/-- The elements that are closed as soon as they are opened. -/
def voidNames : List Text := Text.words "area base basefont br col frame hr img input isindex link meta param"

/-- The elements around every outline. Their start tags open nothing. -/
def frameNames : List Text := Text.words "html head body"

/-- Elements, and the start tags that close them when they are innermost. -/
def closings : List (String × String) :=
  [("a", "a fieldset table td th"),
   ("address", "dd dl dt form li ul"),
   ("b", "center p td th"),
   ("big s small strike tt", "p"),
   ("caption", "col colgroup tbody tfoot thead tr"),
   ("colgroup", "colgroup tbody tfoot thead tr"),
   ("dd", "dt"),
   ("dir menu", "dd dl dt form ul"),
   ("dl", "form li"),
   ("dt", "dd dl"),
   ("font", "center td th"),
   ("form", "form"),
   ("h1 h2 h3 h4 h5 h6", "fieldset form li p table"),
   ("i", "center p td th"),
   ("legend", "fieldset"),
   ("li", "li"),
   ("ol", "form"),
   ("option", "optgroup option"),
   ("p", "address blockquote body caption center col colgroup dd dir div dl dt fieldset form frameset"),
   ("p", "h1 h2 h3 h4 h5 h6 head hr li listing menu multicol ol p pre table tbody td tfoot th title tr ul xmp"),
   ("listing pre", "dd dl dt fieldset form li table ul"),
   ("span", "td th"),
   ("tbody", "tbody tfoot"),
   ("td th", "tbody td tfoot th tr"),
   ("tfoot", "tbody"),
   ("thead", "tbody tfoot"),
   ("tr", "tbody tfoot tr"),
   ("u", "p td th"),
   ("ul", "address form menu pre")]

/-- Whether a start tag closes an open element. -/
def closes (next opened : Text) : Bool :=
  closings.any fun (names, others) => (Text.words names).contains opened && (Text.words others).contains next

/-- The elements whose end tags reach over others, with their priorities. -/
def priorities : List (String × Nat) :=
  [("div", 150), ("td th", 160), ("tr", 170), ("thead tbody tfoot", 180), ("table", 190), ("head body", 200),
   ("html", 220)]

def priority (name : Text) : Nat :=
  ((priorities.find? fun (names, _) => (Text.words names).contains name).map (·.2)).getD 100

/-! ### Open elements -/

/-- An open element with what it holds so far, latest first. -/
structure Opened where
  name : Text
  attributes : List (Text × Text)
  line : Nat
  content : List Item
  deriving Repr

namespace Opened

def close (e : Opened) : Item := .element e.name e.attributes e.line e.content.reverse

/-- Adds an item. Text is joined to the text before it. -/
def add (e : Opened) (item : Item) : Opened :=
  match item, e.content with
  | .text later, .text earlier :: others => { e with content := .text (earlier ++ later) :: others }
  | _, _ => { e with content := item :: e.content }

end Opened

/-- The open elements, and the number of start tags that opened nothing and whose end tags are still to come. -/
structure Stack where
  top : Opened
  below : List Opened
  ignored : Nat
  deriving Repr

namespace Stack

def names (s : Stack) : List Text := s.top.name :: s.below.map (·.name)

def add (s : Stack) (item : Item) : Stack := { s with top := s.top.add item }

/-- Closes the innermost elements while a start tag asks for it. The outermost element stays open. -/
def closeFor (next : Text) (top : Opened) : List Opened → Opened × List Opened
  | [] => (top, [])
  | outer :: others =>
      if closes next top.name then closeFor next (outer.add top.close) others else (top, outer :: others)

/-- What the outermost element holds once all elements are closed. -/
def finish (top : Opened) : List Opened → List Item
  | [] => top.content.reverse
  | outer :: others => finish (outer.add top.close) others

end Stack

/-- How far an outline is: some elements are open, or the outermost one has been closed. -/
inductive Progress where
  | reading (stack : Stack)
  | finished (items : List Item)
  deriving Repr

/-- Closes the innermost elements, as many as `count`. -/
def closeInnermost (ignored : Nat) : Nat → Opened → List Opened → Progress
  | 0, top, below => .reading ⟨top, below, ignored⟩
  | _ + 1, top, [] => .finished top.content.reverse
  | count + 1, top, outer :: others => closeInnermost ignored count (outer.add top.close) others

/-- The number of elements that may be open at once. One more ends the outline. -/
def maxDepth : Nat := 256

/-- Opens an element. The elements around the outline count as open. -/
def openElement (s : Stack) (opened : Opened) (empty : Bool) : Progress :=
  if maxDepth ≤ s.names.length + 2 then .finished (Stack.finish s.top s.below)
  else if empty then .reading (s.add opened.close)
  else .reading { s with top := opened, below := s.top :: s.below }

/-- A start tag first closes what cannot hold it. That of an element around the outline opens nothing, but if
it closes itself it closes the innermost element instead. -/
def startTag (s : Stack) (name : Text) (attributes : List (Text × Text)) (selfClosing : Bool) (line : Nat) :
    Progress :=
  let (top, below) := Stack.closeFor name s.top s.below
  if frameNames.contains name then closeInnermost (s.ignored + 1) (if selfClosing then 1 else 0) top below
  else openElement ⟨top, below, s.ignored⟩ ⟨name, attributes, line, []⟩ (selfClosing || voidNames.contains name)

def endTag (s : Stack) (name : Text) : Progress :=
  if 0 < s.ignored && frameNames.contains name then .reading { s with ignored := s.ignored - 1 }
  else
    let open? := s.names ++ ["body".toList, "html".toList]
    let inner := open?.takeWhile (· != name)
    if inner.length = open?.length || inner.any (priority name < priority ·) then .reading s
    else closeInnermost s.ignored (inner.length + 1) s.top s.below

/-- The effect of a token. `lineAt` tells the line of a place by the number of characters after it. -/
def step (lineAt : Nat → Nat) (p : Progress) (token : Token) : Progress :=
  match p with
  | .finished items => .finished items
  | .reading s =>
      match token with
      | .text content => .reading (s.add (.text content))
      | .comment content => .reading (s.add (.comment content))
      | .startTag name attributes selfClosing remaining =>
          startTag s name attributes selfClosing (lineAt remaining)
      | .endTag name => endTag s name

def Progress.items : Progress → List Item
  | .finished items => items
  | .reading s => Stack.finish s.top s.below

/-- The element that holds a whole outline. -/
def rootName : Text := "wane-root"

/-- The outline of plain markup. The end tags of what surrounds it are read along with it, since they may
fall into a comment that does not end. -/
def ofText (html : Text) : List Item :=
  let whole := html ++ "</" ++ rootName ++ "></body></html>"
  let read := normalize whole
  let ends := whole.lineEnds
  let lineAt (remaining : Nat) := (ends.take (read.length - remaining)).count true + 1
  ((tokens read).foldl (step lineAt) (.reading ⟨⟨rootName, [], 1, []⟩, [], 0⟩)).items

end Outline

end ViewCompiler.Markup
