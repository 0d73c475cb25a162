import ViewCompiler.Script.Lexeme
import ViewCompiler.Text.Word

/-!
# Tokens that depend on the layout

A statement may end without a semicolon at the end of a line, before a closing brace and at the end of
the script. Whether it does depends on what comes next and on what the grammar could go on with.
The same goes for the text of a template, for the question mark of a conditional expression, which
other tokens start with as well, and for comments in the style of HTML.

`Layout.scan` looks for these lexemes before any other is looked for.
-/

namespace ViewCompiler.Script.Layout

/-- What the grammar allows at a place, as far as the layout rules ask for it. -/
structure Allowed where
  semicolon : Bool
  signatureEnd : Bool
  templateText : Bool
  conditionalMark : Bool
  /-- Whether a binary operator may follow, as after the operand of an expression. -/
  operator : Bool
  escape : Bool
  regexBody : Bool

/-- The characters that count as white space between statements. -/
def isWhite (c : Char) : Bool :=
  let n := c.toNat
  (0x9 ≤ n && n ≤ 0xD) || n == 0x20 || n == 0x1680 || (0x2000 ≤ n && n ≤ 0x200A && n != 0x2007) ||
    n == 0x2028 || n == 0x2029 || n == 0x205F || n == 0x3000

def isLetter (c : Char) : Bool := c.isAlpha || (0x7F < c.toNat && Text.isWordChar c)

/-- The first character, where the end of the text and the null character count alike. -/
def front? (t : Text) : Option Char := t.head?.filter (·.toNat != 0)

/-- What is being passed over between two statements. -/
inductive Gap where
  | blank
  | lineComment
  | blockComment

/-- Where a look at the end of a statement came to its decision. -/
structure Verdict where
  ends : Bool
  /-- Whether a comment was passed over on the way. -/
  passedComment : Bool
  rest : Text

/-- The signs that continue a statement on the next line. -/
def continuingSigns : List Char := "`,.;*%><=?^|&/:".toList

/-- Whether a statement ends before the first token of a further line. -/
def endsBefore (allowed : Allowed) (t : Text) : Verdict :=
  match front? t with
  | none => ⟨true, false, t⟩
  | some c =>
      let rest := t.drop 1
      if continuingSigns.contains c then ⟨false, false, t⟩
      else if c == '\x7b' then ⟨!allowed.signatureEnd, false, t⟩
      else if c == '(' || c == '[' then ⟨!allowed.operator, false, t⟩
      else if c == '+' || c == '-' then ⟨rest.head? == some c, false, rest⟩
      else if c == '!' then ⟨rest.head? != some '=', false, rest⟩
      else if c == 'i' && rest.head? == some 'n' then
        let further := rest.drop 1
        if !(further.head?.any isLetter) then ⟨false, false, further⟩
        else if Text.startsWith further "stanceof" then ⟨(further.drop 8).head?.any isLetter, false, further.drop 8⟩
        else ⟨true, false, further⟩
      else ⟨true, false, t⟩

/-- Passes over the blanks and comments after the end of a line. A slash that opens no comment continues the
statement. -/
def afterLine (allowed : Allowed) (passed : Bool) : Gap → Text → Verdict
  | _, [] => ⟨true, passed, []⟩
  | .blank, '/' :: '/' :: rest => afterLine allowed true .lineComment rest
  | .blank, '/' :: '*' :: rest => afterLine allowed passed .blockComment rest
  | .blank, '/' :: rest => ⟨false, passed, rest⟩
  | .blank, c :: rest =>
      if isWhite c then afterLine allowed passed .blank rest
      else { endsBefore allowed (c :: rest) with passedComment := passed }
  | .lineComment, c :: rest =>
      if c.toNat == 0 then ⟨true, passed, c :: rest⟩
      else if c == '\n' || c.toNat == 0x2028 || c.toNat == 0x2029 then afterLine allowed passed .blank rest
      else afterLine allowed passed .lineComment rest
  | .blockComment, '*' :: '/' :: rest => afterLine allowed passed .blank rest
  | .blockComment, c :: rest =>
      if c.toNat == 0 then ⟨true, passed, c :: rest⟩ else afterLine allowed passed .blockComment rest

/-- Whether a statement ends here. Before a brace that closes a pattern with a type it does not. -/
def statementEnd (allowed : Allowed) : Text → Verdict
  | [] => ⟨true, false, []⟩
  | c :: rest =>
      if c.toNat == 0 then ⟨true, false, c :: rest⟩
      else if c == '\x7d' then
        let after := rest.dropWhile isWhite
        ⟨after.head? != some ':' || allowed.operator, false, after⟩
      else if !isWhite c then ⟨false, false, c :: rest⟩
      else if c == '\n' then afterLine allowed false .blank rest
      else statementEnd allowed rest

/-- Whether the question mark at the front asks for a condition. Before a colon, a comma or a closing
parenthesis it marks something optional. -/
def isConditionalMark : Text → Bool
  | '?' :: rest =>
      match rest with
      | '?' :: _ | '.' :: _ => false
      | _ =>
          match rest.dropWhile isWhite with
          | ':' :: _ | ')' :: _ | ',' :: _ => false
          | '.' :: c :: _ => c.isDigit
          | ['.'] => false
          | _ => true
  | _ => false

/-- The length of a stretch of template text: up to the closing quote, an escape or a substitution. A
template that is never closed has no text. -/
def templateText : Text → Option Nat
  | [] => none
  | '`' :: _ | '\\' :: _ | '$' :: '\x7b' :: _ => some 0
  | c :: rest => if c.toNat == 0 then none else (templateText rest).map (· + 1)

/-- The length of a comment from `<!--` or `-->` to the end of the line. -/
def htmlComment (t : Text) : Nat :=
  if Text.startsWith t "<!--" || Text.startsWith t "-->" then
    (t.takeWhile fun c => c != '\n' && c.toNat != 0 && c.toNat != 0x2028 && c.toNat != 0x2029).length
  else 0

/-- A lexeme, the number of characters skipped before it, and its length. -/
structure Found where
  lexeme : Lexeme
  skipped : Nat
  length : Nat

/-- The conditional mark in a rest of a text, after blanks. -/
def conditionalMark? (whole rest : Text) : Option Found :=
  let mark := rest.dropWhile isWhite
  if isConditionalMark mark then some ⟨.conditionalMark, whole.length - mark.length, 1⟩ else none

/-- The lexeme that the layout decides on at a place, if there is one. -/
def scan (allowed : Allowed) (t : Text) : Option Found :=
  if allowed.templateText then
    if allowed.semicolon then none
    else match templateText t with
      | some (n + 1) => some ⟨.templateText, 0, n + 1⟩
      | _ => none
  else if allowed.semicolon || allowed.signatureEnd then
    let verdict := statementEnd allowed t
    if verdict.ends then some ⟨.automaticSemicolon, 0, 0⟩
    else if !verdict.passedComment && allowed.conditionalMark && verdict.rest.head? == some '?' then
      conditionalMark? t verdict.rest
    else none
  else if allowed.conditionalMark then conditionalMark? t t
  else if !allowed.operator && !allowed.escape && !allowed.regexBody then
    let comment := t.dropWhile isWhite
    match htmlComment comment with
    | 0 => none
    | n => some ⟨.htmlComment, t.length - comment.length, n⟩
  else none

end ViewCompiler.Script.Layout
