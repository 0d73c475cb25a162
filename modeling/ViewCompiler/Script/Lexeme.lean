import ViewCompiler.Text.Basic

/-!
# Lexemes

A lexeme is a class of tokens that is given by a rule instead of by its spelling. `Lexeme.length` says
how many characters at the front of a text a lexeme takes, where zero means that it does not occur.
Which lexemes are looked for at a place is up to the grammar: the same slash may divide, close a
regular expression or open a comment.

The last five lexemes depend on the layout around them and are recognised in `Script.Layout`.
-/

namespace ViewCompiler.Script

inductive Lexeme where
  | identifier
  /-- A name with a number sign in front. -/
  | privateName
  | number
  | comment
  /-- The line that names an interpreter. -/
  | hashBang
  /-- A stretch of a string in double quotes, without escapes. -/
  | doubleQuoted
  /-- A stretch of a string in single quotes, without escapes. -/
  | singleQuoted
  | escape
  | regexBody
  /-- The slash that closes a regular expression. -/
  | regexEnd
  | regexFlags
  /-- The end of a statement that no semicolon marks. It has no characters. -/
  | automaticSemicolon
  /-- The end of a signature. Where it may come, a brace continues the signature. -/
  | signatureSemicolon
  | templateText
  /-- The question mark of a conditional expression. -/
  | conditionalMark
  | htmlComment
  deriving DecidableEq, Hashable, Repr

namespace Lexeme

/-- What separates tokens: blanks, line ends and the characters without width. -/
def isSpacing (c : Char) : Bool :=
  let n := c.toNat
  (0x9 ≤ n && n ≤ 0xD) || n == 0x20 || n == 0xA0 || n == 0x1680 || (0x2000 ≤ n && n ≤ 0x200B) ||
    n == 0x2028 || n == 0x2029 || n == 0x202F || n == 0x205F || n == 0x2060 || n == 0x3000 || n == 0xFEFF

def isLineEnd (c : Char) : Bool := c == '\n' || c == '\r' || c.toNat == 0x2028 || c.toNat == 0x2029

/-- The signs of the language, which take part in no name. -/
def signs : List Char := ":;`\"'@#.,|^&<=>+-*/\\%?!~()[]\x7b\x7d".toList

def isNameChar (c : Char) : Bool := 0x1F < c.toNat && !isSpacing c && !signs.contains c

def isNameStart (c : Char) : Bool := isNameChar c && !c.isDigit

def isHexDigit (c : Char) : Bool := c.isDigit || ('a' ≤ c && c ≤ 'f') || ('A' ≤ c && c ≤ 'F')

def isOctalDigit (c : Char) : Bool := '0' ≤ c && c ≤ '7'

def isBinaryDigit (c : Char) : Bool := c == '0' || c == '1'

/-- The length of a Unicode escape: four hexadecimal digits, or any number of them in braces. -/
def unicodeEscape : Text → Nat
  | '\\' :: 'u' :: '\x7b' :: rest =>
      let digits := (rest.takeWhile isHexDigit).length
      if digits > 0 && (rest.drop digits).head? == some '\x7d' then digits + 4 else 0
  | '\\' :: 'u' :: a :: b :: c :: d :: _ => if [a, b, c, d].all isHexDigit then 6 else 0
  | _ => 0

/-- The length of what a name goes on with, after `skip` characters that surely belong to it. -/
def nameTail : Nat → Text → Nat
  | _, [] => 0
  | skip + 1, _ :: rest => 1 + nameTail skip rest
  | 0, c :: rest =>
      if isNameChar c then 1 + nameTail 0 rest
      else match unicodeEscape (c :: rest) with
        | 0 => 0
        | skip + 1 => 1 + nameTail skip rest

def name : Text → Nat
  | [] => 0
  | c :: rest =>
      if isNameStart c then 1 + nameTail 0 rest
      else match unicodeEscape (c :: rest) with
        | 0 => 0
        | skip + 1 => 1 + nameTail skip rest

/-- The length of a run of digits, between which single underscores may stand. -/
def digits (isDigit : Char → Bool) : Text → Nat
  | [] => 0
  | c :: rest => if isDigit c then 1 + more rest else 0
where
  /-- The digits that follow a digit. -/
  more : Text → Nat
  | '_' :: c :: rest => if isDigit c then 2 + more rest else 0
  | c :: rest => if isDigit c then 1 + more rest else 0
  | [] => 0

/-- The digits that may follow a zero and the letter of a base. -/
def digitsOfBase? : Char → Option (Char → Bool)
  | 'x' | 'X' => some isHexDigit
  | 'o' | 'O' => some isOctalDigit
  | 'b' | 'B' => some isBinaryDigit
  | _ => none

/-- The length of a number in a base other than ten. -/
def basedNumber : Text → Nat
  | '0' :: letter :: rest =>
      match (digitsOfBase? letter).map (digits · rest) with
      | some (n + 1) => if (rest.drop (n + 1)).head? == some 'n' then n + 4 else n + 3
      | _ => 0
  | _ => 0

def exponent : Text → Nat
  | 'e' :: rest | 'E' :: rest =>
      let sign := if rest.head? == some '+' || rest.head? == some '-' then 1 else 0
      match digits Char.isDigit (rest.drop sign) with
      | 0 => 0
      | n => 1 + sign + n
  | _ => 0

/-- The length of the digits after a decimal point and of an exponent. -/
def fraction (t : Text) : Nat :=
  let n := digits Char.isDigit t
  n + exponent (t.drop n)

/-- Whether a run of digits may be the whole part of a number with a fraction: it is a zero, or it has a
digit other than zero in front, with at most one zero before that. -/
def isWholePart : Text → Bool
  | ['0'] => true
  | '0' :: c :: _ | c :: _ => '1' ≤ c && c ≤ '9'
  | [] => false

def decimalNumber (t : Text) : Nat :=
  let whole := digits Char.isDigit t
  match t.drop whole with
  | '.' :: rest =>
      if whole = 0 then if rest.head?.any Char.isDigit then 1 + fraction rest else 0
      else if isWholePart (t.take whole) then whole + 1 + fraction rest
      else whole
  | 'n' :: _ => if whole = 0 then 0 else whole + 1
  | rest => if isWholePart (t.take whole) then whole + exponent rest else whole

/-- The length of a comment up to and including its closing mark. -/
def blockComment : Text → Nat
  | [] => 0
  | '*' :: '/' :: _ => 2
  | _ :: rest =>
      match blockComment rest with
      | 0 => 0
      | n => n + 1

def commentLength : Text → Nat
  | '/' :: '/' :: rest => 2 + (rest.takeWhile (!isLineEnd ·)).length
  | '/' :: '*' :: rest =>
      match blockComment rest with
      | 0 => 0
      | n => n + 2
  | _ => 0

/-- The length of an escape: a code in octal or hexadecimal digits, a line end, or a single character. -/
def escapeLength (t : Text) : Nat :=
  match t with
  | '\\' :: c :: rest =>
      if isOctalDigit c then 2 + ((rest.take 2).takeWhile isOctalDigit).length
      else if c == 'u' then unicodeEscape t
      else if c == 'x' then
        if (rest.take 2).length = 2 && (rest.take 2).all isHexDigit then 4 else 0
      else if (c == '\r' || c == '?') && rest.head?.any (fun d => isLineEnd d && d != '\r') then 3
      else 2
  | _ => 0

/-- The length of a bracketed class of a regular expression after its opening bracket. -/
def regexClass : Text → Nat
  | [] => 0
  | ']' :: _ => 1
  | '\\' :: '\n' :: _ | '\n' :: _ => 0
  | '\\' :: _ :: rest =>
      match regexClass rest with
      | 0 => 0
      | n => n + 2
  | _ :: rest =>
      match regexClass rest with
      | 0 => 0
      | n => n + 1

/-- The length of the body of a regular expression, after `skip` characters that surely belong to it. -/
def regexLength : Nat → Text → Nat
  | _, [] => 0
  | skip + 1, _ :: rest => 1 + regexLength skip rest
  | 0, '[' :: rest =>
      match regexClass rest with
      | 0 => 0
      | n => 1 + regexLength n rest
  | 0, '\\' :: c :: rest => if c == '\n' then 0 else 2 + regexLength 0 rest
  | 0, c :: rest => if c == '/' || c == '\n' || c == '\\' then 0 else 1 + regexLength 0 rest

/-- The length of a stretch of a string. -/
def quotedLength (quote : Char) (t : Text) : Nat :=
  (t.takeWhile fun c => c != quote && c != '\\' && c != '\n' && c != '\r').length

/-- The number of characters that a lexeme takes off the front of a text, zero where it does not occur. -/
def length (l : Lexeme) (t : Text) : Nat :=
  match l with
  | .identifier => name t
  | .privateName =>
      match t with
      | '#' :: rest => if name rest = 0 then 0 else 1 + name rest
      | _ => 0
  | .number => if basedNumber t = 0 then decimalNumber t else basedNumber t
  | .comment => commentLength t
  | .hashBang => if Text.startsWith t "#!" then (t.takeWhile (· != '\n')).length else 0
  | .doubleQuoted => quotedLength '"' t
  | .singleQuoted => quotedLength '\'' t
  | .escape => escapeLength t
  | .regexBody => regexLength 0 t
  | .regexEnd => if t.head? == some '/' then 1 else 0
  | .regexFlags => (t.takeWhile fun c => 'a' ≤ c && c ≤ 'z').length
  | .automaticSemicolon | .signatureSemicolon | .templateText | .conditionalMark | .htmlComment => 0

/-- The lexemes that go on with the token before them: no spacing may come in between. -/
def isImmediate : Lexeme → Bool
  | .doubleQuoted | .singleQuoted | .escape | .regexBody | .regexEnd | .regexFlags => true
  | _ => false

/-- Which lexeme wins over others where several occur. Text in quotes is never a comment, and a comment is
never the body of a regular expression. -/
def priority : Lexeme → Nat
  | .doubleQuoted | .singleQuoted => 2
  | .regexBody => 0
  | _ => 1

end Lexeme

end ViewCompiler.Script
