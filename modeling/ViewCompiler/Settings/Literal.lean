import ViewCompiler.Settings.Basic
import ViewCompiler.Text.Integer
import ViewCompiler.Text.Word

/-!
# Literals in settings files

A value is written as a text in quotes, an integer in one of four bases, perhaps with signs in front, or
the word for nothing. A literal that starts well and ends badly is a fault of the whole file.
-/

namespace ViewCompiler.Settings

/-- A base that integers are written in. -/
inductive Base where
  | decimal
  | hexadecimal
  | octal
  | binary
  deriving DecidableEq, Repr

namespace Base

def name : Base → Text
  | decimal => "decimal"
  | hexadecimal => "hexadecimal"
  | octal => "octal"
  | binary => "binary"

def radix : Base → Nat
  | decimal => 10
  | hexadecimal => 16
  | octal => 8
  | binary => 2

/-- The base that a letter after a zero stands for. -/
def ofLetter? (c : Char) : Option Base :=
  match c.toLower with
  | 'x' => some hexadecimal
  | 'o' => some octal
  | 'b' => some binary
  | _ => none

end Base

/-- The value of a digit in the largest base. -/
def hexValue? (c : Char) : Option Nat :=
  if c.isDigit then some (c.toNat - '0'.toNat)
  else if 'a' ≤ c.toLower && c.toLower ≤ 'f' then some (c.toLower.toNat - 'a'.toNat + 10)
  else none

def Base.value? (b : Base) (c : Char) : Option Nat := (hexValue? c).filter (· < b.radix)

/-- What is wrong with a line of a settings file. -/
inductive Fault where
  | unexpectedIndent
  | unterminated
  | leadingZeros
  | badDigit (digit : Char) (base : Base)
  | badNumber (base : Base)
  | tooManyDigits (digits : Nat)
  deriving DecidableEq, Repr

/-- The message for a fault on a line. -/
def Fault.message (line : Nat) : Fault → Text
  | unexpectedIndent => "unexpected indent"
  | unterminated => "unterminated string literal (detected at line " ++ Text.ofNat line ++ ")"
  | leadingZeros =>
      "leading zeros in decimal integer literals are not permitted; use an 0o prefix for octal integers"
  | badDigit digit base => "invalid digit '" ++ [digit] ++ "' in " ++ base.name ++ " literal"
  | badNumber base => "invalid " ++ base.name ++ " literal"
  | tooManyDigits digits =>
      "Exceeds the limit (" ++ Text.ofNat Text.maxDigits ++ " digits) for integer string conversion: value has " ++
        Text.ofNat digits ++ " digits; use sys.set_int_max_str_digits() to increase the limit - " ++
        "Consider hexadecimal for huge integer literals to avoid decimal conversion limits."

/-! ### Texts -/

/-- The character with the number that some digits of a base denote. -/
def numbered (b : Base) (digits : Text) : Char :=
  Char.ofNat (digits.foldl (fun n c => n * b.radix + (b.value? c).getD 0) 0)

/-- The number of hexadecimal digits after a letter that a character is given by. -/
def digitCount? : Char → Option Nat
  | 'x' => some 2
  | 'u' => some 4
  | 'U' => some 8
  | _ => none

/-- What a backslash stands for together with what comes after it, and how much of that it takes. -/
def escape (c : Char) (rest : Text) : Text × Nat :=
  let octal : Text := (c :: rest.take 2).takeWhile fun d => (Base.octal.value? d).isSome
  match c, digitCount? c with
  | 'n', _ => (['\n'], 1)
  | 't', _ => (['\t'], 1)
  | 'r', _ => (['\r'], 1)
  | 'a', _ => (['\x07'], 1)
  | 'b', _ => (['\x08'], 1)
  | 'f', _ => (['\x0c'], 1)
  | 'v', _ => (['\x0b'], 1)
  | '\\', _ | '\'', _ | '"', _ => ([c], 1)
  | _, some count => ([numbered .hexadecimal (rest.take count)], count + 1)
  | _, none => if octal.isEmpty then (['\\', c], 1) else ([numbered .octal octal], octal.length)

/-- The text up to the closing quote, and the rest. -/
def quoted? (mark : Char) : Text → Option (Text × Text)
  | [] => none
  | '\\' :: c :: rest =>
      let (meant, taken) := escape c rest
      (quoted? mark (rest.drop (taken - 1))).map fun (text, after) => (meant ++ text, after)
  | c :: rest =>
      if c = mark then some ([], rest) else (quoted? mark rest).map fun (text, after) => (c :: text, after)
  termination_by t => t.length
  decreasing_by all_goals simp only [List.length_drop, List.length_cons]; omega

/-! ### Integers -/

/-- The digits that a text starts with, with single underscores before them, and the rest. -/
def digitRun (b : Base) : Text → List Nat × Text
  | [] => ([], [])
  | ['_'] => ([], ['_'])
  | '_' :: c :: rest =>
      match b.value? c with
      | some digit => let (others, after) := digitRun b rest; (digit :: others, after)
      | none => ([], '_' :: c :: rest)
  | c :: rest =>
      match b.value? c with
      | some digit => let (others, after) := digitRun b rest; (digit :: others, after)
      | none => ([], c :: rest)

def valueOf (b : Base) (digits : List Nat) : Nat := digits.foldl (fun n digit => n * b.radix + digit) 0

/-- Whether a text goes on with a letter, a digit or an underscore. -/
def goesOn (t : Text) : Bool := t.head?.any fun c => c.isAlphanum || c == '_'

/-- The number in a base other than ten, from what comes after its letter, and the rest. -/
def prefixed (b : Base) (t : Text) : Except Fault (Nat × Text) :=
  let (digits, after) := digitRun b t
  if !digits.isEmpty && !goesOn after then .ok (valueOf b digits, after)
  else
    match if after.head? = some '_' then after.drop 1 else after with
    | c :: _ => .error (if c.isDigit then .badDigit c b else .badNumber b)
    | [] => .error (.badNumber b)

/-- The number in base ten that a text starts with, and the rest. Numbers with a point or an exponent are no
integers and give none. -/
def decimal (t : Text) : Except Fault (Option (Nat × Text)) :=
  let (digits, after) := digitRun .decimal t
  let value := valueOf .decimal digits
  if after.head? = some '_' then .error (.badNumber .decimal)
  else if after.head?.any fun c => c == '.' || c.toLower == 'e' || c.toLower == 'j' then .ok none
  else if digits.head? = some 0 && value ≠ 0 then .error .leadingZeros
  else if goesOn after then .error (.badNumber .decimal)
  else if Text.maxDigits < digits.length then .error (.tooManyDigits digits.length)
  else .ok (some (value, after))

/-- The integer that a text starts with, and the rest. -/
def integer : Text → Except Fault (Option (Int × Text))
  | ' ' :: rest => integer rest
  | '\t' :: rest => integer rest
  | '+' :: rest => integer rest
  | '-' :: rest => return (← integer rest).map fun (n, after) => (-n, after)
  | '~' :: rest => return (← integer rest).map fun (n, after) => (-n - 1, after)
  | '0' :: c :: rest =>
      match Base.ofLetter? c with
      | some base => return some (← (prefixed base rest).map fun (n, after) => (n, after))
      | none => return (← decimal ('0' :: c :: rest)).map fun (n, after) => (n, after)
  | c :: rest =>
      if c.isDigit then return (← decimal (c :: rest)).map fun (n, after) => (n, after) else return none
  | [] => return none

/-! ### Values -/

/-- The value that a text starts with, and the rest. -/
def literal (t : Text) : Except Fault (Option (Setting × Text)) :=
  match t with
  | [] => .ok none
  | c :: rest =>
      if c = '\'' || c = '"' then
        match quoted? c rest with
        | some (text, after) => .ok (some (.text text, after))
        | none => .error .unterminated
      else
        let word := t.takeWhile Text.isWordChar
        if word = "None".toList then .ok (some (.nothing, t.drop word.length))
        else return (← integer t).map fun (n, after) => (.integer n, after)

end ViewCompiler.Settings
