import ViewCompiler.Text.Basic
import ViewCompiler.Text.Invisible

/-!
# Quoted texts

`quote` writes a text as a literal of the compiled language: between single quotes, with quotes of
all three kinds, the backslash and the line feed escaped.

`inspect` writes a text for a person to read in a message: between the quotes that need fewer escapes,
with everything invisible escaped.
-/

namespace ViewCompiler.Text

/-- A character as it stands within a literal. -/
def quoteChar (c : Char) : Text :=
  if c = '\\' then ['\\', '\\']
  else if c = '\n' then ['\\', 'n']
  else if c = '\'' then ['\\', '\'']
  else if c = '"' then ['\\', '"']
  else if c = '`' then ['\\', '`']
  else [c]

/-- A text as a literal between single quotes. -/
def quote (t : Text) : Text := '\'' :: (t.flatMap quoteChar ++ ['\''])

/-- A number in hexadecimal with at least the given number of digits. -/
def hexadecimal (width n : Nat) : Text :=
  let digits := Nat.toDigits 16 n
  List.replicate (width - digits.length) '0' ++ digits

/-- A character as it stands within an inspected text. -/
def inspectChar (delimiter c : Char) : Text :=
  if c = '\\' || c = delimiter then ['\\', c]
  else if c = '\n' then ['\\', 'n']
  else if c = '\r' then ['\\', 'r']
  else if c = '\t' then ['\\', 't']
  else if !isInvisible c then [c]
  else if c.toNat < 0x100 then '\\' :: 'x' :: hexadecimal 2 c.toNat
  else if c.toNat < 0x10000 then '\\' :: 'u' :: hexadecimal 4 c.toNat
  else '\\' :: 'U' :: hexadecimal 8 c.toNat

def inspect (t : Text) : Text :=
  let delimiter := if t.contains '\'' && !t.contains '"' then '"' else '\''
  delimiter :: (t.flatMap (inspectChar delimiter) ++ [delimiter])

/-- A sequence of inspected values between brackets. A single one is followed by a comma. -/
def inspectTuple (items : List Text) : Text :=
  match items with
  | [item] => "(" ++ item ++ ",)"
  | _ => "(" ++ join ", " items ++ ")"

/-- A text that may be missing. -/
def inspectOptional : Option Text → Text
  | some t => inspect t
  | none => "None"

end ViewCompiler.Text
