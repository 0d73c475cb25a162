import ViewCompiler.Markup.Reference.Entries
import ViewCompiler.Text.Integer

/-!
# Character references

A character can be written by its number, `&#8364;` or `&#x20AC;`, or by one of its names, `&euro;`. Of
several names that fit, the longest counts. A reference that means nothing stays as it is.
-/

namespace ViewCompiler.Markup.Reference

/-! ### Numbers -/

/-- The characters that the numbers 0x80 to 0x9F stand for, as in the Windows-1252 code page. A zero
leaves the number as it is. -/
def pageOf1252 : List Nat :=
  [0x20AC, 0, 0x201A, 0x192, 0x201E, 0x2026, 0x2020, 0x2021, 0x2C6, 0x2030, 0x160, 0x2039, 0x152, 0, 0x17D, 0,
   0, 0x2018, 0x2019, 0x201C, 0x201D, 0x2022, 0x2013, 0x2014, 0x2DC, 0x2122, 0x161, 0x203A, 0x153, 0, 0x17E, 0x178]

/-- The character of a number. Zero and what is no character give the replacement character. -/
def charOf (n : Nat) : Char :=
  let mapped := if 0x80 ≤ n then pageOf1252.getD (n - 0x80) 0 else 0
  let code := if mapped = 0 then n else mapped
  if code = 0 || !decide (Nat.isValidChar code) then '\uFFFD' else Char.ofNat code

/-! ### Names -/

/-- One entry of the table. -/
def entry (word : Text) : Text × Text :=
  let name : Text := word.takeWhile (· != '=')
  let (first, others) := Text.pieces '+' (word.drop (name.length + 1))
  (name, (first :: others).map fun code => Char.ofNat (code.numeral 16))

/-- The named characters. -/
def named : List (Text × Text) := entryLines.flatMap fun line : String => (Text.words line).map entry

/-- The names that need no semicolon. -/
def bareNames : List Text := bareLines.flatMap fun line : String => Text.words line

def meaning? (name : Text) : Option Text := (named.find? (·.1 = name)).map (·.2)

/-- The longest name within the first `length` characters of a text that needs no semicolon. -/
def longestBare? (t : Text) : Nat → Option Text
  | 0 => none
  | length + 1 =>
      let name := t.take (length + 1)
      if bareNames.contains name then some name else longestBare? t length

/-! ### References -/

/-- Where a reference stands. Within an attribute a name without a semicolon does not count before a
letter, a digit or an equals sign. -/
inductive Place where
  | text
  | attributeValue
  deriving DecidableEq, Repr

/-- What a numeric reference means, and how many characters after its `&#` it takes. -/
def numeric? (t : Text) : Option (Text × Nat) :=
  let (base, opening) := match t with
    | 'x' :: _ | 'X' :: _ => (16, 1)
    | _ => (10, 0)
  let digits : Text := (t.drop opening).takeWhile fun c => (Text.digitValue? base c).isSome
  if digits.isEmpty then none
  else
    let taken := opening + digits.length
    some ([charOf (digits.numeral base)], if (t.drop taken).head? = some ';' then taken + 1 else taken)

/-- What a named reference means, and how many characters after its `&` it takes. -/
def named? (place : Place) (t : Text) : Option (Text × Nat) :=
  let word : Text := t.takeWhile Char.isAlphanum
  let closed := if (t.drop word.length).head? = some ';' then meaning? word else none
  match closed with
  | some text => some (text, word.length + 1)
  | none => do
      let name ← longestBare? word (min word.length 6)
      let follower := (t.drop name.length).head?
      if place = .attributeValue && follower.any (fun c => c.isAlphanum || c == '=') then none
      else return (← meaning? name, name.length)

/-- What the reference after an ampersand means, and how many characters it takes. -/
def reference? (place : Place) (t : Text) : Option (Text × Nat) :=
  match t with
  | '#' :: rest => (numeric? rest).map fun (text, taken) => (text, taken + 1)
  | _ => named? place t

/-- A text with its references replaced by what they mean. -/
def decode (place : Place) : Text → Text
  | [] => []
  | c :: rest =>
      match (if c = '&' then reference? place rest else none) with
      | some (text, taken) => text ++ decode place (rest.drop taken)
      | none => c :: decode place rest
  termination_by t => t.length
  decreasing_by all_goals simp only [List.length_drop, List.length_cons]; omega

end ViewCompiler.Markup.Reference
