import ViewCompiler.Text.Blank

/-!
# Written integers

An integer is written with the decimal digits of any script, perhaps after a sign, perhaps with single
underscores between the digits, and perhaps between blanks. It must not be too long. A numeral to a base has the
plain digits and letters only.
-/

namespace ViewCompiler.Text

/-- The code points of the zeros of all scripts. The other nine digits of a script follow its zero. -/
def zeros : List Nat :=
  [0x30, 0x660, 0x6F0, 0x7C0, 0x966, 0x9E6, 0xA66, 0xAE6, 0xB66, 0xBE6, 0xC66, 0xCE6, 0xD66, 0xDE6, 0xE50, 0xED0,
   0xF20, 0x1040, 0x1090, 0x17E0, 0x1810, 0x1946, 0x19D0, 0x1A80, 0x1A90, 0x1B50, 0x1BB0, 0x1C40, 0x1C50, 0xA620,
   0xA8D0, 0xA900, 0xA9D0, 0xA9F0, 0xAA50, 0xABF0, 0xFF10, 0x104A0, 0x10D30, 0x11066, 0x110F0, 0x11136, 0x111D0,
   0x112F0, 0x11450, 0x114D0, 0x11650, 0x116C0, 0x11730, 0x118E0, 0x11950, 0x11C50, 0x11D50, 0x11DA0, 0x16A60,
   0x16AC0, 0x16B50, 0x1D7CE, 0x1D7D8, 0x1D7E2, 0x1D7EC, 0x1D7F6, 0x1E140, 0x1E2F0, 0x1E950, 0x1FBF0]

/-- The value of a decimal digit. -/
def decimalValue? (c : Char) : Option Nat :=
  (zeros.find? fun first => first ≤ c.toNat && c.toNat < first + 10).map (c.toNat - ·)

/-- The number that digits denote in continuation of `n`. An underscore has to stand before a digit. -/
def natural? (n : Nat) : Text → Option Nat
  | [] => some n
  | '_' :: c :: rest => do natural? (n * 10 + (← decimalValue? c)) rest
  | c :: rest => do natural? (n * 10 + (← decimalValue? c)) rest

def unsigned? : Text → Option Nat
  | [] => none
  | c :: rest => do natural? (← decimalValue? c) rest

/-- Whether a character may stand around an integer. The four separator codes may not. -/
def isAround (c : Char) : Bool := isBlank c && !(0x1C ≤ c.toNat && c.toNat ≤ 0x1F)

/-- The integer that a text denotes. -/
def integer? (t : Text) : Option Int :=
  match ((t.dropWhile isAround).reverse.dropWhile isAround).reverse with
  | '-' :: rest => (unsigned? rest).map fun n => -n
  | '+' :: rest => (unsigned? rest).map fun n => n
  | rest => (unsigned? rest).map fun n => n

/-! ### Numerals to a base -/

def digitValue? (base : Nat) (c : Char) : Option Nat :=
  let value? :=
    if c.isDigit then some (c.toNat - '0'.toNat)
    else if 'a' ≤ c && c ≤ 'f' then some (c.toNat - 'a'.toNat + 10)
    else if 'A' ≤ c && c ≤ 'F' then some (c.toNat - 'A'.toNat + 10)
    else none
  value?.filter (· < base)

/-- The number that some digits denote. -/
def numeral (base : Nat) (digits : Text) : Nat :=
  digits.foldl (fun n c => n * base + (digitValue? base c).getD 0) 0

/-! ### Integers that are too long -/

/-- The number of digits that an integer may be written with in decimal. -/
def maxDigits : Nat := 4300

/-- The number of digits that a text starts with. An underscore that does not stand between two digits gives
none. -/
def leadingDigits? : Text → Option Nat
  | [] => some 0
  | ['_'] => none
  | '_' :: c :: rest => if (decimalValue? c).isSome then (leadingDigits? rest).map (· + 1) else none
  | c :: rest => if (decimalValue? c).isSome then (leadingDigits? rest).map (· + 1) else some 0

/-- A text without a sign in front. -/
def withoutSign : Text → Text
  | '-' :: rest => rest
  | '+' :: rest => rest
  | t => t

/-- The number of digits of an integer that has more than it may. What comes after the digits does not matter. -/
def excessiveDigits? (t : Text) : Option Nat := do
  let written := withoutSign (t.dropWhile isAround)
  let digits ← leadingDigits? written
  if written.head? ≠ some '_' && maxDigits < digits then some digits else none

end ViewCompiler.Text
