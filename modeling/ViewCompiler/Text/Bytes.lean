import ViewCompiler.Text.Basic

/-!
# Byte offsets

A syntax tree addresses its source by offsets into the UTF-8 encoding, an edit by offsets into the
characters. `charOffset` goes from the first to the second; `byteSlice` cuts a text at byte offsets
directly, without going through character offsets.
-/

namespace ViewCompiler.Text

/-- The length of the text in UTF-8 bytes. -/
def byteSize : Text → Nat
  | [] => 0
  | c :: rest => c.utf8Size + byteSize rest

/-- The number of characters that lie wholly within the first `bytes` bytes. An offset inside the bytes of
a character counts as that character's start. -/
def charOffset (bytes : Nat) : Text → Nat
  | [] => 0
  | c :: rest => if c.utf8Size ≤ bytes then charOffset (bytes - c.utf8Size) rest + 1 else 0

theorem charOffset_mono {bytes bytes' : Nat} (t : Text) (h : bytes ≤ bytes') :
    charOffset bytes t ≤ charOffset bytes' t := by
  induction t generalizing bytes bytes' with
  | nil => exact Nat.le_refl 0
  | cons c t ih =>
      rw [charOffset, charOffset]
      split
      · rename_i hfits
        rw [if_pos (Nat.le_trans hfits h)]
        exact Nat.succ_le_succ (ih (Nat.sub_le_sub_right h _))
      · exact Nat.zero_le _

/-- What is left after the characters that the first `bytes` bytes reach into. -/
def dropBytes (bytes : Nat) : Text → Text
  | [] => []
  | c :: rest => if bytes = 0 then c :: rest else dropBytes (bytes - c.utf8Size) rest

/-- The characters that lie wholly within the first `bytes` bytes. -/
def takeBytes (bytes : Nat) : Text → Text
  | [] => []
  | c :: rest => if c.utf8Size ≤ bytes then c :: takeBytes (bytes - c.utf8Size) rest else []

/-- The text between two byte offsets that lie on character boundaries. -/
def byteSlice (t : Text) (start stop : Nat) : Text := takeBytes (stop - start) (dropBytes start t)

end ViewCompiler.Text
