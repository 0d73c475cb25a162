import ViewCompiler.Text.Bytes

/-!
# Byte offsets and character offsets

`charOffset` is the upper adjoint of the encoded length of a text's beginnings: the first `k` characters
fit into a number of bytes exactly when `k` is at most the character offset of that byte
(`le_charOffset_iff`). The inverse on character boundaries follows from that alone.
-/

namespace ViewCompiler.Text

/-- The byte offset lies between two characters, or at an end of the text. -/
def IsBoundary (t : Text) (byte : Nat) : Prop := byteSize (takeBytes byte t) = byte

instance (t : Text) (byte : Nat) : Decidable (IsBoundary t byte) := inferInstanceAs (Decidable (_ = _))

theorem charOffset_le_length (bytes : Nat) (t : Text) : charOffset bytes t ≤ t.length := by
  induction t generalizing bytes with
  | nil => exact Nat.le_refl 0
  | cons c t ih =>
      rw [charOffset]
      split
      · exact Nat.succ_le_succ (ih _)
      · exact Nat.zero_le _

theorem takeBytes_eq_take (bytes : Nat) (t : Text) : takeBytes bytes t = t.take (charOffset bytes t) := by
  induction t generalizing bytes with
  | nil => rfl
  | cons c t ih =>
      rw [takeBytes, charOffset]
      split
      · rw [ih, List.take_succ_cons]
      · rfl

/-- The characters that fit into some bytes are those up to the character offset. -/
theorem le_charOffset_iff {bytes k : Nat} {t : Text} (hk : k ≤ t.length) :
    k ≤ charOffset bytes t ↔ byteSize (t.take k) ≤ bytes := by
  induction t generalizing bytes k with
  | nil =>
      have hzero : k = 0 := Nat.le_zero.1 hk
      subst hzero
      simp [byteSize]
  | cons c t ih =>
      cases k with
      | zero => simp [byteSize]
      | succ k =>
          rw [charOffset, List.take_succ_cons, byteSize]
          have hrest : k ≤ charOffset (bytes - c.utf8Size) t ↔ _ := ih (Nat.le_of_succ_le_succ hk)
          split
          · rw [Nat.succ_le_succ_iff, hrest]
            omega
          · omega

theorem byteSize_take_charOffset {t : Text} {byte : Nat} (h : IsBoundary t byte) :
    byteSize (t.take (charOffset byte t)) = byte := by
  rw [← takeBytes_eq_take]
  exact h

theorem charOffset_lt {t : Text} {byte byte' : Nat} (h : IsBoundary t byte') (hlt : byte < byte') :
    charOffset byte t < charOffset byte' t := by
  rw [← Nat.not_le, le_charOffset_iff (charOffset_le_length _ _), byteSize_take_charOffset h]
  omega

theorem charOffset_injective {t : Text} {byte byte' : Nat} (h : IsBoundary t byte) (h' : IsBoundary t byte')
    (heq : charOffset byte t = charOffset byte' t) : byte = byte' := by
  rw [← byteSize_take_charOffset h, ← byteSize_take_charOffset h', heq]

theorem charOffset_append (s t : Text) (bytes : Nat) :
    charOffset (byteSize s + bytes) (s ++ t) = s.length + charOffset bytes t := by
  induction s with
  | nil => simp [byteSize]
  | cons c s ih =>
      have hrest : byteSize (c :: s) + bytes - c.utf8Size = byteSize s + bytes := by
        rw [byteSize]
        omega
      rw [List.cons_append, charOffset, if_pos (by rw [byteSize]; omega), hrest, ih, List.length_cons]
      omega

theorem dropBytes_eq_drop {t : Text} {byte : Nat} (h : IsBoundary t byte) :
    dropBytes byte t = t.drop (charOffset byte t) := by
  induction t generalizing byte with
  | nil => rfl
  | cons c t ih =>
      have hpos := c.utf8Size_pos
      unfold IsBoundary at h
      rw [takeBytes] at h
      rw [dropBytes, charOffset]
      by_cases hfits : c.utf8Size ≤ byte
      · rw [if_pos hfits, byteSize] at h
        have hrest : IsBoundary t (byte - c.utf8Size) := by
          unfold IsBoundary
          omega
        rw [if_neg (by omega), if_pos hfits, ih hrest, List.drop_succ_cons]
      · rw [if_neg hfits, byteSize] at h
        rw [if_pos h.symm, if_neg hfits, List.drop_zero]

/-- Between two boundaries the bytes cut out what the character offsets do. -/
theorem byteSlice_eq_slice {t : Text} {start stop : Nat} (hstart : IsBoundary t start) (hle : start ≤ stop) :
    byteSlice t start stop = t.slice (charOffset start t) (charOffset stop t) := by
  have hsplit := charOffset_append (t.take (charOffset start t)) (t.drop (charOffset start t)) (stop - start)
  rw [List.take_append_drop, byteSize_take_charOffset hstart, Nat.add_sub_of_le hle,
    List.length_take_of_le (charOffset_le_length _ _)] at hsplit
  rw [byteSlice, dropBytes_eq_drop hstart, takeBytes_eq_take, slice, List.drop_take, hsplit,
    Nat.add_sub_cancel_left]

end ViewCompiler.Text
