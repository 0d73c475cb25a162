import ViewCompiler.Proofs.Text.Bytes

/-!
# The bytes of a text

`utf8` writes a text in bytes and `decoded` reads bytes again, which need not be those of a text: a byte at which no
character starts is passed over. So of the first bytes of a text exactly those characters are read that lie wholly
within them (`decoded_take_utf8`). A character that is cut off gives nothing, since what is left of it is no character
and no byte of it but the first can start one.
-/

namespace ViewCompiler.Text

variable {bytes : List UInt8} {c : Char}

/-- The text in UTF-8. -/
def utf8 (t : Text) : List UInt8 := t.flatMap String.utf8EncodeChar

/-- The character that starts with the first of some bytes. -/
def leading? (bytes : List UInt8) : Option Char := bytes.toByteArray.utf8DecodeChar? 0

/-- The characters in some bytes. A byte at which none starts is passed over. -/
def decoded : List UInt8 → Text
  | [] => []
  | b :: rest =>
      match leading? (b :: rest) with
      | some c => c :: decoded (rest.drop (c.utf8Size - 1))
      | none => decoded rest
  termination_by bytes => bytes.length
  decreasing_by all_goals simp only [List.length_drop, List.length_cons]; omega

/-! ### Writing -/

theorem utf8_take_append_drop (t : Text) (k : Nat) : utf8 (t.take k) ++ utf8 (t.drop k) = utf8 t := by
  rw [utf8, utf8, ← List.flatMap_append, List.take_append_drop, utf8]

theorem length_utf8 (t : Text) : (utf8 t).length = byteSize t := by
  induction t with
  | nil => rfl
  | cons c t ih => rw [utf8, List.flatMap_cons, List.length_append, String.length_utf8EncodeChar, ← utf8, ih, byteSize]

theorem take_utf8 (t : Text) (k : Nat) : (utf8 t).take (utf8 (t.take k)).length = utf8 (t.take k) := by
  rw [← utf8_take_append_drop t k, List.take_left]

theorem drop_utf8 (t : Text) (k : Nat) : (utf8 t).drop (utf8 (t.take k)).length = utf8 (t.drop k) := by
  rw [← utf8_take_append_drop t k, List.drop_left]

/-! ### Reading one character -/

theorem leading?_append (c : Char) (rest : List UInt8) : leading? (String.utf8EncodeChar c ++ rest) = some c := by
  rw [leading?, List.toByteArray_append, ByteArray.utf8DecodeChar?_utf8EncodeChar_append]

theorem eq_append_of_leading? (h : leading? bytes = some c) : ∃ rest, bytes = String.utf8EncodeChar c ++ rest := by
  obtain ⟨rest, hbytes⟩ := ByteArray.exists_of_utf8DecodeChar?_eq_some h
  have hrest : rest = rest.data.toList.toByteArray := ByteArray.ext (by simp)
  rw [hrest, ← List.toByteArray_append, List.toByteArray_inj] at hbytes
  exact ⟨_, hbytes⟩

/-- A character that is cut off is no other character either. -/
theorem leading?_take {k : Nat} (h : k < c.utf8Size) : leading? ((String.utf8EncodeChar c).take k) = none := by
  cases hleading : leading? ((String.utf8EncodeChar c).take k) with
  | none => rfl
  | some d =>
      obtain ⟨rest, hrest⟩ := eq_append_of_leading? hleading
      have hwhole : String.utf8EncodeChar c = String.utf8EncodeChar d ++ (rest ++ (String.utf8EncodeChar c).drop k) := by
        rw [← List.append_assoc, ← hrest, List.take_append_drop]
      have hsame : leading? (String.utf8EncodeChar c) = some d := by
        rw [hwhole]
        exact leading?_append d _
      have hself : leading? (String.utf8EncodeChar c) = some c := by
        have happend := leading?_append c []
        rwa [List.append_nil] at happend
      obtain rfl : c = d := Option.some.inj (hself.symm.trans hsame)
      have hlength := congrArg List.length hrest
      rw [List.length_append, List.length_take, String.length_utf8EncodeChar] at hlength
      omega

theorem isFirst_of_leading? {b : UInt8} {rest : List UInt8} (h : leading? (b :: rest) = some c) :
    b.IsUTF8FirstByte := by
  obtain ⟨later, hlater⟩ := eq_append_of_leading? h
  have hfirst := UInt8.isUTF8FirstByte_getElem_zero_utf8EncodeChar (c := c)
  cases hencoded : String.utf8EncodeChar c with
  | nil => exact absurd hencoded String.utf8EncodeChar_ne_nil
  | cons first others =>
      simp only [hencoded, List.getElem_cons_zero] at hfirst
      rw [hencoded, List.cons_append] at hlater
      rwa [(List.cons.inj hlater).1]

theorem not_isFirst_of_mem_tail {b : UInt8} (h : b ∈ (String.utf8EncodeChar c).tail) : ¬ b.IsUTF8FirstByte := by
  obtain ⟨i, hi, rfl⟩ := List.mem_iff_getElem.1 h
  rw [List.getElem_tail, UInt8.isUTF8FirstByte_getElem_utf8EncodeChar]
  exact Nat.succ_ne_zero i

/-! ### Reading all characters -/

theorem decoded_append (c : Char) (rest : List UInt8) :
    decoded (String.utf8EncodeChar c ++ rest) = c :: decoded rest := by
  have hleading := leading?_append c rest
  have hlength := String.length_utf8EncodeChar c
  cases hencoded : String.utf8EncodeChar c with
  | nil => exact absurd hencoded String.utf8EncodeChar_ne_nil
  | cons first others =>
      rw [hencoded, List.cons_append] at hleading
      rw [hencoded, List.length_cons] at hlength
      rw [List.cons_append, decoded, hleading]
      dsimp only
      rw [← hlength, Nat.add_sub_cancel, List.drop_left]

theorem decoded_of_not_isFirst (h : ∀ b ∈ bytes, ¬ b.IsUTF8FirstByte) : decoded bytes = [] := by
  induction bytes with
  | nil => rw [decoded]
  | cons b rest ih =>
      rw [List.forall_mem_cons] at h
      have hnone : leading? (b :: rest) = none := Option.eq_none_iff_forall_ne_some.2 fun c hc =>
        h.1 (isFirst_of_leading? hc)
      rw [decoded, hnone]
      exact ih h.2

theorem decoded_take_char {k : Nat} (h : k < c.utf8Size) : decoded ((String.utf8EncodeChar c).take k) = [] := by
  have hnone := leading?_take h
  have htail := fun b (hb : b ∈ (String.utf8EncodeChar c).tail) => not_isFirst_of_mem_tail hb
  cases hencoded : String.utf8EncodeChar c with
  | nil => exact absurd hencoded String.utf8EncodeChar_ne_nil
  | cons first others =>
      rw [hencoded] at hnone htail
      cases k with
      | zero => rw [List.take_zero, decoded]
      | succ k =>
          rw [List.take_succ_cons] at hnone ⊢
          rw [decoded, hnone]
          exact decoded_of_not_isFirst fun b hb => htail b (List.mem_of_mem_take hb)

/-- The first bytes of a text hold the characters that lie wholly within them. -/
theorem decoded_take_utf8 (t : Text) (k : Nat) : decoded ((utf8 t).take k) = takeBytes k t := by
  induction t generalizing k with
  | nil => rw [utf8, List.flatMap_nil, List.take_nil, decoded, takeBytes]
  | cons c t ih =>
      have hlength := String.length_utf8EncodeChar c
      rw [utf8, List.flatMap_cons, ← utf8, List.take_append, hlength, takeBytes]
      split
      · rename_i hfits
        rw [List.take_of_length_le (by omega), decoded_append, ih]
      · rename_i hcut
        rw [Nat.sub_eq_zero_of_le (by omega), List.take_zero, List.append_nil, decoded_take_char (by omega)]

end ViewCompiler.Text
