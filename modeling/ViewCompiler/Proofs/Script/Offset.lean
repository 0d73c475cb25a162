import ViewCompiler.Proofs.Script.Document
import ViewCompiler.Proofs.Text.Encoding

/-!
# Offsets of bytes and of characters in a document

A tree addresses the bytes of a document and an edit its characters. `Document.charOffset` counts the characters that
can be read from the bytes before an offset. It is the upper adjoint of the length of what the first characters are
written in, and that determines it.
-/

namespace ViewCompiler

namespace Text

variable {t : Text} {byte k : Nat}

theorem charOffset_zero (t : Text) : charOffset 0 t = 0 := by
  cases t with
  | nil => rfl
  | cons c t => rw [charOffset, if_neg (Nat.not_le.2 c.utf8Size_pos)]

theorem charOffset_of_length_le (h : (utf8 t).length ≤ byte) : charOffset byte t = t.length := by
  apply Nat.le_antisymm (charOffset_le_length byte t)
  rwa [le_charOffset_iff (Nat.le_refl _), List.take_length, ← length_utf8]

theorem charOffset_length_utf8 (hk : k ≤ t.length) : charOffset (utf8 (t.take k)).length t = k := by
  have happend := charOffset_append (t.take k) (t.drop k) 0
  rwa [List.take_append_drop, charOffset_zero, Nat.add_zero, Nat.add_zero, List.length_take_of_le hk,
    ← length_utf8] at happend

/-- A byte that belongs to a character counts as the start of that character. -/
theorem charOffset_within (hk : k < t.length) (hstart : (utf8 (t.take k)).length ≤ byte)
    (hstop : byte < (utf8 (t.take (k + 1))).length) : charOffset byte t = k := by
  rw [length_utf8] at hstart hstop
  have hle : k ≤ charOffset byte t := (le_charOffset_iff (Nat.le_of_lt hk)).2 hstart
  have hlt : ¬ k + 1 ≤ charOffset byte t := fun h => absurd ((le_charOffset_iff hk).1 h) (Nat.not_le.2 hstop)
  omega

theorem charOffset_eq_length_decoded (byte : Nat) (t : Text) :
    charOffset byte t = (decoded ((utf8 t).take byte)).length := by
  rw [decoded_take_utf8, takeBytes_eq_take, List.length_take_of_le (charOffset_le_length byte t)]

theorem length_utf8_take_mono {i j : Nat} (t : Text) (h : i ≤ j) :
    (utf8 (t.take i)).length ≤ (utf8 (t.take j)).length := by
  have hlength := congrArg List.length (utf8_take_append_drop (t.take j) i)
  rw [List.length_append, List.take_take, Nat.min_eq_left h] at hlength
  omega

/-- What the bytes between two offsets are read as, when the offsets lie between characters. -/
theorem byteSlice_utf8 {i j : Nat} (hi : i ≤ t.length) (hj : j ≤ t.length) :
    byteSlice t (utf8 (t.take i)).length (utf8 (t.take j)).length = t.slice i j ∧
      utf8 (t.slice i j) = ((utf8 t).take (utf8 (t.take j)).length).drop (utf8 (t.take i)).length := by
  have hboundary : IsBoundary t (utf8 (t.take i)).length := by
    rw [IsBoundary, takeBytes_eq_take, charOffset_length_utf8 hi, length_utf8]
  rw [take_utf8]
  by_cases hle : i ≤ j
  · have hmono := length_utf8_take_mono t hle
    have htake : t.take i = (t.take j).take i := by rw [List.take_take, Nat.min_eq_left hle]
    refine ⟨?_, ?_⟩
    · rw [byteSlice_eq_slice hboundary hmono, charOffset_length_utf8 hi, charOffset_length_utf8 hj]
    · rw [slice, htake, drop_utf8]
  · -- The offsets are the wrong way round, so nothing lies between them.
    have hempty : t.slice i j = [] := List.drop_eq_nil_of_le (by rw [List.length_take]; omega)
    have hmono := length_utf8_take_mono t (Nat.le_of_not_le hle)
    refine ⟨?_, ?_⟩
    · rw [hempty, byteSlice, Nat.sub_eq_zero_of_le hmono, takeBytes_eq_take, charOffset_zero, List.take_zero]
    · rw [hempty, List.drop_eq_nil_of_le hmono]
      rfl

end Text

namespace Script.Document

open Text (utf8 decoded)

/-- The offset of a byte is the number of characters that can be read from the bytes before it. Characters fit into some
bytes exactly up to that offset, which is therefore monotone, undoes the encoding between characters and is the start of
a character within it. A node that starts and stops between characters has the text at its character offsets. -/
theorem charOffset_agrees (doc : Document) :
    (∀ byte : Int, doc.charOffset byte =
        if byte ≤ 0 then 0 else if (utf8 doc.text).length ≤ byte then doc.text.length
        else (decoded ((utf8 doc.text).take byte.toNat)).length) ∧
      (∀ byte : Int, 0 ≤ byte → ∀ k ≤ doc.text.length,
        ((utf8 (doc.text.take k)).length ≤ byte ↔ k ≤ doc.charOffset byte)) ∧
      (∀ byte : Int, byte < 0 → doc.charOffset byte = 0) ∧
      (∀ byte byte' : Int, byte ≤ byte' → doc.charOffset byte ≤ doc.charOffset byte') ∧
      (∀ k ≤ doc.text.length, doc.charOffset (utf8 (doc.text.take k)).length = k) ∧
      (∀ k < doc.text.length, ∀ byte : Int, (utf8 (doc.text.take k)).length ≤ byte →
        byte < (utf8 (doc.text.take (k + 1))).length → doc.charOffset byte = k) ∧
      ∀ n : Node, ∀ i ≤ doc.text.length, ∀ j ≤ doc.text.length, n.start = (utf8 (doc.text.take i)).length →
        n.stop = (utf8 (doc.text.take j)).length →
          doc.rangeOf n = (i, j) ∧ doc.textOf n = doc.text.slice (doc.rangeOf n).1 (doc.rangeOf n).2 ∧
            utf8 (doc.textOf n) = ((utf8 doc.text).take n.stop).drop n.start := by
  refine ⟨fun byte => ?_, fun byte hbyte k hk => ?_, fun byte hbyte => ?_, fun byte byte' hle => ?_, fun k hk => ?_,
    fun k hk byte hstart hstop => ?_, fun n i hi j hj hstart hstop => ?_⟩
  · split
    · rename_i hzero
      rw [charOffset, Int.toNat_of_nonpos hzero, Text.charOffset_zero]
    split
    · rename_i hend
      exact Text.charOffset_of_length_le (by omega)
    · exact Text.charOffset_eq_length_decoded _ _
  · rw [charOffset, Text.le_charOffset_iff hk, ← Text.length_utf8]
    omega
  · rw [charOffset, Int.toNat_of_nonpos (by omega), Text.charOffset_zero]
  · exact Text.charOffset_mono _ (by omega)
  · exact Text.charOffset_length_utf8 hk
  · exact Text.charOffset_within hk (by omega) (by omega)
  · have hrange : doc.rangeOf n = (i, j) := by
      rw [rangeOf, hstart, hstop]
      exact Prod.ext (Text.charOffset_length_utf8 hi) (Text.charOffset_length_utf8 hj)
    obtain ⟨hslice, hbytes⟩ := Text.byteSlice_utf8 hi hj
    rw [textOf, hrange, hstart, hstop, hslice]
    exact ⟨rfl, rfl, hbytes⟩

/-- Characters of one to four bytes, and a node for the third of them. -/
def fourWidths : Document where
  text := "aé€𝄞"
  wellFormed := true
  root := ⟨.other, none, 0, 10, [⟨.identifier, none, 3, 3, []⟩]⟩

theorem charOffset_agrees_fourWidths :
    fourWidths.charOffset (-1) = 0 ∧ fourWidths.charOffset 5 = 2 ∧ fourWidths.charOffset 6 = 3 ∧
      fourWidths.charOffset 9 ≤ fourWidths.charOffset 10 ∧ 3 ≤ fourWidths.charOffset 9 ∧
      ∀ n ∈ fourWidths.root.children, fourWidths.rangeOf n = (2, 3) ∧
        fourWidths.textOf n = fourWidths.text.slice (fourWidths.rangeOf n).1 (fourWidths.rangeOf n).2 := by
  obtain ⟨-, hfits, hnegative, hmono, hinverse, hwithin, hnode⟩ := charOffset_agrees fourWidths
  refine ⟨hnegative _ (by decide), hwithin 2 (by decide) 5 (by decide) (by decide), hinverse 3 (by decide),
    hmono 9 10 (by decide), (hfits 9 (by decide) 3 (by decide)).1 (by decide), fun n hn => ?_⟩
  have hplace : ∀ n ∈ fourWidths.root.children, n.start = (utf8 (fourWidths.text.take 2)).length ∧
      n.stop = (utf8 (fourWidths.text.take 3)).length := by decide
  obtain ⟨hrange, htext, -⟩ := hnode n 2 (by decide) 3 (by decide) (hplace n hn).1 (hplace n hn).2
  exact ⟨hrange, htext⟩

end Script.Document

end ViewCompiler
