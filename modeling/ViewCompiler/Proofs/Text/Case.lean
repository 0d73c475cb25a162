import ViewCompiler.Text.Basic

/-!
# Small letters

What becomes of a character when it is made small: a capital letter becomes a small one and nothing else changes
(`toLower_cases`), so the kinds of characters that make up a name are the same before and after.
-/

namespace ViewCompiler.Text

variable {c : Char}

theorem isUpper_iff : c.isUpper = true ↔ 65 ≤ c.toNat ∧ c.toNat ≤ 90 := decide_eq_true_iff

theorem isLower_iff : c.isLower = true ↔ 97 ≤ c.toNat ∧ c.toNat ≤ 122 :=
  Bool.and_eq_true_iff.trans (and_congr decide_eq_true_iff decide_eq_true_iff)

theorem isDigit_iff : c.isDigit = true ↔ 48 ≤ c.toNat ∧ c.toNat ≤ 57 :=
  Bool.and_eq_true_iff.trans (and_congr decide_eq_true_iff decide_eq_true_iff)

theorem isAlpha_iff : c.isAlpha = true ↔ c.isUpper = true ∨ c.isLower = true := Bool.or_eq_true_iff

theorem isAlphanum_iff : c.isAlphanum = true ↔ c.isAlpha = true ∨ c.isDigit = true := Bool.or_eq_true_iff

theorem isUpper_eq_false_of_isLower (h : c.isLower = true) : c.isUpper = false := by
  rw [isLower_iff] at h
  rw [Bool.eq_false_iff, ne_eq, isUpper_iff]
  omega

theorem toNat_toLower (h : c.isUpper = true) : c.toLower.toNat = c.toNat + 32 := by
  have hval : c.toLower.val = c.val + 32 := congrArg Char.val (dif_pos (of_decide_eq_true h))
  have hrange := isUpper_iff.1 h
  rw [Char.toNat, hval, UInt32.toNat_add]
  exact Nat.mod_eq_of_lt (show c.toNat + 32 < 2 ^ 32 by omega)

theorem toLower_cases (c : Char) :
    c.isUpper = true ∧ c.toLower.isLower = true ∨ c.isUpper = false ∧ c.toLower = c := by
  cases hupper : c.isUpper with
  | false => exact Or.inr ⟨rfl, dif_neg (of_decide_eq_false hupper)⟩
  | true =>
      have hrange := isUpper_iff.1 hupper
      refine Or.inl ⟨rfl, ?_⟩
      rw [isLower_iff, toNat_toLower hupper]
      omega

theorem isAlpha_toLower (c : Char) : c.toLower.isAlpha = c.isAlpha := by
  rcases toLower_cases c with ⟨hupper, hlower⟩ | ⟨-, heq⟩
  · rw [isAlpha_iff.2 (Or.inl hupper), isAlpha_iff.2 (Or.inr hlower)]
  · rw [heq]

theorem isAlphanum_toLower (c : Char) : c.toLower.isAlphanum = c.isAlphanum := by
  rcases toLower_cases c with ⟨hupper, hlower⟩ | ⟨-, heq⟩
  · rw [isAlphanum_iff.2 (Or.inl (isAlpha_iff.2 (Or.inl hupper))),
      isAlphanum_iff.2 (Or.inl (isAlpha_iff.2 (Or.inr hlower)))]
  · rw [heq]

/-- Only letters change when they are made small, and only into letters. -/
theorem toLower_eq_iff {d : Char} (hd : d.isAlpha = false) (c : Char) : c.toLower = d ↔ c = d := by
  rcases toLower_cases c with ⟨hupper, -⟩ | ⟨-, heq⟩
  · have hletter : c.isAlpha = true := isAlpha_iff.2 (Or.inl hupper)
    constructor
    · intro h
      rw [← h, isAlpha_toLower, hletter] at hd
      cases hd
    · rintro rfl
      rw [hletter] at hd
      cases hd
  · rw [heq]

theorem lower_lower (t : Text) : t.lower.lower = t.lower := by
  rw [lower, lower, List.map_map]
  refine List.map_congr_left fun c _ => ?_
  rcases toLower_cases c with ⟨-, hlower⟩ | ⟨-, heq⟩
  · rcases toLower_cases c.toLower with ⟨hupper, -⟩ | ⟨-, heq⟩
    · rw [isUpper_eq_false_of_isLower hlower] at hupper
      cases hupper
    · exact heq
  · rw [Function.comp_apply, heq, heq]

end ViewCompiler.Text
