import ViewCompiler.Markup.Segment
import ViewCompiler.Proofs.Text.Case
import ViewCompiler.Proofs.Text.Cut

/-!
# Names of tags

What `name?` reads, and what becomes of a name when its tag is written anew: a name that consists of
letters, digits and dashes (`plainName_chars`), and that a second writing leaves alone
(`plainName_plainName`).
-/

namespace ViewCompiler.Markup

open Text (Stops)

variable {t name after : Text} {c : Char}

/-- A letter, and then no blank, slash or closing angle bracket. -/
def IsName (name : Text) : Prop := ∃ c rest, name = c :: rest ∧ c.isAlpha = true ∧ ∀ d ∈ rest, isNameChar d = true

theorem isNameChar_of_isAlphanum (h : c.isAlphanum = true) : isNameChar c = true := by
  rw [Text.isAlphanum_iff, Text.isAlpha_iff, Text.isUpper_iff, Text.isLower_iff, Text.isDigit_iff] at h
  have hblank : Text.isBlank c = false := by
    simp only [Text.isBlank, Bool.or_eq_false_iff, Bool.and_eq_false_iff, decide_eq_false_iff_not, beq_eq_false_iff_ne]
    omega
  have hslash : c ≠ '/' := by
    rintro rfl
    revert h
    decide
  have hbracket : c ≠ '>' := by
    rintro rfl
    revert h
    decide
  simp [isNameChar, hblank, hslash, hbracket]

theorem isNameChar_of_isAlpha (h : c.isAlpha = true) : isNameChar c = true :=
  isNameChar_of_isAlphanum (Text.isAlphanum_iff.2 (Or.inl h))

theorem IsName.isNameChar (h : IsName name) : ∀ d ∈ name, isNameChar d = true := by
  obtain ⟨c, rest, rfl, hletter, hrest⟩ := h
  intro d hd
  rcases List.mem_cons.1 hd with rfl | hd
  · exact isNameChar_of_isAlpha hletter
  · exact hrest d hd

theorem name?_eq_some_iff :
    name? t = some (name, after) ↔ t = name ++ after ∧ IsName name ∧ Stops isNameChar after := by
  constructor
  · intro h
    unfold name? at h
    split at h
    · rename_i c rest
      split at h
      · rename_i hletter
        cases h
        exact ⟨by rw [List.cons_append, List.takeWhile_append_dropWhile],
          ⟨c, _, rfl, hletter, fun d hd => List.mem_takeWhile_imp hd⟩, Text.stops_dropWhile _ _⟩
      · cases h
    · cases h
  · rintro ⟨rfl, ⟨c, rest, rfl, hletter, hrest⟩, hstops⟩
    rw [List.cons_append, name?, if_pos hletter, Text.takeWhile_append_stops hrest hstops,
      Text.dropWhile_append_stops hrest hstops]

theorem name?_eq_none_iff : name? t = none ↔ ∀ c ∈ t.head?, c.isAlpha = false := by
  cases t with
  | nil => simp [name?]
  | cons c rest =>
      rw [name?]
      cases hletter : c.isAlpha <;> simp [hletter]

/-! ### Plain names -/

theorem isPlainName_lower (name : Text) : isPlainName name.lower = isPlainName name := by
  have hlast : name.lower.getLast? = some '\n' ↔ name.getLast? = some '\n' := by simp [Text.lower, Text.toLower_eq_iff]
  have hbody : (if name.lower.getLast? = some '\n' then name.lower.dropLast else name.lower) =
      (if name.getLast? = some '\n' then name.dropLast else name).map Char.toLower := by
    simp only [hlast]
    split
    · exact List.map_dropLast.symm
    · rfl
  have hdash : '-'.isAlpha = false := rfl
  simp only [isPlainName, hbody, Text.pieces_map (Text.toLower_eq_iff hdash), List.head?_map, Option.any_map,
    List.all_cons, List.all_map, List.isEmpty_map, Function.comp_def, Text.isAlpha_toLower, Text.isAlphanum_toLower]

/-- Without a line feed, a plain name is made of its words and nothing else. -/
theorem isPlainName_iff (hline : '\n' ∉ name) : isPlainName name = true ↔
    (Text.pieces '-' name).1.head?.any Char.isAlpha = true ∧
      ∀ word ∈ (Text.pieces '-' name).1 :: (Text.pieces '-' name).2, word ≠ [] ∧ ∀ c ∈ word, c.isAlphanum = true := by
  have hlast : name.getLast? ≠ some '\n' := fun h => hline (List.mem_of_getLast? h)
  simp only [isPlainName, if_neg hlast, Bool.and_eq_true, List.all_eq_true, Bool.not_eq_true', List.isEmpty_eq_false_iff]

theorem IsName.no_line_feed (h : IsName name) : '\n' ∉ name := fun hmem => absurd (h.isNameChar _ hmem) (by decide)

theorem chars_of_isPlainName (hname : IsName name) (h : isPlainName name = true) :
    ∀ c ∈ name, c.isAlphanum = true ∨ c = '-' := by
  intro c hc
  rcases Text.mem_pieces '-' hc with hdash | ⟨piece, hpiece, hmem⟩
  · exact Or.inr hdash
  · exact Or.inl ((((isPlainName_iff hname.no_line_feed).1 h).2 piece hpiece).2 c hmem)

theorem plainName_cases (name : Text) :
    (isPlainName name = true ∧ plainName name = name.lower) ∨ plainName name = placeholderName := by
  unfold plainName
  split
  · rename_i hplain
    exact Or.inl ⟨hplain, rfl⟩
  · exact Or.inr rfl

theorem lower_plainName (name : Text) : (plainName name).lower = plainName name := by
  rcases plainName_cases name with ⟨-, heq⟩ | heq
  · rw [heq, Text.lower_lower]
  · rw [heq]
    decide

theorem isPlainName_plainName (name : Text) : isPlainName (plainName name) = true := by
  rcases plainName_cases name with ⟨hplain, heq⟩ | heq
  · rw [heq, isPlainName_lower, hplain]
  · rw [heq]
    decide

theorem plainName_plainName (name : Text) : plainName (plainName name) = plainName name := by
  rw [plainName, if_pos (isPlainName_plainName name), lower_plainName]

theorem plainName_chars (hname : IsName name) : ∀ c ∈ plainName name, c.isAlphanum = true ∨ c = '-' := by
  rcases plainName_cases name with ⟨hplain, heq⟩ | heq
  · rw [heq]
    intro c hc
    obtain ⟨d, hd, rfl⟩ := List.mem_map.1 hc
    rcases chars_of_isPlainName hname hplain d hd with halnum | rfl
    · exact Or.inl ((Text.isAlphanum_toLower d).trans halnum)
    · exact Or.inr (by decide)
  · have hall : placeholderName.all (fun c => c.isAlphanum || c == '-') = true := by decide
    rw [heq]
    intro c hc
    simpa using List.all_eq_true.1 hall c hc

theorem isName_plainName (hname : IsName name) : IsName (plainName name) := by
  have hchars : ∀ c ∈ plainName name, isNameChar c = true := by
    intro c hc
    rcases plainName_chars hname c hc with halnum | rfl
    · exact isNameChar_of_isAlphanum halnum
    · decide
  rcases plainName_cases name with ⟨-, heq⟩ | heq
  · rw [heq] at hchars ⊢
    obtain ⟨c, rest, rfl, hletter, -⟩ := hname
    exact ⟨c.toLower, rest.map Char.toLower, rfl, by rw [Text.isAlpha_toLower, hletter],
      fun d hd => hchars d (List.mem_cons_of_mem _ hd)⟩
  · rw [heq] at hchars ⊢
    exact ⟨'w', _, rfl, by decide, fun d hd => hchars d (List.mem_cons_of_mem _ hd)⟩

end ViewCompiler.Markup
