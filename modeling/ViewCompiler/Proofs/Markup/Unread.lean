import ViewCompiler.Proofs.Markup.Segment
import ViewCompiler.Proofs.Members

/-!
# Where unread content ends

Content that is not read ends where `startsWithEndOf` sees its end tag. That is settled by the
characters up to the closing angle bracket, and only the first of them opens a tag, so a text may be
exchanged from any later opening bracket on (`startsWithEndOf_exchange`, `unreadContent_exchange`).
-/

namespace ViewCompiler.Markup

open Text (Stops)
open Segment (spells startsWithEndOf unreadContent)

variable {name t u v content rest : Text}

/-- A spelling of the name of an element at which its content is taken to end. -/
def Spells (name spelled : Text) : Prop := List.Forall₂ (fun letter c => spells letter c = true) name spelled

theorem spells_iff {spelled : Text} :
    (spelled.length == name.length && (List.zipWith spells name spelled).all id) = true ↔ Spells name spelled := by
  unfold Spells
  induction name generalizing spelled with
  | nil => cases spelled <;> simp
  | cons letter others ih =>
      cases spelled with
      | nil => simp
      | cons c rest =>
          simp only [List.length_cons, List.zipWith_cons_cons, List.all_cons, id_eq, Bool.and_eq_true, beq_iff_eq,
            Nat.add_right_cancel_iff, List.forall₂_cons] at ih ⊢
          rw [← ih]
          tauto

theorem startsWithEndOf_iff : startsWithEndOf name t = true ↔
    ∃ spelled blanks rest : Text, t = '<' :: '/' :: (spelled ++ (blanks ++ '>' :: rest)) ∧
      Spells name spelled ∧ blanks.isAllBlank = true := by
  constructor
  · intro h
    unfold startsWithEndOf at h
    split at h
    · rename_i beyond
      rw [Bool.and_eq_true, spells_iff, beq_iff_eq] at h
      obtain ⟨hspelled, hhead⟩ := h
      obtain ⟨rest, hrest⟩ := List.head?_eq_some_iff.1 hhead
      refine ⟨beyond.take name.length, (beyond.drop name.length).takeWhile Text.isBlank, rest, ?_, hspelled,
        List.all_takeWhile⟩
      rw [← hrest, List.takeWhile_append_dropWhile, List.take_append_drop]
    · cases h
  · rintro ⟨spelled, blanks, rest, rfl, hspelled, hblanks⟩
    have hlength := hspelled.length_eq
    have hdrop : (blanks ++ '>' :: rest).dropWhile Text.isBlank = '>' :: rest :=
      Text.dropWhile_append_stops (List.all_eq_true.1 hblanks) (Text.stops_cons.2 (by decide))
    rw [startsWithEndOf, Bool.and_eq_true, spells_iff, beq_iff_eq, hlength, List.take_left, List.drop_left, hdrop]
    exact ⟨hspelled, rfl⟩

theorem isAlpha_of_unread (hname : name ∈ unreadElements) : ∀ letter ∈ name, letter.isAlpha = true := by
  have hall : unreadElements.all (fun name => name.all Char.isAlpha) = true := by decide
  exact List.all_eq_true.1 (List.all_eq_true.1 hall name hname)

theorem startsWithEndOf_own (hname : name ∈ unreadElements) (rest : Text) :
    startsWithEndOf name ('<' :: '/' :: (name ++ '>' :: rest)) = true := by
  have hall : unreadElements.all (fun name => name.all fun letter => spells letter letter) = true := by decide
  have hspells : ∀ letter ∈ name, spells letter letter = true :=
    List.all_eq_true.1 (List.all_eq_true.1 hall name hname)
  exact startsWithEndOf_iff.2 ⟨name, [], rest, rfl, List.forall₂_same.2 hspells, rfl⟩

/-! ### The characters of an end tag -/

theorem spells_cases {letter c : Char} (h : spells letter c = true) :
    c.toLower = letter ∨ c = 'ſ' ∨ c = 'ı' ∨ c = 'İ' := by
  simp only [spells, Bool.or_eq_true, Bool.and_eq_true, beq_iff_eq] at h
  tauto

theorem isNameChar_of_spelled {spelled : Text} (hname : name ∈ unreadElements) (h : Spells name spelled) :
    ∀ c ∈ spelled, isNameChar c = true ∧ c ≠ '<' := by
  intro c hc
  obtain ⟨letter, hletter, hspells⟩ := exists_of_mem_right h hc
  have halpha := isAlpha_of_unread hname letter hletter
  rcases spells_cases hspells with rfl | rfl | rfl | rfl
  · rw [Text.isAlpha_toLower] at halpha
    refine ⟨isNameChar_of_isAlpha halpha, ?_⟩
    rintro rfl
    cases halpha
  · decide
  · decide
  · decide

/-- No character of an end tag but its first opens a tag. -/
theorem startsWithEndOf_exchange (hname : name ∈ unreadElements) (hv : v ≠ []) (ht : Stops (· != '<') t)
    (h : startsWithEndOf name (v ++ t) = true) (u : Text) : startsWithEndOf name (v ++ u) = true := by
  obtain ⟨spelled, blanks, rest, heq, hspelled, hblanks⟩ := startsWithEndOf_iff.1 h
  have hplain : '<' ∉ '/' :: (spelled ++ blanks ++ ['>']) := by
    have hblank : '<' ∉ blanks := fun hmem => absurd (List.all_eq_true.1 hblanks _ hmem) (by decide)
    have hletters : '<' ∉ spelled := fun hmem => (isNameChar_of_spelled hname hspelled _ hmem).2 rfl
    simp [hletters, hblank]
  have hsplit : v ++ t = ('<' :: '/' :: (spelled ++ blanks ++ ['>'])) ++ rest := by rw [heq]; simp
  rcases List.append_eq_append_iff.1 hsplit with ⟨tag, htag, hrest⟩ | ⟨beyond, hbeyond, hrest⟩
  · -- The end tag would go on into a text that opens a tag.
    obtain ⟨c, front, rfl⟩ := List.exists_cons_of_ne_nil hv
    cases tag with
    | nil =>
        rw [List.append_nil] at htag
        refine startsWithEndOf_iff.2 ⟨spelled, blanks, u, ?_, hspelled, hblanks⟩
        rw [← htag]
        simp
    | cons d others =>
        have hd : d = '<' := by simpa [hrest] using ht
        rw [(List.cons.inj htag).2, hd] at hplain
        exact absurd (List.mem_append_right front List.mem_cons_self) hplain
  · refine startsWithEndOf_iff.2 ⟨spelled, blanks, beyond ++ u, ?_, hspelled, hblanks⟩
    rw [hbeyond]
    simp

theorem unreadContent_exchange (hname : name ∈ unreadElements) (hu : Stops (· != '<') u)
    (hends : unreadContent name u = []) (h : unreadContent name (content ++ t) = content) :
    unreadContent name (content ++ u) = content := by
  induction content with
  | nil => exact hends
  | cons c others ih =>
      rw [List.cons_append, unreadContent] at h ⊢
      split at h
      · cases h
      · rename_i hnot
        rw [if_neg fun hstarts => hnot ?_, ih (List.cons.inj h).2]
        exact startsWithEndOf_exchange hname (List.cons_ne_nil c others) hu hstarts t

end ViewCompiler.Markup
