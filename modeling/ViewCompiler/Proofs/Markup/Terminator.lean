import ViewCompiler.Proofs.Markup.Reread

/-!
# What unread content is taken to end at

The reader passes over the content of a `script` or a `style` up to the first end tag of that element, and reads on from
there. What it looks for is spelled in letters of either case, but a long S and the dotless and the dotted I count as
letters too. Read on as markup, such a spelling is no end tag of the element: a name does not start with a long S, and
with a foreign I it is the name of another element. So the two views of where the content ends agree exactly if the end
tag is spelled in letters A to Z (`unread_content_ends`), and otherwise tags within a script are taken for tags of the
template (`segments_within_script`).
-/

namespace ViewCompiler.Markup

open Segment (startsWithEndOf unreadContent)

variable {t name spelled blanks content rest : Text} {front : List Segment} {unread : Option Text} {segment : Segment}

/-- How far the reader of a template has come: the segments that it has cut off, and the text that it has still to read,
which starts with the content of the element `unread`. -/
inductive Reads (t : Text) : List Segment → Option Text → Text → Prop
  | start : Reads t [] none t
  | next {front : List Segment} {unread : Option Text} {rest : Text} {segment : Segment}
      (hreads : Reads t front unread rest) (hrest : rest ≠ []) (hnext : Segment.next unread rest = .ok segment) :
      Reads t (front ++ [segment]) segment.unread? (rest.drop segment.source.length)

/-- The segment of some content, unless it is empty. -/
def contentSegments (content : Text) : List Segment := if content = [] then [] else [.verbatim content]

/-! ### Reading on -/

theorem segmentsAfter_next (hrest : rest ≠ []) (h : Segment.next unread rest = .ok segment) :
    segmentsAfter unread rest = (segment :: ·) <$> segmentsAfter segment.unread? (rest.drop segment.source.length) := by
  obtain ⟨later, heq, hfound⟩ := found_of_next hrest h
  obtain ⟨c, others, rfl⟩ := List.exists_cons_of_ne_nil hrest
  have hdrop : (c :: others).drop segment.source.length = later := by rw [heq, List.drop_left]
  rw [segmentsAfter, h, hdrop]
  simp only [bind, Except.bind, hfound.drop_eq heq]
  cases segmentsAfter segment.unread? later <;> rfl

theorem Found.segmentsAfter_eq (h : Found unread segment rest) :
    segmentsAfter unread (segment.source ++ rest) = (segment :: ·) <$> segmentsAfter segment.unread? rest := by
  rw [segmentsAfter_next (List.append_ne_nil_of_left_ne_nil h.source_ne_nil rest) h.next_eq, List.drop_left]

theorem Reads.segments_eq (h : Reads t front unread rest) :
    segments t = (front ++ ·) <$> segmentsAfter unread rest := by
  induction h with
  | start =>
      rw [segments]
      cases segmentsAfter none t <;> rfl
  | next hreads hrest hnext ih =>
      rw [ih, segmentsAfter_next hrest hnext]
      cases segmentsAfter _ (List.drop _ _) <;> simp [Functor.map, Except.map]

theorem Reads.unread_eq (h : Reads t (front ++ [segment]) unread rest) : unread = segment.unread? := by
  generalize hall : front ++ [segment] = all at h
  cases h with
  | start => simp at hall
  | next _ _ _ =>
      obtain ⟨-, hlast⟩ := List.append_inj' hall rfl
      cases hlast
      rfl

/-- Where content is empty, what comes next is read as if outside. -/
theorem segmentsAfter_of_ended (hended : unreadContent name rest = []) :
    segmentsAfter (some name) rest = segmentsAfter none rest := by
  cases rest with
  | nil => rw [segmentsAfter, segmentsAfter]
  | cons c others =>
      have hnext : Segment.next (some name) (c :: others) = Segment.next none (c :: others) := by
        simp [Segment.next, hended]
      rw [segmentsAfter, segmentsAfter, hnext]

/-- Content is passed over up to where it ends, and reading goes on there. -/
theorem segmentsAfter_content (hrun : unreadContent name (content ++ rest) = content) :
    segmentsAfter (some name) (content ++ rest) = (contentSegments content ++ ·) <$> segmentsAfter none rest := by
  by_cases hcontent : content = []
  · subst hcontent
    rw [List.nil_append] at hrun ⊢
    rw [segmentsAfter_of_ended hrun]
    cases segmentsAfter none rest <;> rfl
  · have hfound : Found (some name) (.verbatim content) rest := .content hcontent hrun
    rw [contentSegments, if_neg hcontent]
    exact hfound.segmentsAfter_eq

/-- No place within content is taken for its end. -/
theorem not_startsWithEndOf_within (hrun : unreadContent name (content ++ rest) = content) {before within : Text}
    (hsplit : content = before ++ within) (hwithin : within ≠ []) : startsWithEndOf name (within ++ rest) = false := by
  subst hsplit
  induction before with
  | nil =>
      obtain ⟨c, others, rfl⟩ := List.exists_cons_of_ne_nil hwithin
      rw [List.nil_append, List.cons_append, unreadContent] at hrun
      split at hrun
      · cases hrun
      · rename_i hends
        exact Bool.eq_false_iff.2 hends
  | cons d before ih =>
      rw [List.cons_append, List.cons_append, unreadContent] at hrun
      split at hrun
      · cases hrun
      · exact ih (List.cons.inj hrun).2

/-! ### The end tag -/

theorem isAlpha_of_plainName (hname : name ∈ unreadElements) (h : plainName spelled = name) :
    ∀ c ∈ spelled, c.isAlpha = true := by
  have hplaceholder : placeholderName ∉ unreadElements := by decide
  rcases plainName_cases spelled with ⟨-, heq⟩ | heq
  · intro c hc
    rw [← Text.isAlpha_toLower]
    apply isAlpha_of_unread hname
    rw [← h, heq]
    exact List.mem_map_of_mem hc
  · rw [← h, heq] at hname
    exact absurd hname hplaceholder

theorem plainName_of_spells (hname : name ∈ unreadElements) (hspelled : Spells name spelled)
    (h : ∀ c ∈ spelled, c.isAlpha = true) : plainName spelled = name := by
  refine plainName_of_lower hname (lower_of_letters (fun c hc => ?_) hspelled)
  have hletter := h c hc
  refine ⟨?_, ?_, ?_⟩ <;> rintro rfl <;> cases hletter

theorem isName_of_spells (hname : name ∈ unreadElements) (hspelled : Spells name spelled)
    (h : ∀ c ∈ spelled, c.isAlpha = true) : IsName spelled := by
  cases hspelled with
  | nil => exact absurd hname (by decide)
  | @cons _ c _ others _ _ =>
      rw [List.forall_mem_cons] at h
      exact ⟨c, others, rfl, h.1, fun d hd => isNameChar_of_isAlpha (h.2 d hd)⟩

theorem endTag?_own_iff (hname : name ∈ unreadElements) (hspelled : Spells name spelled)
    (hblanks : blanks.isAllBlank = true) (beyond : Text) :
    (∃ source other, Segment.endTag? ('<' :: '/' :: (spelled ++ (blanks ++ '>' :: beyond))) = some (source, other) ∧
      plainName other = name) ↔ ∀ c ∈ spelled, c.isAlpha = true := by
  constructor
  · rintro ⟨source, other, hend, hother⟩
    obtain ⟨htag, rest, hrest⟩ := endTag?_eq_some_iff.1 hend
    have hchars : ∀ c ∈ spelled, isNameChar c = true := fun c hc => (isNameChar_of_spelled hname hspelled c hc).1
    rw [htag.name_eq hchars hblanks hrest] at hother
    exact isAlpha_of_plainName hname hother
  · intro h
    refine ⟨'<' :: '/' :: (spelled ++ blanks ++ ['>']), spelled, ?_, plainName_of_spells hname hspelled h⟩
    refine endTag?_eq_some_iff.2 ⟨⟨isName_of_spells hname hspelled h, blanks, hblanks, rfl⟩, beyond, ?_⟩
    simp

/-- The segment at an end tag of an element's own, and the reading behind it. -/
theorem segmentsAfter_own_end (hname : name ∈ unreadElements) (hspelled : Spells name spelled)
    (hblanks : blanks.isAllBlank = true) (h : ∀ c ∈ spelled, c.isAlpha = true) (beyond : Text) :
    ∃ source, segmentsAfter none ('<' :: '/' :: (spelled ++ (blanks ++ '>' :: beyond))) =
      (.endTag source spelled :: ·) <$> segmentsAfter none beyond := by
  have htag : IsEndTag ('<' :: '/' :: (spelled ++ blanks ++ ['>'])) spelled :=
    ⟨isName_of_spells hname hspelled h, blanks, hblanks, rfl⟩
  refine ⟨'<' :: '/' :: (spelled ++ blanks ++ ['>']), ?_⟩
  have hfound : Found none (.endTag ('<' :: '/' :: (spelled ++ blanks ++ ['>'])) spelled) beyond := .endTag htag
  have htext : '<' :: '/' :: (spelled ++ (blanks ++ '>' :: beyond)) =
      '<' :: '/' :: (spelled ++ blanks ++ ['>']) ++ beyond := by simp
  rw [htext]
  exact hfound.segmentsAfter_eq

/-! ### Templates -/

/-- Behind the start tag of a `script` or a `style`, content is passed over up to the first place that is taken for its
end, or to the end of the template, and reading goes on there. That place is an end tag of the element for the reader
of markup exactly if its name is spelled in letters A to Z, and then no tag lies between the two. -/
theorem unread_content_ends {source tag : Text} {attributes : List Attribute}
    (h : Reads t (front ++ [.startTag source tag attributes false]) unread rest)
    (hunread : plainName tag ∈ unreadElements) :
    ∃ content after, rest = content ++ after ∧
      (∀ before within, content = before ++ within → within ≠ [] →
        startsWithEndOf (plainName tag) (within ++ after) = false) ∧
      segments t =
        (fun later => front ++ .startTag source tag attributes false :: (contentSegments content ++ later)) <$>
          segmentsAfter none after ∧
      (after = [] ∨ ∃ spelled blanks beyond : Text, after = '<' :: '/' :: (spelled ++ (blanks ++ '>' :: beyond)) ∧
        Spells (plainName tag) spelled ∧ blanks.isAllBlank = true ∧
        ((∃ source other, Segment.endTag? after = some (source, other) ∧ plainName other = plainName tag) ↔
          ∀ c ∈ spelled, c.isAlpha = true) ∧
        ((∀ c ∈ spelled, c.isAlpha = true) → ∀ parts, segments t = .ok parts → ∃ closing later,
          parts = front ++ .startTag source tag attributes false ::
            (contentSegments content ++ .endTag closing spelled :: later))) := by
  obtain ⟨after, hsplit, hends⟩ := unreadContent_append (plainName tag) rest
  generalize hcontent : unreadContent (plainName tag) rest = content at hsplit
  subst hsplit
  have hname : unread = some (plainName tag) := by
    rw [h.unread_eq, Segment.unread?, if_pos (List.contains_iff_mem.2 hunread)]
  have hreads := h.segments_eq
  rw [hname, segmentsAfter_content hcontent] at hreads
  have hsegments : segments t =
      (fun later => front ++ .startTag source tag attributes false :: (contentSegments content ++ later)) <$>
        segmentsAfter none after := by
    rw [hreads]
    cases segmentsAfter none after <;> simp [Functor.map, Except.map]
  refine ⟨content, after, rfl, fun before within => not_startsWithEndOf_within hcontent, hsegments, ?_⟩
  refine hends.imp_right fun hends => ?_
  obtain ⟨spelled, blanks, beyond, rfl, hspelled, hblanks⟩ := startsWithEndOf_iff.1 hends
  refine ⟨spelled, blanks, beyond, rfl, hspelled, hblanks, endTag?_own_iff hunread hspelled hblanks beyond, ?_⟩
  intro hletters parts hparts
  obtain ⟨closing, hclosing⟩ := segmentsAfter_own_end hunread hspelled hblanks hletters beyond
  rw [hsegments, hclosing] at hparts
  cases hlater : segmentsAfter none beyond with
  | error fault =>
      rw [hlater] at hparts
      cases hparts
  | ok later =>
      rw [hlater] at hparts
      cases hparts
      exact ⟨closing, later, rfl⟩

theorem unread_content_ends_cased :
    Reads "<Style>a</b></sTYLE ><i>" ([] ++ [.startTag "<Style>" "Style" [] false]) (some "style".toList)
        "a</b></sTYLE ><i>" ∧ plainName "Style" ∈ unreadElements ∧
      ∃ content after, "a</b></sTYLE ><i>".toList = content ++ after ∧
        segments "<Style>a</b></sTYLE ><i>" =
          (fun later => [] ++ .startTag "<Style>" "Style" [] false :: (contentSegments content ++ later)) <$>
            segmentsAfter none after ∧
        ∃ source other, Segment.endTag? after = some (source, other) ∧ plainName other = plainName "Style" := by
  have h : Reads "<Style>a</b></sTYLE ><i>" ([] ++ [.startTag "<Style>" "Style" [] false]) (some "style".toList)
      "a</b></sTYLE ><i>" := .next .start (by decide) (by decide +kernel)
  obtain ⟨content, after, hsplit, hwithin, hsegments, hends⟩ := unread_content_ends h (by decide)
  refine ⟨h, by decide, content, after, hsplit, hsegments, ?_⟩
  rcases hends with rfl | ⟨spelled, blanks, beyond, rfl, hspelled, -, hown, -⟩
  · -- The content would go over its end.
    have hends := hwithin "a</b>" "</sTYLE ><i>" (by rw [← List.append_nil content, ← hsplit]; rfl) (by decide)
    cases hends
  · refine hown.2 fun c hc => ?_
    have hmem : c ∈ "a</b></sTYLE ><i>".toList := by rw [hsplit]; simp [hc]
    obtain ⟨letter, hletter, hspells⟩ := exists_of_mem_right hspelled hc
    rcases spells_cases hspells with rfl | hforeign
    · rw [← Text.isAlpha_toLower]
      exact isAlpha_of_unread (by decide) _ hletter
    · revert hmem
      rcases hforeign with rfl | rfl | rfl <;> decide

/-- A long S ends the script for the reader that passes over it, but no name starts with it. So the tag behind it is
taken for one of the template, although the script goes on. -/
theorem segments_within_script :
    startsWithEndOf "script" "</ſcript><b></script>" = true ∧ Segment.endTag? "</ſcript><b></script>" = none ∧
      segments "<script></ſcript><b></script>" = .ok
        [.startTag "<script>" "script" [] false, .verbatim "<", .verbatim "/ſcript>", .startTag "<b>" "b" [] false,
         .endTag "</script>" "script"] := by
  decide +kernel

end ViewCompiler.Markup
