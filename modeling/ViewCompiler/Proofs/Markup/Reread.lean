import ViewCompiler.Proofs.Markup.Renumber
import Mathlib.Algebra.GroupWithZero.Nat

/-!
# Numbering is done once and for all

Numbered markup is a template too. Numbering it again gives back the same markup, with the same tags under the same
numbers, as long as unread content runs into no end tag but its own (`number_number`). Reading makes that
condition exact: the segments of the numbered markup are the renumbered segments of the template if and only if it
holds (`Cut.ownEnds`). It may fail, since the end of a `script` is also seen where its name is spelled with
a dotted capital or a dotless small I, and that end tag is then written under another name (`number_misses_tag`).
-/

namespace ViewCompiler.Markup

open Segment (spells startsWithEndOf unreadContent)

variable {t u source name rest : Text} {segment : Segment} {unread : Option Text} {parts : List Segment} {k : Nat}

/-! ### The end tags of unread content -/

theorem IsEndTag.spelled {other : Text} (htag : IsEndTag source other) (hname : name ∈ unreadElements)
    (h : startsWithEndOf name (source ++ rest) = true) : Spells name other := by
  obtain ⟨spelled, blanks, beyond, heq, hspelled, hblanks⟩ := startsWithEndOf_iff.1 h
  have hchars : ∀ c ∈ spelled, isNameChar c = true := fun c hc => (isNameChar_of_spelled hname hspelled c hc).1
  rwa [htag.name_eq hchars hblanks heq]

theorem lower_of_letters {spelled : Text} (hletters : ∀ c ∈ spelled, c ≠ 'ſ' ∧ c ≠ 'ı' ∧ c ≠ 'İ')
    (h : Spells name spelled) : spelled.lower = name := by
  induction h with
  | nil => rfl
  | cons hspells _ ih =>
      rw [List.forall_mem_cons] at hletters
      obtain ⟨⟨hlong, hdotless, hdotted⟩, hothers⟩ := hletters
      have hlower := (spells_cases hspells).resolve_right (by tauto)
      exact congrArg₂ List.cons hlower (ih hothers)

/-- A long S stands for the first letter of an unread element only, and does not start a name. -/
theorem long_s_not_mem {other : Text} (hname : name ∈ unreadElements) (hother : IsName other)
    (h : Spells name other) : 'ſ' ∉ other := by
  obtain ⟨c, others, rfl, hletter, -⟩ := hother
  cases h with
  | @cons letter _ letters _ _ htail =>
      intro hmem
      rcases List.mem_cons.1 hmem with rfl | hmem
      · cases hletter
      · have hall : unreadElements.all (fun name => name.tail.all fun letter => !spells letter 'ſ') = true := by decide
        obtain ⟨d, hd, hspells⟩ := exists_of_mem_right htail hmem
        have hnot := List.all_eq_true.1 (List.all_eq_true.1 hall _ hname) d hd
        rw [hspells] at hnot
        cases hnot

theorem plainName_of_lower {other : Text} (hname : name ∈ unreadElements) (h : other.lower = name) :
    plainName other = name := by
  have hall : unreadElements.all isPlainName = true := by decide
  have hplain : isPlainName other = true := by rw [← isPlainName_lower, h, List.all_eq_true.1 hall name hname]
  rw [plainName, if_pos hplain, h]

theorem Cut.of_cons (h : Cut unread t (segment :: parts)) :
    ∃ rest, t = segment.source ++ rest ∧ Found unread segment rest ∧ Cut segment.unread? rest parts := by
  cases h with
  | cons hfound hrest => exact ⟨_, rfl, hfound, hrest⟩

theorem Found.isEndTag {other : Text} (h : Found unread (.endTag source other) rest) : IsEndTag source other := by
  cases (h.of_tag fun _ => Segment.noConfusion).1 with
  | endTag htag => exact htag

/-- The end tag that unread content runs into is spelled like an end of that content. -/
theorem Cut.spelled_closing {other : Text} (h : Cut (some name) t parts) (hname : name ∈ unreadElements)
    (hother : closing? parts = some other) :
    Spells name other ∧ IsName other ∧ other ⊆ t := by
  -- In either case the end tag is a part of the text that the content ends at.
  have hends : ∃ source rest, IsEndTag source other ∧ startsWithEndOf name (source ++ rest) = true ∧ source ⊆ t := by
    unfold closing? at hother
    split at hother
    · cases hother
      obtain ⟨rest, rfl, hfound, -⟩ := h.of_cons
      cases hfound with
      | atEnd hends hfound => exact ⟨_, rest, hfound.isEndTag, hends, List.subset_append_left _ _⟩
    · rename_i content source _ _
      cases hother
      obtain ⟨rest, rfl, hfound, hlater⟩ := h.of_cons
      obtain ⟨beyond, rfl, hend, -⟩ := hlater.of_cons
      have hsubset : source ⊆ content ++ (source ++ beyond) := fun c hc =>
        List.mem_append_right content (List.mem_append_left beyond hc)
      obtain ⟨-, blanks, -, rfl⟩ := hend.isEndTag
      refine ⟨_, beyond, hend.isEndTag, ?_, hsubset⟩
      cases hfound with
      | content _ hrun => exact (startsWithEndOf_of_content hrun).resolve_left (List.cons_ne_nil _ _)
      | atEnd hends hfound =>
          -- A slash follows the bracket that the content ends at, not another bracket.
          obtain ⟨spelled, blanks', tail, heq, -⟩ := startsWithEndOf_iff.1 hends
          rcases hfound.of_slash heq with ⟨_, _, hsegment, -⟩ | hsegment
          · cases hsegment
          · cases hsegment
            cases heq
    · cases hother
  obtain ⟨source, rest, htag, hends, hsubset⟩ := hends
  refine ⟨htag.spelled hname hends, htag.1, fun c hc => hsubset ?_⟩
  obtain ⟨-, blanks, -, rfl⟩ := htag
  simp [hc]

theorem Cut.plainName_closing {other : Text} (h : Cut (some name) t parts) (hname : name ∈ unreadElements)
    (hother : closing? parts = some other) (hdotless : 'ı' ∉ other) (hdotted : 'İ' ∉ other) : plainName other = name := by
  obtain ⟨hspelled, hisName, -⟩ := h.spelled_closing hname hother
  have hlong := long_s_not_mem hname hisName hspelled
  refine plainName_of_lower hname (lower_of_letters ?_ hspelled)
  intro c hc
  exact ⟨ne_of_mem_of_not_mem hc hlong, ne_of_mem_of_not_mem hc hdotless, ne_of_mem_of_not_mem hc hdotted⟩

/-- Only a dotless small or a dotted capital I leads from unread content to the end tag of another element. -/
theorem Cut.ownEnds_of_plain (h : Cut unread t parts) (hdotless : 'ı' ∉ t) (hdotted : 'İ' ∉ t) : OwnEnds parts := by
  induction h with
  | nil => trivial
  | cons hfound hrest ih =>
      simp only [List.mem_append, not_or] at hdotless hdotted
      refine ⟨?_, ih hdotless.2 hdotted.2⟩
      intro name hname other hother
      rw [Option.mem_def.1 hname] at hrest
      have hmem := mem_unreadElements hname
      obtain ⟨-, -, hsubset⟩ := hrest.spelled_closing hmem hother
      exact hrest.plainName_closing hmem hother (fun hc => hdotless.2 (hsubset hc)) (fun hc => hdotted.2 (hsubset hc))

/-! ### The condition is exact -/

/-- What follows a segment that is read from its number. -/
theorem Cut.renumbered_tail (h : Cut unread (renderFrom k (segment :: parts)) (renumberedFrom k (segment :: parts))) :
    Cut segment.unread? (renderFrom (k + segment.weight) parts) (renumberedFrom (k + segment.weight) parts) := by
  cases segment with
  | verbatim source =>
      obtain ⟨rest, heq, -, hrest⟩ := h.of_cons
      rw [List.append_cancel_left heq]
      exact hrest
  | endTag source name =>
      obtain ⟨rest, heq, -, hrest⟩ := h.of_cons
      rw [List.append_cancel_left heq]
      exact hrest
  | startTag source name attributes selfClosing =>
      rw [renderFrom, render_startTag, List.append_assoc] at h
      obtain ⟨rest, heq, -, hrest⟩ := h.of_cons
      obtain rfl := List.append_cancel_left heq
      cases hgets : getsEnd name selfClosing with
      | false =>
          rw [hgets] at hrest
          rw [← unread?_numberedStart hgets]
          exact hrest
      | true =>
          obtain rfl : selfClosing = true := (Bool.and_eq_true_iff.1 hgets).1
          rw [hgets] at hrest
          obtain ⟨later, heq, -, hlater⟩ := hrest.of_cons
          rw [List.append_cancel_left heq]
          exact hlater

theorem closing?_renumberedFrom {other : Text} (h : closing? parts = some other) (k : Nat) :
    closing? (renumberedFrom k parts) = some (plainName other) := by
  unfold closing? at h
  split at h <;> cases h <;> rfl

theorem Cut.ownEnds (h : Cut unread (renderFrom k parts) (renumberedFrom k parts)) : OwnEnds parts := by
  induction parts generalizing unread k with
  | nil => trivial
  | cons segment parts ih =>
      have htail := h.renumbered_tail
      refine ⟨?_, ih htail⟩
      intro name hname other hother
      rw [Option.mem_def.1 hname] at htail
      have hmem := mem_unreadElements hname
      have hclosing := closing?_renumberedFrom hother (k + segment.weight)
      obtain ⟨-, hisName, -⟩ := htail.spelled_closing hmem hclosing
      have hchars := chars_of_isPlainName hisName (isPlainName_plainName other)
      rw [← plainName_plainName other]
      exact htail.plainName_closing hmem hclosing (fun hc => absurd (hchars _ hc) (by decide))
        (fun hc => absurd (hchars _ hc) (by decide))

/-! ### Numbers -/

theorem renderFrom_append (k : Nat) (front back : List Segment) :
    renderFrom k (front ++ back) = renderFrom k front ++ renderFrom (k + (front.map Segment.weight).sum) back := by
  induction front generalizing k with
  | nil => rfl
  | cons segment front ih => simp [renderFrom, ih, Nat.add_assoc]

theorem weight_renumbered (segment : Segment) (k : Nat) :
    ((segment.renumbered k).map Segment.weight).sum = segment.weight := by
  cases segment with
  | verbatim _ | endTag _ _ => rfl
  | startTag source name attributes selfClosing =>
      rw [Segment.renumbered]
      split <;> rfl

theorem plainEnd_plainName (name : Text) : plainEnd (plainName name) = plainEnd name := by
  rw [plainEnd, plainName_plainName, plainEnd]

theorem renderFrom_renumbered (segment : Segment) (k : Nat) :
    renderFrom k (segment.renumbered k) = segment.render k := by
  cases segment with
  | verbatim _ => exact List.append_nil _
  | endTag _ name =>
      rw [Segment.renumbered, renderFrom, renderFrom, List.append_nil, render_endTag, plainEnd_plainName,
        render_endTag]
  | startTag source name attributes selfClosing =>
      have hstart : (Segment.startTag (numberedStart k name) (plainName name) [reference k] false).render k =
          numberedStart k name := by
        rw [render_startTag, numberedStart, plainName_plainName]
        exact List.append_nil _
      rw [Segment.renumbered, renderFrom, hstart, render_startTag]
      congr 1
      split
      · rw [renderFrom, renderFrom, render_endTag, plainEnd_plainName]
        exact List.append_nil _
      · rfl

theorem renderFrom_renumberedFrom (k : Nat) (parts : List Segment) :
    renderFrom k (renumberedFrom k parts) = renderFrom k parts := by
  induction parts generalizing k with
  | nil => rfl
  | cons segment parts ih =>
      rw [renumberedFrom, renderFrom_append, renderFrom_renumbered, weight_renumbered, ih, renderFrom]

/-- A reading of the numbered markup finds the tags of the template in their order, each with its number alone. -/
theorem startTagsFrom_renumberedFrom (t u : Text) (offset offset' k : Nat) (parts : List Segment) :
    (startTagsFrom u offset' (renumberedFrom k parts)).map (fun tag => (tag.name, tag.attributes)) =
      ((startTagsFrom t offset parts).zipIdx k).map fun (tag, i) => (plainName tag.name, [reference i]) := by
  induction parts generalizing offset offset' k with
  | nil => rfl
  | cons segment parts ih =>
      cases segment with
      | verbatim source => exact ih _ _ _
      | endTag source name => exact ih _ _ _
      | startTag source name attributes selfClosing =>
          rw [renumberedFrom, Segment.renumbered, List.cons_append, startTagsFrom, startTagsFrom, List.zipIdx_cons,
            List.map_cons, List.map_cons]
          congr 1
          split
          · exact ih _ _ _
          · exact ih _ _ _

/-! ### Templates -/

/-- Numbered markup is cut into the tags of the template under their numbers exactly if unread content ends at its own
end tags, and is then its own numbered markup. -/
theorem number_number {n : Numbered} (h : number t = .ok n) :
    ∃ parts, segments t = .ok parts ∧
      (segments n.html = .ok (renumberedFrom 0 parts) ↔ OwnEnds parts) ∧
      ('ı' ∉ t → 'İ' ∉ t → OwnEnds parts) ∧
      (OwnEnds parts → ∃ again, number n.html = .ok again ∧ again.html = n.html ∧
        again.tags.map (fun tag => (tag.name, tag.attributes)) =
          n.tags.zipIdx.map fun (tag, i) => (plainName tag.name, [⟨referenceKey, some (Text.ofNat i)⟩])) := by
  obtain ⟨parts, hcut, rfl⟩ := number_eq_ok_iff.1 h
  have hagain (hown : OwnEnds parts) : Cut none (renderFrom 0 parts) (renumberedFrom 0 parts) :=
    hcut.renumbered (fun _ hname => (nomatch hname)) (fun _ hname => (nomatch hname)) hown 0
  refine ⟨parts, segmentsAfter_eq_ok_iff.2 hcut, ?_, hcut.ownEnds_of_plain, fun hown => ?_⟩
  · rw [segments, segmentsAfter_eq_ok_iff]
    exact ⟨Cut.ownEnds, hagain⟩
  · refine ⟨_, number_eq_ok_iff.2 ⟨_, hagain hown, rfl⟩, renderFrom_renumberedFrom 0 parts, ?_⟩
    exact startTagsFrom_renumberedFrom t _ 0 0 0 parts

theorem number_number_malformed :
    ∃ n, number "<a<b data-wane-ref='9'/><Script><i></SCRIPT ><!--<u>--><<br/>" = .ok n ∧
      ∃ again, number n.html = .ok again ∧ again.html = n.html ∧
        again.tags.map (fun tag => (tag.name, tag.attributes)) =
          [("wane-element".toList, [⟨"data-wane-ref", some "0".toList⟩]),
           ("script".toList, [⟨"data-wane-ref", some "1".toList⟩]),
           ("br".toList, [⟨"data-wane-ref", some "2".toList⟩])] := by
  have h : number "<a<b data-wane-ref='9'/><Script><i></SCRIPT ><!--<u>--><<br/>" = .ok
      ⟨"<wane-element data-wane-ref=\"0\"></wane-element><script data-wane-ref=\"1\"><i></script><!--<u>--><<br data-wane-ref=\"2\">",
       [⟨"a<b", [⟨"data-wane-ref", some "9".toList⟩], ⟨1, 1⟩⟩, ⟨"Script", [], ⟨1, 25⟩⟩, ⟨"br", [], ⟨1, 57⟩⟩]⟩ := by
    decide +kernel
  obtain ⟨parts, -, -, hplain, hagain⟩ := number_number h
  obtain ⟨again, hok, hhtml, htags⟩ := hagain (hplain (by decide) (by decide))
  exact ⟨_, h, again, hok, hhtml, htags.trans (by decide)⟩

/-- The end tag of a `script` whose I has a dot is not written as such, so that all tags behind it are taken for its
content. -/
theorem number_misses_tag :
    ∃ n again, number "<script></scrİpt><b>" = .ok n ∧ number n.html = .ok again ∧
      n.tags.map StartTag.name = ["script".toList, "b".toList] ∧ again.tags.map StartTag.name = ["script".toList] := by
  have h : number "<script></scrİpt><b>" = .ok
      ⟨"<script data-wane-ref=\"0\"></wane-element><b data-wane-ref=\"1\">",
       [⟨"script", [], ⟨1, 1⟩⟩, ⟨"b", [], ⟨1, 18⟩⟩]⟩ := by
    decide +kernel
  have hagain : number "<script data-wane-ref=\"0\"></wane-element><b data-wane-ref=\"1\">" = .ok
      ⟨"<script data-wane-ref=\"0\"></wane-element><b data-wane-ref=\"1\">",
       [⟨"script", [⟨"data-wane-ref", some "0".toList⟩], ⟨1, 1⟩⟩]⟩ := by
    decide +kernel
  exact ⟨_, _, h, hagain, rfl, rfl⟩

end ViewCompiler.Markup
