import ViewCompiler.Proofs.Markup.Renumber
import ViewCompiler.Proofs.Text.Position

/-!
# Numbering touches nothing but tags

A template and its numbered markup are the same text with other tags in it. Both are told here as a text before the
first tag followed by tags, each with the text behind it (`Touched`); the text between the tags is what a reader passes
over, so that no tag is left out (`Passed`). Each start tag is recorded with its place, and places come in the order of
the numbers.
-/

namespace ViewCompiler.Markup

open Segment (unreadContent)

variable {t rest : Text} {unread : Option Text} {parts : List Segment}

/-- Text without tags of its own in front of `rest`: text, comments, declarations, lone brackets, and at first the
content of the element `unread`. -/
inductive Passed : Option Text → Text → Text → Prop
  | nil {unread : Option Text} {rest : Text} (hends : ∀ name ∈ unread, unreadContent name rest = []) : Passed unread [] rest
  | cons {unread : Option Text} {piece passed rest : Text} (hfound : Found unread (.verbatim piece) (passed ++ rest))
      (hpassed : Passed none passed rest) : Passed unread (piece ++ passed) rest

/-- A tag, what is written for it and recorded of it, and the text up to the next tag. -/
structure Touched where
  source : Text
  written : Text
  behind : Text
  recorded? : Option StartTag

def sources (touched : List Touched) : Text := touched.flatMap fun tag => tag.source ++ tag.behind

def writings (touched : List Touched) : Text := touched.flatMap fun tag => tag.written ++ tag.behind

@[simp] theorem sources_cons (tag : Touched) (touched : List Touched) :
    sources (tag :: touched) = tag.source ++ tag.behind ++ sources touched := rfl

@[simp] theorem sources_append (front back : List Touched) : sources (front ++ back) = sources front ++ sources back :=
  List.flatMap_append

@[simp] theorem writings_cons (tag : Touched) (touched : List Touched) :
    writings (tag :: touched) = tag.written ++ tag.behind ++ writings touched := rfl

/-- A tag at an offset of the template, where `k` is the next number and `rest` comes behind it and its text. -/
inductive Touched.Stands (t : Text) (offset k : Nat) (rest : Text) : Touched → Prop
  | endTag {source name behind : Text} (htag : IsEndTag source name) (hbehind : Passed none behind rest) :
      Stands t offset k rest ⟨source, plainEnd name, behind, none⟩
  | startTag {source name behind : Text} {attributes : List Attribute} {selfClosing : Bool}
      (htag : IsStartTag source (behind ++ rest) name attributes selfClosing)
      (hbehind : Passed (Segment.startTag source name attributes selfClosing).unread? behind rest) :
      Stands t offset k rest
        ⟨source,
         numberedStart k name ++ (if selfClosing = true ∧ plainName name ∉ contentless then plainEnd name else []),
         behind, some ⟨name, attributes, t.positionAt offset⟩⟩

/-- Tags that stand one behind the other from an offset and a number on. -/
def AllStand (t : Text) (offset k : Nat) (touched : List Touched) : Prop :=
  ∀ front tag back, touched = front ++ tag :: back →
    tag.Stands t (offset + (sources front).length) (k + front.countP fun tag => tag.recorded?.isSome) (sources back)

theorem allStand_cons_iff {touched : List Touched} {tag : Touched} {offset k : Nat} :
    AllStand t offset k (tag :: touched) ↔ tag.Stands t offset k (sources touched) ∧
      AllStand t (offset + (tag.source ++ tag.behind).length) (k + if tag.recorded?.isSome then 1 else 0) touched := by
  have hshift (front : List Touched) :
      offset + (sources (tag :: front)).length = offset + (tag.source ++ tag.behind).length + (sources front).length ∧
        (k + (tag :: front).countP fun tag => tag.recorded?.isSome) =
          (k + if tag.recorded?.isSome then 1 else 0) + front.countP fun tag => tag.recorded?.isSome := by
    rw [sources_cons, List.length_append, List.countP_cons]
    omega
  constructor
  · intro h
    refine ⟨h [] tag touched rfl, fun front other back heq => ?_⟩
    have hstands := h (tag :: front) other back (congrArg (tag :: ·) heq)
    rwa [(hshift front).1, (hshift front).2] at hstands
  · rintro ⟨htag, htouched⟩ front other back heq
    cases front with
    | nil =>
        cases heq
        exact htag
    | cons first front =>
        obtain ⟨rfl, rfl⟩ := List.cons.inj heq
        rw [(hshift front).1, (hshift front).2]
        exact htouched front other back rfl

/-! ### Places -/

theorem Touched.Stands.position {tag : Touched} {offset k : Nat} {start : StartTag} (h : tag.Stands t offset k rest)
    (hstart : tag.recorded? = some start) :
    start.position = t.positionAt offset ∧ '<' :: start.name <+: tag.source := by
  cases h with
  | endTag => cases hstart
  | startTag htag =>
      cases hstart
      obtain ⟨-, body, rfl, -⟩ := htag
      exact ⟨rfl, body, rfl⟩

theorem Touched.Stands.source_ne_nil {tag : Touched} {offset k : Nat} (h : tag.Stands t offset k rest) :
    tag.source ≠ [] := by
  cases h with
  | endTag htag =>
      obtain ⟨-, blanks, -, rfl⟩ := htag
      exact List.cons_ne_nil _ _
  | startTag htag =>
      obtain ⟨-, body, rfl, -⟩ := htag
      exact List.cons_ne_nil _ _

/-- A recorded tag has a place, and its bracket and its name stand there. -/
theorem AllStand.position {touched : List Touched} {before : Text} {k : Nat} (h : AllStand t before.length k touched)
    (ht : t = before ++ sources touched) {start : StartTag} (hstart : start ∈ touched.filterMap Touched.recorded?) :
    ∃ offset, before.length ≤ offset ∧ start.position = t.positionAt offset ∧ '<' :: start.name <+: t.drop offset := by
  obtain ⟨tag, htag, hrecorded⟩ := List.mem_filterMap.1 hstart
  obtain ⟨front, back, rfl⟩ := List.append_of_mem htag
  obtain ⟨hposition, hname⟩ := (h front tag back rfl).position hrecorded
  refine ⟨_, Nat.le_add_right _ _, hposition, hname.trans ?_⟩
  have hdrop : t.drop (before.length + (sources front).length) = tag.source ++ tag.behind ++ sources back := by
    have hsplit : t = (before ++ sources front) ++ (tag.source ++ tag.behind ++ sources back) := by
      simp only [ht, sources_append, sources_cons, List.append_assoc]
    rw [← List.length_append, hsplit, List.drop_left]
  rw [hdrop, List.append_assoc]
  exact List.prefix_append _ _

theorem AllStand.pairwise {touched : List Touched} {before : Text} {k : Nat} (h : AllStand t before.length k touched)
    (ht : t = before ++ sources touched) :
    (touched.filterMap Touched.recorded?).Pairwise fun start later => start.position.Before later.position := by
  induction touched generalizing before k with
  | nil => exact List.Pairwise.nil
  | cons tag touched ih =>
      obtain ⟨htag, htouched⟩ := allStand_cons_iff.1 h
      rw [← List.length_append] at htouched
      have hsplit : t = (before ++ (tag.source ++ tag.behind)) ++ sources touched := by
        simp only [ht, sources_cons, List.append_assoc]
      have hlater := ih htouched hsplit
      cases hrecorded : tag.recorded? with
      | none => rwa [List.filterMap_cons_none hrecorded]
      | some start =>
          rw [List.filterMap_cons_some hrecorded]
          refine List.Pairwise.cons (fun later hmem => ?_) hlater
          obtain ⟨offset, hle, hposition, -⟩ := htouched.position hsplit hmem
          have hpos := List.length_pos_iff.2 htag.source_ne_nil
          rw [(htag.position hrecorded).1, hposition]
          apply Text.positionAt_before
          simp only [List.length_append] at hle
          omega

/-! ### Templates -/

/-- A text that starts at an offset, its numbered form and its recorded tags, taken apart into tags and the text
between them. -/
structure TakenApart (t : Text) (offset k : Nat) (unread : Option Text) (source html : Text) (tags : List StartTag)
    (before : Text) (touched : List Touched) : Prop where
  source_eq : source = before ++ sources touched
  html_eq : html = before ++ writings touched
  passed : Passed unread before (sources touched)
  stand : AllStand t (offset + before.length) k touched
  tags_eq : touched.filterMap Touched.recorded? = tags

section TakenApart

variable {offset k : Nat} {html : Text} {tags : List StartTag} {before : Text} {touched : List Touched}

theorem TakenApart.verbatim {piece : Text}
    (h : TakenApart t (offset + piece.length) k none rest html tags before touched)
    (hfound : Found unread (.verbatim piece) rest) :
    TakenApart t offset k unread (piece ++ rest) (piece ++ html) tags (piece ++ before) touched where
  source_eq := by rw [h.source_eq, List.append_assoc]
  html_eq := by rw [h.html_eq, List.append_assoc]
  passed := .cons (h.source_eq ▸ hfound) h.passed
  stand := by
    rw [List.length_append, ← Nat.add_assoc]
    exact h.stand
  tags_eq := h.tags_eq

/-- The text in front of the next tag comes to stand behind this one. -/
theorem TakenApart.tag {tag : Touched} {unread' : Option Text}
    (h : TakenApart t (offset + tag.source.length) (k + if tag.recorded?.isSome then 1 else 0) unread' rest html tags
      tag.behind touched)
    (hstands : tag.Stands t offset k (sources touched))
    (hends : ∀ name ∈ unread, unreadContent name (tag.source ++ rest) = []) :
    TakenApart t offset k unread (tag.source ++ rest) (tag.written ++ html) (tag.recorded?.toList ++ tags) []
      (tag :: touched) where
  source_eq := by rw [h.source_eq, List.nil_append, sources_cons, List.append_assoc]
  html_eq := by rw [h.html_eq, List.nil_append, writings_cons, List.append_assoc]
  passed := by
    refine .nil fun name hname => ?_
    rw [sources_cons, List.append_assoc, ← h.source_eq]
    exact hends name hname
  stand := by
    refine allStand_cons_iff.2 ⟨hstands, ?_⟩
    rw [List.length_append, ← Nat.add_assoc]
    exact h.stand
  tags_eq := by
    rw [← h.tags_eq]
    cases hrecorded : tag.recorded? with
    | none => exact List.filterMap_cons_none hrecorded
    | some start => exact List.filterMap_cons_some hrecorded

end TakenApart

theorem Cut.takenApart (h : Cut unread rest parts) (t : Text) (offset k : Nat) :
    ∃ before touched,
      TakenApart t offset k unread rest (renderFrom k parts) (startTagsFrom t offset parts) before touched := by
  induction h generalizing offset k with
  | nil =>
      refine ⟨[], [], rfl, rfl, .nil fun name _ => rfl, fun front tag back heq => ?_, rfl⟩
      exact absurd heq.symm (List.append_ne_nil_of_right_ne_nil front (List.cons_ne_nil tag back))
  | @cons unread segment rest parts hfound hrest ih =>
      obtain ⟨before, touched, hapart⟩ := ih (offset + segment.source.length) (k + segment.weight)
      cases segment with
      | verbatim piece => exact ⟨piece ++ before, touched, hapart.verbatim hfound⟩
      | endTag source name =>
          obtain ⟨hend, hends⟩ := hfound.of_tag fun _ => Segment.noConfusion
          cases hend with
          | endTag htag =>
              have hstands : Touched.Stands t offset k (sources touched) ⟨source, plainEnd name, before, none⟩ :=
                .endTag htag hapart.passed
              exact ⟨[], _, TakenApart.tag hapart hstands hends⟩
      | startTag source name attributes selfClosing =>
          obtain ⟨hstart, hends⟩ := hfound.of_tag fun _ => Segment.noConfusion
          cases hstart with
          | startTag htag =>
              have hwritten : (Segment.startTag source name attributes selfClosing).render k = numberedStart k name ++
                  if selfClosing = true ∧ plainName name ∉ contentless then plainEnd name else [] := by
                rw [render_startTag]
                simp [getsEnd]
              rw [hapart.source_eq] at htag
              have hstands : Touched.Stands t offset k (sources touched) ⟨source, _, before, some _⟩ :=
                .startTag htag hapart.passed
              rw [← hwritten] at hstands
              exact ⟨[], _, TakenApart.tag hapart hstands hends⟩

theorem number_touches_tags {n : Numbered} (h : number t = .ok n) :
    ∃ before touched, t = before ++ sources touched ∧ n.html = before ++ writings touched ∧
      Passed none before (sources touched) ∧ AllStand t before.length 0 touched ∧
      touched.filterMap Touched.recorded? = n.tags ∧
      (∀ tag ∈ n.tags, ∃ offset, tag.position = t.positionAt offset ∧ '<' :: tag.name <+: t.drop offset) ∧
      n.tags.Pairwise fun tag later => tag.position.Before later.position := by
  obtain ⟨parts, hcut, rfl⟩ := number_eq_ok_iff.1 h
  obtain ⟨before, touched, ht, hhtml, hpassed, hstand, htags⟩ := hcut.takenApart t 0 0
  rw [Nat.zero_add] at hstand
  refine ⟨before, touched, ht, hhtml, hpassed, hstand, htags, fun tag htag => ?_, ?_⟩
  · rw [← htags] at htag
    obtain ⟨offset, -, hplace⟩ := hstand.position ht htag
    exact ⟨offset, hplace⟩
  · rw [← htags]
    exact hstand.pairwise ht

theorem number_touches_tags_mixed :
    ∃ n, number "a < b\n<My-Item [a]='1'/></Foo.Bar ><script><b></script>\n <br/>" = .ok n ∧
      n.tags.map StartTag.position = [⟨2, 1⟩, ⟨2, 30⟩, ⟨3, 2⟩] ∧
      ∃ before touched,
        "a < b\n<My-Item [a]='1'/></Foo.Bar ><script><b></script>\n <br/>".toList = before ++ sources touched ∧
        n.html = before ++ writings touched ∧ touched.filterMap Touched.recorded? = n.tags := by
  have h : number "a < b\n<My-Item [a]='1'/></Foo.Bar ><script><b></script>\n <br/>" = .ok
      ⟨"a < b\n<my-item data-wane-ref=\"0\"></my-item></wane-element><script data-wane-ref=\"1\"><b></script>\n <br data-wane-ref=\"2\">",
       [⟨"My-Item", [⟨"[a]", some "1".toList⟩], ⟨2, 1⟩⟩, ⟨"script", [], ⟨2, 30⟩⟩, ⟨"br", [], ⟨3, 2⟩⟩]⟩ := by
    decide +kernel
  obtain ⟨before, touched, ht, hhtml, -, -, htags, -⟩ := number_touches_tags h
  exact ⟨_, h, rfl, before, touched, ht, hhtml, htags⟩

end ViewCompiler.Markup
