import ViewCompiler.Proofs.Markup.Unread

/-!
# Numbered markup read again

Written anew, tags change and all else stays, yet every place where the template was cut looks ahead: past the name of
an end tag for its bracket, past a comment for its mark, past unread content for its end tag. Here each of these views
is shown to be the same in front of the tags as they were and as they are written (`closes_renderFrom`,
`endTag?_renderFrom`, `startsWithEndOf_renderFrom`). So one segment after another is found again (`Found.cut_renumbered`),
and with them the whole template (`Cut.renumbered`), provided that unread content runs into end tags of its own.
-/

namespace ViewCompiler.Markup

open Text (Stops)
open Segment (startsWithEndOf unreadContent)

variable {t u source name rest : Text} {segment : Segment} {unread : Option Text} {parts : List Segment} {k : Nat}

/-! ### What tags become -/

/-- The end tag of a name as it is written anew. -/
def plainEnd (name : Text) : Text := '<' :: '/' :: (plainName name ++ ['>'])

/-- The attribute that holds a number. -/
def reference (k : Nat) : Attribute := ⟨referenceKey, some (Text.ofNat k)⟩

/-- The start tag of a name with its number. -/
def numberedStart (k : Nat) (name : Text) : Text :=
  '<' :: (plainName name ++ ' ' :: (referenceKey ++ '=' :: '"' :: (Text.ofNat k ++ ['"', '>'])))

/-- Whether an end tag is put behind a start tag. -/
def getsEnd (name : Text) (selfClosing : Bool) : Bool := selfClosing && !contentless.contains (plainName name)

/-- The segments that a segment is read as once it is written with its number. -/
def Segment.renumbered (k : Nat) : Segment → List Segment
  | verbatim source => [verbatim source]
  | endTag _ name => [endTag (plainEnd name) (plainName name)]
  | startTag _ name _ selfClosing =>
      startTag (numberedStart k name) (plainName name) [reference k] false ::
        if getsEnd name selfClosing then [endTag (plainEnd name) (plainName name)] else []

def renumberedFrom (k : Nat) : List Segment → List Segment
  | [] => []
  | segment :: others => segment.renumbered k ++ renumberedFrom (k + segment.weight) others

theorem render_endTag : (Segment.endTag source name).render k = plainEnd name := rfl

theorem render_startTag {attributes : List Attribute} {selfClosing : Bool} :
    (Segment.startTag source name attributes selfClosing).render k =
      numberedStart k name ++ if getsEnd name selfClosing then plainEnd name else [] := by
  simp [Segment.render, numberedStart, plainEnd, getsEnd]

theorem isEndTag_plainEnd (hname : IsName name) : IsEndTag (plainEnd name) (plainName name) :=
  ⟨isName_plainName hname, [], rfl, by rw [List.append_nil, plainEnd]⟩

theorem digit_of_mem_ofNat {c : Char} (hc : c ∈ Text.ofNat k) : c.isDigit = true := by
  rw [Text.ofNat, Nat.toString_eq_ofList_toDigits, String.toList_ofList] at hc
  exact Nat.isDigit_of_mem_toDigits (by decide : 0 < 10) (by decide) hc

theorem tagBody_reference (k : Nat) (rest : Text) :
    tagBody (' ' :: (referenceKey ++ '=' :: '"' :: (Text.ofNat k ++ '"' :: '>' :: rest))) =
      .ok ⟨[reference k], false, rest⟩ := by
  have hkey : ∀ c ∈ referenceKey, isKeyChar c = true := List.all_eq_true.1 (by decide)
  have hdigits : '"' ∉ Text.ofNat k := fun hmem => absurd (digit_of_mem_ofNat hmem) (by decide)
  have hblank : (' ' :: (referenceKey ++ '=' :: '"' :: (Text.ofNat k ++ '"' :: '>' :: rest))).dropWhile Text.isBlank =
      referenceKey ++ '=' :: '"' :: (Text.ofNat k ++ '"' :: '>' :: rest) := rfl
  have hattr := attribute?_quoted (by decide) hkey hdigits ('>' :: rest)
  rw [tagBody_attribute (hblank ▸ hattr), tagBody_bracket (Text.dropWhile_eq_self (Text.stops_cons.2 (by decide)))]
  rfl

theorem isStartTag_numberedStart (hname : IsName name) (k : Nat) (rest : Text) :
    IsStartTag (numberedStart k name) rest (plainName name) [reference k] false := by
  refine ⟨isName_plainName hname, ' ' :: (referenceKey ++ '=' :: '"' :: (Text.ofNat k ++ ['"', '>'])), rfl, ?_, ?_⟩
  · exact Text.stops_cons.2 (by decide)
  · simpa using tagBody_reference k rest

/-! ### What a reader looks ahead for -/

/-- Whether a text, read on from within a name, comes to the end of an end tag. -/
def closes (t : Text) : Bool := ((t.dropWhile isNameChar).dropWhile Text.isBlank).head? == some '>'

theorem endTag?_bracket_eq_none_iff : Segment.endTag? ('<' :: t) = none ↔
    ∀ c rest, t = '/' :: c :: rest → c.isAlpha = true → closes rest = false := by
  constructor
  · rintro h c rest rfl hletter
    by_contra hcloses
    rw [Bool.not_eq_false, closes, beq_iff_eq] at hcloses
    obtain ⟨beyond, hbeyond⟩ := List.head?_eq_some_iff.1 hcloses
    have hname : name? (c :: rest) = some (c :: rest.takeWhile isNameChar, rest.dropWhile isNameChar) := by
      rw [name?, if_pos hletter]
    simp [Segment.endTag?, hname, hbeyond] at h
  · intro h
    apply Option.eq_none_iff_forall_ne_some.2
    rintro ⟨source, name⟩ hsome
    obtain ⟨⟨⟨c, others, rfl, hletter, hothers⟩, blanks, hblanks, rfl⟩, beyond, heq⟩ := endTag?_eq_some_iff.1 hsome
    have hrest : t = '/' :: c :: (others ++ (blanks ++ '>' :: beyond)) := by
      rw [← (List.cons.inj heq).2]
      simp
    have hfalse := h c _ hrest hletter
    rw [closes, Text.dropWhile_append_stops hothers (stops_isNameChar_of_isBlank hblanks beyond),
      Text.dropWhile_append_stops (List.all_eq_true.1 hblanks) (Text.stops_cons.2 (by decide))] at hfalse
    cases hfalse

theorem closes_bracket : closes ('<' :: t) = closes t := rfl

/-- A text in which a name ends settles the matter, unless only blanks follow the name. -/
theorem closes_append (hname : ∃ c ∈ source, isNameChar c = false)
    (h : (∃ c ∈ source.dropWhile isNameChar, Text.isBlank c = false) ∨ Stops (· != '<') t) :
    closes (source ++ t) = closes source := by
  rw [closes, closes, Text.dropWhile_append_of_exists hname]
  by_cases hink : ∃ c ∈ source.dropWhile isNameChar, Text.isBlank c = false
  · rw [Text.dropWhile_append_of_exists hink, List.head?_append_of_ne_nil]
    intro hnil
    obtain ⟨c, hc, hblank⟩ := hink
    rw [List.dropWhile_eq_nil_iff.1 hnil c hc] at hblank
    cases hblank
  · have hblanks : ∀ c ∈ source.dropWhile isNameChar, Text.isBlank c = true := by simpa using hink
    have hopen : Stops Text.isBlank t ∧ t.head? ≠ some '>' := by
      cases t with
      | nil => simp
      | cons c rest =>
          have hc : c = '<' := by simpa using h.resolve_left hink
          subst hc
          exact ⟨Text.stops_cons.2 (by decide), by simp⟩
    rw [Text.dropWhile_append_stops hblanks hopen.1, List.dropWhile_eq_nil_iff.2 hblanks]
    simpa using hopen.2

theorem closes_of_bracket (h : '>' ∈ source) : closes (source ++ t) = closes source := by
  apply closes_append ⟨'>', h, by decide⟩
  refine Or.inl ⟨'>', ?_, by decide⟩
  rw [← List.takeWhile_append_dropWhile (p := isNameChar) (l := source), List.mem_append] at h
  exact h.resolve_left fun hmem => absurd (List.mem_takeWhile_imp hmem) (by decide)

/-- Behind a text without opening brackets, what follows matters only if the name goes on into it. -/
theorem closes_exchange (ht : Stops (· != '<') t) (hu : Stops (· != '<') u)
    (hclosing : closes t = false → closes u = false) (h : closes (source ++ t) = false) :
    closes (source ++ u) = false := by
  by_cases hname : ∀ c ∈ source, isNameChar c = true
  · rw [closes, List.dropWhile_append_of_pos hname] at h ⊢
    exact hclosing h
  · have hexists : ∃ c ∈ source, isNameChar c = false := by simpa using hname
    rw [closes_append hexists (Or.inr hu)]
    rwa [closes_append hexists (Or.inr ht)] at h

/-! ### What is written anew starts as it did -/

theorem Found.head?_render (h : Found unread segment rest) (k : Nat) :
    (segment.render k).head? = segment.source.head? := by
  induction h with
  | atEnd _ _ ih => exact ih
  | endTag htag =>
      obtain ⟨-, blanks, -, rfl⟩ := htag
      rfl
  | startTag htag =>
      obtain ⟨-, body, rfl, -⟩ := htag
      rw [render_startTag]
      rfl
  | _ => rfl

theorem head?_renderFrom (h : Cut unread t parts) (k : Nat) : (renderFrom k parts).head? = t.head? := by
  cases h with
  | nil => rfl
  | cons hfound hrest =>
      have hhead := hfound.head?_render k
      obtain ⟨c, others, hsource⟩ := List.exists_cons_of_ne_nil hfound.source_ne_nil
      rw [renderFrom, List.head?_append, List.head?_append, hhead, hsource]
      rfl

theorem stops_renderFrom {p : Char → Bool} (h : Cut unread t parts) (k : Nat) :
    Stops p (renderFrom k parts) ↔ Stops p t := by
  rw [Stops, Stops, head?_renderFrom h]

theorem Cut.eq_nil (h : Cut unread t parts) (ht : t = []) : parts = [] := by
  cases h with
  | nil => rfl
  | cons hfound _ => exact absurd (List.append_eq_nil_iff.1 ht).1 hfound.source_ne_nil

theorem closes_numberedStart (hname : IsName name) : closes (numberedStart k name ++ t) = false := by
  have hchars := (isName_plainName hname).isNameChar
  have hstops : Stops isNameChar (' ' :: (referenceKey ++ '=' :: '"' :: (Text.ofNat k ++ ['"', '>'])) ++ t) :=
    Text.stops_cons.2 (by decide)
  rw [numberedStart, List.cons_append, closes_bracket, List.append_assoc, closes,
    Text.dropWhile_append_stops hchars hstops]
  rfl

theorem closes_renderFrom (h : Cut unread t parts) (hunread : unread = none) (hcloses : closes t = false) (k : Nat) :
    closes (renderFrom k parts) = false := by
  induction h generalizing k with
  | nil => rfl
  | @cons unread segment rest parts hfound hrest ih =>
      -- A comment or a declaration holds the bracket that it ends with, or else nothing follows it.
      have hpassed : ∀ {source mark : Text} (skipped : Nat), '>' ∈ mark → segment = .verbatim source →
          Segment.through skipped mark (source ++ rest) = source → closes (renderFrom k (segment :: parts)) = false := by
        rintro source mark skipped hmark rfl hrun
        rcases through_append skipped (List.ne_nil_of_mem hmark) hrun with rfl | ⟨⟨front, rfl⟩, -⟩
        · rw [hrest.eq_nil rfl]
          exact hcloses
        · have hbracket : '>' ∈ front ++ mark := List.mem_append_right front hmark
          rw [Segment.source, closes_of_bracket hbracket] at hcloses
          exact (closes_of_bracket hbracket).trans hcloses
      cases hfound with
      | content | atEnd => cases hunread
      | text _ _ hnext => exact closes_exchange hnext ((stops_renderFrom hrest _).2 hnext) (fun h => ih rfl h _) hcloses
      | comment _ hrun => exact hpassed 4 (by decide) rfl hrun
      | declaration _ _ hrun => exact hpassed 0 (by decide) rfl hrun
      | endTag _ => rfl
      | startTag htag =>
          rw [renderFrom, render_startTag, List.append_assoc]
          exact closes_numberedStart htag.1
      | lone => exact ih rfl hcloses _

/-- What does not start with an opening bracket is text up to the next one. -/
theorem Found.text_of_head (h : Found none segment rest) (hhead : (segment.source ++ rest).head? ≠ some '<') :
    ∃ source, segment = .verbatim source ∧ '<' ∉ source ∧ Stops (· != '<') rest := by
  cases h with
  | text _ hplain hnext => exact ⟨_, rfl, hplain, hnext⟩
  | comment hopen _ =>
      obtain ⟨others, heq⟩ := hopen
      rw [Segment.source, ← heq] at hhead
      exact absurd rfl hhead
  | declaration hopen _ _ =>
      obtain ⟨others, heq⟩ | ⟨others, heq⟩ := hopen <;>
      · rw [Segment.source, ← heq] at hhead
        exact absurd rfl hhead
  | endTag htag =>
      obtain ⟨-, blanks, -, rfl⟩ := htag
      exact absurd rfl hhead
  | startTag htag =>
      obtain ⟨-, body, rfl, -⟩ := htag
      exact absurd rfl hhead
  | lone => exact absurd rfl hhead

theorem prefix_append_iff {head : Text} {c : Char} (hsource : c ∈ source) (hhead : c ∉ head) :
    head <+: source ++ t ↔ head <+: source := by
  refine ⟨fun h => ?_, fun h => h.trans (List.prefix_append source t)⟩
  rcases List.prefix_or_prefix_of_prefix h (List.prefix_append source t) with hstart | hstart
  · exact hstart
  · exact absurd (hstart.subset hsource) hhead

/-- An opening bracket that starts no end tag starts none either when the tags behind it are written anew. -/
theorem endTag?_renderFrom (h : Cut none t parts) (hend : Segment.endTag? ('<' :: t) = none) (k : Nat) :
    Segment.endTag? ('<' :: renderFrom k parts) = none := by
  rw [endTag?_bracket_eq_none_iff] at hend ⊢
  intro c others heq hletter
  have hhead := head?_renderFrom h k
  rw [heq] at hhead
  cases h with
  | nil => cases hhead
  | @cons _ segment rest parts hfound hrest =>
      obtain ⟨source, rfl, -, hnext⟩ := hfound.text_of_head (by rw [← hhead]; simp)
      have hlater := (stops_renderFrom hrest k).2 hnext
      change source ++ renderFrom k parts = '/' :: c :: others at heq
      rcases source with _ | ⟨slash, _ | ⟨d, source⟩⟩
      · exact absurd rfl hfound.source_ne_nil
      · -- The slash is followed by an opening bracket and not by a letter.
        have hletters : renderFrom k parts = c :: others := (List.cons.inj heq).2
        rw [hletters, Text.stops_cons, bne_eq_false_iff_eq] at hlater
        subst hlater
        cases hletter
      · obtain ⟨rfl, rfl, rfl⟩ : slash = '/' ∧ d = c ∧ source ++ renderFrom k parts = others := by simpa using heq
        exact closes_exchange hnext hlater (fun h => closes_renderFrom hrest rfl h k) (hend d _ rfl hletter)

theorem Found.renderFrom_behind (h : Found none (.verbatim source) rest) (hrest : Cut none rest parts) (k : Nat) :
    Found none (.verbatim source) (renderFrom k parts) := by
  cases h with
  | text hsource hplain hnext => exact .text hsource hplain ((stops_renderFrom hrest k).2 hnext)
  | comment hopen hrun =>
      rcases through_append 4 (by decide) hrun with rfl | ⟨⟨front, rfl⟩, hruns⟩
      · rw [hrest.eq_nil rfl]
        exact .comment hopen hrun
      · have hbracket : '>' ∈ front ++ "-->".toList := List.mem_append_right front (by decide)
        rw [prefix_append_iff hbracket (by decide)] at hopen
        exact .comment (hopen.trans (List.prefix_append _ _)) (hruns _)
  | declaration hopen hcomment hrun =>
      rcases through_append 0 (by decide) hrun with rfl | ⟨⟨front, rfl⟩, hruns⟩
      · rw [hrest.eq_nil rfl]
        exact .declaration hopen hcomment hrun
      · have hbracket : '>' ∈ front ++ ">".toList := List.mem_append_right front (by decide)
        rw [prefix_append_iff hbracket (by decide), prefix_append_iff hbracket (by decide)] at hopen
        rw [prefix_append_iff hbracket (by decide)] at hcomment
        refine .declaration ?_ ?_ (hruns _)
        · rwa [prefix_append_iff hbracket (by decide), prefix_append_iff hbracket (by decide)]
        · rwa [prefix_append_iff hbracket (by decide)]
  | lone hopen hend =>
      refine .lone ?_ (endTag?_renderFrom hrest hend k)
      rwa [head?_renderFrom hrest]

/-! ### The second reading -/

/-- The name of the end tag that unread content runs into. The content is a segment of its own unless it is empty. -/
def closing? : List Segment → Option Text
  | .endTag _ name :: _ => some name
  | .verbatim _ :: .endTag _ name :: _ => some name
  | _ => none

/-- Unread content runs into no end tag but one of its own name. -/
def OwnEnds : List Segment → Prop
  | [] => True
  | segment :: others =>
      (∀ name ∈ segment.unread?, ∀ other ∈ closing? others, plainName other = name) ∧ OwnEnds others

/-- After a bracket and a slash there is an end tag, or else the bracket stands alone. -/
theorem Found.of_slash (h : Found none segment rest) (heq : segment.source ++ rest = '<' :: '/' :: u) :
    (∃ source other, segment = .endTag source other ∧ IsEndTag source other) ∨ segment = .verbatim ['<'] := by
  cases h with
  | @text source _ hsource hplain _ =>
      obtain ⟨c, others, rfl⟩ := List.exists_cons_of_ne_nil hsource
      rw [Segment.source, List.cons_append, List.cons.injEq] at heq
      exact absurd (heq.1 ▸ List.mem_cons_self) hplain
  | comment hopen _ =>
      obtain ⟨others, hothers⟩ := hopen
      cases hothers.trans heq
  | declaration hopen _ _ =>
      obtain ⟨others, hothers⟩ | ⟨others, hothers⟩ := hopen <;>
        cases hothers.trans heq
  | endTag htag => exact Or.inl ⟨_, _, rfl, htag⟩
  | startTag htag =>
      obtain ⟨⟨c, others, rfl, hletter, -⟩, body, rfl, -⟩ := htag
      cases heq
      cases hletter
  | lone => exact Or.inr rfl

theorem startsWithEndOf_renderFrom (h : Cut none t parts) (hname : name ∈ unreadElements)
    (hends : startsWithEndOf name t = true)
    (hown : ∀ source other later, parts = .endTag source other :: later → plainName other = name) (k : Nat) :
    startsWithEndOf name (renderFrom k parts) = true := by
  obtain ⟨spelled, blanks, beyond, heq, -⟩ := startsWithEndOf_iff.1 hends
  cases h with
  | nil => cases heq
  | @cons _ segment rest parts hfound hrest =>
      rcases hfound.of_slash heq with ⟨source, other, rfl, -⟩ | rfl
      · have hother := hown source other parts rfl
        rw [renderFrom, render_endTag, plainEnd, hother, List.cons_append, List.cons_append, List.append_assoc]
        exact startsWithEndOf_own hname _
      · -- The end tag is misspelled, and text up to its closing bracket and beyond.
        have hrest' : rest = '/' :: (spelled ++ (blanks ++ '>' :: beyond)) := (List.cons.inj heq).2
        cases hrest with
        | nil => cases hrest'
        | @cons _ segment later parts htext hlater =>
            obtain ⟨source, rfl, -, hnext⟩ := htext.text_of_head (by rw [hrest']; simp)
            have hne : '<' :: source ≠ [] := List.cons_ne_nil _ _
            exact startsWithEndOf_exchange hname hne hnext hends _

theorem Cut.atEnd (h : Cut none t parts) (hends : startsWithEndOf name t = true) : Cut (some name) t parts := by
  cases h with
  | nil => exact .nil
  | cons hfound hrest => exact .cons (.atEnd hends hfound) hrest

theorem not_contentless_of_unread (hname : name ∈ unreadElements) : name ∉ contentless := by
  have hall : unreadElements.all (fun name => !contentless.contains name) = true := by decide
  simpa using List.all_eq_true.1 hall name hname

/-- A start tag that needs no end tag behind it is followed by what followed it before. -/
theorem unread?_numberedStart {attributes : List Attribute} {selfClosing : Bool} (h : getsEnd name selfClosing = false) :
    (Segment.startTag (numberedStart k name) (plainName name) [reference k] false).unread? =
      (Segment.startTag source name attributes selfClosing).unread? := by
  cases selfClosing with
  | false => simp only [Segment.unread?, plainName_plainName]
  | true =>
      have hmem : plainName name ∈ contentless := by simpa [getsEnd] using h
      have hread : plainName name ∉ unreadElements := fun hunread => not_contentless_of_unread hunread hmem
      simp [Segment.unread?, plainName_plainName, hread]

theorem Found.cut_renumbered (h : Found none segment rest) (hrest : Cut segment.unread? rest parts)
    (hlater : Cut segment.unread? (renderFrom (k + segment.weight) parts) (renumberedFrom (k + segment.weight) parts)) :
    Cut none (renderFrom k (segment :: parts)) (renumberedFrom k (segment :: parts)) := by
  cases segment with
  | verbatim source => exact .cons (h.renderFrom_behind hrest _) hlater
  | endTag source name =>
      cases h with
      | endTag htag => exact .cons (.endTag (isEndTag_plainEnd htag.1)) hlater
  | startTag source name attributes selfClosing =>
      cases h with
      | startTag htag =>
          have hname := htag.1
          rw [renderFrom, render_startTag, renumberedFrom, Segment.renumbered]
          cases hgets : getsEnd name selfClosing with
          | false =>
              rw [← unread?_numberedStart hgets (k := k)] at hlater
              rw [if_neg Bool.false_ne_true, if_neg Bool.false_ne_true, List.append_nil]
              exact .cons (.startTag (isStartTag_numberedStart hname k _)) hlater
          | true =>
              -- A tag that closes itself is not followed by unread content, but the one that is written is.
              have hselfClosing : selfClosing = true := (Bool.and_eq_true_iff.1 hgets).1
              rw [hselfClosing] at hlater
              have hend : Cut none (plainEnd name ++ renderFrom (k + 1) parts) _ :=
                .cons (.endTag (isEndTag_plainEnd hname)) hlater
              rw [if_pos rfl, if_pos rfl, List.append_assoc]
              refine .cons (.startTag (isStartTag_numberedStart hname k _)) ?_
              cases hunread : (Segment.startTag (numberedStart k name) (plainName name) [reference k] false).unread? with
              | none => exact hend
              | some unread =>
                  obtain ⟨_, _, _, heq, rfl, hmem⟩ := unread?_eq_some_iff.1 hunread
                  cases heq
                  rw [plainName_plainName] at hmem ⊢
                  refine hend.atEnd ?_
                  rw [plainEnd, List.cons_append, List.cons_append, List.append_assoc]
                  exact startsWithEndOf_own hmem _

/-- The whole reading, from any place on. -/
theorem Cut.renumbered (h : Cut unread t parts) (hunread : ∀ name ∈ unread, name ∈ unreadElements)
    (hclosing : ∀ name ∈ unread, ∀ other ∈ closing? parts, plainName other = name) (hown : OwnEnds parts) (k : Nat) :
    Cut unread (renderFrom k parts) (renumberedFrom k parts) := by
  induction h generalizing k with
  | nil => exact .nil
  | @cons unread segment rest parts hfound hrest ih =>
      have hlater := ih (fun _ => mem_unreadElements) hown.1 hown.2 (k + segment.weight)
      cases unread with
      | none => exact hfound.cut_renumbered hrest hlater
      | some name =>
          have hname := hunread name rfl
          cases hfound with
          | content hcontent hrun =>
              refine .cons (.content hcontent ?_) hlater
              rcases startsWithEndOf_of_content hrun with rfl | hends
              · rw [hrest.eq_nil rfl]
                exact hrun
              · have hstarts : startsWithEndOf name (renderFrom (k + 0) parts) = true := by
                  refine startsWithEndOf_renderFrom hrest hname hends ?_ _
                  rintro source other later rfl
                  exact hclosing name rfl other rfl
                have hopen : Stops (· != '<') (renderFrom (k + 0) parts) := by
                  obtain ⟨spelled, blanks, beyond, heq, -⟩ := startsWithEndOf_iff.1 hstarts
                  rw [heq]
                  exact Text.stops_cons.2 (by decide)
                exact unreadContent_exchange hname hopen (unreadContent_eq_nil hstarts) hrun
          | atEnd hends hfound =>
              have hcut := Cut.cons hfound hrest
              refine (hfound.cut_renumbered hrest hlater).atEnd (startsWithEndOf_renderFrom hcut hname hends ?_ k)
              rintro source other later heq
              cases heq
              exact hclosing name rfl other rfl

end ViewCompiler.Markup
