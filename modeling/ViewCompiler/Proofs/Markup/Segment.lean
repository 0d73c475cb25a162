import ViewCompiler.Proofs.Markup.Name

/-!
# How a template is cut

`Found` says what a template may be cut into at a place: which segment stands there, and what follows
it. `Cut` chains such segments up to the end of the text. It describes exactly the runs of
`segmentsAfter` that succeed (`segmentsAfter_eq_ok_iff`), so nothing after this module has to look
into the reader itself.

Each rule of `Found` speaks about the text that really follows, since most segments end only where
that text allows it.
-/

namespace ViewCompiler.Markup

open Text (Stops)

variable {t source name rest : Text} {attributes : List Attribute} {selfClosing : Bool} {segment : Segment}
  {unread : Option Text} {parts : List Segment}

/-! ### Tags -/

/-- An end tag with a name: `</name >`. -/
def IsEndTag (source name : Text) : Prop :=
  IsName name ∧ ∃ blanks : Text, blanks.isAllBlank = true ∧ source = '<' :: '/' :: (name ++ blanks ++ ['>'])

/-- A complete start tag in front of a text, with its name and what `tagBody` reads after the name. -/
def IsStartTag (source rest name : Text) (attributes : List Attribute) (selfClosing : Bool) : Prop :=
  IsName name ∧ ∃ body : Text, source = '<' :: (name ++ body) ∧ Stops isNameChar (body ++ rest) ∧
    tagBody (body ++ rest) = .ok ⟨attributes, selfClosing, rest⟩

theorem stops_isNameChar_of_isBlank {blanks : Text} (hblanks : blanks.isAllBlank = true) (rest : Text) :
    Stops isNameChar (blanks ++ '>' :: rest) := by
  cases blanks with
  | nil => exact Text.stops_cons.2 (by decide)
  | cons c others =>
      rw [Text.isAllBlank, List.all_cons, Bool.and_eq_true] at hblanks
      simp [isNameChar, hblanks.1]

theorem endTag?_eq_some_iff : Segment.endTag? t = some (source, name) ↔ IsEndTag source name ∧ source <+: t := by
  constructor
  · intro h
    unfold Segment.endTag? at h
    split at h
    · rename_i rest
      obtain ⟨⟨found, after⟩, hname, hrest⟩ := Option.bind_eq_some_iff.1 h
      simp only at hrest
      split at hrest
      · rename_i beyond hbeyond
        obtain ⟨rfl, hisName, -⟩ := name?_eq_some_iff.1 hname
        cases hrest
        have hafter : after = after.takeWhile Text.isBlank ++ '>' :: beyond := by
          rw [← hbeyond, List.takeWhile_append_dropWhile]
        have hblanks : Text.isAllBlank (after.takeWhile Text.isBlank) = true := List.all_takeWhile
        generalize after.takeWhile Text.isBlank = blanks at hafter hblanks
        subst hafter
        have htake : ('<' :: '/' :: (name ++ (blanks ++ '>' :: beyond))).take
            ((name ++ (blanks ++ '>' :: beyond)).length + 2 - beyond.length) =
              '<' :: '/' :: (name ++ blanks ++ ['>']) := by
          have hsplit : '<' :: '/' :: (name ++ (blanks ++ '>' :: beyond)) =
              ('<' :: '/' :: (name ++ blanks ++ ['>'])) ++ beyond := by simp
          rw [hsplit]
          apply List.take_left'
          simp only [List.length_cons, List.length_append, List.length_nil]
          omega
        exact ⟨⟨hisName, blanks, hblanks, htake⟩, List.take_prefix _ _⟩
      · cases hrest
    · cases h
  · rintro ⟨⟨hname, blanks, hblanks, rfl⟩, rest, rfl⟩
    have hread : name? (name ++ (blanks ++ '>' :: rest)) = some (name, blanks ++ '>' :: rest) :=
      name?_eq_some_iff.2 ⟨rfl, hname, stops_isNameChar_of_isBlank hblanks rest⟩
    have hdrop : (blanks ++ '>' :: rest).dropWhile Text.isBlank = '>' :: rest :=
      Text.dropWhile_append_stops (List.all_eq_true.1 hblanks) (Text.stops_cons.2 (by decide))
    have htext : '<' :: '/' :: (name ++ blanks ++ ['>']) ++ rest = '<' :: '/' :: (name ++ (blanks ++ '>' :: rest)) := by
      simp
    simp only [htext, Segment.endTag?, hread, Option.bind_eq_bind, Option.bind_some, hdrop, Option.some.injEq,
      Prod.mk.injEq, and_true]
    rw [← htext]
    apply List.take_left'
    simp only [List.length_cons, List.length_append, List.length_nil]
    omega

/-- The name of an end tag ends where the first character stands that no name has. -/
theorem IsEndTag.name_eq {other spelled blanks beyond : Text} (htag : IsEndTag source other)
    (hchars : ∀ c ∈ spelled, isNameChar c = true) (hblanks : blanks.isAllBlank = true)
    (h : source ++ rest = '<' :: '/' :: (spelled ++ (blanks ++ '>' :: beyond))) : other = spelled := by
  obtain ⟨hother, blanks', hblanks', rfl⟩ := htag
  have hwords : other ++ (blanks' ++ '>' :: rest) = spelled ++ (blanks ++ '>' :: beyond) := by simpa using h
  have hword := congrArg (List.takeWhile isNameChar) hwords
  rwa [Text.takeWhile_append_stops hother.isNameChar (stops_isNameChar_of_isBlank hblanks' rest),
    Text.takeWhile_append_stops hchars (stops_isNameChar_of_isBlank hblanks beyond)] at hword

/-! ### What a start tag takes -/

theorem suffix_of_quotedValue? {mark : Char} {value : Text} (h : quotedValue? mark t = some (value, rest)) :
    rest <:+ t := by
  unfold quotedValue? at h
  split at h
  · cases h
  · rename_i c after hdrop
    cases h
    exact (List.suffix_cons c rest).trans (hdrop ▸ List.dropWhile_suffix _)

theorem suffix_of_value? {value : Text} (h : value? t = some (value, rest)) : rest <:+ t := by
  unfold value? at h
  split at h
  · exact (suffix_of_quotedValue? h).trans (List.suffix_cons _ _)
  · exact (suffix_of_quotedValue? h).trans (List.suffix_cons _ _)
  · split at h
    · cases h
    · cases h
      exact List.dropWhile_suffix _

theorem suffix_of_assigned? {value : Text} (h : assigned? t = some (value, rest)) : rest <:+ t := by
  unfold assigned? at h
  split at h
  · rename_i after hdrop
    have hafter : after <:+ t := (List.suffix_cons _ after).trans (hdrop ▸ List.dropWhile_suffix _)
    exact ((suffix_of_value? h).trans (List.dropWhile_suffix _)).trans hafter
  · cases h

theorem suffix_of_attribute? {a : Attribute} (h : attribute? t = some (a, rest)) : rest <:+ t := by
  simp only [attribute?] at h
  split at h
  · cases h
  · split at h
    · rename_i hassigned
      cases h
      exact (suffix_of_assigned? hassigned).trans (List.dropWhile_suffix _)
    · cases h
      exact List.dropWhile_suffix _

/-- A start tag ends with its angle bracket, right after the slash if it closes itself. -/
theorem suffix_of_tagBody {body : TagBody} (h : tagBody t = .ok body) :
    (if body.selfClosing then ['/', '>'] else ['>']) ++ body.rest <:+ t := by
  fun_induction tagBody t generalizing body with
  | case1 t hblank => cases h
  | case2 t rest hblank =>
      cases h
      have hsuffix : '/' :: '>' :: rest <:+ t := hblank ▸ List.dropWhile_suffix _
      exact hsuffix
  | case3 t rest hblank =>
      cases h
      have hsuffix : '>' :: rest <:+ t := hblank ▸ List.dropWhile_suffix _
      exact hsuffix
  | case4 t rest hnot hblank _ _ ih =>
      exact ((ih h).trans (List.suffix_cons _ _)).trans (hblank ▸ List.dropWhile_suffix _)
  | case5 t c rest _ _ _ hblank hattr => cases h
  | case6 t c rest _ _ _ hblank a after hattr _ _ _ ih =>
      cases hbody : tagBody after with
      | error fault =>
          rw [hbody] at h
          cases h
      | ok inner =>
          rw [hbody] at h
          cases h
          exact ((ih hbody).trans (suffix_of_attribute? hattr)).trans (hblank ▸ List.dropWhile_suffix _)

theorem attribute?_quoted {key value : Text} (hkey : key ≠ []) (hchars : ∀ c ∈ key, isKeyChar c = true)
    (hvalue : '"' ∉ value) (rest : Text) :
    attribute? (key ++ '=' :: '"' :: (value ++ '"' :: rest)) = some (⟨key, some value⟩, rest) := by
  have hstops : Stops isKeyChar ('=' :: '"' :: (value ++ '"' :: rest)) := Text.stops_cons.2 (by decide)
  have hclass : ∀ c ∈ value, (c != '"') = true := fun c hc => bne_iff_ne.2 fun heq => hvalue (heq ▸ hc)
  have hmark : Stops (· != '"') ('"' :: rest) := Text.stops_cons.2 (by decide)
  have hquoted : quotedValue? '"' (value ++ '"' :: rest) = some (value, rest) := by
    rw [quotedValue?, Text.dropWhile_append_stops hclass hmark, Text.takeWhile_append_stops hclass hmark]
  have hassigned : assigned? ('=' :: '"' :: (value ++ '"' :: rest)) = some (value, rest) := by
    have hequals : ('=' :: '"' :: (value ++ '"' :: rest)).dropWhile Text.isBlank = '=' :: '"' :: (value ++ '"' :: rest) :=
      Text.dropWhile_eq_self (Text.stops_cons.2 (by decide))
    have hopen : ('"' :: (value ++ '"' :: rest)).dropWhile Text.isBlank = '"' :: (value ++ '"' :: rest) :=
      Text.dropWhile_eq_self (Text.stops_cons.2 (by decide))
    rw [assigned?, hequals]
    simp only [hopen, value?, hquoted]
  rw [attribute?, Text.takeWhile_append_stops hchars hstops, Text.dropWhile_append_stops hchars hstops, hassigned]
  simp [hkey]

theorem tagBody_bracket (h : t.dropWhile Text.isBlank = '>' :: rest) : tagBody t = .ok ⟨[], false, rest⟩ := by
  rw [tagBody.eq_def]
  split <;> simp_all

theorem tagBody_attribute {a : Attribute} {after : Text} (h : attribute? (t.dropWhile Text.isBlank) = some (a, after)) :
    tagBody t = do
      let body ← tagBody after
      return { body with attributes := a :: body.attributes } := by
  rw [tagBody.eq_def]
  split
  · rename_i hblank
    rw [hblank] at h
    cases h
  · rename_i hblank
    rw [hblank] at h
    cases h
  · rename_i hblank
    rw [hblank] at h
    cases h
  · rename_i hblank
    rw [hblank] at h
    cases h
  · rename_i hblank
    rw [hblank] at h
    split
    · rename_i hnone
      rw [h] at hnone
      cases hnone
    · rename_i hsome
      rw [h] at hsome
      cases hsome
      rfl

theorem startTag?_eq_ok_iff {after : Text} (ht : t = '<' :: (name ++ after)) (hname : IsName name)
    (hafter : Stops isNameChar after) :
    Segment.startTag? t name after = .ok segment ↔
      ∃ source attributes selfClosing rest, segment = .startTag source name attributes selfClosing ∧
        t = source ++ rest ∧ IsStartTag source rest name attributes selfClosing := by
  unfold Segment.startTag?
  constructor
  · intro h
    split at h
    · rename_i body hbody
      cases h
      obtain ⟨front, hfront⟩ := suffix_of_tagBody hbody
      rw [← List.append_assoc] at hfront
      generalize front ++ (if body.selfClosing then ['/', '>'] else ['>']) = spelled at hfront
      subst hfront
      have hsource : t = '<' :: (name ++ spelled) ++ body.rest := by rw [ht, List.cons_append, List.append_assoc]
      have htake : t.take (t.length - body.rest.length) = '<' :: (name ++ spelled) := by
        rw [hsource]
        apply List.take_left'
        rw [List.length_append, Nat.add_sub_cancel]
      exact ⟨_, _, _, body.rest, rfl, htake ▸ hsource, hname, spelled, htake, hafter, hbody⟩
    · cases h
    · cases h
  · rintro ⟨source, attributes, selfClosing, rest, rfl, hsource, -, body, rfl, -, hbody⟩
    rw [hsource, List.cons_append, List.append_assoc] at ht
    have hrest : body ++ rest = after := List.append_cancel_left (List.cons.inj ht).2
    rw [← hrest, hbody]
    simp only [Except.ok.injEq, Segment.startTag.injEq, and_true]
    rw [hsource]
    apply List.take_left'
    rw [List.length_append, Nat.add_sub_cancel]

/-! ### Texts that are passed over -/

theorem through_prefix (skipped : Nat) (mark t : Text) : Segment.through skipped mark t <+: t := by
  unfold Segment.through
  split
  · exact List.take_prefix _ _
  · exact List.prefix_rfl

theorem through_append (skipped : Nat) {mark : Text} (hmark : mark ≠ [])
    (h : Segment.through skipped mark (source ++ rest) = source) :
    rest = [] ∨ (∃ front, source = front ++ mark) ∧ ∀ u, Segment.through skipped mark (source ++ u) = source := by
  unfold Segment.through at h ⊢
  split at h
  · rename_i before after hcut
    right
    have hdrop := Text.eq_of_cut? hcut
    -- The mark has a place, so the text is long enough for what is skipped.
    have hlength := congrArg List.length hdrop
    have hpos := List.length_pos_iff.2 hmark
    simp only [List.length_drop, List.length_append] at hlength
    have hsource : source.length = skipped + before.length + mark.length := by
      have := congrArg List.length h
      simp only [List.length_take, List.length_append] at this
      omega
    have hsplit : source.drop skipped = before ++ mark := by
      rw [List.drop_append_of_le_length (by omega)] at hdrop
      apply List.append_inj_left hdrop
      simp only [List.length_drop, List.length_append]
      omega
    constructor
    · refine ⟨source.take skipped ++ before, ?_⟩
      rw [List.append_assoc, ← hsplit, List.take_append_drop]
    · intro u
      rw [List.drop_append_of_le_length (by omega), hsplit, Text.cut?_append hcut]
      exact List.take_left' hsource
  · left
    exact List.append_right_eq_self.1 h

theorem unreadContent_append (name t : Text) :
    ∃ rest, t = Segment.unreadContent name t ++ rest ∧ (rest = [] ∨ Segment.startsWithEndOf name rest = true) := by
  induction t with
  | nil => exact ⟨[], rfl, Or.inl rfl⟩
  | cons c others ih =>
      rw [Segment.unreadContent]
      split
      · rename_i hends
        exact ⟨c :: others, rfl, Or.inr hends⟩
      · obtain ⟨rest, heq, hrest⟩ := ih
        exact ⟨rest, by rw [List.cons_append, ← heq], hrest⟩

theorem startsWithEndOf_of_content {content : Text} (h : Segment.unreadContent name (content ++ rest) = content) :
    rest = [] ∨ Segment.startsWithEndOf name rest = true := by
  obtain ⟨later, heq, hends⟩ := unreadContent_append name (content ++ rest)
  rw [h] at heq
  rwa [List.append_cancel_left heq]

theorem unreadContent_eq_nil (h : Segment.startsWithEndOf name t = true) : Segment.unreadContent name t = [] := by
  cases t with
  | nil => rfl
  | cons c others => rw [Segment.unreadContent, if_pos h]

theorem unread?_eq_some_iff : segment.unread? = some name ↔
    ∃ source tag attributes, segment = .startTag source tag attributes false ∧ plainName tag = name ∧
      name ∈ unreadElements := by
  constructor
  · intro h
    unfold Segment.unread? at h
    split at h
    · rename_i source tag attributes
      split at h
      · rename_i hmem
        cases h
        exact ⟨source, tag, attributes, rfl, rfl, List.contains_iff_mem.1 hmem⟩
      · cases h
    · cases h
  · rintro ⟨source, tag, attributes, rfl, rfl, hmem⟩
    rw [Segment.unread?, if_pos (List.contains_iff_mem.2 hmem)]

theorem mem_unreadElements (h : name ∈ segment.unread?) : name ∈ unreadElements := by
  obtain ⟨_, _, _, -, -, hmem⟩ := unread?_eq_some_iff.1 h
  exact hmem

/-! ### Segments -/

/-- The segment that stands at a place, and the text that follows it. Within the element `unread`, content up to
its end tag is taken as it is. -/
inductive Found : Option Text → Segment → Text → Prop
  | content {name content rest : Text} (hcontent : content ≠ [])
      (hrun : Segment.unreadContent name (content ++ rest) = content) : Found (some name) (.verbatim content) rest
  | atEnd {name rest : Text} {segment : Segment}
      (hends : Segment.startsWithEndOf name (segment.source ++ rest) = true) (hfound : Found none segment rest) :
      Found (some name) segment rest
  /-- Text up to the next angle bracket. -/
  | text {source rest : Text} (hsource : source ≠ []) (hplain : '<' ∉ source) (hnext : Stops (· != '<') rest) :
      Found none (.verbatim source) rest
  | comment {source rest : Text} (hopen : "<!--".toList <+: source ++ rest)
      (hrun : Segment.through 4 "-->".toList (source ++ rest) = source) : Found none (.verbatim source) rest
  | declaration {source rest : Text} (hopen : "<!".toList <+: source ++ rest ∨ "<?".toList <+: source ++ rest)
      (hcomment : ¬ "<!--".toList <+: source ++ rest)
      (hrun : Segment.through 0 ">".toList (source ++ rest) = source) : Found none (.verbatim source) rest
  | endTag {source name rest : Text} (htag : IsEndTag source name) : Found none (.endTag source name) rest
  | startTag {source name rest : Text} {attributes : List Attribute} {selfClosing : Bool}
      (htag : IsStartTag source rest name attributes selfClosing) :
      Found none (.startTag source name attributes selfClosing) rest
  /-- An angle bracket that no tag, comment or declaration starts with. -/
  | lone {rest : Text} (hopen : ∀ c ∈ rest.head?, c ≠ '!' ∧ c ≠ '?' ∧ c.isAlpha = false)
      (hend : Segment.endTag? ('<' :: rest) = none) : Found none (.verbatim ['<']) rest

theorem Found.source_ne_nil (h : Found unread segment rest) : segment.source ≠ [] := by
  induction h with
  | content hcontent _ => exact hcontent
  | atEnd _ _ ih => exact ih
  | text hsource _ _ => exact hsource
  | comment hopen hrun =>
      rintro rfl
      rcases through_append 4 (by simp) hrun with rfl | ⟨⟨front, hfront⟩, -⟩
      · simp at hopen
      · simp at hfront
  | declaration hopen _ hrun =>
      rintro rfl
      rcases through_append 0 (by simp) hrun with rfl | ⟨⟨front, hfront⟩, -⟩
      · simp at hopen
      · simp at hfront
  | endTag htag =>
      obtain ⟨-, blanks, -, rfl⟩ := htag
      exact List.cons_ne_nil _ _
  | startTag htag =>
      obtain ⟨-, body, rfl, -⟩ := htag
      exact List.cons_ne_nil _ _
  | lone _ _ => exact List.cons_ne_nil _ _

/-- A tag is found outside of unread content or where that content ends. -/
theorem Found.of_tag (h : Found unread segment rest) (htag : ∀ source, segment ≠ .verbatim source) :
    Found none segment rest ∧ ∀ name ∈ unread, Segment.unreadContent name (segment.source ++ rest) = [] := by
  cases unread with
  | none => exact ⟨h, fun name hname => nomatch hname⟩
  | some name =>
      cases h with
      | content => exact absurd rfl (htag _)
      | atEnd hends hfound =>
          refine ⟨hfound, ?_⟩
          rintro name ⟨⟩
          exact unreadContent_eq_nil hends

theorem found_of_markup {beyond : Text} (h : Segment.markup ('<' :: beyond) = .ok segment) :
    ∃ rest, '<' :: beyond = segment.source ++ rest ∧ Found none segment rest := by
  unfold Segment.markup at h
  simp only [Bool.or_eq_true, Text.startsWith_iff] at h
  split at h
  · rename_i hcomment
    cases h
    obtain ⟨rest, hrest⟩ := through_prefix 4 "-->".toList ('<' :: beyond)
    exact ⟨rest, hrest.symm, .comment (hrest.symm ▸ hcomment) (congrArg _ hrest)⟩
  split at h
  · rename_i hcomment hdeclaration
    cases h
    obtain ⟨rest, hrest⟩ := through_prefix 0 ">".toList ('<' :: beyond)
    exact ⟨rest, hrest.symm, .declaration (hrest.symm ▸ hdeclaration) (hrest.symm ▸ hcomment) (congrArg _ hrest)⟩
  split at h
  · rename_i found name hend
    cases h
    obtain ⟨htag, rest, hrest⟩ := endTag?_eq_some_iff.1 hend
    exact ⟨rest, hrest.symm, .endTag htag⟩
  · rename_i hdeclaration _ hend
    split at h
    · rename_i name after hname
      obtain ⟨hbeyond, hisName, hstops⟩ := name?_eq_some_iff.1 hname
      obtain ⟨source, attributes, selfClosing, rest, rfl, hrest, htag⟩ :=
        (startTag?_eq_ok_iff (congrArg ('<' :: ·) hbeyond) hisName hstops).1 h
      exact ⟨rest, hrest, .startTag htag⟩
    · rename_i hname
      cases h
      refine ⟨beyond, rfl, .lone ?_ hend⟩
      intro c hc
      obtain ⟨others, rfl⟩ := List.head?_eq_some_iff.1 hc
      refine ⟨?_, ?_, name?_eq_none_iff.1 hname c hc⟩
      · rintro rfl
        exact hdeclaration (Or.inl ⟨others, rfl⟩)
      · rintro rfl
        exact hdeclaration (Or.inr ⟨others, rfl⟩)

theorem found_of_next (ht : t ≠ []) (h : Segment.next unread t = .ok segment) :
    ∃ rest, t = segment.source ++ rest ∧ Found unread segment rest := by
  -- Outside of unread content the first character decides.
  have hplain : Segment.next none t = .ok segment → ∃ rest, t = segment.source ++ rest ∧ Found none segment rest := by
    intro h
    simp only [Segment.next, List.isEmpty_nil, Bool.not_true, Bool.false_eq_true, if_false] at h
    split at h
    · rename_i hopen
      obtain ⟨beyond, rfl⟩ := List.head?_eq_some_iff.1 hopen
      exact found_of_markup h
    · rename_i hopen
      cases h
      refine ⟨t.dropWhile (· != '<'), List.takeWhile_append_dropWhile.symm, .text ?_ ?_ (Text.stops_dropWhile _ _)⟩
      · cases t with
        | nil => exact absurd rfl ht
        | cons c others =>
            have hc : (c != '<') = true := by simpa using hopen
            simp [hc]
      · intro hmem
        simpa using List.mem_takeWhile_imp hmem
  cases unread with
  | none => exact hplain h
  | some name =>
      obtain ⟨rest, hrest, hends⟩ := unreadContent_append name t
      by_cases hcontent : Segment.unreadContent name t = []
      · rw [hcontent, List.nil_append] at hrest
        subst hrest
        have hnext : Segment.next none t = .ok segment := by simpa [Segment.next, hcontent] using h
        obtain ⟨rest, hrest, hfound⟩ := hplain hnext
        exact ⟨rest, hrest, .atEnd (hrest ▸ hends.resolve_left ht) hfound⟩
      · have hsegment : segment = .verbatim (Segment.unreadContent name t) := by
          simpa [Segment.next, hcontent] using h.symm
        subst hsegment
        exact ⟨rest, hrest, .content hcontent (congrArg _ hrest.symm)⟩

theorem next_bracket {beyond : Text} (h : t = '<' :: beyond) : Segment.next none t = Segment.markup t := by
  simp [Segment.next, h]

/-- A character after the angle bracket that starts no comment and no declaration leaves the two kinds of tags. -/
theorem markup_of_head {beyond : Text} (h : ∀ c ∈ beyond.head?, c ≠ '!' ∧ c ≠ '?') :
    Segment.markup ('<' :: beyond) =
      match Segment.endTag? ('<' :: beyond) with
      | some (source, name) => .ok (.endTag source name)
      | none =>
          match name? beyond with
          | some (name, after) => Segment.startTag? ('<' :: beyond) name after
          | none => .ok (.verbatim ['<']) := by
  have hdash : ¬ "<!--".toList <+: '<' :: beyond := by
    rintro ⟨others, heq⟩
    cases heq
    exact (h '!' rfl).1 rfl
  have hmark : ¬ ("<!".toList <+: '<' :: beyond ∨ "<?".toList <+: '<' :: beyond) := by
    rintro (⟨others, heq⟩ | ⟨others, heq⟩)
    · cases heq
      exact (h '!' rfl).1 rfl
    · cases heq
      exact (h '?' rfl).2 rfl
  simp only [Segment.markup, Bool.or_eq_true, Text.startsWith_iff]
  rw [if_neg hdash, if_neg hmark]
  rfl

theorem Found.next_eq (h : Found unread segment rest) : Segment.next unread (segment.source ++ rest) = .ok segment := by
  induction h with
  | content hcontent hrun => simp [Segment.next, Segment.source, hrun, hcontent]
  | @atEnd name rest segment hends hfound ih =>
      simpa [Segment.next, unreadContent_eq_nil hends] using ih
  | @text source rest hsource hplain hnext =>
      have hclass : ∀ c ∈ source, (c != '<') = true := fun c hc => bne_iff_ne.2 fun heq => hplain (heq ▸ hc)
      have hopen : (source ++ rest).head? ≠ some '<' := by
        obtain ⟨c, others, rfl⟩ := List.exists_cons_of_ne_nil hsource
        simpa using hclass c List.mem_cons_self
      rw [Segment.source, Segment.next, if_neg (by simp), if_neg hopen, Text.takeWhile_append_stops hclass hnext]
  | comment hopen hrun =>
      obtain ⟨others, heq⟩ := id hopen
      rw [Segment.source, next_bracket heq.symm, Segment.markup, if_pos (Text.startsWith_iff.2 hopen), hrun]
  | declaration hopen hcomment hrun =>
      obtain ⟨others, heq⟩ : ∃ others, '<' :: others = _ := hopen.elim (fun ⟨_, hu⟩ => ⟨_, hu⟩) fun ⟨_, hu⟩ => ⟨_, hu⟩
      rw [Segment.source, next_bracket heq.symm, Segment.markup, if_neg (mt Text.startsWith_iff.1 hcomment),
        if_pos (by simpa only [Bool.or_eq_true, Text.startsWith_iff] using hopen), hrun]
  | @endTag source name rest htag =>
      have hend := endTag?_eq_some_iff.2 ⟨htag, List.prefix_append source rest⟩
      obtain ⟨-, blanks, -, rfl⟩ := htag
      rw [List.cons_append] at hend
      rw [Segment.source, List.cons_append, next_bracket rfl, markup_of_head (by simp), hend]
  | @startTag source name rest attributes selfClosing htag =>
      obtain ⟨hname, body, rfl, hstops, -⟩ := id htag
      have hbeyond : '<' :: (name ++ body) ++ rest = '<' :: (name ++ (body ++ rest)) := by simp
      have hread : name? (name ++ (body ++ rest)) = some (name, body ++ rest) :=
        name?_eq_some_iff.2 ⟨rfl, hname, hstops⟩
      have hstart := (startTag?_eq_ok_iff rfl hname hstops).2 ⟨_, _, _, _, rfl, hbeyond.symm, htag⟩
      -- The letter that the name starts with is neither a mark nor the slash of an end tag.
      obtain ⟨c, others, rfl, hletter, -⟩ := hname
      have hne : ∀ d : Char, d.isAlpha = false → c ≠ d := by
        rintro d hd rfl
        rw [hletter] at hd
        cases hd
      have hend : Segment.endTag? ('<' :: (c :: others ++ (body ++ rest))) = none := by
        apply Option.eq_none_iff_forall_ne_some.2
        rintro ⟨source, name⟩ hsome
        obtain ⟨⟨-, blanks, -, rfl⟩, hsource⟩ := endTag?_eq_some_iff.1 hsome
        obtain ⟨-, hslash⟩ := List.cons_prefix_cons.1 hsource
        exact hne '/' (by decide) (List.cons_prefix_cons.1 hslash).1.symm
      have hhead : ∀ d ∈ (c :: others ++ (body ++ rest)).head?, d ≠ '!' ∧ d ≠ '?' := by
        rintro d hd
        cases hd
        exact ⟨hne '!' (by decide), hne '?' (by decide)⟩
      rw [Segment.source, hbeyond, next_bracket rfl, markup_of_head hhead, hend, hread]
      exact hstart
  | @lone rest hopen hend =>
      have hname : name? rest = none := name?_eq_none_iff.2 fun c hc => (hopen c hc).2.2
      have hhead : ∀ c ∈ rest.head?, c ≠ '!' ∧ c ≠ '?' := fun c hc => ⟨(hopen c hc).1, (hopen c hc).2.1⟩
      change Segment.next none ('<' :: rest) = _
      rw [next_bracket rfl, markup_of_head hhead, hend, hname]

/-- A text that is cut into segments up to its end. -/
inductive Cut : Option Text → Text → List Segment → Prop
  | nil {unread : Option Text} : Cut unread [] []
  | cons {unread : Option Text} {segment : Segment} {rest : Text} {parts : List Segment}
      (hfound : Found unread segment rest) (hrest : Cut segment.unread? rest parts) :
      Cut unread (segment.source ++ rest) (segment :: parts)

/-! ### Runs of the reader -/

/-- A segment is never empty, so the reader gets on by its length. -/
theorem Found.drop_eq {c : Char} {others : Text} (h : Found unread segment rest)
    (heq : c :: others = segment.source ++ rest) : others.drop (segment.source.length - 1) = rest := by
  obtain ⟨d, spelled, hsource⟩ := List.exists_cons_of_ne_nil h.source_ne_nil
  rw [hsource] at heq ⊢
  rw [(List.cons.inj heq).2, List.length_cons, Nat.add_sub_cancel]
  exact List.drop_left

theorem cut_of_segmentsAfter (h : segmentsAfter unread t = .ok parts) : Cut unread t parts := by
  induction unread, t using segmentsAfter.induct generalizing parts with
  | case1 unread =>
      rw [segmentsAfter] at h
      cases h
      exact .nil
  | case2 unread c others ih =>
      rw [segmentsAfter] at h
      cases hnext : Segment.next unread (c :: others) with
      | error fault =>
          rw [hnext] at h
          cases h
      | ok segment =>
          rw [hnext] at h
          cases hlater : segmentsAfter segment.unread? (others.drop (segment.source.length - 1)) with
          | error fault => simp [hlater, bind, Except.bind] at h
          | ok later =>
              simp only [hlater, bind, Except.bind, pure, Except.pure, Except.ok.injEq] at h
              subst h
              obtain ⟨rest, heq, hfound⟩ := found_of_next (List.cons_ne_nil _ _) hnext
              have hcut := ih segment hlater
              rw [hfound.drop_eq heq] at hcut
              rw [heq]
              exact .cons hfound hcut

theorem Cut.segmentsAfter_eq (h : Cut unread t parts) : segmentsAfter unread t = .ok parts := by
  induction h with
  | nil => rw [segmentsAfter]
  | @cons unread segment rest parts hfound hrest ih =>
      have hnext := hfound.next_eq
      obtain ⟨c, others, heq⟩ : ∃ c others, segment.source ++ rest = c :: others :=
        List.exists_cons_of_ne_nil (List.append_ne_nil_of_left_ne_nil hfound.source_ne_nil rest)
      rw [heq] at hnext ⊢
      rw [segmentsAfter, hnext]
      simp only [bind, Except.bind, hfound.drop_eq heq.symm, ih, pure, Except.pure]

theorem segmentsAfter_eq_ok_iff : segmentsAfter unread t = .ok parts ↔ Cut unread t parts :=
  ⟨cut_of_segmentsAfter, Cut.segmentsAfter_eq⟩

theorem number_eq_ok_iff {n : Numbered} : number t = .ok n ↔
    ∃ parts, Cut none t parts ∧ n = ⟨renderFrom 0 parts, startTagsFrom t 0 parts⟩ := by
  unfold number segments
  constructor
  · intro h
    split at h
    · rename_i parts hparts
      cases h
      exact ⟨parts, segmentsAfter_eq_ok_iff.1 hparts, rfl⟩
    · cases h
  · rintro ⟨parts, hcut, rfl⟩
    rw [segmentsAfter_eq_ok_iff.2 hcut]

end ViewCompiler.Markup
