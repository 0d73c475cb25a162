import ViewCompiler.Proofs.Markup.Reread
import ViewCompiler.Proofs.Sequence

/-!
# Numbering keeps elements nested

Start tags and end tags nest elements: an end tag closes the innermost element that is open and has to have its name.
`enclosures` runs through the tags with the open elements on a stack and tells which elements lie within which. Numbered
markup has other tags than its template. Names that are not plain become one and the same, and an element that closes
itself gets an end tag. Still a template whose tags are nested becomes markup whose tags are nested, with the same
elements within the same (`number_keeps_nesting`), and these are the tags that a reader of the markup finds.
-/

namespace ViewCompiler.Markup

variable {t name other : Text} {k : Nat} {segment : Segment} {parts : List Segment} {stack : List (Nat × Text)}
  {pairs : List (Nat × Nat)}

/-- A tag as far as nesting goes: it opens an element, is an element by itself, or closes one. -/
inductive Mark where
  | opening (number : Nat) (name : Text)
  | whole (number : Nat)
  | closing (name : Text)
  deriving DecidableEq, Repr

/-- The mark of a tag. A start tag has a number, and is an element by itself if it closes itself or has no content. -/
def Segment.mark? (k : Nat) : Segment → Option Mark
  | verbatim _ => none
  | endTag _ name => some (.closing name)
  | startTag _ name _ selfClosing =>
      some (if selfClosing = true ∨ name.lower ∈ contentless then .whole k else .opening k name)

def marksFrom (k : Nat) : List Segment → List Mark
  | [] => []
  | segment :: others => (segment.mark? k).toList ++ marksFrom (k + segment.weight) others

/-- The pairs of an element and one within it, by their numbers, when the elements of a stack are open. There are none
unless each end tag has the name of the innermost open element, as far as `view` tells names apart, and all elements are
closed in the end. -/
def enclosures (view : Text → Text) : List (Nat × Text) → List Mark → Option (List (Nat × Nat))
  | [], [] => some []
  | _ :: _, [] => none
  | stack, .whole k :: marks => (enclosures view stack marks).map (stack.map (fun outer => (outer.1, k)) ++ ·)
  | stack, .opening k name :: marks =>
      (enclosures view ((k, name) :: stack) marks).map (stack.map (fun outer => (outer.1, k)) ++ ·)
  | [], .closing _ :: _ => none
  | (_, name) :: stack, .closing other :: marks => if view name = view other then enclosures view stack marks else none

theorem Cut.flatMap_source {unread : Option Text} (h : Cut unread t parts) : parts.flatMap Segment.source = t := by
  induction h with
  | nil => rfl
  | cons _ _ ih => rw [List.flatMap_cons, ih]

/-! ### Names -/

theorem plainName_congr (h : name.lower = other.lower) : plainName name = plainName other := by
  have hplain : isPlainName name = isPlainName other := by rw [← isPlainName_lower, h, isPlainName_lower]
  rw [plainName, plainName, hplain, h]

/-- The elements without content are known by their names in either form. -/
theorem plainName_mem_contentless : plainName name ∈ contentless ↔ name.lower ∈ contentless := by
  have hall : contentless.all isPlainName = true := by decide
  by_cases hplain : isPlainName name = true
  · rw [plainName, if_pos hplain]
  · have hlower : name.lower ∉ contentless := by
      rw [← isPlainName_lower] at hplain
      exact fun hmem => hplain (List.all_eq_true.1 hall _ hmem)
    have hplaceholder : placeholderName ∉ contentless := by decide
    rw [plainName, if_neg hplain]
    exact iff_of_false hplaceholder hlower

/-! ### What is written for a mark -/

/-- The marks of a segment once it is written with its number. -/
def Segment.writtenMarks (k : Nat) : Segment → List Mark
  | verbatim _ => []
  | endTag _ name => [.closing (plainName name)]
  | startTag _ name _ selfClosing =>
      if name.lower ∈ contentless then [.whole k]
      else .opening k (plainName name) :: if selfClosing then [.closing (plainName name)] else []

theorem marksFrom_renumbered (segment : Segment) (k : Nat) (others : List Segment) :
    marksFrom k (segment.renumbered k ++ others) = segment.writtenMarks k ++ marksFrom (k + segment.weight) others := by
  cases segment with
  | verbatim source => rfl
  | endTag source name => rfl
  | startTag source name attributes selfClosing =>
      have hlower : (plainName name).lower ∈ contentless ↔ name.lower ∈ contentless := by
        rw [lower_plainName, plainName_mem_contentless]
      by_cases hvoid : name.lower ∈ contentless <;> cases selfClosing <;>
        simp [Segment.renumbered, Segment.writtenMarks, getsEnd, marksFrom, Segment.mark?, Segment.weight, hlower,
          plainName_mem_contentless, hvoid]

/-! ### Open elements -/

/-- Open elements under the names that are written for them. -/
def plainStack (stack : List (Nat × Text)) : List (Nat × Text) := stack.map fun outer => (outer.1, plainName outer.2)

theorem enclosures_whole {view : Text → Text} {marks : List Mark} :
    enclosures view stack (.whole k :: marks) = some pairs ↔
      ∃ later, enclosures view stack marks = some later ∧ stack.map (fun outer => (outer.1, k)) ++ later = pairs := by
  rw [enclosures, Option.map_eq_some_iff]

theorem enclosures_opening {view : Text → Text} {marks : List Mark} :
    enclosures view stack (.opening k name :: marks) = some pairs ↔
      ∃ later, enclosures view ((k, name) :: stack) marks = some later ∧
        stack.map (fun outer => (outer.1, k)) ++ later = pairs := by
  rw [enclosures, Option.map_eq_some_iff]

theorem enclosures_closing {view : Text → Text} {marks : List Mark} :
    enclosures view stack (.closing other :: marks) = some pairs ↔
      ∃ outer below, stack = outer :: below ∧ view outer.2 = view other ∧ enclosures view below marks = some pairs := by
  cases stack with
  | nil => simp [enclosures]
  | cons outer below =>
      rw [enclosures]
      simp only [Option.ite_none_right_eq_some, List.cons.injEq]
      constructor
      · rintro ⟨hname, hlater⟩
        exact ⟨outer, below, ⟨rfl, rfl⟩, hname, hlater⟩
      · rintro ⟨_, _, ⟨rfl, rfl⟩, hname, hlater⟩
        exact ⟨hname, hlater⟩

theorem map_plainStack (stack : List (Nat × Text)) (k : Nat) :
    (plainStack stack).map (fun outer => (outer.1, k)) = stack.map fun outer => (outer.1, k) := by
  simp [plainStack, Function.comp_def]

/-- What is written for a tag does to the open elements what the tag does. -/
theorem enclosures_written {marks marks' : List Mark}
    (hlater : ∀ {stack pairs}, enclosures Text.lower stack marks = some pairs →
      enclosures id (plainStack stack) marks' = some pairs)
    (h : enclosures Text.lower stack ((segment.mark? k).toList ++ marks) = some pairs) :
    enclosures id (plainStack stack) (segment.writtenMarks k ++ marks') = some pairs := by
  cases segment with
  | verbatim source => exact hlater h
  | endTag source other =>
      obtain ⟨outer, below, rfl, hname, hbelow⟩ := enclosures_closing.1 h
      exact enclosures_closing.2 ⟨_, _, rfl, plainName_congr hname, hlater hbelow⟩
  | startTag source name attributes selfClosing =>
      by_cases hvoid : name.lower ∈ contentless
      · rw [Segment.mark?, if_pos (Or.inr hvoid)] at h
        rw [Segment.writtenMarks, if_pos hvoid]
        obtain ⟨later, hmarks, rfl⟩ := enclosures_whole.1 h
        exact enclosures_whole.2 ⟨later, hlater hmarks, by rw [map_plainStack]⟩
      · rw [Segment.writtenMarks, if_neg hvoid]
        cases selfClosing with
        | true =>
            -- The element is opened and closed at once.
            rw [Segment.mark?, if_pos (Or.inl rfl)] at h
            obtain ⟨later, hmarks, rfl⟩ := enclosures_whole.1 h
            refine enclosures_opening.2 ⟨later, ?_, by rw [map_plainStack]⟩
            exact enclosures_closing.2 ⟨_, _, rfl, rfl, hlater hmarks⟩
        | false =>
            rw [Segment.mark?, if_neg (by simp [hvoid])] at h
            obtain ⟨later, hmarks, rfl⟩ := enclosures_opening.1 h
            exact enclosures_opening.2 ⟨later, hlater hmarks, by rw [map_plainStack]⟩

theorem enclosures_renumbered (h : enclosures Text.lower stack (marksFrom k parts) = some pairs) :
    enclosures id (plainStack stack) (marksFrom k (renumberedFrom k parts)) = some pairs := by
  induction parts generalizing k stack pairs with
  | nil =>
      cases stack with
      | nil => exact h
      | cons outer below => cases h
  | cons segment parts ih =>
      rw [renumberedFrom, marksFrom_renumbered]
      exact enclosures_written ih h

/-! ### Unread content -/

theorem marksFrom_of_closing (h : closing? parts = some other) (k : Nat) :
    ∃ later, marksFrom k parts = .closing other :: later := by
  unfold closing? at h
  split at h <;> cases h <;> exact ⟨_, rfl⟩

/-- Nesting goes on behind a segment. -/
theorem exists_enclosures_tail (h : enclosures Text.lower stack (marksFrom k (segment :: parts)) = some pairs) :
    ∃ stack pairs, enclosures Text.lower stack (marksFrom (k + segment.weight) parts) = some pairs := by
  rw [marksFrom] at h
  cases hmark : segment.mark? k with
  | none =>
      rw [hmark] at h
      exact ⟨_, _, h⟩
  | some mark =>
      rw [hmark] at h
      cases mark with
      | opening number name =>
          obtain ⟨later, hlater, -⟩ := enclosures_opening.1 h
          exact ⟨_, _, hlater⟩
      | whole number =>
          obtain ⟨later, hlater, -⟩ := enclosures_whole.1 h
          exact ⟨_, _, hlater⟩
      | closing name =>
          obtain ⟨outer, below, -, -, hbelow⟩ := enclosures_closing.1 h
          exact ⟨_, _, hbelow⟩

/-- Where tags are nested, the end tag that unread content runs into has to close its element. -/
theorem ownEnds_of_enclosures (h : enclosures Text.lower stack (marksFrom k parts) = some pairs) : OwnEnds parts := by
  induction parts generalizing k stack pairs with
  | nil => trivial
  | cons segment parts ih =>
      obtain ⟨stack', pairs', htail⟩ := exists_enclosures_tail h
      refine ⟨?_, ih htail⟩
      intro name hname other hother
      obtain ⟨source, tag, attributes, rfl, rfl, hunread⟩ := unread?_eq_some_iff.1 hname
      have hvoid : tag.lower ∉ contentless := by
        rw [← plainName_mem_contentless]
        exact not_contentless_of_unread hunread
      obtain ⟨later, hlater⟩ := marksFrom_of_closing hother (k + 1)
      have hmarks : marksFrom k (.startTag source tag attributes false :: parts) =
          .opening k tag :: .closing other :: later := by
        rw [marksFrom, Segment.mark?, if_neg (by simp [hvoid])]
        exact congrArg _ hlater
      rw [hmarks] at h
      obtain ⟨inner, hinner, -⟩ := enclosures_opening.1 h
      obtain ⟨outer, below, hstack, hsame, -⟩ := enclosures_closing.1 hinner
      cases hstack
      exact (plainName_congr hsame).symm

/-! ### Templates -/

/-- If the tags of a template are nested, so are those of its numbered markup, and the same elements lie within the
same: read again, the markup has the start tags of the template in their order, each with its number. -/
theorem number_keeps_nesting {n : Numbered} (h : number t = .ok n) (hparts : segments t = .ok parts)
    (hnested : enclosures Text.lower [] (marksFrom 0 parts) = some pairs) :
    ∃ written, segments n.html = .ok written ∧ written.flatMap Segment.source = n.html ∧
      (startTagsFrom n.html 0 written).map (fun tag => (tag.name, tag.attributes)) =
        n.tags.zipIdx.map (fun (tag, i) => (plainName tag.name, [⟨referenceKey, some (Text.ofNat i)⟩])) ∧
      enclosures id [] (marksFrom 0 written) = some pairs := by
  have hcut : Cut none t parts := segmentsAfter_eq_ok_iff.1 hparts
  obtain ⟨parts', hcut', rfl⟩ := number_eq_ok_iff.1 h
  obtain rfl : parts' = parts := by
    have heq := hcut'.segmentsAfter_eq.symm.trans hcut.segmentsAfter_eq
    cases heq
    rfl
  have hagain : Cut none (renderFrom 0 parts') (renumberedFrom 0 parts') :=
    hcut.renumbered (fun _ hname => nomatch hname) (fun _ hname => nomatch hname) (ownEnds_of_enclosures hnested) 0
  exact ⟨_, hagain.segmentsAfter_eq, hagain.flatMap_source, startTagsFrom_renumberedFrom t _ 0 0 0 parts',
    enclosures_renumbered hnested⟩

/-- Three elements within each other that are all written under one name, the innermost of which closes itself. -/
theorem number_keeps_nesting_placeholders :
    ∃ n, number "<W:If a><w:for x><svg:a/></W:FOR ><BR></w:if>" = .ok n ∧
      n.tags.map (fun tag => plainName tag.name) =
        [placeholderName, placeholderName, placeholderName, "br".toList] ∧
      ∃ written, segments n.html = .ok written ∧
        enclosures id [] (marksFrom 0 written) = some [(0, 1), (1, 2), (0, 2), (0, 3)] := by
  have h : (number "<W:If a><w:for x><svg:a/></W:FOR ><BR></w:if>").toOption.map
      (fun n => n.tags.map fun tag => plainName tag.name) =
        some [placeholderName, placeholderName, placeholderName, "br".toList] := by
    decide +kernel
  obtain ⟨n, hn, hnames⟩ := Option.map_eq_some_iff.1 h
  have hnumber := eq_ok_of_toOption hn
  have hparts : segments "<W:If a><w:for x><svg:a/></W:FOR ><BR></w:if>" = .ok
      [.startTag "<W:If a>" "W:If" [⟨"a", none⟩] false, .startTag "<w:for x>" "w:for" [⟨"x", none⟩] false,
       .startTag "<svg:a/>" "svg:a" [] true, .endTag "</W:FOR >" "W:FOR", .startTag "<BR>" "BR" [] false,
       .endTag "</w:if>" "w:if"] := by
    decide +kernel
  obtain ⟨written, hwritten, -, -, hpairs⟩ :=
    number_keeps_nesting hnumber hparts
      (show enclosures Text.lower [] _ = some [(0, 1), (1, 2), (0, 2), (0, 3)] by decide)
  exact ⟨n, hnumber, hnames, written, hwritten, hpairs⟩

end ViewCompiler.Markup
