import ViewCompiler.Proofs.Edit.Kept
import ViewCompiler.Proofs.Instrument.Built
import ViewCompiler.Proofs.Script.Spelling
import ViewCompiler.Proofs.Writer

/-!
# Instrumenting loses no code

Outside the instrumented arguments a script changes only where a constructor or a parameter is added. Within
an argument every character that is not blank survives, in order, whatever is nested in it. Two things are left
out on purpose (`dropped`): the brackets around a concise body that becomes the value of a block, and what stands
in a parameter list that has no parameters and gets one. That is comments and white space; some of the latter, such
as the zero-width space, is white space to the grammar though it is not blank.

The edits of a plan are judged one by one, by where they come from (`Origin`), and `Edit.Kept` puts them together.
The one edit that cuts something off is that of a bracketed body. It takes off the first and the last character it
is given, and these are the brackets: no other edit within the body has the range of the whole body, so all of them
lie between the brackets (`within_brackets`).
-/

namespace ViewCompiler.Instrument

open Script Edit
open Text (ink)

variable {doc : Document} {o : Options} {injection : Injection} {cls body list : Node} {slot : Slot} {plan : Plan}
  {e : Edit} {a b : Edit × Nat}

/-! ### What is left out -/

/-- The bracketed bodies of arrow functions that lose their brackets. -/
def unwrapped (doc : Document) : List Node :=
  (allSlots doc).filterMap fun slot =>
    if slot.argument.kind = .arrow then (slot.argument.child? .body).filter (·.kind = .parenthesized) else none

/-- The parameter lists without parameters that get one. -/
def unfilledLists (doc : Document) : List Node :=
  (touched doc).filterMap fun cls =>
    ((constructor? doc cls).bind (·.child? .parameters)).filter (·.parts.isEmpty)

/-- The characters that are left out: brackets around bodies, and comments and spacing in empty parameter lists. -/
def dropped (doc : Document) (p : Nat) (c : Char) : Bool :=
  (unwrapped doc).any (fun body => p = (doc.rangeOf body).1 || p + 1 = (doc.rangeOf body).2) ||
    (unfilledLists doc).any fun list =>
      (doc.rangeOf list).1 < p && p + 1 < (doc.rangeOf list).2 && (Lexeme.isSpacing c || doc.InComment list p)

/-- The characters of an argument that have to be there afterwards. -/
def survives (doc : Document) (p : Nat) (c : Char) : Bool := !Text.isBlank c && !dropped doc p c

/-- The characters outside all arguments and outside the brackets of the empty parameter lists that are filled. -/
def untouched (doc : Document) (p : Nat) (_ : Char) : Bool :=
  !((allSlots doc).any fun slot => (doc.rangeOf slot.argument).1 ≤ p && p < (doc.rangeOf slot.argument).2) &&
    !((unfilledLists doc).any fun list => (doc.rangeOf list).1 < p && p + 1 < (doc.rangeOf list).2)

def newParameter (o : Options) : Text := parameterText o.factoryScope o.factoryName o.factoryType

/-- The texts that a run adds on its own account. -/
inductive Added (doc : Document) (o : Options) : Text → Prop where
  | nothing : Added doc o []
  | parameter : Added doc o (newParameter o)
  | further : Added doc o (", " ++ newParameter o)
  | declaration (cls : Node) (hcls : cls ∈ touched doc) (body : Node) (hbody : cls.child? .body = some body) :
      Added doc o (constructorText doc o body (newParameter o))
  | append {s t : Text} (hs : Added doc o s) (ht : Added doc o t) : Added doc o (s ++ t)

/-- The body of an arrow function that is the argument of a slot. -/
structure ArrowBody (doc : Document) (slot : Slot) (body : Node) : Prop where
  slot_mem : slot ∈ allSlots doc
  kind : slot.argument.kind = .arrow
  child : slot.argument.child? .body = some body

theorem mem_unwrapped :
    body ∈ unwrapped doc ↔ ∃ slot, ArrowBody doc slot body ∧ body.kind = .parenthesized := by
  simp only [unwrapped, List.mem_filterMap, Option.ite_none_right_eq_some, Option.filter_eq_some_iff,
    decide_eq_true_eq]
  constructor
  · rintro ⟨slot, hslot, hkind, hbody, hbracketed⟩
    exact ⟨slot, ⟨hslot, hkind, hbody⟩, hbracketed⟩
  · rintro ⟨slot, ⟨hslot, hkind, hbody⟩, hbracketed⟩
    exact ⟨slot, hslot, hkind, hbody, hbracketed⟩

theorem mem_unfilledLists (h : list ∈ unfilledLists doc) :
    list ∈ doc.root.preorder ∧ list.role = some .parameters ∧ list.parts = [] := by
  simp only [unfilledLists, List.mem_filterMap, Option.filter_eq_some_iff, Option.bind_eq_some_iff,
    List.isEmpty_iff] at h
  obtain ⟨cls, hcls, ⟨member, hmember, hlist⟩, hparts⟩ := h
  obtain ⟨hroot, hrole⟩ :=
    parameters_of_constructor (mem_preorder_of_mem_classes (List.mem_filter.1 hcls).1) hmember hlist
  exact ⟨hroot, hrole, hparts⟩

theorem mem_unfilledLists_of_constructor {member : Node} (hcls : cls ∈ touched doc)
    (hmember : constructor? doc cls = some member) (hlist : member.child? .parameters = some list)
    (hparts : list.parts = []) : list ∈ unfilledLists doc := by
  simp only [unfilledLists, List.mem_filterMap, Option.filter_eq_some_iff, Option.bind_eq_some_iff, List.isEmpty_iff]
  exact ⟨cls, hcls, ⟨member, hmember, hlist⟩, hparts⟩

/-- All children of a list without parameters are comments or keywords, and below these there is nothing. -/
theorem below_unfilled {c m : Node} (hspelled : doc.Spelled) (hlist : list ∈ unfilledLists doc) (hc : c ∈ list.children)
    (hm : m ∈ c.preorder) : m.kind = .comment ∨ m.kind = .accessor := by
  obtain ⟨hroot, -, hparts⟩ := mem_unfilledLists hlist
  have hleaf : c.kind = .comment ∨ c.kind = .accessor := by
    by_contra hpart
    have hmem : c ∈ list.parts := List.mem_filter.2 ⟨hc, by simpa using not_or.1 hpart⟩
    rw [hparts] at hmem
    exact absurd hmem List.not_mem_nil
  have hnone := hspelled.leaf c (Node.mem_preorder_trans (Node.mem_preorder_of_child hc) hroot) hleaf
  rcases Node.mem_preorder.1 hm with rfl | ⟨d, hd, -⟩
  · exact hleaf
  · rw [hnone] at hd
    exact absurd hd List.not_mem_nil

/-- The edit that a class gets inserts a text, or fills a list that has no parameters. -/
theorem constructorEdit?_cases {record : Log.Record} (hcls : cls ∈ touched doc)
    (h : constructorEdit? doc o cls o.factoryScope o.factoryName o.factoryType = some (e, record)) :
    (∃ (offset : Nat) (text : Text) (label : Option Text), e = .insertion offset text label ∧ Added doc o text) ∨
      ∃ list ∈ unfilledLists doc, ∃ inside, interior? doc list = some inside ∧
        e = .replacement inside (newParameter o) (some parameterLabel) := by
  rcases constructorEdit?_eq_some h with ⟨member, list, hmember, hlist, rfl⟩ | ⟨body, hbody, rfl⟩
  · unfold parameterEdit
    split
    · exact Or.inl ⟨_, _, _, rfl, .further⟩
    · rename_i inside hlast hinside
      have hparts := List.getLast?_eq_none_iff.1 hlast
      exact Or.inr ⟨list, mem_unfilledLists_of_constructor hcls hmember hlist hparts, inside, hinside, rfl⟩
    · exact Or.inl ⟨_, _, _, rfl, .parameter⟩
  · exact Or.inl ⟨_, _, _, rfl, .declaration cls hcls body hbody⟩

/-! ### The generated code holds what it is made of -/

section Generated

open Writer

variable {base : Text}

theorem sublist_ink_block {x : Text} {write : Writer → Writer} (hbase : Text.isAllBlank base = true)
    (hwrite : Writes x write) (unit head : Text) :
    x.Sublist (ink (Text.indent base ((((Writer.empty unit).write head).block write).write "\x7d").text)) := by
  rw [Text.ink_indent hbase]
  have hall := ((writes_write head).comp hwrite.block).comp (writes_write "\x7d")
  exact ((List.sublist_append_right _ _).trans (List.sublist_append_left _ _)).trans (hall.text unit)

theorem ink_returnBlock (hbase : Text.isAllBlank base = true) (value : Text) :
    (ink value).Sublist (ink (returnBlock o base value)) := by
  have hline : Writes (ink value) fun w => w.writeLine ("return " ++ Text.dedent base value) := by
    apply (writes_writeLine _).mono
    rw [Text.ink_append, Text.ink_dedent hbase]
    exact List.sublist_append_right _ _
  exact sublist_ink_block hbase hline _ _

theorem ink_forwardingArrow (hbase : Text.isAllBlank base = true) (value : Text) :
    (ink value).Sublist (ink (forwardingArrow o base value)) := by
  have hline : Writes (ink value) fun w =>
      w.writeLine ("return " ++ Text.dedent base value ++ "(" ++ o.spreadArguments ++ ")") := by
    apply (writes_writeLine _).mono
    simp only [Text.ink_append, Text.ink_dedent hbase, List.append_assoc]
    exact (List.sublist_append_left _ _).trans (List.sublist_append_right _ _)
  exact sublist_ink_block hbase hline _ _

theorem ink_wrapper {code : Writer → Writer} (hbase : Text.isAllBlank base = true) (hcode : Writes [] code)
    (value : Text) : (ink value).Sublist (ink (wrapper o code base value)) := by
  have hcall : Writes (ink value) fun w => w.writeLine
      ("const " ++ o.resultName ++ " = (" ++ Text.dedent base value ++ ")(" ++ o.spreadArguments ++ ")") := by
    apply (writes_writeLine _).mono
    rw [Text.ink_append, Text.ink_append, Text.ink_append, Text.ink_append, Text.ink_dedent hbase]
    simp only [List.append_assoc]
    exact (List.sublist_append_left _ _).trans (List.sublist_append_right _ _)
  have hbody := (hcall.comp hcode).comp (writes_writeLine ("return " ++ o.resultName))
  refine sublist_ink_block hbase (hbody.mono ?_) _ _
  rw [List.append_nil]
  exact List.sublist_append_left _ _

theorem writes_injectStatement (statement : Text) (slot : Slot) : Writes [] (injectStatement statement slot) :=
  (writes_writeLine statement).mono (List.nil_sublist _)

end Generated

/-! ### Where the arguments and the bodies lie -/

theorem rangeOf_eq_of_rangeIn_eq {m n : Node} (h : rangeIn doc m = rangeIn doc n) :
    doc.rangeOf m = doc.rangeOf n := by
  obtain ⟨hstart, hstop⟩ := Range.eq_iff.1 h
  exact Prod.ext (Int.ofNat.inj hstart) (Int.ofNat.inj hstop)

theorem argument_full (hsound : doc.Sound) (hspelled : doc.Spelled) (hslot : slot ∈ allSlots doc) :
    (doc.rangeOf slot.argument).1 < (doc.rangeOf slot.argument).2 := by
  obtain ⟨list, hlist, hrole, hargument⟩ := argument_of_mem_allSlots hslot
  have hfull := ((hspelled.arguments list hlist hrole).2 slot.argument hargument).2
  exact Text.charOffset_lt (hsound.boundary _ (argument_mem_preorder hslot)).2 hfull

section ArrowBody

variable (hbody : ArrowBody doc slot body) (hsound : doc.Sound) (hspelled : doc.Spelled)

include hbody

theorem ArrowBody.mem_preorder : body ∈ doc.root.preorder :=
  Node.mem_preorder_trans (Node.mem_preorder_of_child? hbody.child) (argument_mem_preorder hbody.slot_mem)

include hsound hspelled

theorem ArrowBody.full : (doc.rangeOf body).1 < (doc.rangeOf body).2 :=
  Text.charOffset_lt (hsound.boundary body hbody.mem_preorder).2
    (hspelled.arrow _ (argument_mem_preorder hbody.slot_mem) hbody.kind body hbody.child).2

theorem ArrowBody.behind : (doc.rangeOf slot.argument).1 < (doc.rangeOf body).1 :=
  Text.charOffset_lt (hsound.boundary body hbody.mem_preorder).1
    (hspelled.arrow _ (argument_mem_preorder hbody.slot_mem) hbody.kind body hbody.child).1

theorem ArrowBody.range_ne_argument {other : Slot} (hother : other ∈ allSlots doc) :
    rangeIn doc other.argument ≠ rangeIn doc body := by
  intro heq
  obtain ⟨list, hlist, hrole, hargument⟩ := argument_of_mem_allSlots hother
  exact hspelled.argument_ne_body hsound hlist hrole hargument (argument_mem_preorder hbody.slot_mem) hbody.kind
    hbody.child (rangeOf_eq_of_rangeIn_eq heq)

theorem ArrowBody.unique {other : Slot} {body' : Node} (hbody' : ArrowBody doc other body')
    (heq : rangeIn doc body = rangeIn doc body') : body = body' :=
  hspelled.body_unique hsound (argument_mem_preorder hbody.slot_mem) hbody.kind hbody.child
    (argument_mem_preorder hbody'.slot_mem) hbody'.kind hbody'.child
    (rangeOf_eq_of_rangeIn_eq heq)

/-- Between the brackets of an empty parameter list there is no room for a body. -/
theorem ArrowBody.range_ne_interior (hkind : body.kind = .parenthesized) (hlist : list ∈ unfilledLists doc) :
    interior? doc list ≠ some (rangeIn doc body) := by
  intro hinside
  obtain ⟨hroot, hrole, -⟩ := mem_unfilledLists hlist
  have hbrackets := hsound.rangeOf_brackets hroot hrole
  have hfull := hbody.full hsound hspelled
  have hstart : (doc.rangeOf body).1 = (doc.rangeOf list).1 + 1 :=
    Int.ofNat.inj (interior?_eq_some_iff.1 hinside).1
  rcases hsound.spanned.nested_or_apart hbody.mem_preorder hroot with hbelow | hbelow | hapart | hapart
  · rcases Node.mem_preorder.1 hbelow with rfl | ⟨c, hc, hbelow⟩
    · exact absurd (hrole.symm.trans (Node.role_of_child? hbody.child)) (by decide)
    · have hleaf := below_unfilled hspelled hlist hc hbelow
      rw [hkind] at hleaf
      exact absurd hleaf (by decide)
  · have hcovers := hsound.rangeOf_covers hbody.mem_preorder hbelow
    omega
  · have hchars := Text.charOffset_mono doc.text hapart
    have hchars' : (doc.rangeOf body).2 ≤ (doc.rangeOf list).1 := hchars
    omega
  · have hchars := Text.charOffset_mono doc.text hapart
    have hchars' : (doc.rangeOf list).2 ≤ (doc.rangeOf body).1 := hchars
    omega

end ArrowBody

/-! ### The edits of a plan -/

/-- An edit has the range of an argument or of a body, or it adds a text on its own account. -/
theorem Origin.range_cases (h : Origin doc o injection (allSlots doc) e) :
    (∃ slot ∈ allSlots doc, e.range = rangeIn doc slot.argument) ∨
      (∃ slot body, ArrowBody doc slot body ∧ e.range = rangeIn doc body) ∨
      (∃ (offset : Nat) (text : Text) (label : Option Text), e = .insertion offset text label ∧ Added doc o text) ∨
      ∃ list ∈ unfilledLists doc, ∃ inside, interior? doc list = some inside ∧
        e = .replacement inside (newParameter o) (some parameterLabel) := by
  cases h with
  | wrap slot hslot he => exact Or.inl ⟨slot, hslot, by rw [he, injectEdit]⟩
  | forward slot hslot he => exact Or.inl ⟨slot, hslot, by rw [he, forwardEdit]⟩
  | body slot hslot hkind body hbody hblock he =>
      exact Or.inr (Or.inl ⟨slot, body, ⟨hslot, hkind, hbody⟩, by rw [he, bodyEdit]⟩)
  | parameter cls hcls record hclass => exact Or.inr (Or.inr (constructorEdit?_cases hcls hclass))

theorem bodyEdit_range (he : e = bodyEdit doc o body) :
    e.range.start.toNat = (doc.rangeOf body).1 ∧ e.range.stop.toNat = (doc.rangeOf body).2 := by
  rw [he]
  exact ⟨rfl, rfl⟩

theorem Occupies.eq_or_between {n : Node} {r : Range} (hr : Occupies doc n r) (hsound : doc.Sound)
    (hn : n ∈ doc.root.preorder) (hbody : body ∈ doc.root.preorder) (hbracketed : Document.Enclosed doc '(' ')' body)
    (hfull : r.start < r.stop) (hstart : (doc.rangeOf body).1 ≤ r.start) (hstop : r.stop ≤ (doc.rangeOf body).2) :
    r = rangeIn doc body ∨ (doc.rangeOf body).1 < r.start ∧ r.stop < (doc.rangeOf body).2 := by
  have hwithin := hr.within
  have htwo := hbracketed.two_le (by decide) hsound hbody
  have heq : r.start = (doc.rangeOf body).1 → r.stop = (doc.rangeOf body).2 → r = rangeIn doc body := fun hs ht =>
    Range.eq_iff.2 ⟨hs, ht⟩
  by_cases hne : n = body
  · subst hne
    rcases hr with ⟨hs, ht⟩ | ⟨-, hs, ht⟩
    · exact Or.inl (heq hs ht)
    · right
      omega
  rcases hsound.spanned.nested_or_apart hn hbody with hbelow | hbelow | hapart | hapart
  · have hbetween := hbracketed.between hsound hbody hbelow hne
    right
    omega
  · have hcovers := hr.covers hsound hn hbelow (Ne.symm hne)
    left
    exact heq (by omega) (by omega)
  · have hchars : (doc.rangeOf n).2 ≤ (doc.rangeOf body).1 := Text.charOffset_mono doc.text hapart
    omega
  · have hchars : (doc.rangeOf body).2 ≤ (doc.rangeOf n).1 := Text.charOffset_mono doc.text hapart
    omega

section Plan

variable (hsound : doc.Sound) (hspelled : doc.Spelled) (hbuilt : Built doc o injection (allSlots doc) plan)
  (hplaced : AllPlaced doc plan)

include hsound hspelled hbuilt

/-- No edit within the edit of a bracketed body has the range of the whole body. -/
theorem range_ne_of_within (hbody : ArrowBody doc slot body) (hkind : body.kind = .parenthesized)
    (ha : a ∈ plan.zipIdx) (hedit : a.1 = bodyEdit doc o body) (hb : b ∈ plan.zipIdx) (hwithin : Within b a) :
    b.1.range ≠ rangeIn doc body := by
  have harange : a.1.range = rangeIn doc body := by rw [hedit]; rfl
  cases hbuilt.origin b.1 (List.fst_mem_of_mem_zipIdx hb) with
  | wrap other hother he =>
      rw [he]
      exact hbody.range_ne_argument hsound hspelled hother
  | forward other hother he =>
      rw [he]
      exact hbody.range_ne_argument hsound hspelled hother
  | body other hother hkind' body' hbody' hblock he =>
      intro heq
      have hlabel : b.1.label = some arrowLabel := by rw [he]; rfl
      have hlabel' : a.1.label = some arrowLabel := by rw [hedit]; rfl
      have hsame := heq.trans harange.symm
      exact hbuilt.range_ne_of_bodies hb ha hlabel hlabel' (hwithin.2 hsame) hsame
  | parameter cls hcls record hclass =>
      rcases constructorEdit?_cases hcls hclass with ⟨offset, text, label, he, -⟩ | ⟨list, hlist, inside, hinside, he⟩
      · intro heq
        have hfull := hbody.full hsound hspelled
        rw [he] at heq
        obtain ⟨hstart, hstop⟩ := Range.eq_iff.1 heq
        simp only [Edit.insertion, rangeIn] at hstart hstop
        omega
      · intro heq
        rw [he] at heq
        exact hbody.range_ne_interior hsound hspelled hkind hlist (hinside.trans (congrArg some heq))

include hplaced

theorem within_brackets (hbody : ArrowBody doc slot body) (hkind : body.kind = .parenthesized)
    (ha : a ∈ plan.zipIdx) (hedit : a.1 = bodyEdit doc o body) (hb : b ∈ plan.zipIdx) (hwithin : Within b a) :
    ((doc.rangeOf body).1 + 1 : Nat) ≤ b.1.range.start ∧ b.1.range.stop ≤ ((doc.rangeOf body).2 - 1 : Nat) := by
  have hroot := hbody.mem_preorder
  have hbracketed := hspelled.parenthesized body hroot hkind
  have htwo := hbracketed.two_le (by decide) hsound hroot
  have hle := b.1.range.start_le_stop
  have hcontains := hwithin.1
  rw [hedit, Range.contains_iff] at hcontains
  have hstart : (bodyEdit doc o body).range.start = (doc.rangeOf body).1 := rfl
  have hstop : (bodyEdit doc o body).range.stop = (doc.rangeOf body).2 := rfl
  rw [hstart, hstop] at hcontains
  by_cases hempty : b.1.range.start = b.1.range.stop
  · omega
  · cases hplaced b.1 (List.fst_mem_of_mem_zipIdx hb) with
    | point hpoint _ _ => exact absurd hpoint hempty
    | node n hn hr =>
        rcases hr.eq_or_between hsound hn hroot hbracketed (by omega) hcontains.1 hcontains.2.1 with heq | hbetween
        · exact absurd heq (range_ne_of_within hsound hspelled hbuilt hbody hkind ha hedit hb hwithin)
        · omega

/-- What the edit of a bracketed body is given stands in the brackets still, and they are what it takes off. -/
theorem argumentIn_brackets (hbody : ArrowBody doc slot body) (hkind : body.kind = .parenthesized)
    (ha : a ∈ plan.zipIdx) (hedit : a.1 = bodyEdit doc o body) :
    ∃ inner, argumentIn doc.text (placed plan) a = '(' :: inner ++ [')'] := by
  have hroot := hbody.mem_preorder
  have hbracketed := hspelled.parenthesized body hroot hkind
  have htwo := hbracketed.two_le (by decide) hsound hroot
  obtain ⟨hopen, hclose⟩ := hbracketed.chars (by decide) hsound hroot
  obtain ⟨hstart, hstop⟩ := bodyEdit_range hedit
  have hbetween := Text.slice_succ hclose
  rw [Nat.sub_add_cancel (by omega)] at hbetween
  rw [argumentIn, hstart, hstop, splice_forest_between (Nat.le_succ _) (show _ ≤ (doc.rangeOf body).2 - 1 by omega)
    (Nat.sub_le _ _) fun b hb => within_brackets hsound hspelled hbuilt hplaced hbody hkind ha hedit
      (mem_placed.1 (mem_inside.1 hb).1) (mem_inside.1 hb).2, Text.slice_succ hopen, hbetween]
  exact ⟨_, rfl⟩

end Plan

theorem bodyEdit_render (hkind : body.kind = .parenthesized) (inner : Text) :
    (bodyEdit doc o body).render ('(' :: inner ++ [')']) =
      returnBlock o (doc.lineIndent (doc.rangeOf body).1) (Text.strip inner) := by
  simp [bodyEdit, conciseValue, hkind]

/-- Whatever keeps the ink keeps the characters that survive. -/
theorem sublist_render {f : Text → Text} {first last : Nat} {between : Text}
    (hf : ∀ value, (ink value).Sublist (ink (f value)))
    (h : (kept (survives doc) doc.text first last).Sublist between) :
    (kept (survives doc) doc.text first last).Sublist (f between) := by
  have hink : ink (kept (survives doc) doc.text first last) = kept (survives doc) doc.text first last := by
    apply Text.ink_eq_self
    intro c hc
    obtain ⟨p, -, -, -, hkeep⟩ := mem_kept.1 hc
    simp only [survives, Bool.and_eq_true, Bool.not_eq_true'] at hkeep
    exact hkeep.1
  rw [← hink]
  exact ((Text.ink_mono h).trans (hf between)).trans (Text.ink_sublist _)

theorem kept_interior {inside : Range} (hunfilled : doc.Unfilled) (hlist : list ∈ unfilledLists doc)
    (hinside : interior? doc list = some inside) :
    kept (survives doc) doc.text inside.start.toNat inside.stop.toNat = [] := by
  obtain ⟨hroot, hrole, hparts⟩ := mem_unfilledLists hlist
  rw [interior?_eq_some_iff] at hinside
  rw [kept_eq_nil_iff]
  intro p c hstart hstop hc
  have hp : p ∈ List.range' ((doc.rangeOf list).1 + 1) ((doc.rangeOf list).2 - (doc.rangeOf list).1 - 2) := by
    rw [List.mem_range'_1]
    omega
  have hdropped (h : Lexeme.isSpacing c = true ∨ doc.InComment list p) : dropped doc p c = true := by
    simp only [dropped, Bool.or_eq_true, List.any_eq_true, Bool.and_eq_true, decide_eq_true_eq]
    exact Or.inr ⟨list, hlist, ⟨by omega, by omega⟩, h⟩
  rcases hunfilled list hroot hrole hparts p hp with hspace | hcomment
  · rw [hc, Option.all_some, Document.isSpace, Bool.or_eq_true] at hspace
    rcases hspace with hblank | hspacing
    · simp [survives, hblank]
    · simp [survives, hdropped (Or.inl hspacing)]
  · simp [survives, hdropped (Or.inr hcomment)]

theorem kept_untouched_argument {first last : Nat} (hslot : slot ∈ allSlots doc)
    (hfirst : (doc.rangeOf slot.argument).1 ≤ first) (hlast : last ≤ (doc.rangeOf slot.argument).2) :
    kept (untouched doc) doc.text first last = [] := by
  rw [kept_eq_nil_iff]
  intro p c hstart hstop _
  have hinside : ((allSlots doc).any fun slot =>
      (doc.rangeOf slot.argument).1 ≤ p && p < (doc.rangeOf slot.argument).2) = true := by
    simp only [List.any_eq_true, Bool.and_eq_true, decide_eq_true_eq]
    exact ⟨slot, hslot, by omega, by omega⟩
  simp [untouched, hinside]

theorem kept_untouched_interior {inside : Range} (hlist : list ∈ unfilledLists doc)
    (hinside : interior? doc list = some inside) :
    kept (untouched doc) doc.text inside.start.toNat inside.stop.toNat = [] := by
  rw [interior?_eq_some_iff] at hinside
  rw [kept_eq_nil_iff]
  intro p c hstart hstop _
  have hany : ((unfilledLists doc).any fun list =>
      (doc.rangeOf list).1 < p && p + 1 < (doc.rangeOf list).2) = true := by
    simp only [List.any_eq_true, Bool.and_eq_true, decide_eq_true_eq]
    exact ⟨list, hlist, by omega, by omega⟩
  simp [untouched, hany]

theorem kept_bracket {p : Nat} (hbody : body ∈ unwrapped doc)
    (hp : p = (doc.rangeOf body).1 ∨ p + 1 = (doc.rangeOf body).2) :
    kept (survives doc) doc.text p (p + 1) = [] := by
  rw [kept_eq_nil_iff]
  intro q c hstart hstop _
  obtain rfl : q = p := by omega
  have hdropped : dropped doc q c = true := by
    simp only [dropped, Bool.or_eq_true, List.any_eq_true, decide_eq_true_eq]
    exact Or.inl ⟨body, hbody, hp⟩
  simp [survives, hdropped]

section Plan

variable (hsound : doc.Sound) (hspelled : doc.Spelled) (hbuilt : Built doc o injection (allSlots doc) plan)
  (hplaced : AllPlaced doc plan)

include hsound hspelled hbuilt hplaced

theorem retains_brackets (hbody : ArrowBody doc slot body) (hkind : body.kind = .parenthesized)
    (ha : a ∈ plan.zipIdx) (hedit : a.1 = bodyEdit doc o body) :
    Retains (survives doc) doc.text (placed plan) a := by
  have hroot := hbody.mem_preorder
  have hbracketed := hspelled.parenthesized body hroot hkind
  have htwo := hbracketed.two_le (by decide) hsound hroot
  have hunwrapped : body ∈ unwrapped doc := mem_unwrapped.2 ⟨slot, hbody, hkind⟩
  obtain ⟨hopen, hclose⟩ := hbracketed.chars (by decide) hsound hroot
  obtain ⟨hstart, hstop⟩ := bodyEdit_range hedit
  rw [← Nat.sub_add_cancel (show 1 ≤ (doc.rangeOf body).2 by omega)] at hstop
  refine Or.inr ⟨(doc.rangeOf body).1 + 1, (doc.rangeOf body).2 - 1, ⟨?_, by omega, by omega, ?_, ?_, ?_⟩, ?_⟩
  · omega
  · rw [hstart]
    exact kept_bracket hunwrapped (Or.inl rfl)
  · rw [hstop]
    exact kept_bracket hunwrapped (Or.inr (by omega))
  · intro b hb hwithin
    exact within_brackets hsound hspelled hbuilt hplaced hbody hkind ha hedit (mem_placed.1 hb) hwithin
  · intro between hbetween
    rw [hstart, hstop, Text.slice_succ hopen, Text.slice_succ hclose, hedit]
    show List.Sublist _ ((bodyEdit doc o body).render ('(' :: between ++ [')']))
    rw [bodyEdit_render hkind]
    refine sublist_render (f := fun value => returnBlock o _ (Text.strip value)) (fun value => ?_) hbetween
    have hink := ink_returnBlock (o := o) (doc.isAllBlank_lineIndent (doc.rangeOf body).1) (Text.strip value)
    rwa [Text.ink_strip] at hink

theorem retains_of_mem (hunfilled : doc.Unfilled) (hinjection : ∀ slot, Writer.Writes [] (injection slot))
    (ha : a ∈ placed plan) :
    Retains (survives doc) doc.text (placed plan) a := by
  have hmem := List.fst_mem_of_mem_zipIdx (mem_placed.1 ha)
  have hstart := (hplaced.fits a.1 hmem).1
  have hof : (∀ value, (ink value).Sublist (ink (a.1.render value))) →
      Retains (survives doc) doc.text (placed plan) a := fun hf =>
    Retains.of_render hstart fun between hbetween => sublist_render hf hbetween
  cases hbuilt.origin a.1 hmem with
  | wrap slot hslot he =>
      have hrender : a.1.render = wrapper o (injection slot) (doc.indentOf slot.argument) := by
        rw [he, injectEdit]
      apply hof
      rw [hrender]
      exact ink_wrapper (doc.isAllBlank_indentOf slot.argument) (hinjection slot)
  | forward slot hslot he =>
      have hrender : a.1.render = forwardingArrow o (doc.indentOf slot.argument) := by rw [he, forwardEdit]
      apply hof
      rw [hrender]
      exact ink_forwardingArrow (doc.isAllBlank_indentOf slot.argument)
  | body slot hslot hkind body hbody hblock he =>
      by_cases hbracketed : body.kind = .parenthesized
      · exact retains_brackets hsound hspelled hbuilt hplaced ⟨hslot, hkind, hbody⟩ hbracketed (mem_placed.1 ha) he
      · apply hof
        intro value
        have hrender : a.1.render value = returnBlock o (doc.lineIndent (doc.rangeOf body).1) value := by
          simp [he, bodyEdit, conciseValue, hbracketed]
        rw [hrender]
        exact ink_returnBlock (doc.isAllBlank_lineIndent (doc.rangeOf body).1) value
  | parameter cls hcls record hclass =>
      left
      rcases constructorEdit?_cases hcls hclass with ⟨offset, text, label, he, -⟩ | ⟨list, hlist, inside, hinside, he⟩
      · rw [he]
        exact kept_self _ _ _
      · rw [he]
        exact kept_interior hunfilled hlist hinside

omit hspelled hplaced in
/-- No edit reaches what is outside the arguments and the empty parameter lists. -/
theorem retains_untouched (ha : a ∈ placed plan) : Retains (untouched doc) doc.text (placed plan) a := by
  left
  rcases (hbuilt.origin a.1 (List.fst_mem_of_mem_zipIdx (mem_placed.1 ha))).range_cases with
    ⟨slot, hslot, hrange⟩ | ⟨slot, body, hbody, hrange⟩ | ⟨offset, text, label, he, -⟩ |
    ⟨list, hlist, inside, hinside, he⟩
  · rw [hrange]
    exact kept_untouched_argument hslot (Nat.le_refl _) (Nat.le_refl _)
  · have hcovers := hsound.rangeOf_covers (argument_mem_preorder hbody.slot_mem)
      (Node.mem_preorder_of_child? hbody.child)
    rw [hrange]
    exact kept_untouched_argument hbody.slot_mem hcovers.1 hcovers.2
  · rw [he]
    exact kept_self _ _ _
  · rw [he]
    exact kept_untouched_interior hlist hinside

omit hplaced in
/-- What is planned for a point only adds to the text there. -/
theorem added_of_point {point : Nat} (hstart : e.range.start = point) (hstop : e.range.stop = point) (he : e ∈ plan)
    {t : Text} (ht : Added doc o t) : Added doc o (e.render t) := by
  -- Arguments and bodies are not empty.
  have hnode : ∀ n ∈ doc.root.preorder, (doc.rangeOf n).1 < (doc.rangeOf n).2 → e.range ≠ rangeIn doc n := by
    intro n hn hfull heq
    obtain ⟨hstart', hstop'⟩ := Range.eq_iff.1 heq
    simp only [rangeIn] at hstart' hstop'
    omega
  rcases (hbuilt.origin e he).range_cases with
    ⟨slot, hslot, hrange⟩ | ⟨slot, body, hbody, hrange⟩ | ⟨offset, text, label, rfl, htext⟩ |
    ⟨list, -, inside, -, rfl⟩
  · exact absurd hrange (hnode _ (argument_mem_preorder hslot) (argument_full hsound hspelled hslot))
  · exact absurd hrange (hnode _ hbody.mem_preorder (hbody.full hsound hspelled))
  · exact ht.append htext
  · exact .parameter

/-- An outermost edit wraps an argument, or it adds to the text at a point or in an empty parameter list. -/
theorem outermost_cases (ha : a ∈ plan.zipIdx) (houtermost : Outermost plan a) :
    (∃ slot ∈ allSlots doc, a.1 = injectEdit doc o (injection slot) slot) ∨
      ((a.1.isInsertion = true ∨ ∃ list ∈ unfilledLists doc, interior? doc list = some a.1.range) ∧
        Added doc o (a.1.render (argumentIn doc.text (placed plan) a))) := by
  have hmem := List.fst_mem_of_mem_zipIdx ha
  cases hbuilt.origin a.1 hmem with
  | wrap slot hslot he => exact Or.inl ⟨slot, hslot, he⟩
  | forward slot hslot he =>
      obtain ⟨b, hb, hwithin⟩ := hbuilt.forward_within a ha (by rw [he, forwardEdit])
      exact absurd hwithin (houtermost b hb)
  | body slot hslot hkind body hbody hblock he =>
      -- The argument that the body is part of is wrapped.
      have harrow : ArrowBody doc slot body := ⟨hslot, hkind, hbody⟩
      obtain ⟨i, hi⟩ := List.mem_iff_getElem?.1 (hbuilt.wrapped slot hslot)
      refine absurd ?_ (houtermost _ (List.mem_zipIdx_iff_getElem?.2 hi : (_, i) ∈ plan.zipIdx))
      have hbehind := harrow.behind hsound hspelled
      have hfull := harrow.full hsound hspelled
      have hcovers := hsound.rangeOf_covers (argument_mem_preorder hslot) (Node.mem_preorder_of_child? hbody)
      have hrange : a.1.range = rangeIn doc body := by rw [he, bodyEdit]
      refine ⟨?_, fun heq => ?_⟩
      · rw [hrange, Range.contains_iff]
        dsimp only [injectEdit, rangeIn]
        omega
      · rw [hrange] at heq
        have hstarts := (Range.eq_iff.1 heq).1
        dsimp only [injectEdit, rangeIn] at hstarts
        omega
  | parameter cls hcls record hclass =>
      right
      rcases constructorEdit?_cases hcls hclass with
        ⟨offset, text, label, he, htext⟩ | ⟨list, hlist, inside, hinside, he⟩
      · have hrange : a.1.range.start = offset ∧ a.1.range.stop = offset := by rw [he]; exact ⟨rfl, rfl⟩
        refine ⟨Or.inl ?_, added_of_point hsound hspelled hbuilt hrange.1 hrange.2 hmem ?_⟩
        · rw [isInsertion, Range.isEmpty_iff, hrange.1, hrange.2]
        · rw [argumentIn, hrange.1, hrange.2, Int.toNat_natCast]
          apply ((inOrder_placed (hplaced.laminar hsound)).inside a).splice_point .nothing fun _ _ => .append
          intro b hb
          obtain ⟨hbmem, hwithin⟩ := mem_inside.1 hb
          have hcontains := Range.contains_iff.1 hwithin.1
          have hle := b.1.range.start_le_stop
          have hstart : b.1.range.start = offset := by omega
          have hstop : b.1.range.stop = offset := by omega
          refine ⟨hstart, hstop, fun t ht => ?_⟩
          exact added_of_point hsound hspelled hbuilt hstart hstop
            (List.fst_mem_of_mem_zipIdx (mem_placed.1 hbmem)) ht
      · refine ⟨Or.inr ⟨list, hlist, ?_⟩, ?_⟩
        · rw [he]
          exact hinside
        · rw [he]
          exact .parameter

end Plan

/-! ### The whole run -/

/-- What a rendering of a plan keeps of the code it is planned for. -/
structure Keeps (doc : Document) (o : Options) (injection : Injection) (plan : Plan)
    (argument : Edit × Nat → Text) : Prop where
  /-- Outside the arguments, text is only added, at points and in empty parameter lists. -/
  outside : ∀ a ∈ plan.zipIdx, Outermost plan a →
    (∃ slot ∈ allSlots doc, a.1 = injectEdit doc o (injection slot) slot) ∨
      ((a.1.isInsertion = true ∨ ∃ list ∈ unfilledLists doc, interior? doc list = some a.1.range) ∧
        Added doc o (a.1.render (argument a)))
  wrapped : ∀ slot ∈ allSlots doc, injectEdit doc o (injection slot) slot ∈ plan
  /-- The characters of an argument that have to survive stand, in order, in the text that replaces it. -/
  inside : ∀ slot ∈ allSlots doc, ∀ a ∈ plan.zipIdx, a.1 = injectEdit doc o (injection slot) slot →
    (kept (survives doc) doc.text (doc.rangeOf slot.argument).1 (doc.rangeOf slot.argument).2).Sublist
      (a.1.render (argument a))
  /-- What is taken off a body are its brackets, whatever the edits within it have done. -/
  brackets : ∀ body ∈ unwrapped doc, bodyEdit doc o body ∈ plan ∧
    ∀ a ∈ plan.zipIdx, a.1 = bodyEdit doc o body → ∃ inner, argument a = '(' :: inner ++ [')'] ∧
      a.1.render (argument a) = returnBlock o (doc.lineIndent (doc.rangeOf body).1) (Text.strip inner)

theorem keeps_of_built (hsound : doc.Sound) (hspelled : doc.Spelled) (hunfilled : doc.Unfilled)
    (hbuilt : Built doc o injection (allSlots doc) plan) (hplaced : AllPlaced doc plan)
    (hinjection : ∀ slot, Writer.Writes [] (injection slot)) :
    Keeps doc o injection plan (argumentIn doc.text (placed plan)) where
  outside _ ha houtermost := outermost_cases hsound hspelled hbuilt hplaced ha houtermost
  wrapped := hbuilt.wrapped
  inside := by
    intro slot hslot a ha he
    have hstart : a.1.range.start.toNat = (doc.rangeOf slot.argument).1 := by rw [he]; rfl
    have hstop : a.1.range.stop.toNat = (doc.rangeOf slot.argument).2 := by rw [he]; rfl
    rw [← hstart, ← hstop]
    exact Retains.render_argumentIn (hplaced.laminar hsound)
      (fun b hb => retains_of_mem hsound hspelled hbuilt hplaced hunfilled hinjection hb) ha
  brackets := by
    intro body hbody
    obtain ⟨slot, harrow, hkind⟩ := mem_unwrapped.1 hbody
    have hblock : body.kind ≠ .block := by
      rw [hkind]
      decide
    constructor
    · -- The plan has an edit of this sort and range, and there is only one body it can be for.
      obtain ⟨e, he, hrange, hlabel⟩ := hbuilt.has_body harrow.slot_mem harrow.kind harrow.child hblock
      cases hbuilt.origin e he with
      | wrap other hother he' => exact absurd (Option.some.inj (he' ▸ hlabel)) (by decide)
      | forward other hother he' => exact absurd (Option.some.inj (he' ▸ hlabel)) (by decide)
      | parameter cls hcls record hclass => exact absurd hlabel (constructorEdit?_label hclass).1
      | body other hother hkind' body' hbody' hblock' he' =>
          rw [he'] at hrange he
          have hsame : body = body' := harrow.unique hsound hspelled ⟨hother, hkind', hbody'⟩ hrange.symm
          rwa [hsame]
    · intro a ha he
      obtain ⟨inner, hargument⟩ := argumentIn_brackets hsound hspelled hbuilt hplaced harrow hkind ha he
      refine ⟨inner, hargument, ?_⟩
      rw [hargument, he, bodyEdit_render hkind]

/-- A run that gives a text has planned for all classes and rendered the plan. -/
theorem splice_of_instrumentDocument (hsound : doc.Sound) {file result : Text} {log : List Log.Record}
    (h : instrumentDocument doc o injection file = (.ok result, log)) :
    ∃ count p, instrumentClasses doc o injection doc.classes ⟨[], []⟩ = (.ok count, p) ∧
      result = Nested.render.splice doc.text 0 doc.text.length (forest (ordered p.plan)) := by
  have hplaced := allPlaced_classes hsound o injection
  unfold instrumentDocument at h
  split at h
  · simp at h
  · rename_i p hrun
    simp only [Prod.mk.injEq, Except.ok.injEq] at h
    refine ⟨0, p, hrun, ?_⟩
    rw [(built_classes hrun).2 rfl, ← h.1, ordered, List.zipIdx_nil, List.mergeSort_nil, List.map_nil, forest,
      Nested.render.splice, Text.slice, List.take_length, List.drop_zero]
  · rename_i count p _ hrun
    rw [hrun] at hplaced
    obtain ⟨stats, happly⟩ := apply_of_laminar hplaced.fits (hplaced.laminar hsound)
    simp only [happly, Prod.mk.injEq, Except.ok.injEq] at h
    exact ⟨count, p, hrun, h.1.symm⟩

theorem instrumentDocument_ok (hsound : doc.Sound) (file : Text) {count : Nat}
    (h : (instrumentClasses doc o injection doc.classes ⟨[], []⟩).1.toOption = some count) :
    ∃ result log, instrumentDocument doc o injection file = (.ok result, log) := by
  have hplaced := allPlaced_classes hsound o injection
  obtain ⟨stats, happly⟩ := apply_of_laminar hplaced.fits (hplaced.laminar hsound)
  unfold instrumentDocument
  split
  · rename_i error p hrun
    rw [hrun] at h
    cases h
  · exact ⟨_, _, rfl⟩
  · rename_i number p _ hrun
    rw [hrun] at happly
    rw [happly]
    exact ⟨_, _, rfl⟩

/-- Instrumenting a document keeps its code. Its text is rendered by a plan under which nothing but additions
happens outside the instrumented arguments, and every argument survives in what replaces it. So what is outside of
them stands in the result as it is, and all that is not blank or left out on purpose stands there in order. -/
theorem instrumentDocument_keeps_code (hsound : doc.Sound) (hspelled : doc.Spelled) (hunfilled : doc.Unfilled)
    (o : Options) (statement file : Text) {result : Text} {log : List Log.Record}
    (h : instrumentDocument doc o (injectStatement statement) file = (.ok result, log)) :
    (∃ plan calls argument,
      (instrumentClasses doc o (injectStatement statement) doc.classes ⟨[], []⟩).2.plan = plan ∧
        Renders doc.text plan calls argument result ∧ Keeps doc o (injectStatement statement) plan argument) ∧
      (kept (untouched doc) doc.text 0 doc.text.length).Sublist result ∧
      (kept (survives doc) doc.text 0 doc.text.length).Sublist result := by
  obtain ⟨count, p, hrun, rfl⟩ := splice_of_instrumentDocument hsound h
  have hbuilt := (built_classes hrun).1
  have hplaced := allPlaced_classes hsound o (injectStatement statement)
  have hinjection := writes_injectStatement statement
  simp only [hrun] at hplaced ⊢
  refine ⟨⟨p.plan, _, _, rfl, renders_placed hplaced.fits (hplaced.laminar hsound),
    keeps_of_built hsound hspelled hunfilled hbuilt hplaced hinjection⟩, ?_, ?_⟩
  · exact kept_sublist_rendered hplaced.fits (hplaced.laminar hsound) fun a ha => retains_untouched hsound hbuilt ha
  · exact kept_sublist_rendered hplaced.fits (hplaced.laminar hsound) fun a ha =>
      retains_of_mem hsound hspelled hbuilt hplaced hunfilled hinjection ha

theorem nestedClasses_sound : nestedClasses.Sound := by
  refine ⟨⟨?_, ?_⟩, ?_, ?_⟩
  all_goals decide +kernel

theorem nestedClasses_spelled : nestedClasses.Spelled := by
  refine ⟨?_, ?_, ?_, ?_⟩
  all_goals decide +kernel

/-- The callback of the outer class loses the brackets around its body, and the zero-width space and the comment in the
inner constructor. -/
theorem instrumentDocument_keeps_code_nested :
    nestedClasses.Sound ∧ nestedClasses.Spelled ∧ nestedClasses.Unfilled ∧ (unwrapped nestedClasses).length = 1 ∧
      ∃ result log, instrumentDocument nestedClasses {} (injectStatement defaultStatement) [] = (.ok result, log) ∧
        List.Sublist "class A\x7bm()\x7bq.then()\x7d\x7d".toList result ∧
        List.Sublist "classA\x7bm()\x7bq.then(()=>class\x7bconstructor()\x7b\x7dn()\x7bp.catch(f)\x7d\x7d)\x7d\x7d".toList
          result := by
  have houtside : kept (untouched nestedClasses) nestedClasses.text 0 nestedClasses.text.length =
      "class A\x7bm()\x7bq.then()\x7d\x7d".toList := by decide +kernel
  have hcode : kept (survives nestedClasses) nestedClasses.text 0 nestedClasses.text.length =
      "classA\x7bm()\x7bq.then(()=>class\x7bconstructor()\x7b\x7dn()\x7bp.catch(f)\x7d\x7d)\x7d\x7d".toList := by
    decide +kernel
  have hunfilled : nestedClasses.Unfilled := by decide +kernel
  have hcount : (instrumentClasses nestedClasses {} (injectStatement defaultStatement) nestedClasses.classes
      ⟨[], []⟩).1.toOption = some 2 := by decide +kernel
  obtain ⟨result, log, hresult⟩ := instrumentDocument_ok nestedClasses_sound [] hcount
  obtain ⟨-, houtside', hcode'⟩ :=
    instrumentDocument_keeps_code nestedClasses_sound nestedClasses_spelled hunfilled {} defaultStatement [] hresult
  rw [houtside] at houtside'
  rw [hcode] at hcode'
  exact ⟨nestedClasses_sound, nestedClasses_spelled, hunfilled, by decide +kernel, result, log, hresult, houtside', hcode'⟩

end ViewCompiler.Instrument
