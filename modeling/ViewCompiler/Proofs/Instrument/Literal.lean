import ViewCompiler.Proofs.Edit.Passage
import ViewCompiler.Proofs.Instrument.Generated
import ViewCompiler.Proofs.Instrument.Kept
import ViewCompiler.Proofs.Instrument.Owner

/-!
# Template literals in a callback

The line feeds in a template literal are part of its value, but a callback is moved line by line, whatever a line is
part of. So a literal on one line stays what it is, and one with further lines comes out with these lines moved: each
edit around the literal moves them once (`instrumentDocument_literal`).

No edit reaches into a literal without embedded expressions. Its children are no arguments, bodies or lists, unless the
literal itself is what a call is given its arguments with.
-/

namespace ViewCompiler

/-- A template literal stands in quotes, and apart from embedded expressions nothing in it has a structure. -/
def Script.Document.Quoted (doc : Document) : Prop :=
  ∀ n ∈ doc.root.preorder, n.kind = .template →
    (doc.textOf n).head? = some '\x60' ∧ (doc.textOf n).getLast? = some '\x60' ∧
      ∀ c ∈ n.children, c.kind ≠ .substitution → c.role = none ∧ c.children = []

instance (doc : Script.Document) : Decidable doc.Quoted :=
  inferInstanceAs (Decidable (∀ n ∈ doc.root.preorder, n.kind = .template → _ ∧ _ ∧ ∀ c ∈ n.children, _ → _ ∧ _))

namespace Instrument

open Script Edit
open Text (Firm Lays deepen)

variable {doc : Document} {o : Options} {injection : Injection} {statement : Text} {cls body list m n : Node} {slot : Slot}
  {plan : Plan} {e : Edit} {a b : Edit × Nat}

/-- A template literal without embedded expressions that is not itself the arguments of an instrumented call. -/
structure Literal (doc : Document) (n : Node) : Prop where
  mem : n ∈ doc.root.preorder
  kind : n.kind = .template
  plain : ∀ c ∈ n.children, c.kind ≠ .substitution
  untagged : ∀ slot ∈ allSlots doc, slot.argument ∉ n.children

/-- What the edits of a plan around a node make of a text in its place. -/
def relaid (doc : Document) (o : Options) (plan : Plan) (n : Node) (x : Text) : Text :=
  layered (fun b => deepen o.indentText (doc.lineIndent b.1.range.start.toNat)) (doc.rangeOf n).1 (doc.rangeOf n).2
    (placed plan) x

/-! ### No edit reaches into a literal -/

section Literal

variable (hsound : doc.Sound) (hquoted : doc.Quoted) (hliteral : Literal doc n)

include hquoted hliteral

theorem Literal.firm : Firm (doc.textOf n) := by
  obtain ⟨hopen, hclose, -⟩ := hquoted n hliteral.mem hliteral.kind
  constructor
  · obtain ⟨rest, htext⟩ := List.head?_eq_some_iff.1 hopen
    exact ⟨_, rest, htext, by decide⟩
  · obtain ⟨front, htext⟩ := List.getLast?_eq_some_iff.1 hclose
    exact ⟨front, _, htext, by decide⟩

theorem Literal.not_mem_children {role : Role} (hrole : m.role = some role) : m ∉ n.children := by
  intro hm
  have hnone := ((hquoted n hliteral.mem hliteral.kind).2.2 m hm (hliteral.plain m hm)).1
  rw [hrole] at hnone
  cases hnone

include hsound

theorem Literal.full : (doc.rangeOf n).1 < (doc.rangeOf n).2 := by
  obtain ⟨c, rest, htext, -⟩ := (hliteral.firm hquoted).first
  have hlength := hsound.length_textOf hliteral.mem
  rw [htext, List.length_cons] at hlength
  omega

/-- A node that is no part of a literal lies around it or beside it. -/
theorem Literal.around_or_aside (hm : m ∈ doc.root.preorder) (hnot : m ∉ n.children) :
    n ∈ m.preorder ∨ (doc.rangeOf m).2 ≤ (doc.rangeOf n).1 ∨ (doc.rangeOf n).2 ≤ (doc.rangeOf m).1 := by
  rcases hsound.spanned.nested_or_apart hm hliteral.mem with hbelow | hbelow | hapart | hapart
  · rcases Node.mem_preorder.1 hbelow with rfl | ⟨c, hc, hbelow⟩
    · exact Or.inl (Node.self_mem_preorder m)
    · -- Below a child of the literal there is nothing.
      have hleaf := ((hquoted n hliteral.mem hliteral.kind).2.2 c hc (hliteral.plain c hc)).2
      rcases Node.mem_preorder.1 hbelow with rfl | ⟨d, hd, -⟩
      · exact absurd hc hnot
      · rw [hleaf] at hd
        exact absurd hd List.not_mem_nil
  · exact Or.inl hbelow
  · exact Or.inr (Or.inl (Text.charOffset_mono doc.text hapart))
  · exact Or.inr (Or.inr (Text.charOffset_mono doc.text hapart))

/-- A parameter list is no literal, so a literal below it is below one of its children. -/
theorem Literal.below_parameters (hlist : list ∈ doc.root.preorder) (hrole : list.role = some .parameters)
    (hbelow : n ∈ list.preorder) : ∃ d ∈ list.children, n ∈ d.preorder := by
  rcases Node.mem_preorder.1 hbelow with rfl | hchild
  · have hopen := (hsound.bracketed n hlist hrole).1
    rw [(hquoted n hlist hliteral.kind).1] at hopen
    exact absurd hopen (by decide)
  · exact hchild

theorem Literal.aside_behind_parameter (hlist : list ∈ doc.root.preorder) (hrole : list.role = some .parameters)
    (hm : m ∈ list.children) : (doc.rangeOf m).2 ≤ (doc.rangeOf n).1 ∨ (doc.rangeOf n).2 ≤ (doc.rangeOf m).2 := by
  have hcovers := hsound.rangeOf_covers hlist (Node.mem_preorder_of_child hm)
  have hle := doc.rangeOf_le m
  rcases hliteral.around_or_aside hsound hquoted hlist (hliteral.not_mem_children hquoted hrole) with hbelow | haside
  · obtain ⟨d, hd, hbelow⟩ := hliteral.below_parameters hsound hquoted hlist hrole hbelow
    have hinner := hsound.rangeOf_covers (Node.mem_preorder_trans (Node.mem_preorder_of_child hd) hlist) hbelow
    by_cases heq : d = m
    · rw [heq] at hinner
      exact Or.inr hinner.2
    · rcases (hsound.spanned.subtree hlist).siblings_apart hd hm heq with hapart | hapart
      · have hchars : (doc.rangeOf d).2 ≤ (doc.rangeOf m).1 := Text.charOffset_mono doc.text hapart
        omega
      · have hchars : (doc.rangeOf m).2 ≤ (doc.rangeOf d).1 := Text.charOffset_mono doc.text hapart
        omega
  · omega

theorem Literal.aside_unfilled (hspelled : doc.Spelled) (hlist : list ∈ unfilledLists doc) :
    (doc.rangeOf list).2 ≤ (doc.rangeOf n).1 ∨ (doc.rangeOf n).2 ≤ (doc.rangeOf list).1 := by
  obtain ⟨hroot, hrole, -⟩ := mem_unfilledLists hlist
  rcases hliteral.around_or_aside hsound hquoted hroot (hliteral.not_mem_children hquoted hrole) with hbelow | haside
  · obtain ⟨d, hd, hbelow⟩ := hliteral.below_parameters hsound hquoted hroot hrole hbelow
    have hleaf := below_unfilled hspelled hlist hd hbelow
    rw [hliteral.kind] at hleaf
    exact absurd hleaf (by decide)
  · exact haside

theorem Literal.aside_constructor (hbodies : doc.ClassBodies) (hcls : cls ∈ doc.root.preorder)
    (hclass : cls.kind.isClass = true) (hbody : cls.child? .body = some body) :
    (doc.rangeOf body).1 + 1 ≤ (doc.rangeOf n).1 ∨ (doc.rangeOf n).2 ≤ (doc.rangeOf body).1 + 1 := by
  have hroot : body ∈ doc.root.preorder := Node.mem_preorder_trans (Node.mem_preorder_of_child? hbody) hcls
  have hrole := Node.role_of_child? hbody
  obtain ⟨hkind, hbraces⟩ := hbodies cls hcls hclass body hbody
  have htwo := hbraces.two_le (by decide) hsound hroot
  rcases hliteral.around_or_aside hsound hquoted hroot (hliteral.not_mem_children hquoted hrole) with hbelow | haside
  · have hne : n ≠ body := by
      intro heq
      rw [← heq, hliteral.kind] at hkind
      cases hkind
    exact Or.inl (hbraces.between hsound hroot hbelow hne).1
  · omega

theorem Literal.aside_parameterEdit {text : Text} (hspelled : doc.Spelled) (hlist : list ∈ doc.root.preorder)
    (hrole : list.role = some .parameters) (hunfilled : list.parts = [] → list ∈ unfilledLists doc)
    (hedit : parameterEdit doc list text = a.1) : Aside (doc.rangeOf n).1 (doc.rangeOf n).2 a := by
  unfold Aside
  rw [← hedit]
  rcases parameterEdit_cases hsound hlist hrole text with ⟨last, hmem, hcase⟩ | ⟨hparts, inside, hinside, hcase⟩
  · have haside := hliteral.aside_behind_parameter hsound hquoted hlist hrole hmem
    rw [hcase]
    simp only [insertion]
    omega
  · have haside := hliteral.aside_unfilled hsound hquoted hspelled (hunfilled hparts)
    obtain ⟨hstart, hstop⟩ := interior?_eq_some_iff.1 hinside
    rw [hcase]
    simp only [replacement]
    omega

/-- What a class gets is put beside the literal. -/
theorem Literal.aside_constructorEdit {record : Log.Record} (hspelled : doc.Spelled) (hbodies : doc.ClassBodies)
    (hcls : cls ∈ touched doc)
    (h : constructorEdit? doc o cls o.factoryScope o.factoryName o.factoryType = some (a.1, record)) :
    Aside (doc.rangeOf n).1 (doc.rangeOf n).2 a := by
  have hclasses := (List.mem_filter.1 hcls).1
  have hroot := mem_preorder_of_mem_classes hclasses
  rcases constructorEdit?_eq_some h with ⟨member, list, hmember, hlist, hedit⟩ | ⟨body, hbody, hedit⟩
  · obtain ⟨hlistRoot, hrole⟩ := parameters_of_constructor hroot hmember hlist
    exact hliteral.aside_parameterEdit hsound hquoted hspelled hlistRoot hrole
      (mem_unfilledLists_of_constructor hcls hmember hlist) hedit.symm
  · have haside := hliteral.aside_constructor hsound hquoted hbodies hroot (List.mem_filter.1 hclasses).2 hbody
    unfold Aside
    rw [hedit]
    simp only [insertion]
    omega

/-! ### The edits around a literal -/

theorem Literal.aside_or_around (hm : m ∈ doc.root.preorder) (hnot : m ∉ n.children) (hrange : a.1.range = rangeIn doc m) :
    Aside (doc.rangeOf n).1 (doc.rangeOf n).2 a ∨ Around (doc.rangeOf n).1 (doc.rangeOf n).2 a ∧ n ∈ m.preorder := by
  unfold Aside Around
  rw [hrange]
  simp only [rangeIn]
  rcases hliteral.around_or_aside hsound hquoted hm hnot with hbelow | haside
  · have hcovers := hsound.rangeOf_covers hm hbelow
    exact Or.inr ⟨⟨by omega, by omega⟩, hbelow⟩
  · left
    omega

/-- An edit of an argument that moves what it is given one level deeper. -/
theorem Literal.passes_argument (hslot : slot ∈ allSlots doc) (hstart : 0 ≤ a.1.range.start)
    (hrange : a.1.range = rangeIn doc slot.argument)
    (hlays : Lays a.1.render (deepen o.indentText (doc.indentOf slot.argument))) :
    Aside (doc.rangeOf n).1 (doc.rangeOf n).2 a ∨ Around (doc.rangeOf n).1 (doc.rangeOf n).2 a ∧
      Passes doc.text (doc.rangeOf n).1 (doc.rangeOf n).2 (placed plan) a
        (deepen o.indentText (doc.lineIndent a.1.range.start.toNat)) := by
  rcases hliteral.aside_or_around hsound hquoted (argument_mem_preorder hslot) (hliteral.untagged slot hslot) hrange with
    haside | ⟨haround, -⟩
  · exact Or.inl haside
  · refine Or.inr ⟨haround, Passes.of_lays hstart haround ?_⟩
    rw [hrange]
    exact hlays

end Literal

section Plan

variable (hsound : doc.Sound) (hspelled : doc.Spelled) (hquoted : doc.Quoted) (hliteral : Literal doc n)
  (hbuilt : Built doc o (injectStatement statement) (allSlots doc) plan) (hplaced : AllPlaced doc plan)

include hsound hspelled hliteral hbuilt hplaced

theorem Literal.passes_brackets (hbody : ArrowBody doc slot body) (hkind : body.kind = .parenthesized)
    (ha : a ∈ plan.zipIdx) (hedit : a.1 = bodyEdit doc o body) (hbelow : n ∈ body.preorder) :
    Passes doc.text (doc.rangeOf n).1 (doc.rangeOf n).2 (placed plan) a
      (deepen o.indentText (doc.lineIndent (doc.rangeOf body).1)) := by
  have hroot := hbody.mem_preorder
  have hbracketed := hspelled.parenthesized body hroot hkind
  have htwo := hbracketed.two_le (by decide) hsound hroot
  have hne : n ≠ body := by
    intro heq
    rw [← heq, hliteral.kind] at hkind
    cases hkind
  have hbetween := hbracketed.between hsound hroot hbelow hne
  obtain ⟨hopen, hclose⟩ := hbracketed.chars (by decide) hsound hroot
  obtain ⟨hstart, hstop⟩ := bodyEdit_range hedit
  have hclose' := Text.slice_succ hclose
  rw [Nat.sub_add_cancel (by omega)] at hclose'
  refine ⟨(doc.rangeOf body).1 + 1, (doc.rangeOf body).2 - 1, by omega, by omega, by omega, by omega, ?_, ?_⟩
  · intro b hb hwithin
    exact within_brackets hsound hspelled hbuilt hplaced hbody hkind ha hedit (mem_placed.1 hb) hwithin
  · have hrender : (fun x => a.1.render (doc.text.slice a.1.range.start.toNat ((doc.rangeOf body).1 + 1) ++ x ++
        doc.text.slice ((doc.rangeOf body).2 - 1) a.1.range.stop.toNat)) =
        fun x => returnBlock o (doc.lineIndent (doc.rangeOf body).1) (Text.strip x) := by
      funext x
      rw [hstart, hstop, Text.slice_succ hopen, hclose', hedit]
      exact bodyEdit_render hkind x
    rw [hrender]
    exact Text.lays_strip.comp (lays_returnBlock o (doc.isAllBlank_lineIndent (doc.rangeOf body).1))

include hquoted

/-- Every edit of a plan stands beside a literal, or around it and moves it one level deeper. -/
theorem Literal.passes (hbodies : doc.ClassBodies) (ha : a ∈ placed plan) :
    Aside (doc.rangeOf n).1 (doc.rangeOf n).2 a ∨ Around (doc.rangeOf n).1 (doc.rangeOf n).2 a ∧
      Passes doc.text (doc.rangeOf n).1 (doc.rangeOf n).2 (placed plan) a
        (deepen o.indentText (doc.lineIndent a.1.range.start.toNat)) := by
  have hmem := List.fst_mem_of_mem_zipIdx (mem_placed.1 ha)
  have hstart := (hplaced.fits a.1 hmem).1
  cases hbuilt.origin a.1 hmem with
  | wrap slot hslot he =>
      have hrender : a.1.render = wrapper o (injectStatement statement slot) (doc.indentOf slot.argument) := by rw [he, injectEdit]
      apply hliteral.passes_argument hsound hquoted hslot hstart (by rw [he, injectEdit])
      rw [hrender]
      exact lays_wrapper o statement slot (doc.isAllBlank_indentOf slot.argument)
  | forward slot hslot he =>
      have hrender : a.1.render = forwardingArrow o (doc.indentOf slot.argument) := by rw [he, forwardEdit]
      apply hliteral.passes_argument hsound hquoted hslot hstart (by rw [he, forwardEdit])
      rw [hrender]
      exact lays_forwardingArrow o (doc.isAllBlank_indentOf slot.argument)
  | body slot hslot hkind body hbody hblock he =>
      have harrow : ArrowBody doc slot body := ⟨hslot, hkind, hbody⟩
      have hrange : a.1.range = rangeIn doc body := by rw [he, bodyEdit]
      have hnot := hliteral.not_mem_children hquoted (Node.role_of_child? hbody)
      rcases hliteral.aside_or_around hsound hquoted harrow.mem_preorder hnot hrange with haside | ⟨haround, hbelow⟩
      · exact Or.inl haside
      · refine Or.inr ⟨haround, ?_⟩
        by_cases hbracketed : body.kind = .parenthesized
        · have hpasses := hliteral.passes_brackets hsound hspelled hbuilt hplaced harrow hbracketed (mem_placed.1 ha) he hbelow
          rw [hrange]
          exact hpasses
        · apply Passes.of_lays hstart haround
          have hrender : a.1.render = returnBlock o (doc.lineIndent (doc.rangeOf body).1) := by
            funext x
            simp [he, bodyEdit, conciseValue, hbracketed]
          rw [hrender, hrange]
          exact lays_returnBlock o (doc.isAllBlank_lineIndent (doc.rangeOf body).1)
  | parameter cls hcls record hclass =>
      exact Or.inl (hliteral.aside_constructorEdit hsound hquoted hspelled hbodies hcls hclass)

end Plan

/-! ### What becomes of its lines -/

theorem foldr_deepen_of_notMem {α : Type} {unit x : Text} (base : α → Text) (hx : '\n' ∉ x) (l : List α) :
    l.foldr (fun a => deepen unit (base a)) x = x := by
  induction l with
  | nil => rfl
  | cons a l ih => rw [List.foldr_cons, ih, Text.deepen_of_notMem unit (base a) hx]

/-- Each layer puts spaces in front of the last line. -/
theorem depth_lt_foldr_deepen {α : Type} {unit x : Text} {base : α → Text} (hunit : ∀ c ∈ unit, c = ' ') (hne : unit ≠ [])
    (hbase : ∀ a, ∀ c ∈ base a, c = ' ') (hx : Firm x) (hbreak : '\n' ∈ x) {l : List α} (hl : l ≠ []) :
    Text.depth x < Text.depth (l.foldr (fun a => deepen unit (base a)) x) := by
  suffices hlayers : ∀ l : List α, Firm (l.foldr (fun a => deepen unit (base a)) x) ∧
      '\n' ∈ l.foldr (fun a => deepen unit (base a)) x ∧
      Text.depth x + l.length ≤ Text.depth (l.foldr (fun a => deepen unit (base a)) x) by
    have hdepth := (hlayers l).2.2
    have hlength := List.length_pos_iff.2 hl
    omega
  intro l
  induction l with
  | nil => exact ⟨hx, hbreak, Nat.le_refl _⟩
  | cons a l ih =>
      obtain ⟨hfirm, hmem, hdepth⟩ := ih
      have hblank : (base a).isAllBlank = true := by
        apply List.all_eq_true.2
        intro c hc
        rw [hbase a c hc]
        decide
      have hstep := Text.depth_lt_deepen hunit hne (hbase a) hfirm hmem
      rw [List.foldr_cons, List.length_cons]
      exact ⟨hfirm.deepen unit hblank, Text.mem_deepen unit (base a) hmem, by omega⟩

/-- In the text that instrumenting a document gives, a literal stands as the edits around it have moved its lines, and
what stands around it does not depend on it. A literal on one line is unchanged; where lines are indented with spaces,
no other literal in a callback is. -/
theorem instrumentDocument_literal (hsound : doc.Sound) (hspelled : doc.Spelled) (hbodies : doc.ClassBodies)
    (hquoted : doc.Quoted) (o : Options) (statement file : Text) {result : Text} {log : List Log.Record}
    (h : instrumentDocument doc o (injectStatement statement) file = (.ok result, log)) (hliteral : Literal doc n) :
    ∃ plan before behind,
      (instrumentClasses doc o (injectStatement statement) doc.classes ⟨[], []⟩).2.plan = plan ∧
      result = before ++ relaid doc o plan n (doc.textOf n) ++ behind ∧
      (∀ x, Firm x → x.length = (doc.textOf n).length → ∃ stats,
        Edit.apply (doc.text.exchange (doc.rangeOf n).1 (doc.rangeOf n).2 x) plan =
          .ok (before ++ relaid doc o plan n x ++ behind, stats)) ∧
      ('\n' ∉ doc.textOf n → relaid doc o plan n (doc.textOf n) = doc.textOf n) ∧
      (o.indentText ≠ [] → (∀ c ∈ o.indentText, c = ' ') → (∀ p, ∀ c ∈ doc.lineIndent p, c = ' ') →
        (∃ slot ∈ allSlots doc, n ∈ slot.argument.preorder) →
        (relaid doc o plan n (doc.textOf n) = doc.textOf n ↔ '\n' ∉ doc.textOf n)) := by
  obtain ⟨count, p, hrun, hresult⟩ := splice_of_instrumentDocument hsound h
  have hbuilt := (built_classes hrun).1
  have hplaced := allPlaced_classes hsound o (injectStatement statement)
  rw [hrun] at hplaced
  have hlength := hsound.length_textOf hliteral.mem
  have hfull := hliteral.full hsound hquoted
  have hfirm := hliteral.firm hquoted
  have hlast := doc.rangeOf_le_length n
  obtain ⟨before, behind, happly⟩ := apply_exchange hfull hlast hplaced.fits (hplaced.laminar hsound) fun b hb =>
    hliteral.passes hsound hspelled hquoted hbuilt hplaced hbodies hb
  have hself : '\n' ∉ doc.textOf n → relaid doc o p.plan n (doc.textOf n) = doc.textOf n := fun hline =>
    foldr_deepen_of_notMem _ hline _
  refine ⟨p.plan, before, behind, by rw [hrun], ?_, ?_, hself, ?_⟩
  · obtain ⟨stats, happly⟩ := happly (doc.textOf n) hfirm hlength
    obtain ⟨stats', happly'⟩ := apply_of_laminar hplaced.fits (hplaced.laminar hsound)
    rw [hsound.textOf_eq hliteral.mem, Text.exchange_slice (Nat.le_of_lt hfull), happly', ← hresult,
      ← hsound.textOf_eq hliteral.mem] at happly
    simp only [Except.ok.injEq, Prod.mk.injEq] at happly
    exact happly.1
  · intro x hx hxlength
    exact happly x hx (hxlength.trans hlength)
  · intro hne hunit hbase hcallback
    refine ⟨fun heq hbreak => ?_, hself⟩
    obtain ⟨slot, hslot, hbelow⟩ := hcallback
    have hcovers := hsound.rangeOf_covers (argument_mem_preorder hslot) hbelow
    -- The edit that wraps the callback is one of those around the literal.
    obtain ⟨i, hi⟩ := List.mem_iff_getElem?.1 (hbuilt.wrapped slot hslot)
    have hwrap : (injectEdit doc o (injectStatement statement slot) slot, i) ∈ placed p.plan :=
      mem_placed.2 (List.mem_zipIdx_iff_getElem?.2 hi)
    have haround : Around (doc.rangeOf n).1 (doc.rangeOf n).2
        (injectEdit doc o (injectStatement statement slot) slot, i) := by
      simp only [Around, injectEdit, rangeIn]
      omega
    have hlayers : (placed p.plan).filter (Around (doc.rangeOf n).1 (doc.rangeOf n).2 ·) ≠ [] :=
      List.ne_nil_of_mem (List.mem_filter.2 ⟨hwrap, decide_eq_true haround⟩)
    have hdepth := depth_lt_foldr_deepen hunit hne (fun b : Edit × Nat => hbase b.1.range.start.toNat) hfirm hbreak hlayers
    rw [relaid, layered] at heq
    rw [heq] at hdepth
    exact Nat.lt_irrefl _ hdepth

/-- A literal of two lines in a callback that is nested in the bracketed body of another one. -/
def linesWithin : Document where
  text := "class A \x7b\n  m() \x7b\n    p.then(() => (q.catch(() => `a\n  b`)))\n  \x7d\n\x7d\n"
  wellFormed := true
  root :=
    ⟨.other, none, 0, 67, [⟨.classDeclaration, none, 0, 66, [⟨.typeName, some .name, 6, 1, []⟩,
      ⟨.classBody, some .body, 8, 58, [⟨.methodDefinition, none, 12, 52, [⟨.propertyName, some .name, 12, 1, []⟩,
        ⟨.parameters, some .parameters, 13, 2, []⟩,
        ⟨.block, some .body, 16, 48, [⟨.other, none, 22, 38, [⟨.call, none, 22, 38, [
          ⟨.member, some .function, 22, 6, [⟨.identifier, none, 22, 1, []⟩,
            ⟨.propertyName, some .property, 24, 4, []⟩]⟩,
          ⟨.arguments, some .arguments, 28, 32, [⟨.arrow, none, 29, 30, [⟨.parameters, some .parameters, 29, 2, []⟩,
            ⟨.parenthesized, some .body, 35, 24, [⟨.call, none, 36, 22, [
              ⟨.member, some .function, 36, 7, [⟨.identifier, none, 36, 1, []⟩,
                ⟨.propertyName, some .property, 38, 5, []⟩]⟩,
              ⟨.arguments, some .arguments, 43, 15, [⟨.arrow, none, 44, 13, [
                ⟨.parameters, some .parameters, 44, 2, []⟩,
                ⟨.template, some .body, 50, 7, [⟨.other, none, 51, 5, []⟩]⟩]⟩]⟩]⟩]⟩]⟩]⟩]⟩]⟩]⟩]⟩]⟩]⟩]⟩

/-- The literal of the example is moved by four edits, and with every other text in its place the rest is the same. -/
theorem instrumentDocument_literal_within :
    ∃ (literal : Node) (result : Text) (log : List Log.Record) (plan : Plan) (before behind : Text),
      Literal linesWithin literal ∧ linesWithin.textOf literal = "`a\n  b`".toList ∧
      instrumentDocument linesWithin {} (injectStatement defaultStatement) [] = (.ok result, log) ∧
      result = before ++ relaid linesWithin {} plan literal "`a\n  b`".toList ++ behind ∧
      relaid linesWithin {} plan literal "`a\n  b`".toList ≠ "`a\n  b`".toList := by
  have hsound : linesWithin.Sound := by
    refine ⟨⟨?_, ?_⟩, ?_, ?_⟩
    all_goals decide +kernel
  have hspelled : linesWithin.Spelled := by
    refine ⟨?_, ?_, ?_, ?_⟩
    all_goals decide +kernel
  have hbodies : linesWithin.ClassBodies := by decide +kernel
  have hquoted : linesWithin.Quoted := by decide +kernel
  have hnode : ∃ slot ∈ allSlots linesWithin, ∃ n ∈ slot.argument.preorder, n.kind = .template ∧
      (∀ c ∈ n.children, c.kind ≠ .substitution ∧ ∀ other ∈ allSlots linesWithin, other.argument.kind ≠ c.kind) ∧
      linesWithin.textOf n = "`a\n  b`".toList := by decide +kernel
  obtain ⟨slot, hslot, n, hn, hkind, hchildren, htext⟩ := hnode
  have hroot : n ∈ linesWithin.root.preorder := Node.mem_preorder_trans hn (argument_mem_preorder hslot)
  have huntagged : ∀ other ∈ allSlots linesWithin, other.argument ∉ n.children := by
    intro other hother hc
    exact (hchildren other.argument hc).2 other hother rfl
  have hliteral : Literal linesWithin n := ⟨hroot, hkind, fun c hc => (hchildren c hc).1, huntagged⟩
  have hcount : (instrumentClasses linesWithin {} (injectStatement defaultStatement) linesWithin.classes
      ⟨[], []⟩).1.toOption = some 1 := by decide +kernel
  obtain ⟨result, log, hresult⟩ := instrumentDocument_ok hsound [] hcount
  obtain ⟨plan, before, behind, -, hplace, -, -, hlines⟩ := instrumentDocument_literal hsound hspelled hbodies hquoted {}
    defaultStatement [] hresult hliteral
  have hspaces : ∀ p, ∀ c ∈ linesWithin.lineIndent p, c = ' ' := by
    intro p c hc
    have htab : '\t' ∉ linesWithin.text := by decide +kernel
    have hmem : c ∈ linesWithin.text := List.mem_of_mem_drop ((List.takeWhile_sublist _).subset hc)
    have hlayout := List.mem_takeWhile_imp hc
    rcases Bool.or_eq_true_iff.1 hlayout with hspace | htabs
    · exact beq_iff_eq.1 hspace
    · rw [beq_iff_eq.1 htabs] at hmem
      exact absurd hmem htab
  have hunit : ∀ c ∈ ({} : Options).indentText, c = ' ' := List.forall_mem_cons.2 ⟨rfl, List.forall_mem_singleton.2 rfl⟩
  have hmoved := (hlines (by decide) hunit hspaces ⟨slot, hslot, hn⟩).not.2 (by rw [htext]; decide)
  rw [htext] at hplace hmoved
  exact ⟨n, result, log, plan, before, behind, hliteral, htext, hresult, hplace, hmoved⟩

/-- A literal whose second line starts at the margin. -/
def linesAtMargin : Document where
  text := "class A \x7b\n  m() \x7b\n    p.then(() => `a\nb`)\n  \x7d\n\x7d\n"
  wellFormed := true
  root :=
    ⟨.other, none, 0, 48, [⟨.classDeclaration, none, 0, 47, [⟨.typeName, some .name, 6, 1, []⟩,
      ⟨.classBody, some .body, 8, 39, [⟨.methodDefinition, none, 12, 33, [⟨.propertyName, some .name, 12, 1, []⟩,
        ⟨.parameters, some .parameters, 13, 2, []⟩,
        ⟨.block, some .body, 16, 29, [⟨.other, none, 22, 19, [⟨.call, none, 22, 19, [
          ⟨.member, some .function, 22, 6, [⟨.identifier, none, 22, 1, []⟩,
            ⟨.propertyName, some .property, 24, 4, []⟩]⟩,
          ⟨.arguments, some .arguments, 28, 13, [⟨.arrow, none, 29, 11, [⟨.parameters, some .parameters, 29, 2, []⟩,
            ⟨.template, some .body, 35, 5, [⟨.other, none, 36, 3, []⟩]⟩]⟩]⟩]⟩]⟩]⟩]⟩]⟩]⟩]⟩

/-- The literal of the example is nowhere in the text that instrumenting it gives. -/
theorem instrumentDocument_moves_lines :
    (∃ slot ∈ allSlots linesAtMargin, ∃ n ∈ slot.argument.preorder, n.kind = .template ∧ n.children.length = 1 ∧
      linesAtMargin.textOf n = "`a\nb`".toList) ∧
    ∃ result log, instrumentDocument linesAtMargin {} (injectStatement defaultStatement) [] = (.ok result, log) ∧
      ¬ "`a\nb`".toList <:+: result := by
  have hsound : linesAtMargin.Sound := by
    refine ⟨⟨?_, ?_⟩, ?_, ?_⟩
    all_goals decide +kernel
  have hcount : (instrumentClasses linesAtMargin {} (injectStatement defaultStatement) linesAtMargin.classes
      ⟨[], []⟩).1.toOption = some 1 := by decide +kernel
  have hsorted : (instrumentClasses linesAtMargin {} (injectStatement defaultStatement) linesAtMargin.classes
      ⟨[], []⟩).2.plan.zipIdx.reverse.Pairwise fun a b => comesFirst a b = true := by decide +kernel
  have hmoved : ¬ "`a\nb`".toList <:+: Nested.render.splice linesAtMargin.text 0 linesAtMargin.text.length (forest
      (instrumentClasses linesAtMargin {} (injectStatement defaultStatement) linesAtMargin.classes
        ⟨[], []⟩).2.plan.reverse) := by decide +kernel
  obtain ⟨result, log, hresult⟩ := instrumentDocument_ok hsound [] hcount
  obtain ⟨count, p, hrun, heq⟩ := splice_of_instrumentDocument hsound hresult
  rw [hrun] at hsorted hmoved
  have hordered := placed_eq_of_pairwise (List.reverse_perm _) hsorted
  rw [ordered_eq_map_placed, hordered, List.map_reverse, List.zipIdx_map_fst] at heq
  rw [← heq] at hmoved
  exact ⟨by decide +kernel, result, log, hresult, hmoved⟩

end Instrument

end ViewCompiler
