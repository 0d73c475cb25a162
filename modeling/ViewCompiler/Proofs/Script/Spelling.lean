import ViewCompiler.Proofs.Script.Document
import ViewCompiler.Text.Blank

/-!
# How constructs are spelled

Some constructs are spelled with characters that belong to no node: the brackets of a parenthesized expression, the
arrow of a function, the bracket in front of the arguments of a call. `Document.Spelled` is what a tree read from
a script promises about them, and `Document.Unfilled` what it promises about an empty parameter list. A node with
such characters in front of a child is larger than the child, so the child tells its parent: no other node of the
tree has a child with the same range (`Spanned.parent_unique`).
-/

namespace ViewCompiler.Script

namespace Node

variable {c m n parent root other : Node}

theorem Spanned.not_below_sibling (h : other.Spanned) (hn : n ∈ other.children) (hc : c ∈ other.children)
    (hparent : parent ∈ c.preorder) (hm : m ∈ parent.children) (hfront : parent.start < m.start)
    (hfull : m.start < m.stop) (hstart : m.start = n.start) (hstop : m.stop = n.stop) : False := by
  have hchild := h.child hc
  have hcovers := hchild.covers_descendant hparent
  have hcovers' := hchild.covers parent hparent m hm
  -- The sibling starts in front of the node, so it lies before it and cannot reach as far.
  have hne : c ≠ n := by
    rintro rfl
    omega
  have hapart := h.siblings_apart hc hn hne
  omega

/-- Two nodes of one range that is not empty, each behind the start of its parent, have the same parent. -/
theorem Spanned.parent_unique (h : root.Spanned) (hparent : parent ∈ root.preorder) (hother : other ∈ root.preorder)
    (hm : m ∈ parent.children) (hn : n ∈ other.children) (hfront : parent.start < m.start)
    (hfront' : other.start < n.start) (hfull : m.start < m.stop) (hstart : m.start = n.start)
    (hstop : m.stop = n.stop) : parent = other ∧ m = n := by
  have hsame : parent = other := by
    have hcovers := h.covers parent hparent m hm
    have hcovers' := h.covers other hother n hn
    rcases h.nested_or_apart hparent hother with hbelow | hbelow | hapart | hapart
    · rcases mem_preorder.1 hbelow with heq | ⟨c, hc, hbelow⟩
      · exact heq
      · exact ((h.subtree hother).not_below_sibling hn hc hbelow hm hfront hfull hstart hstop).elim
    · rcases mem_preorder.1 hbelow with heq | ⟨c, hc, hbelow⟩
      · exact heq.symm
      · exact ((h.subtree hparent).not_below_sibling hm hc hbelow hn hfront' (by omega) hstart.symm
          hstop.symm).elim
    · omega
    · omega
  subst hsame
  refine ⟨rfl, ?_⟩
  by_contra hne
  have hapart := (h.subtree hparent).siblings_apart hm hn hne
  omega

end Node

namespace Document

/-- The character lies in a comment that is a child of the node. -/
def InComment (doc : Document) (n : Node) (p : Nat) : Prop :=
  ∃ comment ∈ n.children, comment.kind = .comment ∧ (doc.rangeOf comment).1 ≤ p ∧ p < (doc.rangeOf comment).2

instance (doc : Document) (n : Node) (p : Nat) : Decidable (InComment doc n p) :=
  inferInstanceAs (Decidable (∃ comment ∈ n.children, _ ∧ _ ∧ _))

/-- White space of a script: what is blank, and what the grammar reads as spacing besides. -/
def isSpace (c : Char) : Bool := Text.isBlank c || Lexeme.isSpacing c

/-- Between the first and the last character of a node there are only white space and comments. -/
def OnlyComments (doc : Document) (n : Node) : Prop :=
  ∀ p ∈ List.range' ((doc.rangeOf n).1 + 1) ((doc.rangeOf n).2 - (doc.rangeOf n).1 - 2),
    doc.text[p]?.all isSpace = true ∨ InComment doc n p

instance (doc : Document) (n : Node) : Decidable (OnlyComments doc n) :=
  inferInstanceAs (Decidable (∀ p ∈ List.range' _ _, _ ∨ InComment doc n p))

/-- What stands around and between the nodes of a script. -/
structure Spelled (doc : Document) : Prop where
  parenthesized : ∀ n ∈ doc.root.preorder, n.kind = .parenthesized → Enclosed doc '(' ')' n
  /-- In front of the body of an arrow function stands at least the arrow. -/
  arrow : ∀ n ∈ doc.root.preorder, n.kind = .arrow → ∀ body ∈ n.child? .body,
    n.start < body.start ∧ body.start < body.stop
  /-- Arguments stand behind the bracket, or the quote of a template, that opens them. -/
  arguments : ∀ n ∈ doc.root.preorder, n.role = some .arguments →
    n.kind ≠ .arrow ∧ ∀ c ∈ n.children, n.start < c.start ∧ c.start < c.stop
  leaf : ∀ n ∈ doc.root.preorder, n.kind = .comment ∨ n.kind = .accessor → n.children = []

/-- A parameter list without parameters holds nothing but white space and comments. -/
def Unfilled (doc : Document) : Prop :=
  ∀ n ∈ doc.root.preorder, n.role = some .parameters → n.parts = [] → OnlyComments doc n

instance (doc : Document) : Decidable doc.Unfilled :=
  inferInstanceAs (Decidable (∀ n ∈ doc.root.preorder, n.role = some .parameters → n.parts = [] → OnlyComments doc n))

variable {doc : Document} {m n : Node}

theorem Sound.rangeOf_injective (hsound : doc.Sound) (hm : m ∈ doc.root.preorder) (hn : n ∈ doc.root.preorder)
    (h : doc.rangeOf m = doc.rangeOf n) : m.start = n.start ∧ m.stop = n.stop := by
  obtain ⟨hstart, hstop⟩ := Prod.mk.inj h
  exact ⟨Text.charOffset_injective (hsound.boundary m hm).1 (hsound.boundary n hn).1 hstart,
    Text.charOffset_injective (hsound.boundary m hm).2 (hsound.boundary n hn).2 hstop⟩

theorem Enclosed.chars {opening closing : Char} (h : Enclosed doc opening closing n) (hne : opening ≠ closing)
    (hsound : doc.Sound) (hn : n ∈ doc.root.preorder) :
    doc.text[(doc.rangeOf n).1]? = some opening ∧ doc.text[(doc.rangeOf n).2 - 1]? = some closing := by
  have htwo := h.two_le hne hsound hn
  have hlength := rangeOf_le_length doc n
  obtain ⟨hopen, hclose, -⟩ := h
  rw [hsound.textOf_eq hn, Text.slice] at hopen hclose
  constructor
  · rw [List.head?_drop, List.getElem?_take_of_lt (by omega)] at hopen
    exact hopen
  · rw [List.getLast?_drop, if_neg (by rw [List.length_take_of_le hlength]; omega), List.getLast?_take,
      if_neg (by omega), List.getElem?_eq_getElem (by omega)] at hclose
    rw [List.getElem?_eq_getElem (by omega)]
    exact hclose

/-- An argument of a call and the body of an arrow function never have the same range. -/
theorem Spelled.argument_ne_body {list arrow body argument : Node} (hspelled : doc.Spelled) (hsound : doc.Sound)
    (hlist : list ∈ doc.root.preorder) (hrole : list.role = some .arguments) (hargument : argument ∈ list.children)
    (harrow : arrow ∈ doc.root.preorder) (hkind : arrow.kind = .arrow) (hbody : arrow.child? .body = some body) :
    doc.rangeOf argument ≠ doc.rangeOf body := by
  intro heq
  have hchild := List.mem_of_find?_eq_some hbody
  obtain ⟨hnot, hfull⟩ := hspelled.arguments list hlist hrole
  obtain ⟨hstart, hstop⟩ := hsound.rangeOf_injective
    (Node.mem_preorder_trans (Node.mem_preorder_of_child hargument) hlist)
    (Node.mem_preorder_trans (Node.mem_preorder_of_child hchild) harrow) heq
  have hsame := (hsound.spanned.parent_unique hlist harrow hargument hchild (hfull argument hargument).1
    (hspelled.arrow arrow harrow hkind body hbody).1 (hfull argument hargument).2 hstart hstop).1
  exact hnot (hsame ▸ hkind)

/-- The bodies of two arrow functions have the same range only if they are one body. -/
theorem Spelled.body_unique {arrow arrow' body body' : Node} (hspelled : doc.Spelled) (hsound : doc.Sound)
    (harrow : arrow ∈ doc.root.preorder) (hkind : arrow.kind = .arrow) (hbody : arrow.child? .body = some body)
    (harrow' : arrow' ∈ doc.root.preorder) (hkind' : arrow'.kind = .arrow)
    (hbody' : arrow'.child? .body = some body') (heq : doc.rangeOf body = doc.rangeOf body') : body = body' := by
  have hchild := List.mem_of_find?_eq_some hbody
  have hchild' := List.mem_of_find?_eq_some hbody'
  obtain ⟨hstart, hstop⟩ := hsound.rangeOf_injective
    (Node.mem_preorder_trans (Node.mem_preorder_of_child hchild) harrow)
    (Node.mem_preorder_trans (Node.mem_preorder_of_child hchild') harrow') heq
  have hfull := hspelled.arrow arrow harrow hkind body hbody
  exact (hsound.spanned.parent_unique harrow harrow' hchild hchild' hfull.1
    (hspelled.arrow arrow' harrow' hkind' body' hbody').1 hfull.2 hstart hstop).2

end Document

end ViewCompiler.Script
