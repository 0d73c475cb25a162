import ViewCompiler.Script.Document
import ViewCompiler.Proofs.Script.Tree
import ViewCompiler.Proofs.Text.Bytes
import ViewCompiler.Proofs.Text.Ink

/-!
# Where the nodes of a document lie in its text

A document pairs a text with any tree. `Document.Sound` is what a tree read from the text promises about
it. The nodes then lie in the characters as they lie in the bytes: a node covers what is below it, and the
brackets of a parameter list are two characters that nothing below it reaches.
-/

namespace ViewCompiler.Script.Document

/-- The node stands between two characters, and what is below it lies between them too. -/
def Enclosed (doc : Document) (opening closing : Char) (n : Node) : Prop :=
  (doc.textOf n).head? = some opening ∧ (doc.textOf n).getLast? = some closing ∧
    ∀ c ∈ n.children, n.start < c.start ∧ c.stop < n.stop

instance (doc : Document) (opening closing : Char) (n : Node) : Decidable (Enclosed doc opening closing n) :=
  inferInstanceAs (Decidable (_ ∧ _ ∧ _))

/-- The tree addresses the text at character boundaries, and a parameter list stands in brackets. The
brackets are no nodes, but they are siblings of the parameters in the text, which lie between them. -/
structure Sound (doc : Document) : Prop where
  spanned : doc.root.Spanned
  boundary : ∀ n ∈ doc.root.preorder, Text.IsBoundary doc.text n.start ∧ Text.IsBoundary doc.text n.stop
  bracketed : ∀ n ∈ doc.root.preorder, n.role = some .parameters → Enclosed doc '(' ')' n

variable {doc : Document} {c m n : Node} {opening closing : Char}

theorem rangeOf_le_length (doc : Document) (n : Node) : (doc.rangeOf n).2 ≤ doc.text.length :=
  Text.charOffset_le_length _ _

theorem isAllBlank_lineIndent (doc : Document) (offset : Nat) : (doc.lineIndent offset).isAllBlank = true := by
  apply List.all_eq_true.2
  intro c hc
  have hlayout := List.mem_takeWhile_imp hc
  exact Text.isBlank_of_layout hlayout

theorem isAllBlank_indentOf (doc : Document) (n : Node) : (doc.indentOf n).isAllBlank = true :=
  doc.isAllBlank_lineIndent _

theorem Sound.textOf_eq (hsound : doc.Sound) (hn : n ∈ doc.root.preorder) :
    doc.textOf n = doc.text.slice (doc.rangeOf n).1 (doc.rangeOf n).2 :=
  Text.byteSlice_eq_slice (hsound.boundary n hn).1 n.start_le_stop

theorem Sound.length_textOf (hsound : doc.Sound) (hn : n ∈ doc.root.preorder) :
    (doc.textOf n).length = (doc.rangeOf n).2 - (doc.rangeOf n).1 := by
  rw [hsound.textOf_eq hn, Text.slice, List.length_drop,
    List.length_take_of_le (rangeOf_le_length doc n)]

theorem Sound.rangeOf_covers (hsound : doc.Sound) (hn : n ∈ doc.root.preorder) (hm : m ∈ n.preorder) :
    (doc.rangeOf n).1 ≤ (doc.rangeOf m).1 ∧ (doc.rangeOf m).2 ≤ (doc.rangeOf n).2 := by
  obtain ⟨hstart, hstop⟩ := (hsound.spanned.subtree hn).covers_descendant hm
  exact ⟨Text.charOffset_mono _ hstart, Text.charOffset_mono _ hstop⟩

theorem Enclosed.two_le (h : Enclosed doc opening closing n) (hne : opening ≠ closing) (hsound : doc.Sound)
    (hn : n ∈ doc.root.preorder) : (doc.rangeOf n).1 + 2 ≤ (doc.rangeOf n).2 := by
  obtain ⟨hopen, hclose, -⟩ := h
  have hlength := hsound.length_textOf hn
  match htext : doc.textOf n with
  | [] => simp [htext] at hopen
  | [c] =>
      -- A single character would have to be both brackets.
      simp only [htext, List.head?_cons, List.getLast?_singleton, Option.some.injEq] at hopen hclose
      exact absurd (hopen.symm.trans hclose) hne
  | c :: d :: rest =>
      simp only [htext, List.length_cons] at hlength
      omega

theorem Enclosed.between_child (h : Enclosed doc opening closing n) (hsound : doc.Sound) (hn : n ∈ doc.root.preorder)
    (hc : c ∈ n.children) : (doc.rangeOf n).1 < (doc.rangeOf c).1 ∧ (doc.rangeOf c).2 < (doc.rangeOf n).2 := by
  obtain ⟨hstart, hstop⟩ := h.2.2 c hc
  have hroot := Node.mem_preorder_trans (Node.mem_preorder_of_child hc) hn
  exact ⟨Text.charOffset_lt (hsound.boundary c hroot).1 hstart, Text.charOffset_lt (hsound.boundary n hn).2 hstop⟩

theorem Enclosed.between (h : Enclosed doc opening closing n) (hsound : doc.Sound) (hn : n ∈ doc.root.preorder)
    (hm : m ∈ n.preorder) (hne : m ≠ n) :
    (doc.rangeOf n).1 < (doc.rangeOf m).1 ∧ (doc.rangeOf m).2 < (doc.rangeOf n).2 := by
  rcases Node.mem_preorder.1 hm with rfl | ⟨c, hc, hmc⟩
  · exact absurd rfl hne
  have hbetween := h.between_child hsound hn hc
  have hcovers := hsound.rangeOf_covers (Node.mem_preorder_trans (Node.mem_preorder_of_child hc) hn) hmc
  omega

theorem Sound.rangeOf_brackets (hsound : doc.Sound) (hn : n ∈ doc.root.preorder)
    (hrole : n.role = some .parameters) : (doc.rangeOf n).1 + 2 ≤ (doc.rangeOf n).2 :=
  (hsound.bracketed n hn hrole).two_le (by decide) hsound hn

/-- What is below a parameter list lies between its brackets. -/
theorem Sound.rangeOf_between_brackets (hsound : doc.Sound) (hn : n ∈ doc.root.preorder)
    (hrole : n.role = some .parameters) (hm : m ∈ n.preorder) (hne : m ≠ n) :
    (doc.rangeOf n).1 < (doc.rangeOf m).1 ∧ (doc.rangeOf m).2 < (doc.rangeOf n).2 :=
  (hsound.bracketed n hn hrole).between hsound hn hm hne

end ViewCompiler.Script.Document
