import ViewCompiler.Script.Cursor
import Mathlib.Data.List.Pairwise

/-!
# Nodes of a tree and where they lie

The nodes of a tree are the members of its `preorder`; the cursor visits the same list
(`walk_eq_preorder`). In a tree whose nodes cover their children, and whose siblings come one after the
other (`Spanned`), any two nodes lie one within the other or apart (`nested_or_apart`).
-/

namespace ViewCompiler.Script

/-! ### The walk of the cursor -/

/-- The nodes to the right of the way down to the focus, innermost first. -/
def Cursor.remaining : List Cursor.Frame → List Node
  | [] => []
  | frame :: frames => Node.preorder.all frame.right ++ remaining frames

theorem Node.preorder_eq (n : Node) : n.preorder = n :: Node.preorder.all n.children := by
  obtain ⟨kind, role, start, length, children⟩ := n
  rw [Node.preorder]

theorem Cursor.remaining_of_nextSibling? {c next : Cursor} (h : c.nextSibling? = some next) :
    remaining c.frames = next.focus.preorder ++ remaining next.frames := by
  obtain ⟨focus, frames⟩ := c
  match frames, h with
  | ⟨parent, sibling :: others⟩ :: frames, h =>
      simp only [nextSibling?, Option.some.injEq] at h
      subst h
      rw [remaining, remaining, Node.preorder.all, List.append_assoc]

theorem Cursor.remaining_of_parent? {c up : Cursor} (hlast : c.nextSibling? = none)
    (h : c.parent? = some up) : remaining c.frames = remaining up.frames := by
  obtain ⟨focus, frames⟩ := c
  match frames, hlast, h with
  | ⟨parent, []⟩ :: frames, _, h =>
      simp only [parent?, Option.some.injEq] at h
      subst h
      rw [remaining, Node.preorder.all, List.nil_append]
  | ⟨parent, sibling :: others⟩ :: frames, hlast, _ => simp [nextSibling?] at hlast

theorem Cursor.remaining_of_firstChild? {c child : Cursor} (h : c.firstChild? = some child) :
    Node.preorder.all c.focus.children ++ remaining c.frames =
      child.focus.preorder ++ remaining child.frames := by
  obtain ⟨⟨kind, role, start, length, children⟩, frames⟩ := c
  match children, h with
  | first :: others, h =>
      simp only [firstChild?, Option.some.injEq] at h
      subst h
      rw [remaining, Node.preorder.all, List.append_assoc]

/-- What a cursor still comes by: the tree below the focus unless that is done, and all to the right. -/
theorem Cursor.walk_eq (c : Cursor) (done : Bool) :
    c.walk done = (if done then [] else c.focus.preorder) ++ remaining c.frames := by
  fun_induction Cursor.walk c done with
  | case1 c next hnext _ ih => simpa [remaining_of_nextSibling? hnext] using ih
  | case2 c hlast up hup _ ih => simpa [remaining_of_parent? hlast hup] using ih
  | case3 c hlast hup =>
      obtain ⟨focus, frames⟩ := c
      cases frames with
      | nil => rfl
      | cons frame frames => simp [parent?] at hup
  | case4 c done hdone ihchild ih =>
      rw [if_neg hdone, Node.preorder_eq, List.cons_append]
      congr 1
      split
      · rename_i child hchild
        simpa [remaining_of_firstChild? hchild] using ihchild child hchild
      · rename_i hchild
        rw [ih]
        have hleaf : c.focus.children = [] := by
          rw [firstChild?] at hchild
          split at hchild
          · assumption
          · simp at hchild
        rw [hleaf]
        rfl

theorem Node.walk_eq_preorder (n : Node) : n.walk = n.preorder := by
  have h := Cursor.walk_eq (Cursor.start n) false
  simpa [Node.walk, Cursor.start, Cursor.remaining] using h

/-! ### The nodes of a tree -/

namespace Node

theorem sizeOf_lt_of_child {c n : Node} (h : c ∈ n.children) : sizeOf c < sizeOf n := by
  obtain ⟨kind, role, start, length, children⟩ := n
  have hlt := List.sizeOf_lt_of_mem h
  simp only [mk.sizeOf_spec] at hlt ⊢
  omega

theorem induction {motive : Node → Prop} (node : ∀ n, (∀ c ∈ n.children, motive c) → motive n) (n : Node) :
    motive n := by
  refine node n fun c hc => ?_
  exact induction node c
  termination_by sizeOf n
  decreasing_by exact sizeOf_lt_of_child hc

theorem mem_preorder_all {m : Node} {l : List Node} : m ∈ preorder.all l ↔ ∃ c ∈ l, m ∈ c.preorder := by
  induction l with
  | nil => simp [preorder.all]
  | cons c rest ih => simp [preorder.all, ih]

theorem mem_preorder {m n : Node} : m ∈ n.preorder ↔ m = n ∨ ∃ c ∈ n.children, m ∈ c.preorder := by
  rw [preorder_eq, List.mem_cons, mem_preorder_all]

theorem self_mem_preorder (n : Node) : n ∈ n.preorder := mem_preorder.2 (Or.inl rfl)

theorem mem_preorder_of_child {m n : Node} (h : m ∈ n.children) : m ∈ n.preorder :=
  mem_preorder.2 (Or.inr ⟨m, h, self_mem_preorder m⟩)

theorem mem_preorder_trans {l m n : Node} (hlm : l ∈ m.preorder) (hmn : m ∈ n.preorder) : l ∈ n.preorder := by
  induction n using induction with
  | node n ih =>
      rcases mem_preorder.1 hmn with rfl | ⟨c, hc, hmc⟩
      · exact hlm
      · exact mem_preorder.2 (Or.inr ⟨c, hc, ih c hc hmc⟩)

theorem role_of_child? {m n : Node} {role : Role} (h : n.child? role = some m) : m.role = some role := by
  have hfound := List.find?_some h
  exact of_decide_eq_true hfound

theorem mem_preorder_of_child? {m n : Node} {role : Role} (h : n.child? role = some m) : m ∈ n.preorder :=
  mem_preorder_of_child (List.mem_of_find?_eq_some h)

theorem mem_preorder_of_parts {m n : Node} (h : m ∈ n.parts) : m ∈ n.preorder :=
  mem_preorder_of_child (List.mem_filter.1 h).1

theorem sizeOf_le_of_mem_preorder {m n : Node} (h : m ∈ n.preorder) : sizeOf m ≤ sizeOf n := by
  induction n using induction with
  | node n ih =>
      rcases mem_preorder.1 h with rfl | ⟨c, hc, hmc⟩
      · exact Nat.le_refl _
      · have hbelow := ih c hc hmc
        have hchild := sizeOf_lt_of_child hc
        omega

/-! ### Where they lie -/

/-- Every node covers its children, which come one after the other. -/
structure Spanned (root : Node) : Prop where
  covers : ∀ n ∈ root.preorder, ∀ c ∈ n.children, n.start ≤ c.start ∧ c.stop ≤ n.stop
  ordered : ∀ n ∈ root.preorder, n.children.Pairwise fun c d => c.stop ≤ d.start

theorem Spanned.subtree {n root : Node} (h : root.Spanned) (hn : n ∈ root.preorder) : n.Spanned :=
  ⟨fun m hm => h.covers m (mem_preorder_trans hm hn), fun m hm => h.ordered m (mem_preorder_trans hm hn)⟩

theorem Spanned.child {c n : Node} (h : n.Spanned) (hc : c ∈ n.children) : c.Spanned :=
  h.subtree (mem_preorder_of_child hc)

theorem Spanned.covers_descendant {m n : Node} (h : n.Spanned) (hm : m ∈ n.preorder) :
    n.start ≤ m.start ∧ m.stop ≤ n.stop := by
  induction n using induction with
  | node n ih =>
      rcases mem_preorder.1 hm with rfl | ⟨c, hc, hmc⟩
      · exact ⟨Nat.le_refl _, Nat.le_refl _⟩
      · have hchild := h.covers n (self_mem_preorder n) c hc
        have hdescendant := ih c hc (h.child hc) hmc
        omega

theorem Spanned.siblings_apart {c d n : Node} (h : n.Spanned) (hc : c ∈ n.children) (hd : d ∈ n.children)
    (hne : c ≠ d) : c.stop ≤ d.start ∨ d.stop ≤ c.start := by
  have hapart : n.children.Pairwise fun c d => c.stop ≤ d.start ∨ d.stop ≤ c.start :=
    (h.ordered n (self_mem_preorder n)).imp Or.inl
  have : Std.Symm fun c d : Node => c.stop ≤ d.start ∨ d.stop ≤ c.start := ⟨fun _ _ => Or.symm⟩
  exact hapart.forall hc hd hne

/-- Two nodes of a tree lie one within the other, or one behind the other. -/
theorem Spanned.nested_or_apart {m n root : Node} (h : root.Spanned) (hm : m ∈ root.preorder)
    (hn : n ∈ root.preorder) : m ∈ n.preorder ∨ n ∈ m.preorder ∨ m.stop ≤ n.start ∨ n.stop ≤ m.start := by
  induction root using induction with
  | node root ih =>
      rcases mem_preorder.1 hm with rfl | ⟨c, hc, hmc⟩
      · exact Or.inr (Or.inl hn)
      rcases mem_preorder.1 hn with rfl | ⟨d, hd, hnd⟩
      · exact Or.inl hm
      by_cases heq : c = d
      · subst heq
        exact ih c hc (h.child hc) hmc hnd
      · -- Two children lie apart, and so does all below them.
        have hm' := (h.child hc).covers_descendant hmc
        have hn' := (h.child hd).covers_descendant hnd
        have hcd := h.siblings_apart hc hd heq
        omega

theorem Spanned.pairwise_all {l : List Node} (hspanned : ∀ c ∈ l, c.Spanned)
    (hchildren : ∀ c ∈ l, c.preorder.Pairwise fun m n => m = n → m.stop ≤ m.start)
    (hordered : l.Pairwise fun c d => c.stop ≤ d.start) :
    (preorder.all l).Pairwise fun m n => m = n → m.stop ≤ m.start := by
  induction l with
  | nil => exact List.Pairwise.nil
  | cons c rest ih =>
      rw [List.forall_mem_cons] at hspanned hchildren
      rw [List.pairwise_cons] at hordered
      rw [preorder.all, List.pairwise_append]
      refine ⟨hchildren.1, ih hspanned.2 hchildren.2 hordered.2, ?_⟩
      intro m hm n hn heq
      subst heq
      obtain ⟨d, hd, hmd⟩ := mem_preorder_all.1 hn
      have hfirst := hspanned.1.covers_descendant hm
      have hsecond := (hspanned.2 d hd).covers_descendant hmd
      have hapart := hordered.1 d hd
      omega

/-- A node that covers something stands at one place of its tree only. -/
theorem Spanned.pairwise_preorder {root : Node} (h : root.Spanned) :
    root.preorder.Pairwise fun m n => m = n → m.stop ≤ m.start := by
  induction root using induction with
  | node root ih =>
      rw [preorder_eq, List.pairwise_cons]
      constructor
      · intro n hn heq
        subst heq
        obtain ⟨c, hc, hbelow⟩ := mem_preorder_all.1 hn
        have hle := sizeOf_le_of_mem_preorder hbelow
        have hlt := sizeOf_lt_of_child hc
        omega
      · exact pairwise_all (fun c hc => h.child hc) (fun c hc => ih c hc (h.child hc))
          (h.ordered root (self_mem_preorder root))

end Node

end ViewCompiler.Script
