import ViewCompiler.Script.Node

/-!
# Walking a tree with a cursor

A cursor is a node together with the way back: for each ancestor up to the node the walk started at,
the ancestor itself and the siblings still to the right. It moves to the first child, to the next
sibling and to the parent, and cannot leave the tree it was started on.
-/

namespace ViewCompiler.Script

/-- One step of the way back: an ancestor and the siblings to the right of the way down from it. -/
structure Cursor.Frame where
  parent : Node
  right : List Node

structure Cursor where
  focus : Node
  frames : List Cursor.Frame

namespace Cursor

def start (n : Node) : Cursor := ⟨n, []⟩

def firstChild? (c : Cursor) : Option Cursor :=
  match c.focus.children with
  | [] => none
  | child :: others => some ⟨child, ⟨c.focus, others⟩ :: c.frames⟩

def nextSibling? (c : Cursor) : Option Cursor :=
  match c.frames with
  | ⟨parent, sibling :: others⟩ :: frames => some ⟨sibling, ⟨parent, others⟩ :: frames⟩
  | _ => none

def parent? (c : Cursor) : Option Cursor :=
  match c.frames with
  | ⟨parent, _⟩ :: frames => some ⟨parent, frames⟩
  | [] => none

/-- The steps a walk takes from reaching a node to having left all its descendants. -/
def span (n : Node) : Nat := 2 * n.size - 1

/-- The steps still ahead of a walk that is done with the focus. -/
def ahead : List Frame → Nat
  | [] => 0
  | frame :: frames => 2 * Node.size.total frame.right + 1 + ahead frames

theorem size_pos (n : Node) : 0 < n.size := by
  obtain ⟨kind, role, start, length, children⟩ := n
  rw [Node.size]; omega

theorem span_eq_of_firstChild? {c d : Cursor} (h : c.firstChild? = some d) :
    span d.focus + ahead d.frames + 1 = span c.focus + ahead c.frames := by
  obtain ⟨⟨kind, role, start, length, children⟩, frames⟩ := c
  cases children with
  | nil => simp [firstChild?] at h
  | cons child others =>
      simp only [firstChild?, Option.some.injEq] at h
      subst h
      have hpos := size_pos child
      simp only [ahead, span, Node.size, Node.size.total]
      omega

theorem ahead_of_nextSibling? {c d : Cursor} (h : c.nextSibling? = some d) :
    span d.focus + ahead d.frames + 1 = ahead c.frames := by
  obtain ⟨focus, frames⟩ := c
  match frames, h with
  | ⟨parent, sibling :: others⟩ :: frames, h =>
      simp only [nextSibling?, Option.some.injEq] at h
      subst h
      have hpos := size_pos sibling
      simp only [ahead, span, Node.size.total]
      omega

theorem ahead_of_parent? {c d : Cursor} (h : c.parent? = some d) : ahead d.frames < ahead c.frames := by
  obtain ⟨focus, frames⟩ := c
  match frames, h with
  | ⟨parent, right⟩ :: frames, h =>
      simp only [parent?, Option.some.injEq] at h
      subst h
      simp only [ahead]
      omega

/-- The nodes a cursor comes by. `done` says that the focus and its descendants have been visited: the
cursor then looks for the next sibling, and goes up when there is none. -/
def walk (c : Cursor) (done : Bool) : List Node :=
  if done then
    match h : c.nextSibling? with
    | some next =>
        have := ahead_of_nextSibling? h
        walk next false
    | none =>
        match h : c.parent? with
        | some up =>
            have := ahead_of_parent? h
            walk up true
        | none => []
  else
    c.focus :: match h : c.firstChild? with
      | some child =>
          have := span_eq_of_firstChild? h
          walk child false
      | none =>
          have := size_pos c.focus
          walk c true
  termination_by (if done then 0 else span c.focus) + ahead c.frames
  decreasing_by all_goals simp_all [span] <;> omega

end Cursor

/-- Every node of the tree in the order the cursor visits them. -/
def Node.walk (n : Node) : List Node := (Cursor.start n).walk false

end ViewCompiler.Script
