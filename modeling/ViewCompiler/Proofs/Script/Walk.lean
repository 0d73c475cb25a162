import ViewCompiler.Proofs.Script.Address

/-!
# The walk over a tree, turn by turn

A walk is a loop around a cursor and a flag. The flag says whether the node under the cursor is done with; in each turn
the cursor makes at most one of three moves, and the flag is set by which of them succeed. `Moves.Ends` is that loop for
any cursor whatsoever. If the moves are those of a tree (`Moves.Within`), the loop ends, and it comes by every address
of the tree once and in order. What a turn does is said for each address (`Within.down` and the four turns beside it);
from that follows what the loop does below an address, by induction on the tree (`Within.covers`).

The cursor of `Script.Cursor` makes such moves (`Cursor.within_moves`).
-/

namespace ViewCompiler.Script

/-- A cursor with states `σ`: the node under it, and three moves that may fail. -/
structure Moves (σ : Type) where
  node : σ → Node
  firstChild? : σ → Option σ
  nextSibling? : σ → Option σ
  parent? : σ → Option σ

namespace Moves

variable {σ : Type} {m : Moves σ} {n : Node} {address : σ → Address} {a : Address} {i : Nat} {later : List Address}

/-- The loop ends if it is started with the cursor in a state, and visits the nodes under the cursor in a list of states
until then. The flag says that the node under the cursor has been visited, and all that is below it. -/
inductive Ends (m : Moves σ) : σ → Bool → List σ → Prop
  | down {s child : σ} {visited : List σ} (hchild : m.firstChild? s = some child)
      (hrest : Ends m child false visited) : Ends m s false (s :: visited)
  | leaf {s : σ} {visited : List σ} (hleaf : m.firstChild? s = none) (hrest : Ends m s true visited) :
      Ends m s false (s :: visited)
  | next {s sibling : σ} {visited : List σ} (hsibling : m.nextSibling? s = some sibling)
      (hrest : Ends m sibling false visited) : Ends m s true visited
  | up {s parent : σ} {visited : List σ} (hlast : m.nextSibling? s = none) (hparent : m.parent? s = some parent)
      (hrest : Ends m parent true visited) : Ends m s true visited
  | stop {s : σ} (hlast : m.nextSibling? s = none) (hroot : m.parent? s = none) : Ends m s true []

/-- The moves are those of a tree. Every state of the cursor has an address in it; a move that succeeds leads to the
first child, to the next sibling or to the parent, and one that fails does so because there is none. The root of the
tree has neither a sibling nor a parent here, whatever it is part of. -/
structure Within (m : Moves σ) (n : Node) (address : σ → Address) : Prop where
  at_address : ∀ s, n.at? (address s) = some (m.node s)
  firstChild_some : ∀ s child, m.firstChild? s = some child → address child = address s ++ [0]
  firstChild_none : ∀ s, m.firstChild? s = none → n.at? (address s ++ [0]) = none
  nextSibling_some : ∀ s sibling, m.nextSibling? s = some sibling →
    ∃ a i, address s = a ++ [i] ∧ address sibling = a ++ [i + 1]
  nextSibling_none : ∀ s a i, m.nextSibling? s = none → address s = a ++ [i] → n.at? (a ++ [i + 1]) = none
  parent_some : ∀ s parent, m.parent? s = some parent → ∃ i, address s = address parent ++ [i]
  parent_none : ∀ s, m.parent? s = none → address s = []

theorem Ends.unique {s : σ} {done : Bool} {visited visited' : List σ} (h : m.Ends s done visited)
    (h' : m.Ends s done visited') : visited = visited' := by
  induction h generalizing visited' with
  | down hchild _ ih =>
      cases h' with
      | down hchild' hrest' =>
          cases hchild.symm.trans hchild'
          rw [ih hrest']
      | leaf hleaf' _ => cases hchild.symm.trans hleaf'
  | leaf hleaf _ ih =>
      cases h' with
      | down hchild' _ => cases hleaf.symm.trans hchild'
      | leaf _ hrest' => rw [ih hrest']
  | next hsibling _ ih =>
      cases h' with
      | next hsibling' hrest' =>
          cases hsibling.symm.trans hsibling'
          exact ih hrest'
      | up hlast' _ _ => cases hsibling.symm.trans hlast'
      | stop hlast' _ => cases hsibling.symm.trans hlast'
  | up hlast hparent _ ih =>
      cases h' with
      | next hsibling' _ => cases hlast.symm.trans hsibling'
      | up _ hparent' hrest' =>
          cases hparent.symm.trans hparent'
          exact ih hrest'
      | stop _ hroot' => cases hparent.symm.trans hroot'
  | stop hlast hroot =>
      cases h' with
      | next hsibling' _ => cases hlast.symm.trans hsibling'
      | up _ hparent' _ => cases hroot.symm.trans hparent'
      | stop _ _ => rfl

/-! ### One turn -/

/-- Whenever the cursor is at an address, the loop ends, and comes by the addresses `later` until then. -/
def EndsAt (m : Moves σ) (address : σ → Address) (a : Address) (done : Bool) (later : List Address) : Prop :=
  ∀ s, address s = a → ∃ visited, m.Ends s done visited ∧ visited.map address = later

theorem Within.down (h : m.Within n address) (hchild : (n.at? (a ++ [0])).isSome = true)
    (hrest : m.EndsAt address (a ++ [0]) false later) : m.EndsAt address a false (a :: later) := by
  intro s hs
  subst hs
  cases hmove : m.firstChild? s with
  | none => simp [h.firstChild_none s hmove] at hchild
  | some child =>
      obtain ⟨visited, hends, rfl⟩ := hrest child (h.firstChild_some s child hmove)
      exact ⟨s :: visited, .down hmove hends, rfl⟩

theorem Within.leaf (h : m.Within n address) (hleaf : n.at? (a ++ [0]) = none)
    (hrest : m.EndsAt address a true later) : m.EndsAt address a false (a :: later) := by
  intro s hs
  subst hs
  cases hmove : m.firstChild? s with
  | none =>
      obtain ⟨visited, hends, rfl⟩ := hrest s rfl
      exact ⟨s :: visited, .leaf hmove hends, rfl⟩
  | some child =>
      have hsome := h.at_address child
      rw [h.firstChild_some s child hmove, hleaf] at hsome
      cases hsome

theorem Within.address_sibling (h : m.Within n address) {s sibling : σ} (hs : address s = a ++ [i])
    (hmove : m.nextSibling? s = some sibling) : address sibling = a ++ [i + 1] := by
  obtain ⟨b, j, hb, hnext⟩ := h.nextSibling_some s sibling hmove
  obtain ⟨rfl, hij⟩ := List.append_inj' (hs.symm.trans hb) rfl
  cases hij
  exact hnext

theorem Within.next (h : m.Within n address) (hsibling : (n.at? (a ++ [i + 1])).isSome = true)
    (hrest : m.EndsAt address (a ++ [i + 1]) false later) : m.EndsAt address (a ++ [i]) true later := by
  intro s hs
  cases hmove : m.nextSibling? s with
  | none => simp [h.nextSibling_none s a i hmove hs] at hsibling
  | some sibling =>
      obtain ⟨visited, hends, haddresses⟩ := hrest sibling (h.address_sibling hs hmove)
      exact ⟨visited, .next hmove hends, haddresses⟩

theorem Within.up (h : m.Within n address) (hlast : n.at? (a ++ [i + 1]) = none)
    (hrest : m.EndsAt address a true later) : m.EndsAt address (a ++ [i]) true later := by
  intro s hs
  cases hmove : m.nextSibling? s with
  | some sibling =>
      have hsome := h.at_address sibling
      rw [h.address_sibling hs hmove, hlast] at hsome
      cases hsome
  | none =>
      cases hparent : m.parent? s with
      | none => simp [h.parent_none s hparent] at hs
      | some parent =>
          obtain ⟨j, hj⟩ := h.parent_some s parent hparent
          obtain ⟨haddress, -⟩ := List.append_inj' (hj.symm.trans hs) rfl
          obtain ⟨visited, hends, haddresses⟩ := hrest parent haddress
          exact ⟨visited, .up hmove hparent hends, haddresses⟩

theorem Within.stop (h : m.Within n address) : m.EndsAt address [] true [] := by
  intro s hs
  cases hmove : m.nextSibling? s with
  | some sibling =>
      obtain ⟨a, i, ha, -⟩ := h.nextSibling_some s sibling hmove
      simp [hs] at ha
  | none =>
      cases hparent : m.parent? s with
      | some parent =>
          obtain ⟨i, hi⟩ := h.parent_some s parent hparent
          simp [hs] at hi
      | none => exact ⟨[], .stop hmove hparent, rfl⟩

/-! ### All turns -/

/-- Wherever the node `c` stands in the tree: if the loop ends once it is done with that address, it ends when it gets
there, and comes by the addresses below first. -/
def Covers (m : Moves σ) (n : Node) (address : σ → Address) (c : Node) : Prop :=
  ∀ a later, n.at? a = some c → m.EndsAt address a true later →
    m.EndsAt address a false (c.addresses.map (a ++ ·) ++ later)

theorem Within.siblings (h : m.Within n address) {parent : Node} (hparent : n.at? a = some parent)
    (hback : m.EndsAt address a true later) (hcovers : ∀ c ∈ parent.children, m.Covers n address c)
    (left : List Node) (c : Node) (right : List Node) (hchildren : parent.children = left ++ c :: right) :
    m.EndsAt address (a ++ [left.length]) false
      ((Node.addressesFrom left.length (c :: right)).map (a ++ ·) ++ later) := by
  have hat : ∀ i, n.at? (a ++ [i]) = parent.children[i]? := fun i => by
    rw [Node.at?_concat, hparent, Option.bind_some]
  have hfirst : (Node.addressesFrom left.length (c :: right)).map (a ++ ·) ++ later =
      c.addresses.map (a ++ [left.length] ++ ·) ++
        ((Node.addressesFrom (left.length + 1) right).map (a ++ ·) ++ later) := by
    simp [Node.addressesFrom_cons, Function.comp_def]
  have hc : m.Covers n address c := hcovers c (by simp [hchildren])
  rw [hfirst]
  apply hc _ _ (by simp [hat, hchildren])
  -- Done with this sibling, the loop goes on to the next one, or back to the parent if there is none.
  cases right with
  | nil => exact h.up (by simp [hat, hchildren]) hback
  | cons d right =>
      have hlater := siblings h hparent hback hcovers (left ++ [c]) d right (by simp [hchildren])
      rw [List.length_append, List.length_singleton] at hlater
      exact h.next (by simp [hat, hchildren]) hlater

theorem Within.covers (h : m.Within n address) (c : Node) : m.Covers n address c := by
  induction c using Node.induction with
  | node c ih =>
      intro a later hc hdone
      rw [Node.addresses_eq, List.map_cons, List.append_nil, List.cons_append]
      have hat : n.at? (a ++ [0]) = c.children[0]? := by rw [Node.at?_concat, hc, Option.bind_some]
      cases hchildren : c.children with
      | nil => exact h.leaf (by simp [hat, hchildren]) hdone
      | cons first others => exact h.down (by simp [hat, hchildren]) (h.siblings hc hdone ih [] first others hchildren)

/-- Started at the root, the loop ends, and it has come by all addresses in order. -/
theorem Within.ends (h : m.Within n address) {s : σ} (hs : address s = []) :
    ∃ visited, m.Ends s false visited ∧ visited.map address = n.addresses := by
  simpa using h.covers n [] [] rfl h.stop s hs

theorem Within.map_node (h : m.Within n address) {visited : List σ} (haddresses : visited.map address = n.addresses) :
    visited.map m.node = n.preorder := by
  have hnodes : (visited.map m.node).map some = n.preorder.map some := by
    rw [← Node.map_at?_addresses, ← haddresses, List.map_map, List.map_map]
    exact List.map_congr_left fun s _ => (h.at_address s).symm
  exact (List.map_inj_right fun _ _ => Option.some.inj).1 hnodes

end Moves

/-! ### The cursor -/

namespace Cursor

variable {n focus : Node} {frames : List Frame} {c d : Cursor}

/-- The frames are the way from a node back to the root. -/
def Leads (root : Node) : Node → List Frame → Prop
  | focus, [] => focus = root
  | focus, frame :: frames =>
      (∃ left, frame.parent.children = left ++ focus :: frame.right) ∧ Leads root frame.parent frames

/-- A cursor in a tree. -/
def Inside (n : Node) : Type := { c : Cursor // Leads n c.focus c.frames }

/-- Which child of the parent the way goes down to. -/
def Frame.index (frame : Frame) : Nat := frame.parent.children.length - frame.right.length - 1

theorem Frame.index_eq {frame : Frame} {left : List Node} (h : frame.parent.children = left ++ focus :: frame.right) :
    frame.index = left.length := by
  rw [index, h, List.length_append, List.length_cons]
  omega

def addressOf (frames : List Frame) : Address := (frames.map Frame.index).reverse

theorem addressOf_cons (frame : Frame) (frames : List Frame) :
    addressOf (frame :: frames) = addressOf frames ++ [frame.index] := by
  rw [addressOf, List.map_cons, List.reverse_cons, addressOf]

theorem Leads.at_address (h : Leads n focus frames) : n.at? (addressOf frames) = some focus := by
  induction frames generalizing focus with
  | nil =>
      cases h
      rfl
  | cons frame frames ih =>
      obtain ⟨⟨left, hleft⟩, hparent⟩ := h
      rw [addressOf_cons, Node.at?_concat, ih hparent, Option.bind_some, Frame.index_eq hleft, hleft]
      simp

theorem Leads.firstChild (h : Leads n c.focus c.frames) (hmove : c.firstChild? = some d) :
    Leads n d.focus d.frames ∧ addressOf d.frames = addressOf c.frames ++ [0] := by
  unfold firstChild? at hmove
  split at hmove
  · cases hmove
  · rename_i child others hchildren
    cases hmove
    have hfirst : c.focus.children = [] ++ child :: others := hchildren
    refine ⟨⟨⟨[], hfirst⟩, h⟩, ?_⟩
    rw [addressOf_cons, Frame.index_eq hfirst, List.length_nil]

theorem Leads.nextSibling (h : Leads n c.focus c.frames) (hmove : c.nextSibling? = some d) :
    Leads n d.focus d.frames ∧ ∃ a i, addressOf c.frames = a ++ [i] ∧ addressOf d.frames = a ++ [i + 1] := by
  obtain ⟨focus, frames⟩ := c
  match frames, h, hmove with
  | ⟨parent, sibling :: others⟩ :: frames, ⟨⟨left, hleft⟩, hparent⟩, hmove =>
      cases hmove
      have hnext : parent.children = (left ++ [focus]) ++ sibling :: others := hleft.trans (List.append_cons _ _ _)
      refine ⟨⟨⟨left ++ [focus], hnext⟩, hparent⟩, addressOf frames, left.length, ?_, ?_⟩
      · rw [addressOf_cons, Frame.index_eq hleft]
      · rw [addressOf_cons, Frame.index_eq hnext, List.length_append, List.length_singleton]

theorem Leads.parent (h : Leads n c.focus c.frames) (hmove : c.parent? = some d) :
    Leads n d.focus d.frames ∧ ∃ i, addressOf c.frames = addressOf d.frames ++ [i] := by
  obtain ⟨focus, frames⟩ := c
  match frames, h, hmove with
  | frame :: frames, ⟨_, hparent⟩, hmove =>
      cases hmove
      exact ⟨hparent, frame.index, addressOf_cons frame frames⟩

theorem Leads.no_child (h : Leads n c.focus c.frames) (hmove : c.firstChild? = none) :
    n.at? (addressOf c.frames ++ [0]) = none := by
  unfold firstChild? at hmove
  split at hmove
  · rename_i hchildren
    rw [Node.at?_concat, h.at_address, Option.bind_some, hchildren]
    rfl
  · cases hmove

theorem Leads.no_sibling {a : Address} {i : Nat} (h : Leads n c.focus c.frames) (hmove : c.nextSibling? = none)
    (haddress : addressOf c.frames = a ++ [i]) : n.at? (a ++ [i + 1]) = none := by
  obtain ⟨focus, frames⟩ := c
  match frames, h, hmove with
  | [], _, _ => simp [addressOf] at haddress
  | ⟨parent, []⟩ :: frames, ⟨⟨left, hleft⟩, hparent⟩, _ =>
      rw [addressOf_cons] at haddress
      obtain ⟨rfl, hindex⟩ := List.append_inj' haddress rfl
      cases hindex
      rw [Node.at?_concat, Leads.at_address hparent, Option.bind_some, Frame.index_eq hleft, hleft]
      simp

/-- The moves of the cursor, which stays in its tree. -/
def moves (n : Node) : Moves (Inside n) where
  node c := c.1.focus
  firstChild? c := c.1.firstChild?.pmap Subtype.mk fun _ hmove => (c.2.firstChild hmove).1
  nextSibling? c := c.1.nextSibling?.pmap Subtype.mk fun _ hmove => (c.2.nextSibling hmove).1
  parent? c := c.1.parent?.pmap Subtype.mk fun _ hmove => (c.2.parent hmove).1

theorem within_moves (n : Node) : (moves n).Within n fun c => addressOf c.1.frames where
  at_address c := c.2.at_address
  firstChild_some c child hmove := by
    obtain ⟨d, -, hd, rfl⟩ := Option.pmap_eq_some_iff.1 hmove
    exact (c.2.firstChild hd).2
  firstChild_none c hmove := c.2.no_child (Option.pmap_eq_none_iff.1 hmove)
  nextSibling_some c sibling hmove := by
    obtain ⟨d, -, hd, rfl⟩ := Option.pmap_eq_some_iff.1 hmove
    exact (c.2.nextSibling hd).2
  nextSibling_none c a i hmove haddress := c.2.no_sibling (Option.pmap_eq_none_iff.1 hmove) haddress
  parent_some c parent hmove := by
    obtain ⟨d, -, hd, rfl⟩ := Option.pmap_eq_some_iff.1 hmove
    exact (c.2.parent hd).2
  parent_none c hmove := by
    have hroot := Option.pmap_eq_none_iff.1 hmove
    obtain ⟨⟨focus, frames⟩, _⟩ := c
    cases frames with
    | nil => rfl
    | cons frame frames => cases hroot

end Cursor

/-- The loop around a cursor that is started at the root of a tree and moves within it comes to an end, and it visits
every address of the tree once and nothing else, in lexicographic order. That is the recursive preorder, which is what a
tree is walked in. -/
theorem walk_once_in_order {σ : Type} (m : Moves σ) (n : Node) (address : σ → Address) (h : m.Within n address) (s : σ)
    (hs : address s = []) :
    ∃ visited : List σ,
      (∀ visited', m.Ends s false visited' ↔ visited' = visited) ∧
        visited.map m.node = n.walk ∧ n.walk = n.preorder ∧
        (visited.map address).Pairwise (List.Lex (· < ·)) ∧
        ∀ a, a ∈ visited.map address ↔ (n.at? a).isSome = true := by
  obtain ⟨visited, hends, haddresses⟩ := h.ends hs
  have hwalk := n.walk_eq_preorder
  refine ⟨visited, fun visited' => ⟨fun hends' => hends'.unique hends, fun heq => heq ▸ hends⟩, ?_, hwalk, ?_, ?_⟩
  · rw [hwalk, h.map_node haddresses]
  · rw [haddresses]
    exact Node.reach_pairwise _ n
  · intro a
    rw [haddresses, Node.mem_addresses]

/-- Two nodes without text behind one another are equal, and are visited at an address each. -/
theorem walk_once_in_order_equal_siblings :
    let name : Node := ⟨.identifier, none, 0, 1, []⟩
    let call : Node := ⟨.call, none, 0, 3, [name]⟩
    let blank : Node := ⟨.other, none, 3, 0, []⟩
    let n : Node := ⟨.other, none, 0, 3, [call, blank, blank]⟩
    ∃ visited : List (Cursor.Inside n),
      (Cursor.moves n).Ends ⟨Cursor.start n, rfl⟩ false visited ∧
        visited.map (·.1.focus) = [n, call, name, blank, blank] ∧
        [2] ∈ visited.map (fun c => Cursor.addressOf c.1.frames) ∧
        [3] ∉ visited.map fun c => Cursor.addressOf c.1.frames := by
  intro name call blank n
  obtain ⟨visited, hends, hnodes, hpreorder, -, haddresses⟩ :=
    walk_once_in_order (Cursor.moves n) n _ (Cursor.within_moves n) ⟨Cursor.start n, rfl⟩ rfl
  refine ⟨visited, (hends visited).2 rfl, hnodes.trans (hpreorder.trans rfl), (haddresses [2]).2 rfl, fun hmem => ?_⟩
  cases (haddresses [3]).1 hmem

end ViewCompiler.Script
