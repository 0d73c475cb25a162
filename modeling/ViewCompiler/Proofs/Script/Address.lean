import ViewCompiler.Proofs.Script.Tree
import Mathlib.Data.List.Nodup

/-!
# Addresses in a tree

Two nodes of a tree may be alike in everything, so a node is told apart by its address: the numbers of the
children on the way down to it. `reach` is a traversal that enters some children and passes by others, with
the addresses of the nodes it comes by. It comes by every node that no child on the way keeps it from
(`mem_reach`), and by their addresses in lexicographic order (`reach_pairwise`), so by none twice; the traversal that
enters every child is `preorder`.
-/

namespace ViewCompiler.Script

abbrev Address := List Nat

namespace Node

/-- The node at an address below a node. -/
def at? : Node → Address → Option Node
  | n, [] => some n
  | n, i :: rest => n.children[i]?.bind fun c => c.at? rest

/-- The number of the child with the given role. -/
def place (n : Node) (role : Role) : Nat := n.children.findIdx (·.role = some role)

/-- The nodes that a traversal comes by when it enters only the children that `enters` admits. -/
def reach (enters : Node → Bool) : Node → List (Address × Node)
  | ⟨kind, role, start, length, children⟩ => ([], ⟨kind, role, start, length, children⟩) :: below 0 children
where
  below (i : Nat) : List Node → List (Address × Node)
  | [] => []
  | c :: rest => (if enters c then (reach enters c).map fun (a, m) => (i :: a, m) else []) ++ below (i + 1) rest

variable {enters : Node → Bool} {m n : Node} {a b : Address}

theorem at?_append (n : Node) (a b : Address) : n.at? (a ++ b) = (n.at? a).bind (·.at? b) := by
  induction a generalizing n with
  | nil => rfl
  | cons i rest ih =>
      simp only [List.cons_append, at?]
      cases n.children[i]? with
      | none => rfl
      | some c => exact ih c

theorem at?_append_of_eq (h : n.at? a = some m) (b : Address) : n.at? (a ++ b) = m.at? b := by
  rw [at?_append, h, Option.bind_some]

theorem child?_eq_getElem? (n : Node) (role : Role) : n.child? role = n.children[n.place role]? :=
  List.find?_eq_getElem?_findIdx

theorem at?_place {role : Role} (h : n.child? role = some m) (rest : Address) :
    n.at? (n.place role :: rest) = m.at? rest := by
  rw [at?, ← child?_eq_getElem?, h, Option.bind_some]

theorem at?_child {i : Nat} (h : n.children[i]? = some m) (rest : Address) : n.at? (i :: rest) = m.at? rest := by
  rw [at?, h, Option.bind_some]

/-! ### What a traversal comes by -/

theorem reach_eq (n : Node) : n.reach enters = ([], n) :: reach.below enters 0 n.children := by
  obtain ⟨kind, role, start, length, children⟩ := n
  rw [reach]

theorem mem_below {i : Nat} {l : List Node} : (a, m) ∈ reach.below enters i l ↔
    ∃ j c rest, a = (i + j) :: rest ∧ l[j]? = some c ∧ enters c = true ∧ (rest, m) ∈ c.reach enters := by
  induction l generalizing i with
  | nil => simp [reach.below]
  | cons d l ih =>
      rw [reach.below, List.mem_append, ih]
      constructor
      · rintro (h | ⟨j, c, rest, rfl, hc, henters, hrest⟩)
        · split at h
          · rename_i henters
            obtain ⟨⟨rest, x⟩, hx, heq⟩ := List.mem_map.1 h
            simp only [Prod.mk.injEq] at heq
            obtain ⟨rfl, rfl⟩ := heq
            exact ⟨0, d, rest, rfl, rfl, henters, hx⟩
          · simp at h
        · exact ⟨j + 1, c, rest, by rw [Nat.add_assoc, Nat.add_comm 1 j], hc, henters, hrest⟩
      · rintro ⟨j, c, rest, rfl, hc, henters, hrest⟩
        cases j with
        | zero =>
            obtain rfl : d = c := Option.some.inj hc
            rw [if_pos henters]
            exact Or.inl (List.mem_map.2 ⟨(rest, m), hrest, rfl⟩)
        | succ j => exact Or.inr ⟨j, c, rest, by rw [Nat.add_assoc, Nat.add_comm 1 j], hc, henters, hrest⟩

/-- The children on the way to an address are all admitted. -/
def Open (enters : Node → Bool) (n : Node) (a : Address) : Prop :=
  ∀ b c, b ≠ [] → b <+: a → n.at? b = some c → enters c = true

theorem open_nil : Open enters n [] := by
  intro b c hne hway _
  exact absurd (List.prefix_nil.1 hway) hne

theorem open_cons {i : Nat} {c : Node} {rest : Address} (hc : n.children[i]? = some c) :
    Open enters n (i :: rest) ↔ enters c = true ∧ Open enters c rest := by
  constructor
  · intro hopen
    refine ⟨hopen [i] c (by simp) (by simp) (at?_child hc []), ?_⟩
    intro b d hne hway hd
    exact hopen (i :: b) d (by simp) (List.cons_prefix_cons.2 ⟨rfl, hway⟩) (by rw [at?_child hc, hd])
  · rintro ⟨henters, hopen⟩ b d hne hway hd
    cases b with
    | nil => exact absurd rfl hne
    | cons j b =>
        obtain ⟨rfl, hrest⟩ := List.cons_prefix_cons.1 hway
        rw [at?_child hc] at hd
        by_cases hb : b = []
        · subst hb
          obtain rfl : c = d := Option.some.inj hd
          exact henters
        · exact hopen b d hb hrest hd

theorem mem_reach : (a, m) ∈ n.reach enters ↔ n.at? a = some m ∧ Open enters n a := by
  induction n using induction generalizing a with
  | node n ih =>
      rw [reach_eq, List.mem_cons, mem_below]
      cases a with
      | nil =>
          constructor
          · rintro (h | ⟨j, c, rest, h, -⟩)
            · rw [(Prod.mk.inj h).2]
              exact ⟨rfl, open_nil⟩
            · simp at h
          · rintro ⟨h, -⟩
            rw [Option.some.inj h]
            exact Or.inl rfl
      | cons i rest =>
          cases hc : n.children[i]? with
          | none => simp [at?, hc]
          | some c =>
              have hih := ih c (List.mem_of_getElem? hc) (a := rest)
              rw [at?_child hc, open_cons hc]
              constructor
              · rintro (h | ⟨j, d, rest', heq, hd, henters, hrest⟩)
                · simp at h
                · simp only [Nat.zero_add, List.cons.injEq] at heq
                  obtain ⟨rfl, rfl⟩ := heq
                  obtain rfl : c = d := Option.some.inj (hc.symm.trans hd)
                  exact ⟨(hih.1 hrest).1, henters, (hih.1 hrest).2⟩
              · rintro ⟨hat, henters, hopen⟩
                exact Or.inr ⟨i, c, rest, by rw [Nat.zero_add], hc, henters, hih.2 ⟨hat, hopen⟩⟩

theorem pairwise_below {l : List Node} (hl : ∀ c ∈ l, ((c.reach enters).map Prod.fst).Pairwise (List.Lex (· < ·)))
    (i : Nat) : ((reach.below enters i l).map Prod.fst).Pairwise (List.Lex (· < ·)) := by
  induction l generalizing i with
  | nil => simp [reach.below]
  | cons c l ih =>
      rw [reach.below, List.map_append, List.pairwise_append]
      refine ⟨?_, ih (fun d hd => hl d (List.mem_cons_of_mem c hd)) (i + 1), ?_⟩
      · split
        · rw [List.map_map, List.pairwise_map]
          exact (List.pairwise_map.1 (hl c List.mem_cons_self)).imp List.Lex.cons
        · simp
      · -- Addresses below different children start with different numbers.
        intro x hx y hy
        obtain ⟨⟨y, d⟩, hd, rfl⟩ := List.mem_map.1 hy
        obtain ⟨j, -, rest, rfl, -⟩ := mem_below.1 hd
        split at hx
        · simp only [List.map_map, List.mem_map, Function.comp_apply] at hx
          obtain ⟨z, -, rfl⟩ := hx
          exact List.Lex.rel (by omega)
        · simp at hx

/-- A node comes before what is below it, and all that is below one child before all that is below a later one. -/
theorem reach_pairwise (enters : Node → Bool) (n : Node) :
    ((n.reach enters).map Prod.fst).Pairwise (List.Lex (· < ·)) := by
  induction n using induction with
  | node n ih =>
      rw [reach_eq, List.map_cons, List.pairwise_cons]
      refine ⟨?_, pairwise_below ih 0⟩
      intro a ha
      obtain ⟨⟨x, d⟩, hx, rfl⟩ := List.mem_map.1 ha
      obtain ⟨j, -, rest, rfl, -⟩ := mem_below.1 hx
      exact List.Lex.nil

theorem reach_nodup (enters : Node → Bool) (n : Node) : ((n.reach enters).map Prod.fst).Nodup := by
  refine (reach_pairwise enters n).imp ?_
  rintro a _ hlt rfl
  exact List.lex_irrefl Nat.lt_irrefl a hlt

theorem map_snd_below {l : List Node} (hl : ∀ c ∈ l, (c.reach fun _ => true).map Prod.snd = c.preorder)
    (i : Nat) : (reach.below (fun _ => true) i l).map Prod.snd = preorder.all l := by
  induction l generalizing i with
  | nil => rfl
  | cons c l ih =>
      rw [reach.below, preorder.all, List.map_append, ih fun d hd => hl d (List.mem_cons_of_mem c hd),
        ← hl c List.mem_cons_self]
      simp [Function.comp_def]

theorem map_snd_reach (n : Node) : (n.reach fun _ => true).map Prod.snd = n.preorder := by
  induction n using induction with
  | node n ih => rw [reach_eq, preorder_eq, List.map_cons, map_snd_below ih]

theorem mem_preorder_of_at? (h : n.at? a = some m) : m ∈ n.preorder := by
  rw [← map_snd_reach]
  exact List.mem_map.2 ⟨(a, m), mem_reach.2 ⟨h, fun _ _ _ _ _ => rfl⟩, rfl⟩

/-! ### All addresses -/

/-- The addresses of all nodes of a tree, in the order of `preorder`. -/
def addresses (n : Node) : List Address := (n.reach fun _ => true).map Prod.fst

theorem mem_addresses : a ∈ n.addresses ↔ (n.at? a).isSome = true := by
  rw [addresses, List.mem_map, Option.isSome_iff_exists]
  constructor
  · rintro ⟨⟨b, m⟩, hm, rfl⟩
    exact ⟨m, (mem_reach.1 hm).1⟩
  · rintro ⟨m, hm⟩
    exact ⟨(a, m), mem_reach.2 ⟨hm, fun _ _ _ _ _ => rfl⟩, rfl⟩

theorem map_at?_addresses (n : Node) : n.addresses.map n.at? = n.preorder.map some := by
  rw [addresses, ← map_snd_reach, List.map_map, List.map_map]
  exact List.map_congr_left fun _ hm => (mem_reach.1 hm).1

/-- The addresses of all nodes of some siblings that are counted from `i` on. -/
def addressesFrom (i : Nat) (l : List Node) : List Address := (reach.below (fun _ => true) i l).map Prod.fst

theorem addresses_eq (n : Node) : n.addresses = [] :: addressesFrom 0 n.children := by
  rw [addresses, reach_eq, List.map_cons, addressesFrom]

theorem addressesFrom_cons (i : Nat) (c : Node) (l : List Node) :
    addressesFrom i (c :: l) = c.addresses.map (i :: ·) ++ addressesFrom (i + 1) l := by
  simp [addressesFrom, reach.below, addresses, Function.comp_def]

theorem at?_concat (n : Node) (a : Address) (i : Nat) : n.at? (a ++ [i]) = (n.at? a).bind (·.children[i]?) := by
  simp [at?_append, at?]

end Node

end ViewCompiler.Script
