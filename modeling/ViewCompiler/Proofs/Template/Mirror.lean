import ViewCompiler.Proofs.Template.Element
import ViewCompiler.Proofs.Template.Interpolation

/-!
# A forest mirrors its markup

Markup and the forest that it is given run side by side (`Mirrors`): an element goes with one tree, whose trees mirror
what the element holds, a text goes with the pieces that it is cut into, and a comment goes with nothing. Comments may
therefore be taken out at every depth beforehand, and without texts and pieces the two have the same shape.
-/

namespace ViewCompiler.Template

open Markup (Attribute)

/-- The tree of a piece of text. -/
def leaf (value : Node) : Tree := .node value []

/-- Nodes of markup side by side with the trees that they are given. -/
inductive Mirrors : List Markup.Node → Forest → Prop
  | nil : Mirrors [] []
  | comment {content : Text} {position : Option Position} {nodes : List Markup.Node} {forest : Forest}
      (hothers : Mirrors nodes forest) : Mirrors (.comment content position :: nodes) forest
  | text {content : Text} {position : Option Position} {nodes : List Markup.Node} {forest : Forest}
      (hothers : Mirrors nodes forest) :
      Mirrors (.text content position :: nodes) ((interpolate position content).map leaf ++ forest)
  | element {tag : Text} {attributes : List Attribute} {position : Option Position} {value : Node}
      {children nodes : List Markup.Node} {below forest : Forest}
      (hvalue : Element.StandsFor ⟨tag, attributes, position⟩ value) (hchildren : Mirrors children below)
      (hothers : Mirrors nodes forest) :
      Mirrors (.element tag attributes position children :: nodes) (.node value below :: forest)

/-! ### What is left out -/

def isComment : Markup.Node → Bool
  | .comment _ _ => true
  | _ => false

def isElement : Markup.Node → Bool
  | .element _ _ _ _ => true
  | _ => false

mutual

/-- A node with what is kept of the nodes that it holds. -/
def prunedNode (keep : Markup.Node → Bool) : Markup.Node → Markup.Node
  | .text content position => .text content position
  | .comment content position => .comment content position
  | .element tag attributes position children => .element tag attributes position (pruned keep children)

/-- The nodes that are kept, at every depth. -/
def pruned (keep : Markup.Node → Bool) : List Markup.Node → List Markup.Node
  | [] => []
  | node :: others => if keep node then prunedNode keep node :: pruned keep others else pruned keep others

end

/-- Whether a node is a piece of a text. -/
def isPiece (node : Node) : Bool :=
  match node.content with
  | .interpolation _ | .text _ => true
  | _ => false

mutual

def bareTree : Tree → Tree
  | .node value children => .node value (withoutPieces children)

/-- The trees of a forest without the pieces of its texts, at every depth. -/
def withoutPieces : List Tree → List Tree
  | [] => []
  | tree :: others => if isPiece tree.value then withoutPieces others else bareTree tree :: withoutPieces others

end

/-! ### Comments -/

mutual

theorem ofNode_pruned (rules : List Binding.Rule) (node : Markup.Node) :
    Forest.ofNode rules (prunedNode (!isComment ·) node) = Forest.ofNode rules node := by
  cases node with
  | text content position => rfl
  | comment content position => rfl
  | element tag attributes position children =>
      rw [prunedNode, Forest.ofNode, Forest.ofNode, ofMarkup_pruned rules children]

theorem ofMarkup_pruned (rules : List Binding.Rule) (nodes : List Markup.Node) :
    Forest.ofMarkup rules (pruned (!isComment ·) nodes) = Forest.ofMarkup rules nodes := by
  cases nodes with
  | nil => rfl
  | cons node others =>
      rw [pruned]
      split
      · rw [Forest.ofMarkup, Forest.ofMarkup, ofNode_pruned rules node, ofMarkup_pruned rules others]
      · rename_i hcomment
        cases node with
        | comment content position =>
            rw [Forest.ofMarkup, Forest.ofNode, ofMarkup_pruned rules others]
            cases Forest.ofMarkup rules others <;> rfl
        | text content position => exact absurd rfl hcomment
        | element tag attributes position children => exact absurd rfl hcomment

end

/-! ### Side by side -/

theorem Mirrors.ofMarkup_eq {nodes : List Markup.Node} {forest : Forest} (h : Mirrors nodes forest) :
    Forest.ofMarkup Binding.defaultRules nodes = .ok forest := by
  induction h with
  | nil => rfl
  | comment _ ih => rw [Forest.ofMarkup, Forest.ofNode, ih]; rfl
  | text _ ih => rw [Forest.ofMarkup, Forest.ofNode, ih]; rfl
  | element hvalue _ _ ihchildren ih =>
      have hnode := Element.node_eq_ok_iff.2 hvalue
      rw [Element.node] at hnode
      rw [Forest.ofMarkup, Forest.ofNode, hnode, ihchildren, ih]
      rfl

mutual

theorem mirrors_of_ofNode {node : Markup.Node} {trees forest : Forest} {nodes : List Markup.Node}
    (h : Forest.ofNode Binding.defaultRules node = .ok trees) (hothers : Mirrors nodes forest) :
    Mirrors (node :: nodes) (trees ++ forest) := by
  cases node with
  | text content position =>
      cases h
      exact .text hothers
  | comment content position =>
      cases h
      exact .comment hothers
  | element tag attributes position children =>
      rw [Forest.ofNode] at h
      obtain ⟨value, hvalue, hbelow⟩ := bind_eq_ok h
      obtain ⟨below, hchildren, hbelow⟩ := bind_eq_ok hbelow
      cases hbelow
      exact .element (Element.node_eq_ok_iff.1 hvalue) (mirrors_of_ofMarkup hchildren) hothers

theorem mirrors_of_ofMarkup {nodes : List Markup.Node} {forest : Forest}
    (h : Forest.ofMarkup Binding.defaultRules nodes = .ok forest) : Mirrors nodes forest := by
  cases nodes with
  | nil =>
      cases h
      exact .nil
  | cons node others =>
      rw [Forest.ofMarkup] at h
      obtain ⟨trees, htrees, hlater⟩ := bind_eq_ok h
      obtain ⟨later, hothers, hforest⟩ := bind_eq_ok hlater
      cases hforest
      exact mirrors_of_ofNode htrees (mirrors_of_ofMarkup hothers)

end

/-! ### Without pieces of text -/

theorem isPiece_of_mem_interpolate {position : Option Position} {content : Text} {node : Node}
    (h : node ∈ interpolate position content) : isPiece node = true := by
  rcases isCut_of_mem_interpolate h with ⟨inner, rfl⟩ | ⟨piece, -, rfl⟩
  · rfl
  · rfl

theorem withoutPieces_leaves {pieces : List Node} (h : ∀ node ∈ pieces, isPiece node = true) (forest : Forest) :
    withoutPieces (pieces.map leaf ++ forest) = withoutPieces forest := by
  induction pieces with
  | nil => rfl
  | cons node pieces ih =>
      rw [List.forall_mem_cons] at h
      rw [List.map_cons, List.cons_append, withoutPieces, leaf, Tree.value, if_pos h.1]
      exact ih h.2

theorem isPiece_of_standsFor {e : Element} {value : Node} (h : e.StandsFor value) : isPiece value = false := by
  cases h <;> rfl

theorem Mirrors.withoutPieces {nodes : List Markup.Node} {forest : Forest} (h : Mirrors nodes forest) :
    Mirrors (pruned isElement nodes) (withoutPieces forest) := by
  induction h with
  | nil => exact .nil
  | comment _ ih => exact ih
  | text _ ih =>
      rw [withoutPieces_leaves fun _ => isPiece_of_mem_interpolate]
      exact ih
  | element hvalue _ _ ihchildren ih =>
      rw [Template.withoutPieces, Tree.value, if_neg (Bool.eq_false_iff.1 (isPiece_of_standsFor hvalue))]
      exact .element hvalue ihchildren ih

/-- The forest of markup mirrors it, with or without its comments, and is the only one that does. Without the pieces
of texts it mirrors the elements alone. -/
theorem ofMarkup_mirrors {nodes : List Markup.Node} {forest : Forest}
    (h : Forest.ofMarkup Binding.defaultRules nodes = .ok forest) :
    Forest.ofMarkup Binding.defaultRules (pruned (!isComment ·) nodes) = .ok forest ∧
      Mirrors nodes forest ∧ (∀ other, Mirrors nodes other → other = forest) ∧
      Mirrors (pruned isElement nodes) (withoutPieces forest) := by
  have hmirrors := mirrors_of_ofMarkup h
  refine ⟨(ofMarkup_pruned _ nodes).trans h, hmirrors, fun other hother => ?_, hmirrors.withoutPieces⟩
  exact Except.ok.inj (hother.ofMarkup_eq.symm.trans h)

/-- An element that holds a text of two pieces, a comment, a component and a condition. -/
def mixedMarkup : List Markup.Node :=
  [.comment "c" none,
   .element "Div" [] (some ⟨1, 1⟩)
    [.text "a \x7b\x7bx\x7d\x7d" none, .comment "d" none,
     .element "My-Item" [⟨"a", some "1".toList⟩, ⟨"b-c", none⟩] none [],
     .element "W:IF" [⟨"!y", none⟩] none [.text "z" none]]]

theorem ofMarkup_mirrors_mixed :
    ∃ forest, Forest.ofMarkup Binding.defaultRules mixedMarkup = .ok forest ∧
      (Forest.nodes (withoutPieces forest)).map Node.content =
        [.element "Div", .component "My-Item", .conditional (.ofText "y") true] ∧
      Mirrors mixedMarkup forest ∧ Mirrors (pruned isElement mixedMarkup) (withoutPieces forest) := by
  have h : (Forest.ofMarkup Binding.defaultRules mixedMarkup).toOption.map
      (fun forest => (Forest.nodes (withoutPieces forest)).map Node.content) =
        some [.element "Div", .component "My-Item", .conditional (.ofText "y") true] := by
    decide +kernel
  obtain ⟨forest, hforest, hcontents⟩ := Option.map_eq_some_iff.1 h
  have hok := eq_ok_of_toOption hforest
  obtain ⟨-, hmirrors, -, hbare⟩ := ofMarkup_mirrors hok
  exact ⟨forest, hok, hcontents, hmirrors, hbare⟩

end ViewCompiler.Template
