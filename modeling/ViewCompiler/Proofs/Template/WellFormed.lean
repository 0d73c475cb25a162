import ViewCompiler.Proofs.Binding.Classify
import ViewCompiler.Proofs.Template.Mirror
import ViewCompiler.Proofs.Value.Call

/-!
# Well-formed nodes

What later stages may rely on for every node of a view (`WellFormed`), whatever the markup was: its bindings are told
apart by their keys, each is one that the node may carry and is bound to a value of the right shape, the parts of a loop
can be written as code, a text is a literal of something that the markup says, and there is one line of code for each node
of the document.
-/

namespace ViewCompiler.Template

open Markup (Attribute)

/-- A text that can name a variable. -/
def IsIdentifier (t : Text) : Prop :=
  ∃ c rest, t = c :: rest ∧ (c.isAlpha = true ∨ c = '_' ∨ c = '$') ∧ ∀ d ∈ rest, Text.isWordChar d = true ∨ d = '$'

/-- A text of letters and dots. -/
def IsKeyPath (t : Text) : Prop := t ≠ [] ∧ ∀ c ∈ t, c.isAlpha = true ∨ c = '.'

mutual

/-- The texts of a node of markup, at every depth, and where they stand. -/
def textsIn : Markup.Node → List (Text × Option Position)
  | .text content position => [(content, position)]
  | .comment _ _ => []
  | .element _ _ _ children => texts children

def texts : List Markup.Node → List (Text × Option Position)
  | [] => []
  | node :: others => textsIn node ++ texts others

end

/-- The bindings that a node may carry: those of its attributes, or the only one that its content stands for. -/
def Content.Carries : Content → List Binding → Prop
  | .element _, bindings => ∀ b ∈ bindings, ∃ target ∈ Binding.Role.element.targets, b.kind = .named target
  | .component _, bindings => ∀ b ∈ bindings, ∃ target ∈ Binding.Role.component.targets, b.kind = .named target
  | content, bindings => bindings = content.binding?.toList

/-- Loops over something, with names for variables and for the path of a key. -/
def IsLoop (value : Value) (item : Text) (index key : Option Text) : Prop :=
  (∃ a, value = .plain a ∧ a.print.isAllBlank = false) ∧ IsIdentifier item ∧ (∀ name ∈ index, IsIdentifier name) ∧
    ∀ path ∈ key, IsKeyPath path

/-- The literal of a part of one of the texts, at the place of that text. -/
def IsPartOf (raw : List (Text × Option Position)) (origin : Option (Option Position)) (literal : Text) : Prop :=
  ∃ (content piece : Text) (position : Option Position),
    (content, position) ∈ raw ∧ piece <:+: content ∧ literal = piece.quote ∧ origin = some position

/-- A node of a view that was made of markup with the given texts. -/
structure WellFormed (raw : List (Text × Option Position)) (node : Node) : Prop where
  keys : (node.bindings.items.map Binding.key).Nodup
  carries : node.content.Carries node.bindings.items
  values : ∀ b ∈ node.bindings.items, b.Sound
  loop : ∀ {value item index key}, node.content = .repeating value item index key → IsLoop value item index key
  text : ∀ {literal}, node.content = .text literal → IsPartOf raw node.origin literal
  creation : node.content.creation.length = node.content.nodeCount

variable {raw : List (Text × Option Position)} {node : Node}

theorem WellFormed.mono {more : List (Text × Option Position)} (h : WellFormed raw node) (hmore : raw ⊆ more) :
    WellFormed more node := by
  refine { h with text := fun hcontent => ?_ }
  obtain ⟨content, piece, position, hraw, hpart⟩ := h.text hcontent
  exact ⟨content, piece, position, hmore hraw, hpart⟩

theorem length_creation (content : Content) : content.creation.length = content.nodeCount := by
  cases content <;> rfl

/-! ### Loops -/

theorem isIdentifier_of_checkName {name : Text} (h : checkName name = .ok ()) : IsIdentifier name := by
  unfold checkName at h
  split at h
  · rename_i hname
    cases name with
    | nil => cases hname
    | cons c rest =>
        simp only [isVariableName, isNameStart, isNamePart, Bool.and_eq_true, Bool.or_eq_true, beq_iff_eq,
          List.all_eq_true, or_assoc] at hname
        exact ⟨c, rest, rfl, hname.1, hname.2⟩
  · cases h

theorem isIdentifier_of_iteration {clause item source : Text} {index : Option Text}
    (h : iteration clause = .ok (item, index, source)) :
    IsIdentifier item ∧ (∀ name ∈ index, IsIdentifier name) ∧ source.isAllBlank = false := by
  unfold iteration at h
  split at h
  · cases h
  simp only at h
  split at h
  · cases h
  rename_i hparts
  obtain ⟨⟨item', index'⟩, -, h⟩ := bind_eq_ok h
  obtain ⟨⟨⟩, hitem, h⟩ := bind_eq_ok h
  obtain ⟨⟨⟩, hindex, h⟩ := bind_eq_ok h
  cases h
  rw [Bool.or_eq_true, not_or, List.isEmpty_iff, List.isEmpty_iff] at hparts
  refine ⟨isIdentifier_of_checkName hitem, fun name hname => ?_, ?_⟩
  · cases Option.mem_def.1 hname
    exact isIdentifier_of_checkName hindex
  · rw [Text.isAllBlank_strip]
    exact Text.isAllBlank_of_strip_ne_nil hparts.2

/-- The line feed that a path may end in has been stripped. -/
theorem isKeyPath_of_keyPath {clause path : Text} (h : keyPath clause = .ok path) : IsKeyPath path := by
  simp only [keyPath] at h
  split at h
  · cases h
  split at h
  · cases h
  split at h
  · cases h
  rename_i hempty _ hpath
  cases h
  have hlast : ∀ t : Text, t.strip.getLast? ≠ some '\n' := by
    intro t hnewline
    cases Text.isBlank_of_getLast?_strip hnewline
  rw [Bool.not_eq_true, Bool.not_eq_false', isPath, withoutFinalNewline, if_neg (hlast _)] at hpath
  refine ⟨fun hnil => hempty (List.isEmpty_iff.2 hnil), fun c hc => ?_⟩
  have hchar := List.all_eq_true.1 hpath c hc
  rwa [isPathChar, Bool.or_eq_true, beq_iff_eq] at hchar

theorem isLoop_of_loop {attributes : List Attribute} {value : Value} {item : Text} {index key : Option Text}
    (h : loop attributes = .ok (.repeating value item index key)) :
    (∃ source, value = .ofText source) ∧ IsLoop value item index key := by
  obtain ⟨clause, source, _, _, _, hcontent, hclause, hkey⟩ := loop_eq_ok h
  cases hcontent
  obtain ⟨hitem, hindex, hsource⟩ := isIdentifier_of_iteration hclause
  rw [← Text.isAllBlank_strip, ← Argument.print_ofText] at hsource
  refine ⟨⟨source, rfl⟩, ⟨_, rfl, hsource⟩, hitem, hindex, fun path hpath => ?_⟩
  obtain ⟨clause, hpath⟩ := hkey path hpath
  exact isKeyPath_of_keyPath hpath

/-! ### Nodes -/

/-- A node whose only binding is that of its content. -/
theorem wellFormed_ofContent {content : Content} {binding : Binding} {origin : Option (Option Position)}
    (hbinding : content.binding? = some binding) (hsound : binding.Sound)
    (hloop : ∀ {value item index key}, content = .repeating value item index key → IsLoop value item index key)
    (htext : ∀ {literal}, content = .text literal → IsPartOf raw origin literal) :
    WellFormed raw (.ofContent content origin) where
  keys := BindingSet.nodup _
  carries := by
    cases content with
    | element tag => cases hbinding
    | component tag => cases hbinding
    | conditional value negated => rfl
    | repeating value item index key => rfl
    | interpolation value => rfl
    | text literal => rfl
  values := by
    intro b hb
    rw [Node.ofContent, hbinding] at hb
    cases List.mem_singleton.1 hb
    exact hsound
  loop := hloop
  text := htext
  creation := length_creation content

theorem wellFormed_of_isCut {position : Option Position} {content : Text} (hraw : (content, position) ∈ raw)
    (h : IsCut position content node) : WellFormed raw node := by
  rcases h with ⟨inner, rfl⟩ | ⟨piece, hpiece, rfl⟩
  · exact wellFormed_ofContent rfl (Value.isData_ofText inner) nofun nofun
  · refine wellFormed_ofContent rfl (Value.isData_quote piece) nofun fun hcontent => ?_
    cases hcontent
    exact ⟨content, piece, position, hraw, hpiece, rfl, rfl⟩

theorem Element.Binds.fitsOn {e : Element} {bindings : List Binding} (h : e.Binds bindings) :
    ∀ b ∈ bindings, b.FitsOn e.role := by
  unfold Element.Binds at h
  generalize e.attributes = attributes at h
  induction h with
  | nil => exact nofun
  | cons hbinding _ ih => exact List.forall_mem_cons.2 ⟨Binding.fitsOn_of_classify hbinding, ih⟩

theorem Element.StandsFor.wellFormed {e : Element} (h : e.StandsFor node) : WellFormed raw node := by
  cases h with
  | conditional htag hcontent =>
      obtain ⟨path, _, hconditional⟩ := condition_eq_ok hcontent
      cases hconditional
      exact wellFormed_ofContent rfl (Value.isData_ofText path) nofun nofun
  | repeating htag hcontent =>
      obtain ⟨⟨source, rfl⟩, hloop⟩ := isLoop_of_loop hcontent
      refine wellFormed_ofContent rfl (Value.isData_ofText source) (fun hsame => ?_) nofun
      cases hsame
      exact hloop
  | component hdirective htag hbindings =>
      have hrole : e.role = .component := if_pos (Element.isComponentTag_iff.2 htag)
      have hfits := hrole ▸ hbindings.fitsOn
      exact ⟨BindingSet.nodup _, fun b hb => (hfits b hb).2, fun b hb => (hfits b hb).1, nofun, nofun, rfl⟩
  | element hdirective htag hbindings =>
      have hrole : e.role = .element := if_neg fun hdash => htag (Element.isComponentTag_iff.1 hdash)
      have hfits := hrole ▸ hbindings.fitsOn
      exact ⟨BindingSet.nodup _, fun b hb => (hfits b hb).2, fun b hb => (hfits b hb).1, nofun, nofun, rfl⟩

/-! ### Forests -/

theorem nodes_append (forest others : Forest) : Forest.nodes (forest ++ others) = Forest.nodes forest ++ Forest.nodes others := by
  induction forest with
  | nil => rfl
  | cons tree forest ih => rw [List.cons_append, Forest.nodes, Forest.nodes, ih, List.append_assoc]

theorem nodes_leaves (pieces : List Node) : Forest.nodes (pieces.map leaf) = pieces := by
  induction pieces with
  | nil => rfl
  | cons piece pieces ih => rw [List.map_cons, Forest.nodes, ih]; rfl

theorem Mirrors.wellFormed {nodes : List Markup.Node} {forest : Forest} (h : Mirrors nodes forest) :
    ∀ node ∈ Forest.nodes forest, WellFormed (texts nodes) node := by
  induction h with
  | nil => exact nofun
  | comment _ ih => exact ih
  | @text content position nodes forest _ ih =>
      intro node hnode
      rw [nodes_append, nodes_leaves, List.mem_append] at hnode
      rcases hnode with hpiece | hnode
      · exact wellFormed_of_isCut List.mem_cons_self (isCut_of_mem_interpolate hpiece)
      · exact (ih node hnode).mono (List.subset_cons_self _ _)
  | @element tag attributes position value children nodes below forest hvalue _ _ ihchildren ih =>
      intro node hnode
      rw [Forest.nodes, Forest.treeNodes, List.cons_append, List.mem_cons, List.mem_append] at hnode
      rcases hnode with rfl | hnode | hnode
      · exact hvalue.wellFormed
      · exact (ihchildren node hnode).mono (List.subset_append_left _ _)
      · exact (ih node hnode).mono (List.subset_append_right _ _)

/-- Every node that is made of markup is well formed. -/
theorem ofMarkup_wellFormed {nodes : List Markup.Node} {forest : Forest}
    (h : Forest.ofMarkup Binding.defaultRules nodes = .ok forest) :
    ∀ node ∈ Forest.nodes forest, WellFormed (texts nodes) node :=
  (mirrors_of_ofMarkup h).wellFormed

/-- An element and a component with bindings of every target, a loop with all its parts and a text of two pieces. -/
def boundMarkup : List Markup.Node :=
  [.element "div" [⟨"[title]", some "name".toList⟩, ⟨"(click)", some "go(#, 'a', x.y)".toList⟩, ⟨"data-x", none⟩] none
    [.element "my-item" [⟨"a", some "1".toList⟩, ⟨"(d)", some "e()".toList⟩, ⟨"[attr.b]", some "c".toList⟩] none [],
     .element "w:for" [⟨"(item,", none⟩, ⟨"i)", none⟩, ⟨"of", none⟩, ⟨"items; key:", none⟩, ⟨"item.id", none⟩] none
      [.text "it's \x7b\x7bx\x7d\x7d" (some ⟨2, 4⟩)]]]

theorem ofMarkup_wellFormed_bound :
    ∃ forest, Forest.ofMarkup Binding.defaultRules boundMarkup = .ok forest ∧
      (Forest.nodes forest).map Node.content =
        [.element "div", .component "my-item", .repeating (.ofText "items") "item" (some "i".toList) (some "item.id".toList),
          .text "'it\\'s '", .interpolation (.ofText "x")] ∧
      ∀ node ∈ Forest.nodes forest, WellFormed (texts boundMarkup) node := by
  have h : (Forest.ofMarkup Binding.defaultRules boundMarkup).toOption.map
      (fun forest => (Forest.nodes forest).map Node.content) =
        some [.element "div", .component "my-item",
          .repeating (.ofText "items") "item" (some "i".toList) (some "item.id".toList), .text "'it\\'s '",
          .interpolation (.ofText "x")] := by
    decide +kernel
  obtain ⟨forest, hforest, hcontents⟩ := Option.map_eq_some_iff.1 h
  have hok := eq_ok_of_toOption hforest
  exact ⟨forest, hok, hcontents, ofMarkup_wellFormed hok⟩

end ViewCompiler.Template
