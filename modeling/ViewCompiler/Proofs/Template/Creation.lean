import ViewCompiler.Proofs.Markup.Tags
import ViewCompiler.Proofs.Template.WellFormed
import ViewCompiler.Proofs.Text.Literal

/-!
# Expressions that create nodes

The nodes of a document are created by calls with one literal each, as far as a script reads them so (`Calls`). A piece
of text is quoted for its call, while a tag stands between quotes as it is: a quote or a backslash in it spoils the
call, and nothing else in a tag that a template records does. In a piece of text only a carriage return does. The
markup may be any tree, whoever has built it from the template.
-/

namespace ViewCompiler.Template

variable {function argument value : Text}

def createElement : Text := "util.__wane__createElement"

def createTextNode : Text := "util.__wane__createTextNode"

/-- An expression that calls a function with one literal, which has the given value. -/
def Calls (function expression value : Text) : Prop :=
  ∃ argument : Text, expression = function ++ '(' :: argument ∧ argument.literal? = some (value.utf16, [')'])

theorem calls_iff :
    Calls function (function ++ '(' :: argument) value ↔ argument.literal? = some (value.utf16, [')']) := by
  constructor
  · intro ⟨other, heq, hliteral⟩
    obtain rfl := (List.cons.inj (List.append_cancel_left heq)).2
    exact hliteral
  · intro h
    exact ⟨argument, rfl, h⟩

theorem forall_isPlain_iff (t : Text) :
    (∀ c ∈ t, Text.isPlain c = true) ↔ '\'' ∉ t ∧ '\\' ∉ t ∧ t.OneLine := by
  have hne (d : Char) : (∀ c ∈ t, c ≠ d) ↔ d ∉ t :=
    ⟨fun h hmem => h d hmem rfl, fun h c hc heq => h (heq ▸ hc)⟩
  simp only [Text.isPlain, Bool.and_eq_true, bne_iff_ne, and_assoc, imp_and, forall_and, hne, Text.OneLine]

/-- The tag of the element that a node creates. -/
def Content.tag? : Content → Option Text
  | .element tag | .component tag => some tag
  | _ => none

theorem creation_of_tag? {content : Content} {tag : Text} (h : content.tag? = some tag) :
    content.creation = [createElement ++ '(' :: '\'' :: (tag ++ '\'' :: [')'])] := by
  have hexpression : "util.__wane__createElement('" ++ tag ++ "')" =
      createElement ++ '(' :: '\'' :: (tag ++ '\'' :: [')']) := by
    have hopen : ("util.__wane__createElement('" : Text) = createElement ++ ['(', '\''] := rfl
    rw [hopen, List.append_assoc, List.append_assoc]
    rfl
  cases content with
  | element name =>
      cases h
      rw [Content.creation, hexpression]
  | component name =>
      cases h
      rw [Content.creation, hexpression]
  | conditional value negated => cases h
  | repeating value item index key => cases h
  | interpolation value => cases h
  | text literal => cases h

theorem creation_text (literal : Text) :
    (Content.text literal).creation = [createTextNode ++ '(' :: (literal ++ [')'])] := by
  have hopen : ("util.__wane__createTextNode(" : Text) = createTextNode ++ ['('] := rfl
  rw [Content.creation, hopen, List.append_assoc, List.append_assoc]
  rfl

/-! ### Tags of a forest -/

theorem Element.StandsFor.tag_eq {e : Element} {node : Node} {tag : Text} (h : e.StandsFor node)
    (htag : node.content.tag? = some tag) : tag = e.tag := by
  cases h with
  | conditional => cases htag
  | repeating => cases htag
  | component => exact (Option.some.inj htag).symm
  | element => exact (Option.some.inj htag).symm

theorem tag?_of_mem_interpolate {position : Option Position} {content : Text} {node : Node}
    (h : node ∈ interpolate position content) : node.content.tag? = none := by
  rcases isCut_of_mem_interpolate h with ⟨inner, rfl⟩ | ⟨piece, -, rfl⟩
  · rfl
  · rfl

/-- A tag of a forest is one of its markup. -/
theorem Mirrors.tag_mem {nodes : List Markup.Node} {forest : Forest} (h : Mirrors nodes forest) :
    ∀ node ∈ Forest.nodes forest, ∀ tag ∈ node.content.tag?, tag ∈ Markup.tagsOf nodes := by
  induction h with
  | nil => exact nofun
  | comment _ ih => exact ih
  | @text content position nodes forest _ ih =>
      intro node hnode tag htag
      rw [nodes_append, nodes_leaves, List.mem_append] at hnode
      rcases hnode with hpiece | hnode
      · rw [tag?_of_mem_interpolate hpiece] at htag
        cases htag
      · exact ih node hnode tag htag
  | @element tag attributes position value children nodes below forest hvalue _ _ ihchildren ih =>
      intro node hnode found hfound
      rw [Forest.nodes, Forest.treeNodes, List.cons_append, List.mem_cons, List.mem_append] at hnode
      rw [Markup.tagsOf, Markup.Node.tags, List.cons_append, List.mem_cons, List.mem_append]
      rcases hnode with rfl | hnode | hnode
      · exact Or.inl (hvalue.tag_eq hfound)
      · exact Or.inr (Or.inl (ihchildren node hnode found hfound))
      · exact Or.inr (Or.inr (ih node hnode found hfound))

/-! ### Calls of a forest -/

/-- What creates the node of an element is a call with its tag, which is one of the markup, exactly if the tag holds no
quote, no backslash and no line end. The last of these no tag holds that a template records. What creates a piece of
text is a call with that piece exactly if the piece holds no carriage return. -/
theorem ofMarkup_creation_calls {nodes : List Markup.Node} {forest : Forest}
    (h : Forest.ofMarkup Binding.defaultRules nodes = .ok forest) :
    ∀ node ∈ Forest.nodes forest,
      (∀ tag, node.content = .element tag ∨ node.content = .component tag →
        tag ∈ Markup.tagsOf nodes ∧
        (∃ expression, node.content.creation = [expression] ∧
          (Calls createElement expression tag ↔ '\'' ∉ tag ∧ '\\' ∉ tag ∧ tag.OneLine)) ∧
        ∀ template numbered, Markup.number template = .ok numbered →
          ∀ start ∈ numbered.tags, start.name = tag → tag.OneLine) ∧
      ∀ literal, node.content = .text literal →
        ∃ (content piece : Text) (position : Option Position) (expression : Text),
          (content, position) ∈ texts nodes ∧ node.origin = some position ∧ piece <:+: content ∧
            literal = piece.quote ∧ node.content.creation = [expression] ∧
            (Calls createTextNode expression piece ↔ '\r' ∉ piece) := by
  intro node hnode
  have hmirrors := mirrors_of_ofMarkup h
  constructor
  · intro tag hcontent
    have htag : node.content.tag? = some tag := by rcases hcontent with hcontent | hcontent <;> rw [hcontent] <;> rfl
    refine ⟨hmirrors.tag_mem node hnode tag htag, ⟨_, creation_of_tag? htag, ?_⟩, ?_⟩
    · rw [calls_iff, Text.literal?_enclosed_iff, forall_isPlain_iff]
    · rintro template numbered hnumber start hstart rfl
      exact Markup.oneLine_of_recorded hnumber start hstart
  · intro literal hcontent
    obtain ⟨content, piece, position, hraw, hpiece, rfl, horigin⟩ := (hmirrors.wellFormed node hnode).text hcontent
    rw [hcontent]
    refine ⟨content, piece, position, _, hraw, horigin, hpiece, rfl, creation_text _, ?_⟩
    rw [calls_iff, Text.literal?_quote_iff]

/-- A component with a text in it, as markup of the template that records its tag. -/
theorem ofMarkup_creation_calls_quoted :
    let nodes : List Markup.Node := [.element "my-b" [] (some ⟨1, 1⟩) [.text "it's" (some ⟨1, 1⟩)]]
    ∃ numbered forest, Markup.number "<my-b>it's</my-b>" = .ok numbered ∧
      (∃ start ∈ numbered.tags, start.name = "my-b") ∧
      Forest.ofMarkup Binding.defaultRules nodes = .ok forest ∧
      (∃ node ∈ Forest.nodes forest, node.content = .component "my-b" ∧
        ∃ expression, node.content.creation = [expression] ∧ Calls createElement expression "my-b") ∧
      ∃ node ∈ Forest.nodes forest, node.content = .text "'it\\'s'" ∧
        ∃ expression piece, node.content.creation = [expression] ∧ piece.quote = "'it\\'s'".toList ∧
          Calls createTextNode expression piece := by
  intro nodes
  have hnumber : Markup.number "<my-b>it's</my-b>" =
      .ok ⟨"<my-b data-wane-ref=\"0\">it's</my-b>", [⟨"my-b", [], ⟨1, 1⟩⟩]⟩ := by decide +kernel
  have h : (Forest.ofMarkup Binding.defaultRules nodes).toOption.map
      (fun forest => (Forest.nodes forest).map Node.content) = some [.component "my-b", .text "'it\\'s'"] := by
    decide +kernel
  obtain ⟨forest, hforest, hcontents⟩ := Option.map_eq_some_iff.1 h
  have hok := eq_ok_of_toOption hforest
  have hcontent {content : Content} (hmem : content ∈ [Content.component "my-b", .text "'it\\'s'"]) :
      ∃ node ∈ Forest.nodes forest, node.content = content := by
    rw [← hcontents] at hmem
    exact List.mem_map.1 hmem
  obtain ⟨element, helement, htag⟩ := hcontent List.mem_cons_self
  obtain ⟨text, htext, hliteral⟩ := hcontent (List.mem_cons_of_mem _ List.mem_cons_self)
  obtain ⟨-, ⟨created, hcreated, hcalls⟩, hline⟩ := (ofMarkup_creation_calls hok element helement).1 _ (.inr htag)
  obtain ⟨_, piece, _, written, _, _, _, hpiece, hwritten, hwrites⟩ :=
    (ofMarkup_creation_calls hok text htext).2 _ hliteral
  refine ⟨_, forest, hnumber, ⟨_, List.mem_cons_self, rfl⟩, hok, ⟨element, helement, htag, created, hcreated, ?_⟩, text,
    htext, hliteral, written, piece, hwritten, hpiece.symm, hwrites.2 fun hmem => ?_⟩
  · exact hcalls.2 ⟨by decide, by decide, hline _ _ hnumber _ List.mem_cons_self rfl⟩
  · have hquoted : '\r' ∈ piece.quote :=
      List.mem_cons_of_mem _ (List.mem_append_left _ (List.mem_flatMap.2 ⟨'\r', hmem, by decide⟩))
    rw [← hpiece] at hquoted
    revert hquoted
    decide

/-- A quote in a tag that a template records ends the literal early, and a carriage return in a text ends the line
within it. -/
theorem creation_of_quote_and_return :
    (Markup.number "<a'b></a'b>").toOption.map (fun numbered => numbered.tags.map Markup.StartTag.name) =
      some ["a'b".toList] ∧
    ((Forest.ofMarkup Binding.defaultRules [.element "a'b" [] (some ⟨1, 1⟩) []]).toOption.map fun forest =>
        (Forest.nodes forest).map fun node => (node.content, node.content.creation)) =
      some [(.element "a'b", ["util.__wane__createElement('a'b')".toList])] ∧
    ¬ Calls createElement "util.__wane__createElement('a'b')" "a'b" ∧
    ((Forest.ofMarkup Binding.defaultRules [.text "\r" (some ⟨1, 1⟩)]).toOption.map fun forest =>
        (Forest.nodes forest).map fun node => (node.content, node.content.creation)) =
      some [(.text (Text.quote ['\r']), ["util.__wane__createTextNode('\r')".toList])] ∧
    ¬ Calls createTextNode "util.__wane__createTextNode('\r')" ['\r'] := by
  refine ⟨by decide +kernel, by decide +kernel, fun h => ?_, by decide +kernel, fun h => ?_⟩
  · have hplain := (Text.literal?_enclosed_iff "a'b" [')']).1 (calls_iff.1 h)
    exact absurd (hplain '\'' (by decide)) (by decide)
  · exact (Text.literal?_quote_iff ['\r'] [')']).1 (calls_iff.1 h) List.mem_cons_self

end ViewCompiler.Template
