import ViewCompiler.Proofs.Template.Element

/-!
# The first bad element is the one refused

Whether markup has a meaning is a matter of its elements one by one. An element is bad by itself (`Element.Bad`) if its
directive cannot be read, if one of its attributes makes no binding, or if two of them make bindings with one key. Markup
is refused exactly if it holds a bad element at some depth, and then for the first one in the order of the template.
-/

namespace ViewCompiler.Template

mutual

/-- The elements of a node, each before those that it holds. -/
def elementsIn : Markup.Node → List Element
  | .text _ _ | .comment _ _ => []
  | .element tag attributes position children => ⟨tag, attributes, position⟩ :: elements children

def elements : List Markup.Node → List Element
  | [] => []
  | node :: others => elementsIn node ++ elements others

end

/-- An element that cannot stand for a node, whatever is around it. The attributes of a directive are its definition
and make no bindings. -/
def Element.Bad (e : Element) : Prop :=
  isDirectiveTag e.tag = true ∧ (∃ cause, directive e.tag e.attributes = .error cause) ∨
    isDirectiveTag e.tag = false ∧
      ((∃ a ∈ e.attributes, ∃ failure, e.bindingOf a = .error failure) ∨
        ∃ a b first second, [a, b].Sublist e.attributes ∧ e.bindingOf a = .ok first ∧ e.bindingOf b = .ok second ∧
          first.key = second.key)

namespace Element

variable {e : Element}

/-! ### One element -/

theorem Binds.eq_filterMap {bindings : List Binding} (h : e.Binds bindings) :
    bindings = e.attributes.filterMap fun a => (e.bindingOf a).toOption := by
  unfold Binds at h
  generalize e.attributes = attributes at h ⊢
  induction h with
  | nil => rfl
  | cons hbinding _ ih => rw [List.filterMap_cons, hbinding, ih]; rfl

theorem Binds.nodup_iff {bindings : List Binding} (h : e.Binds bindings) : (bindings.map Binding.key).Nodup ↔
    ¬ ∃ a b first second, [a, b].Sublist e.attributes ∧ e.bindingOf a = .ok first ∧ e.bindingOf b = .ok second ∧
      first.key = second.key := by
  have hsome {a : Markup.Attribute} {b : Binding} : (e.bindingOf a).toOption = some b ↔ e.bindingOf a = .ok b :=
    ⟨eq_ok_of_toOption, fun hok => by rw [hok]; rfl⟩
  rw [List.Nodup, List.pairwise_map, h.eq_filterMap, List.pairwise_filterMap, List.pairwise_iff_forall_sublist]
  simp only [hsome]
  constructor
  · rintro hdiffer ⟨a, b, first, second, hsublist, hfirst, hsecond, hkey⟩
    exact hdiffer hsublist first hfirst second hsecond hkey
  · intro hnone a b hsublist first hfirst second hsecond hkey
    exact hnone ⟨a, b, first, second, hsublist, hfirst, hsecond, hkey⟩

theorem exists_binds_iff : (∃ bindings, e.Binds bindings) ↔
    ¬ ∃ a ∈ e.attributes, ∃ failure, e.bindingOf a = .error failure := by
  rw [← mapM_eq_error_iff]
  cases hmap : e.attributes.mapM e.bindingOf with
  | error failure =>
      refine iff_of_false ?_ (not_not.2 ⟨failure, rfl⟩)
      rintro ⟨bindings, hbindings⟩
      cases hmap.symm.trans (mapM_eq_ok_iff.2 hbindings)
  | ok bindings => exact iff_of_true ⟨bindings, mapM_eq_ok_iff.1 hmap⟩ (by simp)

theorem not_bad_iff : ¬ e.Bad ↔ ∃ value, e.node = .ok value := by
  cases hdirective : isDirectiveTag e.tag with
  | true =>
      rw [node_of_directive hdirective]
      simp only [Bad, hdirective, true_and, reduceCtorEq, false_and, or_false, directiveNode_eq_ok_iff]
      cases directive e.tag e.attributes <;> simp
  | false =>
      simp only [Bad, hdirective, reduceCtorEq, false_and, false_or, true_and, not_or, tagged_eq_ok_iff hdirective]
      rw [← exists_binds_iff]
      constructor
      · rintro ⟨⟨bindings, hbindings⟩, hkeys⟩
        exact ⟨_, ⟨bindings, hbindings.nodup_iff.2 hkeys⟩, hbindings, rfl⟩
      · rintro ⟨_, set, hbindings, -⟩
        exact ⟨⟨set.items, hbindings⟩, hbindings.nodup_iff.1 set.nodup⟩

theorem bad_iff : e.Bad ↔ ∃ failure, e.node = .error failure := by
  rw [← not_not (a := e.Bad), not_bad_iff]
  cases e.node <;> simp

end Element

/-! ### Markup -/

mutual

theorem ofNode_eq_error_iff (node : Markup.Node) (failure : Failure) :
    Forest.ofNode Binding.defaultRules node = .error failure ↔ (elementsIn node).mapM Element.node = .error failure := by
  cases node with
  | text content position => simp [Forest.ofNode, elementsIn, pure, Except.pure]
  | comment content position => simp [Forest.ofNode, elementsIn, pure, Except.pure]
  | element tag attributes position children =>
      rw [Forest.ofNode, elementsIn, List.mapM_cons]
      refine bind_eq_error_congr (fun _ => Iff.rfl) (fun _ _ => ?_) failure
      exact bind_eq_error_congr (ofMarkup_eq_error_iff children) fun _ _ _ => by simp [pure, Except.pure]

/-- Markup fails like a run through its elements that forgets the nesting. -/
theorem ofMarkup_eq_error_iff (nodes : List Markup.Node) (failure : Failure) :
    Forest.ofMarkup Binding.defaultRules nodes = .error failure ↔ (elements nodes).mapM Element.node = .error failure := by
  cases nodes with
  | nil => simp [Forest.ofMarkup, elements, pure, Except.pure]
  | cons node others =>
      rw [Forest.ofMarkup, elements, List.mapM_append]
      refine bind_eq_error_congr (ofNode_eq_error_iff node) (fun _ _ => ?_) failure
      exact bind_eq_error_congr (ofMarkup_eq_error_iff others) fun _ _ _ => by simp [pure, Except.pure]

end

/-- Markup is refused for the first bad element, at the place of that element, and if no element is bad then it is not
refused. An element without a place is reported at 0:0. -/
theorem ofMarkup_refused_iff (nodes : List Markup.Node) :
    (∀ failure, Forest.ofMarkup Binding.defaultRules nodes = .error failure ↔
      ∃ front e back cause, elements nodes = front ++ e :: back ∧ (∀ x ∈ front, ¬ x.Bad) ∧ e.Fails cause ∧
        failure = .refused ⟨cause, e.position, []⟩) ∧
    ((∃ failure, Forest.ofMarkup Binding.defaultRules nodes = .error failure) ↔ ∃ e ∈ elements nodes, e.Bad) ∧
    ∀ cause position, (Error.mk cause position []).report =
      ⟨cause.message, [], (position.map Position.line).getD 0, (position.map Position.column).getD 0⟩ := by
  refine ⟨fun failure => ?_, ?_, fun cause position => ?_⟩
  · rw [ofMarkup_eq_error_iff, mapM_eq_first_error_iff]
    simp only [← Element.not_bad_iff, Element.node_eq_error_iff]
    constructor
    · rintro ⟨front, e, back, hsplit, hfront, cause, hcause, hfailure⟩
      exact ⟨front, e, back, cause, hsplit, hfront, hcause, hfailure⟩
    · rintro ⟨front, e, back, cause, hsplit, hfront, hcause, hfailure⟩
      exact ⟨front, e, back, hsplit, hfront, cause, hcause, hfailure⟩
  · simp only [ofMarkup_eq_error_iff, mapM_eq_error_iff, Element.bad_iff]
  · cases position <;> rfl

end ViewCompiler.Template
