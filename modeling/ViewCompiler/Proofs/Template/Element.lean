import ViewCompiler.Proofs.Binding.Set
import ViewCompiler.Proofs.Sequence
import ViewCompiler.Template.Forest

/-!
# Elements by themselves

An element without what it holds either stands for a node (`Element.StandsFor`) or fails for a cause
(`Element.Fails`). Its tag alone decides whether its attributes are a condition, a loop or bindings. Bindings are
made of all attributes before any two of them are compared.
-/

namespace ViewCompiler.Template

open Markup (Attribute)

/-! ### The content of a directive -/

theorem condition_eq_ok {attributes : List Attribute} {content : Content} (h : condition attributes = .ok content) :
    ∃ path negated, content = .conditional (.ofText path) negated := by
  simp only [condition] at h
  split at h
  · cases h
  split at h
  · cases h
  split at h <;> cases h <;> exact ⟨_, _, rfl⟩

/-- The parts of a loop are those of its two clauses. -/
theorem loop_eq_ok {attributes : List Attribute} {content : Content} (h : loop attributes = .ok content) :
    ∃ clause source item index key, content = .repeating (.ofText source) item index key ∧
      iteration clause = .ok (item, index, source) ∧ ∀ path ∈ key, ∃ clause, keyPath clause = .ok path := by
  unfold loop loopOf at h
  generalize partitionAt ';' (loopText attributes) = clauses at h
  obtain ⟨⟨item, index, source⟩, hclause, hkey⟩ := bind_eq_ok h
  simp only at hkey
  split at hkey
  · cases hkey
    exact ⟨_, source, item, index, none, rfl, hclause, nofun⟩
  · cases hpath : keyPath (clauses.2.getD []).strip with
    | error cause =>
        rw [hpath] at hkey
        cases hkey
    | ok path =>
        rw [hpath] at hkey
        cases hkey
        refine ⟨_, source, item, index, some path, rfl, hclause, fun other hother => ?_⟩
        cases Option.mem_def.1 hother
        exact ⟨_, hpath⟩

/-! ### Outcomes of an element -/

/-- An element of markup without what it holds. -/
structure Element where
  tag : Text
  attributes : List Attribute
  position : Option Position
  deriving DecidableEq, Repr

namespace Element

variable {e : Element} {failure : Failure} {value : Node} {a : Attribute}

def role (e : Element) : Binding.Role := if isComponentTag e.tag then .component else .element

/-- The binding of one of its attributes. -/
def bindingOf (e : Element) (a : Attribute) : Except Failure Binding :=
  Binding.classify Binding.defaultRules e.role e.position a.key a.value

/-- The node of an element as a template is given its meaning. -/
def node (e : Element) : Except Failure Node := elementNode Binding.defaultRules e.tag e.attributes e.position

/-- Bindings that the attributes of an element make, in their order. -/
def Binds (e : Element) (bindings : List Binding) : Prop :=
  List.Forall₂ (fun a b => e.bindingOf a = .ok b) e.attributes bindings

inductive StandsFor (e : Element) : Node → Prop
  | conditional {value : Value} {negated : Bool} (htag : e.tag.lower = "w:if".toList)
      (hcontent : condition e.attributes = .ok (.conditional value negated)) :
      StandsFor e (.ofContent (.conditional value negated) (some e.position))
  | repeating {value : Value} {item : Text} {index key : Option Text} (htag : e.tag.lower = "w:for".toList)
      (hcontent : loop e.attributes = .ok (.repeating value item index key)) :
      StandsFor e (.ofContent (.repeating value item index key) (some e.position))
  | component {set : BindingSet} (hdirective : isDirectiveTag e.tag = false) (htag : '-' ∈ e.tag)
      (hbindings : e.Binds set.items) : StandsFor e ⟨.component e.tag, set, some e.position⟩
  | element {set : BindingSet} (hdirective : isDirectiveTag e.tag = false) (htag : '-' ∉ e.tag)
      (hbindings : e.Binds set.items) : StandsFor e ⟨.element e.tag, set, some e.position⟩

inductive Fails (e : Element) : Cause → Prop
  | unsupported (hdirective : isDirectiveTag e.tag = true) (hif : e.tag.lower ≠ "w:if".toList)
      (hfor : e.tag.lower ≠ "w:for".toList) : Fails e (.unsupportedDirective e.tag)
  | condition {cause : Cause} (htag : e.tag.lower = "w:if".toList) (hcause : condition e.attributes = .error cause) :
      Fails e cause
  | loop {cause : Cause} (htag : e.tag.lower = "w:for".toList) (hcause : loop e.attributes = .error cause) :
      Fails e cause
  /-- The first attribute that makes no binding. -/
  | rejected {cause : Cause} {front back : List Attribute} {a : Attribute}
      (hdirective : isDirectiveTag e.tag = false) (hsplit : e.attributes = front ++ a :: back)
      (hfront : ∀ x ∈ front, ∃ b, e.bindingOf x = .ok b)
      (hcause : e.bindingOf a = .error (.refused ⟨cause, e.position, []⟩)) : Fails e cause
  /-- The first binding whose key has come before. -/
  | duplicate {front back : List Binding} {b : Binding} (hdirective : isDirectiveTag e.tag = false)
      (hbindings : e.Binds (front ++ b :: back)) (hfront : (front.map Binding.key).Nodup)
      (hagain : b.key ∈ front.map Binding.key) : Fails e (.duplicateBinding ⟨b.kind, b.name?⟩ e.tag)

/-! ### Directives -/

theorem isDirectiveTag_of_lower {tag name : Text} (h : tag.lower = name) (hname : name.startsWith "w:" = true) :
    isDirectiveTag tag = true := by rw [isDirectiveTag, h, hname]

theorem directiveNode_eq_ok_iff {tag : Text} {attributes : List Attribute} {position : Option Position} :
    directiveNode tag attributes position = .ok value ↔
      ∃ content, directive tag attributes = .ok content ∧ value = .ofContent content (some position) := by
  unfold directiveNode
  cases directive tag attributes <;> simp [refuse, eq_comm]

theorem directiveNode_eq_error_iff {tag : Text} {attributes : List Attribute} {position : Option Position} :
    directiveNode tag attributes position = .error failure ↔
      ∃ cause, directive tag attributes = .error cause ∧ failure = .refused ⟨cause, position, []⟩ := by
  unfold directiveNode
  cases directive tag attributes <;> simp [refuse, eq_comm]

/-! ### Attributes -/

theorem withValue_eq_error {α : Type} {key : Text} {value : Option Text} {position : Option Position}
    {next : Text → Except Failure α} (h : Binding.withValue key value position next = .error failure)
    (hnext : ∀ written, next written = .error failure → ∃ cause, failure = .refused ⟨cause, position, []⟩) :
    ∃ cause, failure = .refused ⟨cause, position, []⟩ := by
  cases value with
  | none =>
      cases h
      exact ⟨_, rfl⟩
  | some written => exact hnext written h

theorem bind_eq_error {rule : Binding.Rule} {role : Binding.Role} {position : Option Position} {key : Text}
    {value : Option Text} (h : rule.bind role position key value = .error failure) :
    ∃ cause, failure = .refused ⟨cause, position, []⟩ := by
  cases rule with
  | explicit => exact withValue_eq_error h fun written hwritten => nomatch hwritten
  | implicit =>
      simp only [Binding.Rule.bind] at h
      split at h
      · exact withValue_eq_error h fun written hwritten => nomatch hwritten
      · cases h
  | property => exact withValue_eq_error h fun written hwritten => nomatch hwritten
  | event =>
      refine withValue_eq_error h fun written hwritten => ?_
      unfold Expression.call at hwritten
      split at hwritten
      · cases hwritten
      · cases hwritten
        exact ⟨_, rfl⟩
  | plain => cases value <;> cases h

/-- The last rule takes every key, so that an attribute is refused where its element stands or not at all. -/
theorem bindingOf_eq_error (h : e.bindingOf a = .error failure) :
    ∃ cause, failure = .refused ⟨cause, e.position, []⟩ := by
  unfold bindingOf Binding.classify at h
  split at h
  · exact bind_eq_error h
  · rename_i hnone
    have hplain := List.find?_eq_none.1 hnone .plain (by decide)
    exact absurd rfl hplain

/-! ### Elements and components -/

def content (e : Element) : Content :=
  match e.role with
  | .element => .element e.tag
  | .component => .component e.tag

theorem isComponentTag_iff {tag : Text} : isComponentTag tag = true ↔ '-' ∈ tag := by
  simp [isComponentTag, Text.contains]

theorem content_of_mem (h : '-' ∈ e.tag) : e.content = .component e.tag := by
  rw [content, role, if_pos (isComponentTag_iff.2 h)]

theorem content_of_not_mem (h : '-' ∉ e.tag) : e.content = .element e.tag := by
  rw [content, role, if_neg fun hdash => h (isComponentTag_iff.1 hdash)]

/-- The node that has some bindings, unless two of them have one key. -/
def ofBindings (e : Element) (bindings : List Binding) : Except Failure Node :=
  match BindingSet.ofList bindings with
  | .ok set => .ok ⟨e.content, set, some e.position⟩
  | .error duplicate => refuse e.position (.duplicateBinding duplicate e.tag)

theorem node_of_tagged (h : isDirectiveTag e.tag = false) : e.node = e.attributes.mapM e.bindingOf >>= e.ofBindings := by
  have htagged : e.node = taggedNode Binding.defaultRules e.role e.tag e.attributes e.position := by
    rw [node, elementNode, h, if_neg Bool.false_ne_true, role]
    split <;> rfl
  exact htagged

theorem node_of_directive (h : isDirectiveTag e.tag = true) : e.node = directiveNode e.tag e.attributes e.position := by
  rw [node, elementNode, h, if_pos rfl]

theorem tagged_eq_ok_iff (hdirective : isDirectiveTag e.tag = false) : e.node = .ok value ↔
    ∃ set : BindingSet, e.Binds set.items ∧ value = ⟨e.content, set, some e.position⟩ := by
  rw [node_of_tagged hdirective]
  constructor
  · intro h
    obtain ⟨bindings, hbindings, hvalue⟩ := bind_eq_ok h
    unfold ofBindings at hvalue
    split at hvalue
    · rename_i set hset
      cases hvalue
      rw [← BindingSet.ofList_eq_ok_iff.1 hset] at hbindings
      exact ⟨set, mapM_eq_ok_iff.1 hbindings, rfl⟩
    · cases hvalue
  · rintro ⟨set, hbindings, rfl⟩
    rw [mapM_eq_ok_iff.2 hbindings]
    change e.ofBindings set.items = _
    rw [ofBindings, BindingSet.ofList_eq_ok_iff.2 rfl]

theorem tagged_eq_error_iff (hdirective : isDirectiveTag e.tag = false) : e.node = .error failure ↔
    ∃ cause, e.Fails cause ∧ failure = .refused ⟨cause, e.position, []⟩ := by
  rw [node_of_tagged hdirective]
  constructor
  · intro h
    cases hmap : e.attributes.mapM e.bindingOf with
    | error first =>
        rw [hmap] at h
        cases h
        obtain ⟨front, a, back, hsplit, hfront, ha⟩ := mapM_eq_first_error_iff.1 hmap
        obtain ⟨cause, rfl⟩ := bindingOf_eq_error ha
        exact ⟨cause, .rejected hdirective hsplit hfront ha, rfl⟩
    | ok bindings =>
        rw [hmap] at h
        change e.ofBindings bindings = _ at h
        unfold ofBindings at h
        split at h
        · cases h
        · rename_i duplicate hset
          cases h
          obtain ⟨front, b, back, rfl, hfront, hagain, rfl⟩ := BindingSet.ofList_eq_error_iff.1 hset
          exact ⟨_, .duplicate hdirective (mapM_eq_ok_iff.1 hmap) hfront hagain, rfl⟩
  · rintro ⟨cause, hfails, rfl⟩
    cases hfails with
    | unsupported htag => cases hdirective.symm.trans htag
    | condition htag => cases hdirective.symm.trans (isDirectiveTag_of_lower htag rfl)
    | loop htag => cases hdirective.symm.trans (isDirectiveTag_of_lower htag rfl)
    | rejected _ hsplit hfront hcause =>
        rw [mapM_eq_first_error_iff.2 ⟨_, _, _, hsplit, hfront, hcause⟩]
        rfl
    | @duplicate front back b _ hbindings hfront hagain =>
        rw [mapM_eq_ok_iff.2 hbindings]
        change e.ofBindings (front ++ b :: back) = _
        rw [ofBindings, BindingSet.ofList_of_duplicate hfront hagain]
        rfl

/-! ### The two outcomes -/

theorem node_eq_ok_iff : e.node = .ok value ↔ e.StandsFor value := by
  cases hdirective : isDirectiveTag e.tag with
  | true =>
      rw [node_of_directive hdirective, directiveNode_eq_ok_iff]
      constructor
      · rintro ⟨content, hcontent, rfl⟩
        unfold directive at hcontent
        split at hcontent
        · rename_i htag
          obtain ⟨path, negated, rfl⟩ := condition_eq_ok hcontent
          exact .conditional htag hcontent
        split at hcontent
        · rename_i htag
          obtain ⟨_, source, item, index, key, rfl, -⟩ := loop_eq_ok hcontent
          exact .repeating htag hcontent
        · cases hcontent
      · intro h
        cases h with
        | conditional htag hcontent => exact ⟨_, by rw [directive, if_pos htag, hcontent], rfl⟩
        | repeating htag hcontent =>
            refine ⟨_, ?_, rfl⟩
            rw [directive, htag, if_neg (by decide), if_pos rfl, hcontent]
        | component hplain => cases hdirective.symm.trans hplain
        | element hplain => cases hdirective.symm.trans hplain
  | false =>
      rw [tagged_eq_ok_iff hdirective]
      constructor
      · rintro ⟨set, hbindings, rfl⟩
        by_cases htag : '-' ∈ e.tag
        · rw [content_of_mem htag]
          exact .component hdirective htag hbindings
        · rw [content_of_not_mem htag]
          exact .element hdirective htag hbindings
      · intro h
        cases h with
        | conditional htag => cases hdirective.symm.trans (isDirectiveTag_of_lower htag rfl)
        | repeating htag => cases hdirective.symm.trans (isDirectiveTag_of_lower htag rfl)
        | component _ htag hbindings => exact ⟨_, hbindings, by rw [content_of_mem htag]⟩
        | element _ htag hbindings => exact ⟨_, hbindings, by rw [content_of_not_mem htag]⟩

theorem node_eq_error_iff : e.node = .error failure ↔
    ∃ cause, e.Fails cause ∧ failure = .refused ⟨cause, e.position, []⟩ := by
  cases hdirective : isDirectiveTag e.tag with
  | true =>
      rw [node_of_directive hdirective, directiveNode_eq_error_iff]
      refine exists_congr fun cause => and_congr_left fun _ => ?_
      constructor
      · intro hcause
        unfold directive at hcause
        split at hcause
        · exact .condition ‹_› hcause
        split at hcause
        · exact .loop ‹_› hcause
        · cases hcause
          exact .unsupported hdirective ‹_› ‹_›
      · intro h
        cases h with
        | unsupported _ hif hfor => rw [directive, if_neg hif, if_neg hfor]
        | condition htag hcause => rw [directive, if_pos htag, hcause]
        | loop htag hcause => rw [directive, htag, if_neg (by decide), if_pos rfl, hcause]
        | rejected hplain => cases hdirective.symm.trans hplain
        | duplicate hplain => cases hdirective.symm.trans hplain
  | false => exact tagged_eq_error_iff hdirective

end Element

end ViewCompiler.Template
