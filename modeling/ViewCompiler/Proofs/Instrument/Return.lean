import ViewCompiler.Proofs.Instrument.Generated
import ViewCompiler.Proofs.Instrument.Kept

/-!
# What stands behind `return`

A script ends a statement at the line of its `return` if the value does not start on that line. Making a block of a
concise body takes off the brackets and the blanks in front of the value, and no more than that: comments between the
bracket and the value stay where they are, and with them a line may end there (`line_ends_behind_return_iff`).
-/

namespace ViewCompiler

namespace Script

/-- The characters that end a line of a script. -/
def isTerminator (c : Char) : Bool := c = '\n' || c = '\r' || c = '\u2028' || c = '\u2029'

/-- The expression that a concise body stands for: what a parenthesized one holds besides comments of either style, and
otherwise the body itself. -/
def Node.expression? (body : Node) : Option Node :=
  if body.kind = .parenthesized then body.parts.find? (·.kind ≠ .htmlComment) else some body

/-- The concise body of an arrow function holds an expression, which starts with a character that is not blank. -/
def Document.Concise (doc : Document) : Prop :=
  ∀ arrow ∈ doc.root.preorder, arrow.kind = .arrow → ∀ body ∈ arrow.child? .body, body.kind ≠ .block →
    ∃ value ∈ body.expression?, (doc.textOf value).head?.any (!Text.isBlank ·) = true

instance (doc : Document) : Decidable doc.Concise :=
  inferInstanceAs (Decidable (∀ arrow ∈ doc.root.preorder, arrow.kind = .arrow → ∀ body ∈ arrow.child? .body,
    body.kind ≠ .block → ∃ value ∈ body.expression?, _ = true))

end Script

namespace Instrument

open Script Text

variable {doc : Document} {o : Options} {plan : Plan} {arrow body value : Node} {e : Edit} {c : Char}

/-- What stands in a body in front of its expression. -/
def opening (doc : Document) (body value : Node) : Text := doc.text.slice (doc.rangeOf body).1 (doc.rangeOf value).1

/-- What stands at the end of a body and is no part of its value. -/
def closing (body : Node) : Text := if body.kind = .parenthesized then [')'] else []

/-! ### The value within the block -/

/-- A block up to its value. -/
def returnHead (o : Options) (base : Text) : Text :=
  indent base ('\x7b' :: '\n' :: o.indentText ++ "return ".toList)

/-- The value of a block stands behind `return`, moved one level deeper. -/
theorem returnBlock_eq_append (o : Options) (base value : Text) :
    returnBlock o base value =
      returnHead o base ++ deepen o.indentText base value ++ indent base ['\n', '\x7d'] := by
  have hline : indent o.indentText ("return ".toList ++ dedent base value) =
      "return ".toList ++ indent o.indentText (dedent base value) :=
    mapLines_append_of_notMem (by decide) _
  have hhead := (steady_indentLine base).mapLines_append ('\x7b' :: '\n' :: o.indentText) (c := 'r') (by decide)
    (show '\n' ∉ "eturn ".toList by decide) (indent o.indentText (dedent base value) ++ ['\n', '\x7d'])
  rw [mapLines_append_break] at hhead
  calc returnBlock o base value
      = indent base ('\x7b' :: '\n' :: o.indentText ++ 'r' :: "eturn ".toList ++
          (indent o.indentText (dedent base value) ++ ['\n', '\x7d'])) := by
        rw [returnBlock_eq, hline]
        simp
    _ = returnHead o base ++
          (indent base (indent o.indentText (dedent base value)) ++ indent base ['\n', '\x7d']) := hhead
    _ = returnHead o base ++ deepen o.indentText base value ++ indent base ['\n', '\x7d'] := by
        rw [deepen, List.append_assoc]

/-- Stripping a text takes off the blanks in front of its first character that is not one. -/
theorem exists_strip_eq (s : Text) (hc : isBlank c = false) (rest : Text) :
    ∃ rest', strip (s ++ c :: rest) = stripLeft s ++ c :: rest' := by
  rw [strip, stripLeft, dropWhile_append_cons s hc, stripRight]
  have hreverse : (s.dropWhile isBlank ++ c :: rest).reverse = rest.reverse ++ c :: (s.dropWhile isBlank).reverse := by
    simp
  rw [hreverse, dropWhile_append_cons _ hc]
  refine ⟨stripRight rest, ?_⟩
  simp [stripRight, stripLeft]

/-- A character that ends a line stands in front of the value afterwards only if one was there before. -/
theorem any_isTerminator_of_leads {g : Text → Text} {s s' : Text} (h : Leads g s s') :
    s'.any isTerminator = s.any isTerminator := by
  by_cases hbreak : '\n' ∈ s
  · rw [List.any_eq_true.2 ⟨'\n', h.breaks hbreak, by decide⟩, List.any_eq_true.2 ⟨'\n', hbreak, by decide⟩]
  · rw [h.same hbreak]

/-! ### The body of an arrow function -/

theorem mem_preorder_expression (hbody : body ∈ doc.root.preorder) (hvalue : body.expression? = some value) :
    value ∈ doc.root.preorder := by
  unfold Node.expression? at hvalue
  split at hvalue
  · have hchild : value ∈ body.children := (List.mem_filter.1 (List.mem_of_find?_eq_some hvalue)).1
    exact Node.mem_preorder_trans (Node.mem_preorder_of_child hchild) hbody
  · cases hvalue
    exact hbody

theorem eq_bodyEdit_of_expandArrow? (h : expandArrow? doc o plan arrow = some e) :
    ∃ body, arrow.child? .body = some body ∧ body.kind ≠ .block ∧ e = bodyEdit doc o body := by
  unfold expandArrow? at h
  cases hbody : arrow.child? .body with
  | none => simp [hbody] at h
  | some body =>
      simp only [hbody] at h
      split at h
      · cases h
      · rename_i hnot
        cases h
        simp only [Bool.or_eq_true, decide_eq_true_eq, not_or] at hnot
        exact ⟨body, rfl, hnot.1, rfl⟩

section Body

variable (hsound : doc.Sound) (hspelled : doc.Spelled) (hbody : body ∈ doc.root.preorder)
  (hvalue : body.expression? = some value)

include hsound hspelled hbody hvalue

theorem opening_cases :
    (body.kind = .parenthesized ∧ (doc.rangeOf body).1 < (doc.rangeOf value).1 ∧
      (doc.rangeOf value).2 < (doc.rangeOf body).2 ∧ ∃ lead, opening doc body value = '(' :: lead) ∨
        body.kind ≠ .parenthesized ∧ value = body ∧ opening doc body value = [] := by
  unfold Node.expression? at hvalue
  split at hvalue
  · rename_i hkind
    have hbracketed := hspelled.parenthesized body hbody hkind
    have hmem : value ∈ body.children := (List.mem_filter.1 (List.mem_of_find?_eq_some hvalue)).1
    have hbetween := hbracketed.between_child hsound hbody hmem
    refine Or.inl ⟨hkind, hbetween.1, hbetween.2, doc.text.slice ((doc.rangeOf body).1 + 1) (doc.rangeOf value).1, ?_⟩
    rw [opening, ← Text.slice_append doc.text (Nat.le_succ _) hbetween.1,
      Text.slice_succ (hbracketed.chars (by decide) hsound hbody).1, List.singleton_append]
  · rename_i hkind
    cases hvalue
    exact Or.inr ⟨hkind, rfl, by rw [opening, Text.slice_self]⟩

/-- The text of a body, cut at the first character of its expression. -/
theorem textOf_body (hc : (doc.textOf value).head? = some c) :
    ∃ rest, doc.textOf body = opening doc body value ++ c :: rest ++ closing body := by
  have hroot := mem_preorder_expression hbody hvalue
  have hlength := hsound.length_textOf hroot
  have hfull : 0 < (doc.textOf value).length := by
    apply List.length_pos_iff.2
    intro hnil
    rw [hnil] at hc
    cases hc
  have hchar : doc.text[(doc.rangeOf value).1]? = some c := by
    rw [hsound.textOf_eq hroot, Text.slice, List.head?_drop, List.getElem?_take_of_lt (by omega)] at hc
    exact hc
  rw [hsound.textOf_eq hbody]
  rcases opening_cases hsound hspelled hbody hvalue with ⟨hkind, hstart, hstop, -⟩ | ⟨hkind, rfl, hopening⟩
  · have hclose := Text.slice_succ ((hspelled.parenthesized body hbody hkind).chars (by decide) hsound hbody).2
    rw [Nat.sub_add_cancel (by omega)] at hclose
    refine ⟨doc.text.slice ((doc.rangeOf value).1 + 1) ((doc.rangeOf body).2 - 1), ?_⟩
    rw [opening, closing, if_pos hkind, ← hclose, ← List.singleton_append, ← Text.slice_succ hchar, List.append_assoc,
      List.append_assoc, Text.slice_append _ (by omega) (by omega), Text.slice_append _ (by omega) (by omega),
      Text.slice_append _ (by omega) (by omega)]
  · refine ⟨doc.text.slice ((doc.rangeOf value).1 + 1) (doc.rangeOf value).2, ?_⟩
    rw [hopening, closing, if_neg hkind, List.nil_append, List.append_nil, ← List.singleton_append,
      ← Text.slice_succ hchar, Text.slice_append _ (by omega) (by omega)]

/-- Whatever follows the first character of the expression, what stands between it and `return` is what stood in front
of it in the brackets, without blanks at its start. -/
theorem bodyEdit_return (o : Options) (hc : isBlank c = false) :
    ∃ between, Leads (deepen o.indentText (doc.lineIndent (doc.rangeOf body).1))
        (stripLeft ((opening doc body value).drop 1)) between ∧
      ∀ rest, ∃ behind, (bodyEdit doc o body).render (opening doc body value ++ c :: rest ++ closing body) =
        returnHead o (doc.lineIndent (doc.rangeOf body).1) ++ between ++ c :: behind := by
  have hbase := doc.isAllBlank_lineIndent (doc.rangeOf body).1
  obtain ⟨between, hleads⟩ := exists_leads_deepen o.indentText hbase (stripLeft ((opening doc body value).drop 1))
  refine ⟨between, hleads, fun rest => ?_⟩
  suffices hrender : ∃ rest', (bodyEdit doc o body).render (opening doc body value ++ c :: rest ++ closing body) =
      returnBlock o (doc.lineIndent (doc.rangeOf body).1) (stripLeft ((opening doc body value).drop 1) ++ c :: rest') by
    obtain ⟨rest', hrender⟩ := hrender
    refine ⟨deepen o.indentText (doc.lineIndent (doc.rangeOf body).1) rest' ++
      indent (doc.lineIndent (doc.rangeOf body).1) ['\n', '\x7d'], ?_⟩
    rw [hrender, returnBlock_eq_append, hleads.eq c rest' hc]
    simp
  rcases opening_cases hsound hspelled hbody hvalue with ⟨hkind, -, -, lead, hlead⟩ | ⟨hkind, -, hopening⟩
  · obtain ⟨rest', hstrip⟩ := exists_strip_eq lead hc rest
    refine ⟨rest', ?_⟩
    rw [hlead, closing, if_pos hkind, List.cons_append, bodyEdit_render hkind, hstrip]
    rfl
  · refine ⟨rest, ?_⟩
    rw [hopening, closing, if_neg hkind]
    simp [bodyEdit, conciseValue, hkind, stripLeft]

end Body

/-- The block that an edit makes of a concise body returns its expression: whatever follows the first character of the
expression in the body, that character stands in the block behind `return`, with `between` before it. -/
structure Returns (doc : Document) (o : Options) (e : Edit) (body value : Node) (between : Text) : Prop where
  expression : body.expression? = some value
  render : ∃ c, (doc.textOf value).head? = some c ∧
    (∃ rest, doc.textOf body = opening doc body value ++ c :: rest ++ closing body) ∧
    ∀ rest, ∃ behind, e.render (opening doc body value ++ c :: rest ++ closing body) =
      returnHead o (doc.lineIndent (doc.rangeOf body).1) ++ between ++ c :: behind

/-- A line ends between `return` and the expression of what was a concise body exactly if one ends in what stands in
front of the expression, behind the bracket and the blanks next to it. -/
theorem line_ends_behind_return_iff (hsound : doc.Sound) (hspelled : doc.Spelled) (hconcise : doc.Concise)
    (harrow : arrow ∈ doc.root.preorder) (hkind : arrow.kind = .arrow) (h : expandArrow? doc o plan arrow = some e) :
    ∃ body value between, arrow.child? .body = some body ∧ Returns doc o e body value between ∧
      between.any isTerminator = (stripLeft ((opening doc body value).drop 1)).any isTerminator := by
  obtain ⟨body, hbody, hblock, rfl⟩ := eq_bodyEdit_of_expandArrow? h
  have hroot := Node.mem_preorder_trans (Node.mem_preorder_of_child? hbody) harrow
  obtain ⟨value, hvalue, hfirst⟩ := hconcise arrow harrow hkind body hbody hblock
  obtain ⟨c, hc, hink⟩ := (Option.any_eq_true _ _).1 hfirst
  rw [Bool.not_eq_true'] at hink
  obtain ⟨between, hleads, hrender⟩ := bodyEdit_return hsound hspelled hroot hvalue o hink
  exact ⟨body, value, between, hbody, ⟨hvalue, c, hc, textOf_body hsound hspelled hroot hvalue hc, hrender⟩,
    any_isTerminator_of_leads hleads⟩

/-- A concise body with a comment in front of its expression. -/
def commentedBody : Document where
  text := "const f = () => (// c\nx)"
  wellFormed := true
  root :=
    ⟨.other, none, 0, 24, [⟨.other, none, 0, 24, [⟨.other, none, 6, 18, [⟨.identifier, none, 6, 1, []⟩,
      ⟨.arrow, none, 10, 14, [⟨.parameters, some .parameters, 10, 2, []⟩,
        ⟨.parenthesized, some .body, 16, 8, [⟨.comment, none, 17, 4, []⟩,
          ⟨.identifier, none, 22, 1, []⟩]⟩]⟩]⟩]⟩]⟩

/-- The line of `return` ends with the comment of the example. -/
theorem line_ends_behind_return_commented :
    commentedBody.Sound ∧ commentedBody.Spelled ∧ commentedBody.Concise ∧
      ∃ arrow ∈ commentedBody.root.preorder, ∃ e, expandArrow? commentedBody {} [] arrow = some e ∧
        ∃ body value between, Returns commentedBody {} e body value between ∧ between.any isTerminator = true := by
  have hsound : commentedBody.Sound := by
    refine ⟨⟨?_, ?_⟩, ?_, ?_⟩
    all_goals decide +kernel
  have hspelled : commentedBody.Spelled := by
    refine ⟨?_, ?_, ?_, ?_⟩
    all_goals decide +kernel
  have hconcise : commentedBody.Concise := by decide +kernel
  have hnode : ∃ arrow ∈ commentedBody.root.preorder, arrow.kind = .arrow ∧
      (expandArrow? commentedBody {} [] arrow).isSome = true ∧
      ∀ body ∈ arrow.child? .body, ∀ value ∈ body.expression?,
        (stripLeft ((opening commentedBody body value).drop 1)).any isTerminator = true := by decide +kernel
  obtain ⟨arrow, harrow, hkind, hsome, hlead⟩ := hnode
  obtain ⟨e, he⟩ := Option.isSome_iff_exists.1 hsome
  obtain ⟨body, value, between, hbody, hreturns, hiff⟩ :=
    line_ends_behind_return_iff hsound hspelled hconcise harrow hkind he
  rw [hlead body hbody value hreturns.expression] at hiff
  exact ⟨hsound, hspelled, hconcise, arrow, harrow, e, he, body, value, between, hreturns, hiff⟩

/-- The value of the example is on the line behind the one of `return`. -/
theorem expandArrow_cuts_off_value :
    ∃ arrow ∈ commentedBody.root.preorder, ∃ body ∈ arrow.child? .body, ∃ value ∈ body.expression?,
      arrow.kind = .arrow ∧ commentedBody.textOf value = "x".toList ∧
      (expandArrow? commentedBody {} [] arrow).map (·.render (commentedBody.textOf body)) =
        some "\x7b\n  return // c\n  x\n\x7d".toList := by
  decide +kernel

end Instrument

end ViewCompiler
