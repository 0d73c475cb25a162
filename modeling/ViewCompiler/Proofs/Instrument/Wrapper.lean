import ViewCompiler.Proofs.Instrument.Generated
import ViewCompiler.Proofs.Text.Rows

/-!
# The layout of a wrapper

A wrapper is written at the first level of an empty writer and then moved to the indentation of the line it starts in.
Here its lines are read off, all of them (`rows_wrapper`). The callback is written into it without the base of its own
line, so each of its lines is found again in the call as it is (`getElem?_rows_callLine`), and one level deeper in the
wrapper.
-/

namespace ViewCompiler

open Text

theorem Writer.rows_indented {unit : Text} (hunit : '\n' ∉ unit) (t rest : Text) :
    rows (indented unit t ++ rest) = (rows t).map (indentLine unit) ++ rows rest := by
  have hline {line : Text} (h : line ∈ rows t) : '\n' ∉ indentLine unit line :=
    notMem_indentLine hunit (notMem_of_mem_rows h)
  have hunlines : indentLine unit (lines t).1 ++ (lines t).2.flatMap (fun line => '\n' :: indentLine unit line) =
      unlines (indentLine unit (lines t).1) ((lines t).2.map (indentLine unit)) := by
    rw [unlines_eq, List.flatMap_map]
  rw [indented, hunlines, List.append_assoc, List.singleton_append, rows_append_break,
    rows_unlines (hline List.mem_cons_self)]
  · rfl
  · intro line hmem
    obtain ⟨old, hold, rfl⟩ := List.mem_map.1 hmem
    exact hline (List.mem_cons_of_mem _ hold)

namespace Instrument

open Writer

variable {o : Options} {base : Text}

/-- The statement in which a wrapper calls the callback. -/
def callLine (o : Options) (callback : Text) : Text :=
  "const " ++ o.resultName ++ " = (" ++ callback ++ ")(" ++ o.spreadArguments ++ ")"

theorem wrapper_eq_lines (o : Options) (statement : Text) (slot : Slot) (base callback : Text) :
    wrapper o (injectStatement statement slot) base callback = indent base (heading o ++ ['\n'] ++
      (indented o.indentText (callLine o (dedent base callback)) ++ indented o.indentText statement ++
        indented o.indentText ("return " ++ o.resultName)) ++ ['\x7d']) := by
  refine congrArg (indent base) (text_braces (getLast?_heading o) fun s w hw => ?_)
  rw [← List.append_assoc, ← List.append_assoc]
  exact ((hw.line _).line statement).line _

theorem notMem_spreadArguments (hrest : '\n' ∉ o.restParameter) : '\n' ∉ o.spreadArguments := by
  refine fun hmem => hrest ?_
  unfold Options.restParameter
  split
  · exact hmem
  · exact hmem
  · exact List.mem_append_left _ (List.mem_append_left _ hmem)

theorem notMem_heading (hrest : '\n' ∉ o.restParameter) : '\n' ∉ heading o := by
  simpa [heading] using hrest

/-- The lines of a wrapper. -/
theorem rows_wrapper (hbase : '\n' ∉ base) (hunit : '\n' ∉ o.indentText) (hresult : '\n' ∉ o.resultName)
    (hrest : '\n' ∉ o.restParameter) (statement : Text) (slot : Slot) (callback : Text) :
    rows (wrapper o (injectStatement statement slot) base callback) =
      heading o :: ((rows (callLine o (dedent base callback)) ++ rows statement).map
        (indentLine (base ++ o.indentText)) ++
          [base ++ o.indentText ++ "return " ++ o.resultName, base ++ "\x7d"]) := by
  have hreturn : rows ("return " ++ o.resultName) = ["return " ++ o.resultName] :=
    rows_of_notMem (by simpa using hresult)
  have hclose : rows ['\x7d'] = [['\x7d']] := rows_of_notMem (by decide)
  have hinner : rows (heading o ++ ['\n'] ++ (indented o.indentText (callLine o (dedent base callback)) ++
        indented o.indentText statement ++ indented o.indentText ("return " ++ o.resultName)) ++ ['\x7d']) =
      heading o :: ((rows (callLine o (dedent base callback)) ++ rows statement ++ ["return " ++ o.resultName]).map
        (indentLine o.indentText) ++ [['\x7d']]) := by
    simp only [List.append_assoc, List.cons_append, List.nil_append, rows_append_break,
      rows_of_notMem (notMem_heading hrest), rows_indented hunit, hreturn, hclose, List.map_append]
  have htwice : indentLine base ∘ indentLine o.indentText = indentLine (base ++ o.indentText) :=
    funext (indentLine_indentLine base o.indentText)
  have hline : indentLine (base ++ o.indentText) ("return " ++ o.resultName) =
      base ++ o.indentText ++ "return " ++ o.resultName := by
    rw [indentLine_of_ne_nil (by simp), List.append_assoc _ "return ".toList]
  rw [wrapper_eq_lines, rows_indent hbase hinner, List.map_append, List.map_map, htwice, List.map_append,
    List.append_assoc, List.map_singleton, hline]
  rfl

/-- A line of the callback stands in the call as it is, but for the base. The call goes on behind the last one. -/
theorem getElem?_rows_callLine (hresult : '\n' ∉ o.resultName) (hrest : '\n' ∉ o.restParameter) {callback line : Text}
    {i : Nat} (h : (lines callback).2[i]? = some (base ++ line)) :
    (rows (callLine o (dedent base callback)))[i + 1]? =
      some (line ++ if i + 1 = (lines callback).2.length then ")(" ++ o.spreadArguments ++ ")" else []) := by
  have hsplit : callLine o (dedent base callback) = ("const " ++ o.resultName ++ " = (") ++
      (dedent base callback ++ (")(" ++ o.spreadArguments ++ ")")) := by
    unfold callLine
    simp only [List.append_assoc]
  have hlines : (lines (dedent base callback)).2 = (lines callback).2.map (dedentLine base) :=
    (List.cons.inj (rows_dedent base callback)).2
  rw [hsplit, rows, lines_append_of_notMem (by simpa using hresult), List.getElem?_cons_succ,
    getElem?_lines_append _ (by simpa using notMem_spreadArguments hrest), hlines, List.getElem?_map, h,
    Option.map_some, Option.map_some, dedentLine_append, List.length_map]
  split
  · rfl
  · rw [List.append_nil]

/-- A wrapper has a heading, the call, the injected statement, the return and a brace, each on lines of its own and the
three in the middle one level deeper than the base. So a line of the callback moves by exactly that level. -/
theorem wrapper_layout (o : Options) (base : Text) (hbase : ∀ c ∈ base, c = ' ' ∨ c = '\t')
    (hunit : '\n' ∉ o.indentText) (hresult : '\n' ∉ o.resultName) (hrest : '\n' ∉ o.restParameter)
    (statement : Text) (slot : Slot) (callback : Text) :
    (∀ doc : Script.Document, doc.indentOf slot.argument = base →
        (injectEdit doc o (injectStatement statement slot) slot).render callback =
          wrapper o (injectStatement statement slot) base callback) ∧
      rows (wrapper o (injectStatement statement slot) base callback) =
        ("(" ++ o.restParameter ++ ") => \x7b") ::
          ((rows ("const " ++ o.resultName ++ " = (" ++ dedent base callback ++ ")(" ++ o.spreadArguments ++ ")") ++
            rows statement).map (indentLine (base ++ o.indentText)) ++
              [base ++ o.indentText ++ "return " ++ o.resultName, base ++ "\x7d"]) ∧
      ∀ i line, (lines callback).2[i]? = some (base ++ line) → line ≠ [] →
        (rows (wrapper o (injectStatement statement slot) base callback))[i + 2]? =
          some (base ++ o.indentText ++ line ++
            if i + 1 = (lines callback).2.length then ")(" ++ o.spreadArguments ++ ")" else []) := by
  have hbreak : '\n' ∉ base := fun hmem => absurd (hbase _ hmem) (by decide)
  have hrows := rows_wrapper hbreak hunit hresult hrest statement slot callback
  refine ⟨fun doc hdoc => ?_, hrows, fun i line hline hfull => ?_⟩
  · rw [injectEdit, hdoc]
  · have hcall := getElem?_rows_callLine hresult hrest hline
    have hlength := (List.getElem?_eq_some_iff.1 hcall).1
    rw [hrows, List.getElem?_cons_succ, List.map_append, List.append_assoc,
      List.getElem?_append_left (by rwa [List.length_map]), List.getElem?_map, hcall, Option.map_some,
      indentLine_of_ne_nil (List.append_ne_nil_of_left_ne_nil hfull _), List.append_assoc _ line]

/-- A callback and a statement of several lines, with an empty one in each of them. -/
theorem wrapper_layout_multiline :
    let argument : Script.Node := ⟨.arrow, none, 7, 18, []⟩
    let slot : Slot := ⟨⟨.call, none, 0, 26, [argument]⟩, argument, "then"⟩
    let text := wrapper {} (injectStatement "a()\n\nb()" slot) ['\t'] "x => \x7b\n\t\t f(x)\n\n\t\x7d"
    rows text = ["(...args: any[]) => \x7b".toList, "\t  const __wane__result = (x => \x7b".toList,
        "\t  \t f(x)".toList, [], "\t  \x7d)(...args)".toList, "\t  a()".toList, [], "\t  b()".toList,
        "\t  return __wane__result".toList, "\t\x7d".toList] ∧
      (rows text)[2]? = some "\t  \t f(x)".toList := by
  intro argument slot text
  have hbase : ∀ c ∈ ['\t'], c = ' ' ∨ c = '\t' := fun c hc => Or.inr (List.mem_singleton.1 hc)
  obtain ⟨-, hrows, hline⟩ := wrapper_layout {} ['\t'] hbase (by decide) (by decide) (by decide) "a()\n\nb()" slot
    "x => \x7b\n\t\t f(x)\n\n\t\x7d"
  refine ⟨hrows.trans (by decide +kernel), ?_⟩
  exact (hline 0 "\t f(x)" (by decide +kernel) (by decide)).trans (by decide +kernel)

end Instrument

end ViewCompiler
