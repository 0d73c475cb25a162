import ViewCompiler.Proofs.Instrument.Wrapper

/-!
# Wrapping what has been rendered already

A callback that was brought to the form of a function is wrapped next, and both edits put the indentation of a line on
their result. The second takes off what the first put on (`dedent_indent`), so it writes into the wrapper what the first
had written before it was moved to its line. `braced` is that: code as a writer leaves it, at the outermost level.
-/

namespace ViewCompiler.Instrument

open Script Text

variable {doc : Document} {o : Options} {plan : Plan} {slot : Slot} {e : Edit}

/-- A block in braces behind a heading. -/
def braced (o : Options) (head : Text) (body : Writer → Writer) : Text :=
  ((((Writer.empty o.indentText).write head).block body).write "\x7d").text

/-- The body of an arrow function that returns a value. -/
def returning (o : Options) (value : Text) : Text := braced o "\x7b" fun w => w.writeLine ("return " ++ value)

/-- An arrow function that passes its arguments on. -/
def forwarding (o : Options) (function : Text) : Text :=
  braced o (heading o) fun w => w.writeLine ("return " ++ function ++ "(" ++ o.spreadArguments ++ ")")

/-- An arrow function around a callback and the code that is injected behind it. -/
def wrapping (o : Options) (code : Writer → Writer) (callback : Text) : Text :=
  braced o (heading o) fun w => (code (w.writeLine (callLine o callback))).writeLine ("return " ++ o.resultName)

theorem returnBlock_eq_indent (o : Options) (base value : Text) :
    returnBlock o base value = indent base (returning o (dedent base value)) := rfl

theorem forwardingArrow_eq_indent (o : Options) (base function : Text) :
    forwardingArrow o base function = indent base (forwarding o (dedent base function)) := rfl

theorem wrapper_eq_indent (o : Options) (code : Writer → Writer) (base callback : Text) :
    wrapper o code base callback = indent base (wrapping o code (dedent base callback)) := rfl

theorem render_injectEdit (doc : Document) (o : Options) (code : Writer → Writer) (slot : Slot) (callback : Text) :
    (injectEdit doc o code slot).render callback =
      indent (doc.indentOf slot.argument) (wrapping o code (dedent (doc.indentOf slot.argument) callback)) := by
  dsimp only [injectEdit]
  rw [wrapper_eq_indent]

/-! ### The edits that bring a callback to its form -/

/-- A callback that is no arrow function is forwarded to, and the edit replaces all of it. -/
theorem eq_of_expandCallback? (h : expandCallback? doc o plan slot = some e) (hkind : slot.argument.kind ≠ .arrow) :
    e = ⟨rangeIn doc slot.argument, forwardingArrow o (doc.indentOf slot.argument), some callbackLabel⟩ := by
  simp only [expandCallback?, if_neg hkind] at h
  split at h
  · split at h
    · cases h
    · exact (Option.some.inj h).symm
  · cases h

/-- Of an arrow function the body is replaced. -/
theorem eq_of_expandCallback?_arrow {body : Node} (h : expandCallback? doc o plan slot = some e)
    (hkind : slot.argument.kind = .arrow) (hbody : slot.argument.child? .body = some body) :
    e = ⟨rangeIn doc body, fun current => returnBlock o (doc.lineIndent (doc.rangeOf body).1)
      (conciseValue (body.kind = .parenthesized) current), some arrowLabel⟩ := by
  simp only [expandCallback?, if_pos hkind, expandArrow?, hbody] at h
  split at h
  · cases h
  · exact (Option.some.inj h).symm

/-- Taking a base off undoes putting it on. So if a callback has been brought to the form of a function, and is wrapped
at the base that it got there, then what is written into the wrapper is the code in that form as it was before: all of
the callback if it is forwarded to, and the body of an arrow function behind any head that ends on a line with that
base. -/
theorem dedent_recovers_rendering (base : Text) (hbase : '\n' ∉ base) :
    (∀ text, dedent base (indent base text) = text) ∧
      ∀ (doc : Document) (o : Options) (code : Writer → Writer) (plan : Plan) (slot : Slot) (e : Edit),
        expandCallback? doc o plan slot = some e → doc.indentOf slot.argument = base →
          (slot.argument.kind ≠ .arrow → e.range = (injectEdit doc o code slot).range ∧
            ∀ current, (injectEdit doc o code slot).render (e.render current) =
              indent base (wrapping o code (forwarding o (dedent base current)))) ∧
          ∀ body, slot.argument.kind = .arrow → slot.argument.child? .body = some body →
            doc.lineIndent (doc.rangeOf body).1 = base → e.range = rangeIn doc body ∧
              ∀ head current, (∀ line, (lines head).2.getLast? = some line → base <+: line) →
                (injectEdit doc o code slot).render (head ++ e.render current) =
                  indent base (wrapping o code (dedent base head ++
                    returning o (dedent base (conciseValue (body.kind = .parenthesized) current)))) := by
  refine ⟨dedent_indent hbase, fun doc o code plan slot e he hslot => ?_⟩
  refine ⟨fun hkind => ?_, fun body hkind hbody hline => ?_⟩
  · rw [eq_of_expandCallback? he hkind]
    refine ⟨rfl, fun current => ?_⟩
    rw [render_injectEdit, hslot]
    dsimp only
    rw [forwardingArrow_eq_indent, dedent_indent hbase]
  · rw [eq_of_expandCallback?_arrow he hkind hbody, hline]
    refine ⟨rfl, fun head current hhead => ?_⟩
    rw [render_injectEdit, hslot]
    dsimp only
    rw [returnBlock_eq_indent, dedent_append hhead, dedent_indent hbase]

/-- Two callbacks on lines with one base, a name and an arrow function that goes on behind a line feed. -/
theorem dedent_recovers_rendering_chained :
    let name : Node := ⟨.identifier, none, 9, 1, []⟩
    let body : Node := ⟨.parenthesized, some .body, 24, 3, []⟩
    let arrow : Node := ⟨.arrow, none, 17, 10, [body]⟩
    let call : Node := ⟨.call, none, 2, 26, [name, arrow]⟩
    let doc : Document := ⟨"  p.then(f).then(x =>\n  (x))", call, true⟩
    let code := fun w : Writer => w.writeLine "g()"
    dedent "  " (indent "  " "a\n\n  b\n ") = "a\n\n  b\n " ∧
      (∃ e, expandCallback? doc {} [] ⟨call, name, "then"⟩ = some e ∧
        rows ((injectEdit doc {} code ⟨call, name, "then"⟩).render (e.render "f")) =
          ["(...args: any[]) => \x7b".toList, "    const __wane__result = ((...args: any[]) => \x7b".toList,
            "      return f(...args)".toList, "    \x7d)(...args)".toList, "    g()".toList,
            "    return __wane__result".toList, "  \x7d".toList]) ∧
      ∃ e, expandCallback? doc {} [] ⟨call, arrow, "then"⟩ = some e ∧
        rows ((injectEdit doc {} code ⟨call, arrow, "then"⟩).render ("x =>\n  " ++ e.render "(x)")) =
          ["(...args: any[]) => \x7b".toList, "    const __wane__result = (x =>".toList, "    \x7b".toList,
            "      return x".toList, "    \x7d)(...args)".toList, "    g()".toList,
            "    return __wane__result".toList, "  \x7d".toList] := by
  intro name body arrow call doc code
  obtain ⟨hundo, hrecovers⟩ := dedent_recovers_rendering "  " (by decide)
  refine ⟨hundo _, ⟨_, rfl, ?_⟩, ⟨_, rfl, ?_⟩⟩
  · have hname := (hrecovers doc {} code [] ⟨call, name, "then"⟩ _ rfl (by decide +kernel)).1 (by decide)
    rw [hname.2 "f"]
    decide +kernel
  · have harrow := (hrecovers doc {} code [] ⟨call, arrow, "then"⟩ _ rfl (by decide +kernel)).2 body rfl rfl
      (by decide +kernel)
    rw [harrow.2 "x =>\n  " "(x)" (by decide +kernel)]
    decide +kernel

end ViewCompiler.Instrument
