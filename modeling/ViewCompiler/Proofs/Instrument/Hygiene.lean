import ViewCompiler.Proofs.Instrument.Built

/-!
# Which names the wrapper captures

The code that is put around a callback binds two names: the rest parameter and the constant for the callback's
result. A variable of the callback that is spelled like one of them changes its meaning. The check of a class
keeps clear of the names that start with what is reserved, and no others (`spelled_unreserved`). By default the
constant starts with it and the rest parameter does not, so a callback is safe exactly when it does not say `args`.
-/

namespace ViewCompiler.Instrument

open Script

variable {doc : Document} {o : Options} {injection : Injection} {cls n : Node} {slot : Slot} {p : Progress}

/-- The names that are bound around a callback. -/
def boundNames (o : Options) : List Text := [o.argsName, o.resultName]

/-- The variables in the arguments of a class that are spelled like one of some names. -/
def Clashes (doc : Document) (cls : Node) (names : List Text) (n : Node) : Prop :=
  (∃ slot ∈ slotsOf doc cls, n ∈ slot.argument.preorder) ∧ n.kind = .identifier ∧ doc.textOf n ∈ names

/-- No variable in an argument of the class is captured by the code around the argument. -/
def Hygienic (doc : Document) (o : Options) (cls : Node) : Prop := ∀ n, ¬ Clashes doc cls (boundNames o) n

theorem not_refused_of_ok (h : (instrumentClass doc o injection cls p).1 = .ok true) : ¬ Refused doc o cls := by
  rcases checkedSlots_cases doc o cls with ⟨-, error, hchecked⟩ | ⟨-, hchecked⟩ | ⟨haccepted, -⟩
  · simp [instrumentClass, hchecked] at h
  · simp [instrumentClass, hchecked] at h
  · exact haccepted

theorem argument_mem_of_slotsOf (h : slot ∈ slotsOf doc cls) : slot.argument ∈ cls.preorder := by
  unfold slotsOf at h
  split at h
  · rename_i found hfound
    exact argument_mem_of_slots hfound h
  · exact absurd h List.not_mem_nil

/-- A class that is instrumented spells no reserved name in its arguments. -/
theorem spelled_unreserved (h : (instrumentClass doc o injection cls p).1 = .ok true)
    (hslot : slot ∈ slotsOf doc cls) (hn : n ∈ slot.argument.preorder) (hkind : n.kind = .identifier) :
    Text.startsWith (doc.textOf n) o.reservedStart = false := by
  have hcls : n ∈ cls.preorder := Node.mem_preorder_trans hn (argument_mem_of_slotsOf hslot)
  by_contra hreserved
  apply not_refused_of_ok h
  refine Or.inr ⟨?_, n, hcls, by rw [hkind]; rfl, Bool.not_eq_false _ ▸ hreserved⟩
  -- A class with a slot has a call.
  intro hnone
  unfold slotsOf at hslot
  split at hslot
  · rename_i found hfound
    have hlength := (forall₂_slots hfound).length_eq
    rw [hnone] at hlength
    rw [List.eq_nil_of_length_eq_zero hlength.symm] at hslot
    exact absurd hslot List.not_mem_nil
  · exact absurd hslot List.not_mem_nil

theorem Clashes.unreserved {names : List Text} (hclash : Clashes doc cls names n)
    (h : (instrumentClass doc o injection cls p).1 = .ok true) :
    ∃ name ∈ names, doc.textOf n = name ∧ Text.startsWith name o.reservedStart = false := by
  obtain ⟨⟨slot, hslot, hn⟩, hkind, hname⟩ := hclash
  exact ⟨doc.textOf n, hname, rfl, spelled_unreserved h hslot hn hkind⟩

/-- With the default names, the instrumentation of a class is hygienic exactly when no variable in an argument is
spelled `args`. With names that are both reserved it always is. -/
theorem hygienic_iff_args (doc : Document) (cls : Node) (injection : Injection) (p : Progress) :
    ((instrumentClass doc {} injection cls p).1 = .ok true →
      (Hygienic doc {} cls ↔ ∀ n, ¬ Clashes doc cls ["args".toList] n)) ∧
    ∀ o : Options, (∀ name ∈ boundNames o, Text.startsWith name o.reservedStart = true) →
      (instrumentClass doc o injection cls p).1 = .ok true → Hygienic doc o cls := by
  constructor
  · intro h
    refine forall_congr' fun n => not_congr ⟨fun hclash => ?_, fun hclash => ?_⟩
    · obtain ⟨name, hname, hspelled, hunreserved⟩ := hclash.unreserved h
      refine ⟨hclash.1, hclash.2.1, ?_⟩
      rw [hspelled]
      rcases List.mem_cons.1 hname with rfl | hname
      · exact List.mem_singleton_self _
      · rw [List.mem_singleton.1 hname] at hunreserved
        exact absurd hunreserved (by decide)
    · exact ⟨hclash.1, hclash.2.1, List.mem_cons.2 (Or.inl (List.mem_singleton.1 hclash.2.2))⟩
  · intro o hreserved h n hclash
    obtain ⟨name, hname, -, hunreserved⟩ := hclash.unreserved h
    rw [hreserved name hname] at hunreserved
    cases hunreserved

/-- Neither class of the example says `args` in its callback. -/
theorem hygienic_iff_args_nested : ∀ cls ∈ nestedClasses.classes,
    (instrumentClass nestedClasses {} (injectStatement defaultStatement) cls ⟨[], []⟩).1 = .ok true ∧
      Hygienic nestedClasses {} cls := by
  have hchecks : ∀ cls ∈ nestedClasses.classes,
      (instrumentClass nestedClasses {} (injectStatement defaultStatement) cls ⟨[], []⟩).1.toOption = some true ∧
        ∀ slot ∈ slotsOf nestedClasses cls, ∀ n ∈ slot.argument.preorder, n.kind = .identifier →
          nestedClasses.textOf n ≠ "args" := by decide +kernel
  intro cls hcls
  obtain ⟨hresult, hnone⟩ := hchecks cls hcls
  have hok : (instrumentClass nestedClasses {} (injectStatement defaultStatement) cls ⟨[], []⟩).1 = .ok true :=
    eq_ok_of_toOption hresult
  refine ⟨hok, ((hygienic_iff_args nestedClasses cls _ _).1 hok).2 ?_⟩
  rintro n ⟨⟨slot, hslot, hn⟩, hkind, hname⟩
  exact hnone slot hslot n hn hkind (List.mem_singleton.1 hname)

/-- A callback that reads a parameter of the method around it. -/
def readsArgs : Document where
  text := "class A\x7bm(args)\x7bp.then(()=>args)\x7d\x7d"
  wellFormed := true
  root :=
    ⟨.other, none, 0, 34, [⟨.classDeclaration, none, 0, 34, [⟨.typeName, some .name, 6, 1, []⟩,
      ⟨.classBody, some .body, 7, 27, [⟨.methodDefinition, none, 8, 25, [⟨.propertyName, some .name, 8, 1, []⟩,
        ⟨.parameters, some .parameters, 9, 6, [⟨.other, none, 10, 4, [⟨.identifier, none, 10, 4, []⟩]⟩]⟩,
        ⟨.block, some .body, 15, 18, [⟨.other, none, 16, 16, [⟨.call, none, 16, 16, [
          ⟨.member, some .function, 16, 6, [⟨.identifier, none, 16, 1, []⟩,
            ⟨.propertyName, some .property, 18, 4, []⟩]⟩,
          ⟨.arguments, some .arguments, 22, 10, [⟨.arrow, none, 23, 8, [
            ⟨.parameters, some .parameters, 23, 2, []⟩,
            ⟨.identifier, some .body, 27, 4, []⟩]⟩]⟩]⟩]⟩]⟩]⟩]⟩]⟩]⟩

/-- The class is accepted, and the callback gets its variable from the wrapper instead. -/
theorem instrumentClass_captures_args : ∃ cls ∈ readsArgs.classes,
    (instrumentClass readsArgs {} (injectStatement defaultStatement) cls ⟨[], []⟩).1 = .ok true ∧
      ¬ Hygienic readsArgs {} cls ∧
      ∀ slot ∈ slotsOf readsArgs cls,
        (injectEdit readsArgs {} (injectStatement defaultStatement slot) slot).render (readsArgs.textOf slot.argument) =
          ("(...args: any[]) => \x7b\n  const __wane__result = (()=>args)(...args)\n" ++
            "  this.__wane__factory.__wane__diff()\n  return __wane__result\n\x7d" : String).toList := by
  have hchecks : ∃ cls ∈ readsArgs.classes,
      (instrumentClass readsArgs {} (injectStatement defaultStatement) cls ⟨[], []⟩).1.toOption = some true ∧
        (∃ slot ∈ slotsOf readsArgs cls, ∃ n ∈ slot.argument.preorder, n.kind = .identifier ∧
          readsArgs.textOf n ∈ boundNames {}) ∧
        ∀ slot ∈ slotsOf readsArgs cls,
          (injectEdit readsArgs {} (injectStatement defaultStatement slot) slot).render
              (readsArgs.textOf slot.argument) =
            ("(...args: any[]) => \x7b\n  const __wane__result = (()=>args)(...args)\n" ++
              "  this.__wane__factory.__wane__diff()\n  return __wane__result\n\x7d" : String).toList := by
    decide +kernel
  obtain ⟨cls, hcls, hresult, ⟨slot, hslot, n, hn, hkind, hname⟩, hrender⟩ := hchecks
  exact ⟨cls, hcls, eq_ok_of_toOption hresult, fun hygienic => hygienic n ⟨⟨slot, hslot, hn⟩, hkind, hname⟩, hrender⟩

end ViewCompiler.Instrument
