import ViewCompiler.Instrument.Run
import ViewCompiler.Proofs.Instrument.CallSite
import ViewCompiler.Proofs.Instrument.Visit
import ViewCompiler.Proofs.Sequence

/-!
# A class is instrumented as a whole or not at all

Everything that can stand against instrumenting a class is known before the first edit is planned: a call site
without a single argument (`Misfit`), or a name that is reserved (`Refused`). From then on nothing fails, and
each step only adds to the plan: `slotEdits` for a call site, one edit for the constructor.
-/

namespace ViewCompiler.Instrument

open Script

variable {doc : Document} {o : Options} {injection : Injection} {cls call : Node} {plan : Plan} {slot : Slot}

/-- The calls that are call sites of a class, in order. -/
def callsOf (doc : Document) (cls : Node) : List Node := (sites doc cls).map Prod.snd

/-- A call that has no single argument, or has one that is spread. -/
def Misfit (call : Node) : Prop :=
  (argumentsOf call).length ≠ 1 ∨ ∃ argument ∈ argumentsOf call, argument.kind = .spread

/-- What stands against instrumenting a class. -/
def Refused (doc : Document) (o : Options) (cls : Node) : Prop :=
  (∃ call ∈ callsOf doc cls, Misfit call) ∨
    callsOf doc cls ≠ [] ∧
      ∃ n ∈ cls.preorder, n.kind.isName = true ∧ Text.startsWith (doc.textOf n) o.reservedStart = true

instance (call : Node) : Decidable (Misfit call) :=
  inferInstanceAs (Decidable (_ ∨ ∃ argument ∈ argumentsOf call, argument.kind = .spread))

instance (doc : Document) (o : Options) (cls : Node) : Decidable (Refused doc o cls) :=
  inferInstanceAs (Decidable ((∃ call ∈ callsOf doc cls, Misfit call) ∨ callsOf doc cls ≠ [] ∧
    ∃ n ∈ cls.preorder, n.kind.isName = true ∧ Text.startsWith (doc.textOf n) o.reservedStart = true))

/-- The slot of a call. The names that an error would carry make no difference to it. -/
def SlotOf (doc : Document) (call : Node) (slot : Slot) : Prop :=
  ∃ className methodName, Slot.ofCall doc className methodName call = .ok slot

/-- The edit that wraps a name or a call in an arrow function. -/
def forwardEdit (doc : Document) (o : Options) (slot : Slot) : Edit :=
  ⟨rangeIn doc slot.argument, forwardingArrow o (doc.indentOf slot.argument), some callbackLabel⟩

/-- The edit that makes a block of the body of an arrow function. -/
def bodyEdit (doc : Document) (o : Options) (body : Node) : Edit :=
  ⟨rangeIn doc body, fun current => returnBlock o (doc.lineIndent (doc.rangeOf body).1)
    (conciseValue (body.kind = .parenthesized) current), some arrowLabel⟩

/-- The edits of one call site: at most one that brings the argument to the form of a function, and behind it the
one that wraps the argument. -/
def EditsOf (doc : Document) (o : Options) (injection : Injection) (call : Node) (edits : List Edit) : Prop :=
  ∃ slot expand wrap, SlotOf doc call slot ∧ argumentsOf call = [slot.argument] ∧
    edits = Option.toList expand ++ [wrap] ∧ wrap = injectEdit doc o (injection slot) slot ∧
    wrap.label = some injectLabel ∧ wrap.range = rangeIn doc slot.argument ∧
    ∀ e ∈ expand,
      (e = forwardEdit doc o slot ∧ e.label = some callbackLabel ∧ e.range = rangeIn doc slot.argument) ∨
        ∃ body, slot.argument.child? .body = some body ∧ e = bodyEdit doc o body ∧
          e.label = some arrowLabel ∧ e.range = rangeIn doc body

/-! ### The checks -/

theorem ofCall_eq_error_iff {className methodName : Option Text} :
    (∃ error, Slot.ofCall doc className methodName call = .error error) ↔ Misfit call := by
  simp only [Slot.ofCall, Misfit, argumentsOf]
  split
  · rename_i argument hvalues
    rw [hvalues]
    split
    · rename_i hspread
      simp [hspread]
    · rename_i hplain
      simp [hplain]
  · rename_i hvalues
    simp only [Except.error.injEq, exists_eq', true_iff]
    left
    intro hone
    obtain ⟨argument, heq⟩ := List.length_eq_one_iff.1 hone
    exact hvalues argument heq

theorem slots_eq_error_iff : (∃ error, slots doc cls = .error error) ↔ ∃ call ∈ callsOf doc cls, Misfit call := by
  rw [slots, mapM_eq_error_iff]
  simp only [callsOf, List.mem_map, Prod.exists, ofCall_eq_error_iff]
  constructor
  · rintro ⟨method, call, hsite, hmisfit⟩
    exact ⟨call, ⟨method, call, hsite, rfl⟩, hmisfit⟩
  · rintro ⟨call, ⟨method, call', hsite, rfl⟩, hmisfit⟩
    exact ⟨method, call', hsite, hmisfit⟩

/-- The slots of a class are those of its calls, one for each. -/
theorem forall₂_slots {found : List Slot} (h : slots doc cls = .ok found) :
    List.Forall₂ (SlotOf doc) (callsOf doc cls) found := by
  rw [callsOf, List.forall₂_map_left_iff]
  apply (mapM_eq_ok_iff.1 h).imp
  rintro ⟨method, call⟩ slot hslot
  exact ⟨_, _, hslot⟩

theorem reservedName?_isSome : (reservedName? doc o cls).isSome = true ↔
    ∃ n ∈ cls.preorder, n.kind.isName = true ∧ Text.startsWith (doc.textOf n) o.reservedStart = true := by
  simp only [reservedName?, List.find?_isSome, Document.namesIn, Node.walk_eq_preorder, List.mem_map,
    List.mem_filter, Prod.exists, Prod.mk.injEq]
  constructor
  · rintro ⟨n, name, ⟨n', ⟨hn, hkind⟩, rfl, rfl⟩, hreserved⟩
    exact ⟨n', hn, hkind, hreserved⟩
  · rintro ⟨n, hn, hkind, hreserved⟩
    exact ⟨n, doc.textOf n, ⟨n, ⟨hn, hkind⟩, rfl, rfl⟩, hreserved⟩

/-- The three ways in which the checks of a class can end. -/
theorem checkedSlots_cases (doc : Document) (o : Options) (cls : Node) :
    (Refused doc o cls ∧ ∃ error, checkedSlots doc o cls = .error error) ∨
      (callsOf doc cls = [] ∧ checkedSlots doc o cls = .ok []) ∨
      (¬ Refused doc o cls ∧ callsOf doc cls ≠ [] ∧
        ∃ found, found ≠ [] ∧ slots doc cls = .ok found ∧ checkedSlots doc o cls = .ok found) := by
  unfold checkedSlots
  cases hslots : slots doc cls with
  | error error =>
      left
      exact ⟨Or.inl (slots_eq_error_iff.1 ⟨error, hslots⟩), error, rfl⟩
  | ok found =>
      have hfits : ¬ ∃ call ∈ callsOf doc cls, Misfit call := by
        intro hmisfit
        obtain ⟨error, herror⟩ := slots_eq_error_iff.2 hmisfit
        rw [hslots] at herror
        cases herror
      have hlength := (forall₂_slots hslots).length_eq
      cases found with
      | nil =>
          right; left
          exact ⟨List.eq_nil_of_length_eq_zero hlength, rfl⟩
      | cons first others =>
          have hcalls : callsOf doc cls ≠ [] := by
            intro hnone
            rw [hnone] at hlength
            simp at hlength
          cases hreserved : reservedName? doc o cls with
          | some found =>
              left
              refine ⟨Or.inr ⟨hcalls, reservedName?_isSome.1 ?_⟩, _, rfl⟩
              rw [hreserved]
              rfl
          | none =>
              right; right
              refine ⟨?_, hcalls, first :: others, by simp, rfl, rfl⟩
              rintro (hmisfit | ⟨-, hname⟩)
              · exact hfits hmisfit
              · rw [← reservedName?_isSome, hreserved] at hname
                cases hname

/-! ### The edits -/

/-- What is added to a plan for a call site. -/
def slotEdits (doc : Document) (o : Options) (injection : Injection) (plan : Plan) (slot : Slot) : List Edit :=
  (expandCallback? doc o plan slot).toList ++ [injectEdit doc o (injection slot) slot]

theorem addSome_eq (plan : Plan) (planned : Option Edit) : (addSome plan planned).2 = plan ++ planned.toList := by
  cases planned with
  | none => simp [addSome]
  | some e => rfl

theorem instrumentSlot_plan (className : Text) (p : Progress) :
    (instrumentSlot doc o injection className p slot).plan =
      p.plan ++ slotEdits doc o injection p.plan slot := by
  simp [instrumentSlot, inject, Plan.add, expandCallback, addSome_eq, slotEdits]

theorem expandCallback?_arrow {body : Node} (hkind : slot.argument.kind = .arrow)
    (hbody : slot.argument.child? .body = some body) (hblock : body.kind ≠ .block) :
    expandCallback? doc o plan slot =
      if plan.has (rangeIn doc body) (some arrowLabel) then none else some (bodyEdit doc o body) := by
  simp only [expandCallback?, expandArrow?, hkind, hbody, hblock, if_pos, decide_false, Bool.false_or]
  rfl

theorem expandCallback?_cases {e : Edit} (h : expandCallback? doc o plan slot = some e) :
    e = forwardEdit doc o slot ∨
      slot.argument.kind = .arrow ∧ ∃ body, slot.argument.child? .body = some body ∧ body.kind ≠ .block ∧
        plan.has (rangeIn doc body) (some arrowLabel) = false ∧ e = bodyEdit doc o body := by
  by_cases hkind : slot.argument.kind = .arrow
  · right
    refine ⟨hkind, ?_⟩
    cases hbody : slot.argument.child? .body with
    | none => simp [expandCallback?, expandArrow?, hkind, hbody] at h
    | some body =>
        by_cases hblock : body.kind = .block
        · simp [expandCallback?, expandArrow?, hkind, hbody, hblock] at h
        · rw [expandCallback?_arrow hkind hbody hblock, Option.ite_none_left_eq_some, Option.some.injEq] at h
          exact ⟨body, rfl, hblock, Bool.eq_false_iff.2 h.1, h.2.symm⟩
  · left
    simp only [expandCallback?, hkind, if_false] at h
    split at h
    · simp only [Option.ite_none_left_eq_some, Option.some.injEq] at h
      exact h.2.symm
    · simp at h

theorem slotEdits_editsOf (injection : Injection) (plan : Plan) (h : SlotOf doc call slot) :
    EditsOf doc o injection call (slotEdits doc o injection plan slot) := by
  obtain ⟨className, methodName, hofCall⟩ := h
  refine ⟨slot, expandCallback? doc o plan slot, _, ⟨className, methodName, hofCall⟩, (ofCall_eq_ok_iff.1 hofCall).1, rfl,
    rfl, rfl, rfl, ?_⟩
  intro e he
  rcases expandCallback?_cases he with rfl | ⟨-, body, hbody, -, -, rfl⟩
  · exact Or.inl ⟨rfl, rfl, rfl⟩
  · exact Or.inr ⟨body, hbody, rfl, rfl, rfl⟩

theorem foldl_instrumentSlot_plan {calls : List Node} {found : List Slot} (injection : Injection)
    (className : Text) (p : Progress) (hfound : List.Forall₂ (SlotOf doc) calls found) :
    ∃ groups, (found.foldl (instrumentSlot doc o injection className) p).plan = p.plan ++ groups.flatten ∧
      List.Forall₂ (EditsOf doc o injection) calls groups := by
  induction hfound generalizing p with
  | nil => exact ⟨[], by simp, List.Forall₂.nil⟩
  | @cons call slot calls found hslot _ ih =>
      obtain ⟨groups, hplan, hgroups⟩ := ih (instrumentSlot doc o injection className p slot)
      refine ⟨slotEdits doc o injection p.plan slot :: groups, ?_,
        List.Forall₂.cons (slotEdits_editsOf injection p.plan hslot) hgroups⟩
      rw [List.foldl_cons, hplan, instrumentSlot_plan, List.flatten_cons, List.append_assoc]

theorem parameterEdit_label (parameters : Node) (text : Text) :
    (parameterEdit doc parameters text).label = some parameterLabel := by
  unfold parameterEdit
  split <;> rfl

/-- A class with a call site has a body, so it gets a constructor where it has none. -/
theorem addParameter_plan (hcalls : callsOf doc cls ≠ [])
    (hparameters : ∀ member ∈ Document.members cls, isConstructor doc member = true →
      (member.child? .parameters).isSome = true) (scope : Option Text) (name type : Text) (p : Progress) :
    ∃ e record, constructorEdit? doc o cls scope name type = some (e, record) ∧
      (addParameter doc o cls scope name type p).plan = p.plan ++ [e] ∧
      (e.label = some constructorLabel ∨ e.label = some parameterLabel) := by
  unfold addParameter constructorEdit?
  cases hconstructor : constructor? doc cls with
  | some member =>
      have hmember := hparameters member (List.mem_of_find?_eq_some hconstructor) (List.find?_some hconstructor)
      obtain ⟨parameters, hlist⟩ := Option.isSome_iff_exists.1 hmember
      simp only [hlist, Option.map_some]
      exact ⟨_, _, rfl, rfl, Or.inr (parameterEdit_label parameters _)⟩
  | none =>
      obtain ⟨call, hcall⟩ := List.exists_mem_of_ne_nil _ hcalls
      obtain ⟨⟨method, call'⟩, hsite, -⟩ := List.mem_map.1 hcall
      obtain ⟨body, -, -, hbody, -⟩ := way_to_site hsite
      simp only [hbody, Option.map_some]
      exact ⟨_, _, rfl, rfl, Or.inl rfl⟩

/-- A class is refused exactly for what `Refused` says, and then nothing changes; it is left alone exactly when it
has no call site. Otherwise the plan grows by the edits of each call site in turn and by one edit for the
constructor, the one that `constructorEdit?` gives, provided a constructor has a parameter list. -/
theorem instrumentClass_all_or_nothing (doc : Document) (o : Options) (injection : Injection) (cls : Node)
    (p : Progress) :
    ((∃ error, (instrumentClass doc o injection cls p).1 = .error error) ↔ Refused doc o cls) ∧
      (∀ error, (instrumentClass doc o injection cls p).1 = .error error →
        (instrumentClass doc o injection cls p).2 = p) ∧
      ((instrumentClass doc o injection cls p).1 = .ok false ↔ callsOf doc cls = []) ∧
      ((instrumentClass doc o injection cls p).1 = .ok false → (instrumentClass doc o injection cls p).2 = p) ∧
      (¬ Refused doc o cls → callsOf doc cls ≠ [] → (instrumentClass doc o injection cls p).1 = .ok true ∧
        ((∀ member ∈ Document.members cls, isConstructor doc member = true →
            (member.child? .parameters).isSome = true) →
          ∃ groups last, (instrumentClass doc o injection cls p).2.plan = p.plan ++ groups.flatten ++ [last] ∧
            List.Forall₂ (EditsOf doc o injection) (callsOf doc cls) groups ∧
            (∃ record, constructorEdit? doc o cls o.factoryScope o.factoryName o.factoryType = some (last, record)) ∧
            (last.label = some constructorLabel ∨ last.label = some parameterLabel))) := by
  rcases checkedSlots_cases doc o cls with ⟨hrefused, error, hchecked⟩ | ⟨hnone, hchecked⟩ |
    ⟨haccepted, hcalls, found, hfound, hslots, hchecked⟩
  · have hrun : instrumentClass doc o injection cls p = (.error error, p) := by
      simp [instrumentClass, hchecked]
    have hcalls : callsOf doc cls ≠ [] := by
      rcases hrefused with ⟨call, hcall, -⟩ | ⟨hcalls, -⟩
      · exact List.ne_nil_of_mem hcall
      · exact hcalls
    simp [hrun, hrefused, hcalls]
  · have hrun : instrumentClass doc o injection cls p = (.ok false, p) := by
      simp [instrumentClass, hchecked]
    simp [hrun, hnone, Refused]
  · have hrun : instrumentClass doc o injection cls p = (.ok true,
        addParameter doc o cls o.factoryScope o.factoryName o.factoryType
          (found.foldl (instrumentSlot doc o injection (doc.className cls)) p)) := by
      simp [instrumentClass, hchecked]
    refine ⟨by simp [hrun, haccepted], by simp [hrun], by simp [hrun, hcalls], by simp [hrun], ?_⟩
    intro _ _
    refine ⟨by simp [hrun], fun hparameters => ?_⟩
    obtain ⟨groups, hplan, hgroups⟩ :=
      foldl_instrumentSlot_plan (o := o) injection (doc.className cls) p (forall₂_slots hslots)
    obtain ⟨last, record, hedit, hlast, hlabel⟩ :=
      addParameter_plan hcalls hparameters o.factoryScope o.factoryName o.factoryType
        (found.foldl (instrumentSlot doc o injection (doc.className cls)) p)
    refine ⟨groups, last, ?_, hgroups, ⟨record, hedit⟩, hlabel⟩
    rw [hrun, hlast, hplan]

/-- Both classes of the example are instrumented, with one group of edits each. Where a name that both hold is
reserved, both are refused. -/
theorem instrumentClass_all_or_nothing_nested :
    nestedClasses.classes.length = 2 ∧ ∀ cls ∈ nestedClasses.classes,
      (instrumentClass nestedClasses {} (injectStatement defaultStatement) cls ⟨[], []⟩).1 = .ok true ∧
      (∃ group last, (instrumentClass nestedClasses {} (injectStatement defaultStatement) cls ⟨[], []⟩).2.plan =
        group ++ [last] ∧ ∃ call, callsOf nestedClasses cls = [call] ∧
          EditsOf nestedClasses {} (injectStatement defaultStatement) call group) ∧
      ∃ error, (instrumentClass nestedClasses { reservedStart := "p" } (injectStatement defaultStatement) cls
        ⟨[], []⟩).1 = .error error := by
  have hchecks : ∀ cls ∈ nestedClasses.classes, ¬ Refused nestedClasses {} cls ∧
      (callsOf nestedClasses cls).length = 1 ∧
      (∀ member ∈ Document.members cls, isConstructor nestedClasses member = true →
        (member.child? .parameters).isSome = true) ∧
      Refused nestedClasses { reservedStart := "p" } cls := by decide +kernel
  refine ⟨by decide +kernel, fun cls hcls => ?_⟩
  obtain ⟨haccepted, hone, hparameters, hrefused⟩ := hchecks cls hcls
  obtain ⟨call, hcall⟩ := List.length_eq_one_iff.1 hone
  have hcalls : callsOf nestedClasses cls ≠ [] := by simp [hcall]
  obtain ⟨-, -, -, -, hedits⟩ :=
    instrumentClass_all_or_nothing nestedClasses {} (injectStatement defaultStatement) cls ⟨[], []⟩
  obtain ⟨htrue, hplan⟩ := hedits haccepted hcalls
  obtain ⟨groups, last, hplan, hgroups, -⟩ := hplan hparameters
  rw [hcall] at hgroups
  obtain ⟨group, _, hgroup, hnil, rfl⟩ := List.forall₂_cons_left_iff.1 hgroups
  cases List.forall₂_nil_left_iff.1 hnil
  refine ⟨htrue, ⟨group, last, by simpa using hplan, call, hcall, hgroup⟩, ?_⟩
  exact (instrumentClass_all_or_nothing nestedClasses { reservedStart := "p" } (injectStatement defaultStatement) cls
    ⟨[], []⟩).1.2 hrefused

end ViewCompiler.Instrument
