import ViewCompiler.Proofs.Edit.Rendering
import ViewCompiler.Proofs.Instrument.Atomic
import ViewCompiler.Proofs.Instrument.Plan

/-!
# How the plan of a document is built

A run over the classes of a document takes their slots in order and adds the edits of each; between them it adds
one edit for each class with a slot. `Built` is this history of a plan, with the slots that have been done. A run
that is not refused does all of them (`built_classes`). What holds of every plan with such a history is then shown
by induction on it: where its edits come from, that each slot is wrapped, that a forwarding function is wrapped
itself, and that no body is made a block twice.
-/

namespace ViewCompiler.Instrument

open Script

variable {doc : Document} {o : Options} {injection : Injection} {cls : Node} {slot : Slot} {done : List Slot}
  {plan : Plan} {e : Edit}

/-- The slots of a class; none if one of its call sites has none. -/
def slotsOf (doc : Document) (cls : Node) : List Slot :=
  match slots doc cls with
  | .ok found => found
  | .error _ => []

/-- The slots of all classes in order. -/
def allSlots (doc : Document) : List Slot := doc.classes.flatMap (slotsOf doc)

/-- The classes with a slot. -/
def touched (doc : Document) : List Node := doc.classes.filter fun cls => !(slotsOf doc cls).isEmpty

/-- A plan that has come about by doing some slots in order, and adding parameters to classes with a slot. -/
inductive Built (doc : Document) (o : Options) (injection : Injection) : List Slot → Plan → Prop where
  | nothing : Built doc o injection [] []
  | slot {done : List Slot} {plan : Plan} (before : Built doc o injection done plan) (slot : Slot) :
      Built doc o injection (done ++ [slot]) (plan ++ slotEdits doc o injection plan slot)
  | parameter {done : List Slot} {plan : Plan} (before : Built doc o injection done plan) (cls : Node)
      (hcls : cls ∈ touched doc) (e : Edit) (record : Log.Record)
      (hedit : constructorEdit? doc o cls o.factoryScope o.factoryName o.factoryType = some (e, record)) :
      Built doc o injection done (plan ++ [e])

/-! ### The slots of a document -/

theorem mem_allSlots (h : slot ∈ allSlots doc) :
    ∃ cls ∈ doc.root.preorder, ∃ found, slots doc cls = .ok found ∧ slot ∈ found := by
  obtain ⟨cls, hcls, hslot⟩ := List.mem_flatMap.1 h
  unfold slotsOf at hslot
  split at hslot
  · rename_i found hfound
    exact ⟨cls, mem_preorder_of_mem_classes hcls, found, hfound, hslot⟩
  · exact absurd hslot List.not_mem_nil

/-- The argument of a slot is one of the children of an argument list. -/
theorem argument_of_mem_allSlots (h : slot ∈ allSlots doc) :
    ∃ list ∈ doc.root.preorder, list.role = some .arguments ∧ slot.argument ∈ list.children := by
  obtain ⟨cls, hcls, found, hfound, hslot⟩ := mem_allSlots h
  obtain ⟨body, member, block, call, list, hbody, hmember, -, hblock, hcall, hlist, hargument⟩ := way_to_slot hfound hslot
  refine ⟨list, ?_, Node.role_of_child? hlist, hargument⟩
  have hmemberRoot := Node.mem_preorder_trans (Node.mem_preorder_of_child hmember)
    (Node.mem_preorder_trans (Node.mem_preorder_of_child? hbody) hcls)
  exact Node.mem_preorder_trans (Node.mem_preorder_of_child? hlist) (Node.mem_preorder_trans (mem_callSites hcall).1
    (Node.mem_preorder_trans (Node.mem_preorder_of_child? hblock) hmemberRoot))

theorem argument_mem_preorder (h : slot ∈ allSlots doc) : slot.argument ∈ doc.root.preorder := by
  obtain ⟨list, hlist, -, hargument⟩ := argument_of_mem_allSlots h
  exact Node.mem_preorder_trans (Node.mem_preorder_of_child hargument) hlist

/-! ### The run -/

theorem Built.foldl_instrumentSlot {p : Progress} (h : Built doc o injection done p.plan) (className : Text)
    (found : List Slot) :
    Built doc o injection (done ++ found) (found.foldl (instrumentSlot doc o injection className) p).plan := by
  induction found generalizing done p with
  | nil => rwa [List.append_nil]
  | cons slot rest ih =>
      have hstep : Built doc o injection (done ++ [slot]) (instrumentSlot doc o injection className p slot).plan := by
        rw [instrumentSlot_plan]
        exact h.slot slot
      have hrest := ih hstep
      rwa [List.append_assoc, List.singleton_append] at hrest

theorem Built.instrumentClass {touch : Bool} {p p' : Progress} (h : Built doc o injection done p.plan)
    (hcls : cls ∈ doc.classes) (hrun : instrumentClass doc o injection cls p = (.ok touch, p')) :
    Built doc o injection (done ++ slotsOf doc cls) p'.plan ∧ (touch = false → p'.plan = p.plan) := by
  rcases checkedSlots_cases doc o cls with ⟨-, error, hchecked⟩ | ⟨hnone, hchecked⟩ |
    ⟨-, -, found, hfound, hslots, hchecked⟩
  · simp [Instrument.instrumentClass, hchecked] at hrun
  · have hslots : slotsOf doc cls = [] := by rw [slotsOf, slots_of_checkedSlots hchecked]
    simp only [Instrument.instrumentClass, hchecked, Prod.mk.injEq] at hrun
    obtain ⟨-, rfl⟩ := hrun
    rw [hslots, List.append_nil]
    exact ⟨h, fun _ => rfl⟩
  · have hof : slotsOf doc cls = found := by rw [slotsOf, hslots]
    have htouched : cls ∈ touched doc := List.mem_filter.2 ⟨hcls, by simp [hof, hfound]⟩
    simp only [Instrument.instrumentClass, hchecked, Prod.mk.injEq, Except.ok.injEq] at hrun
    obtain ⟨rfl, rfl⟩ := hrun
    refine ⟨?_, fun hfalse => absurd hfalse (by decide)⟩
    have hslots := h.foldl_instrumentSlot (doc.className cls) found
    rw [hof]
    unfold addParameter
    split
    · rename_i e record hedit
      exact hslots.parameter cls htouched e record hedit
    · exact hslots

theorem Built.instrumentClasses {classes : List Node} {count : Nat} {p p' : Progress}
    (h : Built doc o injection done p.plan) (hclasses : ∀ cls ∈ classes, cls ∈ doc.classes)
    (hrun : instrumentClasses doc o injection classes p = (.ok count, p')) :
    Built doc o injection (done ++ classes.flatMap (slotsOf doc)) p'.plan ∧ (count = 0 → p'.plan = p.plan) := by
  induction classes generalizing done count p with
  | nil =>
      simp only [Instrument.instrumentClasses, Prod.mk.injEq] at hrun
      obtain ⟨-, rfl⟩ := hrun
      rw [List.flatMap_nil, List.append_nil]
      exact ⟨h, fun _ => rfl⟩
  | cons cls rest ih =>
      simp only [Instrument.instrumentClasses] at hrun
      split at hrun
      · simp at hrun
      · rename_i touch q hclass
        obtain ⟨hbuilt, hsame⟩ := h.instrumentClass (hclasses cls List.mem_cons_self) hclass
        split at hrun
        · simp at hrun
        · rename_i others q' hrest
          simp only [Prod.mk.injEq, Except.ok.injEq] at hrun
          obtain ⟨rfl, rfl⟩ := hrun
          obtain ⟨hbuilt', hsame'⟩ := ih hbuilt (fun c hc => hclasses c (List.mem_cons_of_mem cls hc)) hrest
          rw [List.flatMap_cons, ← List.append_assoc]
          refine ⟨hbuilt', fun hzero => ?_⟩
          split at hzero
          · exact absurd hzero (Nat.succ_ne_zero _)
          · rename_i hnot
            rw [hsame' hzero, hsame (Bool.eq_false_iff.2 hnot)]

/-- A run that is not refused does the slots of all classes. If it counts no class, it plans nothing. -/
theorem built_classes {count : Nat} {p : Progress}
    (hrun : instrumentClasses doc o injection doc.classes ⟨[], []⟩ = (.ok count, p)) :
    Built doc o injection (allSlots doc) p.plan ∧ (count = 0 → p.plan = []) :=
  Built.nothing.instrumentClasses (fun _ => id) hrun

/-! ### Where the edits come from -/

/-- What an edit of a plan is for. -/
inductive Origin (doc : Document) (o : Options) (injection : Injection) (done : List Slot) (e : Edit) : Prop where
  | wrap (slot : Slot) (hslot : slot ∈ done) (he : e = injectEdit doc o (injection slot) slot)
  | forward (slot : Slot) (hslot : slot ∈ done) (he : e = forwardEdit doc o slot)
  | body (slot : Slot) (hslot : slot ∈ done) (hkind : slot.argument.kind = .arrow) (body : Node)
      (hbody : slot.argument.child? .body = some body) (hblock : body.kind ≠ .block) (he : e = bodyEdit doc o body)
  | parameter (cls : Node) (hcls : cls ∈ touched doc) (record : Log.Record)
      (hedit : constructorEdit? doc o cls o.factoryScope o.factoryName o.factoryType = some (e, record))

theorem Origin.mono {further : List Slot} (h : Origin doc o injection done e) :
    Origin doc o injection (done ++ further) e := by
  cases h with
  | wrap slot hslot he => exact .wrap slot (List.mem_append_left _ hslot) he
  | forward slot hslot he => exact .forward slot (List.mem_append_left _ hslot) he
  | body slot hslot hkind body hbody hblock he =>
      exact .body slot (List.mem_append_left _ hslot) hkind body hbody hblock he
  | parameter cls hcls record hedit => exact .parameter cls hcls record hedit

theorem mem_slotEdits (h : e ∈ slotEdits doc o injection plan slot) :
    expandCallback? doc o plan slot = some e ∨ e = injectEdit doc o (injection slot) slot := by
  rcases List.mem_append.1 h with h | h
  · exact Or.inl (Option.mem_toList.1 h)
  · exact Or.inr (List.mem_singleton.1 h)

theorem Built.origin (h : Built doc o injection done plan) : ∀ e ∈ plan, Origin doc o injection done e := by
  induction h with
  | nothing => exact fun e he => absurd he List.not_mem_nil
  | @slot done plan before slot ih =>
      intro e he
      have hslot : slot ∈ done ++ [slot] := List.mem_append_right _ (List.mem_singleton_self slot)
      rcases List.mem_append.1 he with hold | hnew
      · exact (ih e hold).mono
      rcases mem_slotEdits hnew with hexpand | rfl
      · rcases expandCallback?_cases hexpand with rfl | ⟨hkind, body, hbody, hblock, -, rfl⟩
        · exact .forward slot hslot rfl
        · exact .body slot hslot hkind body hbody hblock rfl
      · exact .wrap slot hslot rfl
  | parameter before cls hcls e record hedit ih =>
      intro x hx
      rcases List.mem_append.1 hx with hold | hnew
      · exact ih x hold
      · rw [List.mem_singleton.1 hnew]
        exact .parameter cls hcls record hedit

theorem constructorEdit?_label {scope : Option Text} {name type : Text} {record : Log.Record}
    (h : constructorEdit? doc o cls scope name type = some (e, record)) :
    e.label ≠ some arrowLabel ∧ e.label ≠ some callbackLabel := by
  rcases constructorEdit?_eq_some h with ⟨member, list, -, -, rfl⟩ | ⟨body, -, rfl⟩
  · rw [parameterEdit_label]
    decide
  · simp only [Edit.insertion]
    decide

theorem has_iff {range : Range} {label : Text} :
    plan.has range (some label) = true ↔ ∃ e ∈ plan, e.range = range ∧ e.label = some label := by
  simp only [Plan.has, List.any_eq_true, Bool.and_eq_true, decide_eq_true_eq, Option.isNone_some, Bool.false_or]

/-! ### What every history keeps -/

theorem Built.wrapped (h : Built doc o injection done plan) :
    ∀ slot ∈ done, injectEdit doc o (injection slot) slot ∈ plan := by
  induction h with
  | nothing => exact fun slot hslot => absurd hslot List.not_mem_nil
  | slot before slot ih =>
      intro s hs
      rcases List.mem_append.1 hs with hold | hnew
      · exact List.mem_append_left _ (ih s hold)
      · rw [List.mem_singleton.1 hnew]
        exact List.mem_append_right _ (List.mem_append_right _ (List.mem_singleton_self _))
  | parameter before cls hcls e record hedit ih => exact fun s hs => List.mem_append_left _ (ih s hs)

theorem Built.has_body (h : Built doc o injection done plan) {body : Node} (hslot : slot ∈ done)
    (hkind : slot.argument.kind = .arrow) (hbody : slot.argument.child? .body = some body)
    (hblock : body.kind ≠ .block) : ∃ e ∈ plan, e.range = rangeIn doc body ∧ e.label = some arrowLabel := by
  induction h with
  | nothing => exact absurd hslot List.not_mem_nil
  | @slot done plan before slot' ih =>
      rcases List.mem_append.1 hslot with hold | hnew
      · obtain ⟨e, he, hrange⟩ := ih hold
        exact ⟨e, List.mem_append_left _ he, hrange⟩
      · rw [List.mem_singleton.1 hnew] at hkind hbody
        by_cases hhas : plan.has (rangeIn doc body) (some arrowLabel) = true
        · obtain ⟨e, he, hrange⟩ := has_iff.1 hhas
          exact ⟨e, List.mem_append_left _ he, hrange⟩
        · refine ⟨bodyEdit doc o body, List.mem_append_right _ (List.mem_append_left _ ?_), rfl, rfl⟩
          rw [expandCallback?_arrow hkind hbody hblock, if_neg hhas]
          exact List.mem_singleton_self _
  | parameter before cls hcls e record hedit ih =>
      obtain ⟨e, he, hrange⟩ := ih hslot
      exact ⟨e, List.mem_append_left _ he, hrange⟩

/-- Of the edits of one range at most one makes a block of a body. -/
theorem Built.bodies_apart (h : Built doc o injection done plan) :
    plan.Pairwise fun a b => a.label = some arrowLabel → b.label = some arrowLabel → a.range ≠ b.range := by
  induction h with
  | nothing => exact List.Pairwise.nil
  | @slot done plan before slot ih =>
      rw [slotEdits, ← List.append_assoc, List.pairwise_append, List.pairwise_append]
      refine ⟨⟨ih, ?_, ?_⟩, List.pairwise_singleton _ _, ?_⟩
      · cases expandCallback? doc o plan slot with
        | none => exact List.Pairwise.nil
        | some e => exact List.pairwise_singleton _ _
      · intro a ha e he hlabel hlabel' heq
        rcases expandCallback?_cases (Option.mem_toList.1 he) with rfl | ⟨-, body, -, -, hhas, rfl⟩
        · exact absurd (Option.some.inj hlabel') (by decide)
        · exact Bool.eq_false_iff.1 hhas (has_iff.2 ⟨a, ha, heq, hlabel⟩)
      · intro a _ e he _ hlabel
        rw [List.mem_singleton.1 he] at hlabel
        exact absurd (Option.some.inj hlabel) (by decide)
  | parameter before cls hcls e record hedit ih =>
      rw [List.pairwise_append]
      refine ⟨ih, List.pairwise_singleton _ _, ?_⟩
      intro a _ x hx _ hlabel
      rw [List.mem_singleton.1 hx] at hlabel
      exact absurd hlabel (constructorEdit?_label hedit).1

theorem Built.range_ne_of_bodies (h : Built doc o injection done plan) {a b : Edit × Nat} (ha : a ∈ plan.zipIdx)
    (hb : b ∈ plan.zipIdx) (hlabel : a.1.label = some arrowLabel) (hlabel' : b.1.label = some arrowLabel)
    (hlt : a.2 < b.2) : a.1.range ≠ b.1.range := by
  obtain ⟨hi, ha⟩ := List.getElem?_eq_some_iff.1 (List.mem_zipIdx_iff_getElem?.1 ha)
  obtain ⟨hj, hb⟩ := List.getElem?_eq_some_iff.1 (List.mem_zipIdx_iff_getElem?.1 hb)
  have hapart := List.pairwise_iff_getElem.1 h.bodies_apart a.2 b.2 hi hj hlt
  rw [ha, hb] at hapart
  exact hapart hlabel hlabel'

/-- A function that passes its arguments on is wrapped in turn, by a later edit of the same range. -/
theorem Built.forward_within (h : Built doc o injection done plan) :
    ∀ a ∈ plan.zipIdx, a.1.label = some callbackLabel → ∃ b ∈ plan.zipIdx, Edit.Within a b := by
  induction h with
  | nothing => exact fun a ha => absurd ha List.not_mem_nil
  | @slot done plan before slot ih =>
      intro a ha hlabel
      rw [List.zipIdx_append, List.mem_append] at ha
      rcases ha with hold | hnew
      · obtain ⟨b, hb, hwithin⟩ := ih a hold hlabel
        exact ⟨b, by rw [List.zipIdx_append]; exact List.mem_append_left _ hb, hwithin⟩
      · unfold slotEdits at hnew
        cases hexpand : expandCallback? doc o plan slot with
        | none =>
            rw [hexpand] at hnew
            simp only [Option.toList_none, List.nil_append, List.zipIdx_singleton, List.mem_singleton] at hnew
            rw [hnew] at hlabel
            exact absurd (Option.some.inj hlabel) (by decide)
        | some e =>
            rw [hexpand] at hnew
            simp only [Option.toList_some, List.singleton_append, List.zipIdx_cons, List.zipIdx_nil, List.mem_cons,
              List.not_mem_nil, or_false] at hnew
            rcases hnew with rfl | rfl
            · refine ⟨(injectEdit doc o (injection slot) slot, 0 + plan.length + 1), ?_, ?_⟩
              · rw [List.zipIdx_append, List.mem_append, slotEdits, hexpand]
                simp
              · rcases expandCallback?_cases hexpand with rfl | ⟨-, body, -, -, -, rfl⟩
                · exact ⟨Range.contains_refl _, fun _ => Nat.lt_succ_self _⟩
                · exact absurd (Option.some.inj hlabel) (by decide)
            · exact absurd (Option.some.inj hlabel) (by decide)
  | parameter before cls hcls e record hedit ih =>
      intro a ha hlabel
      rw [List.zipIdx_append, List.mem_append] at ha
      rcases ha with hold | hnew
      · obtain ⟨b, hb, hwithin⟩ := ih a hold hlabel
        exact ⟨b, by rw [List.zipIdx_append]; exact List.mem_append_left _ hb, hwithin⟩
      · simp only [List.zipIdx_singleton, List.mem_singleton] at hnew
        rw [hnew] at hlabel
        exact absurd hlabel (constructorEdit?_label hedit).2

end ViewCompiler.Instrument
