import ViewCompiler.Proofs.Firsts
import ViewCompiler.Proofs.Instrument.Built

/-!
# Code is brought to the form of a function once

The planners may be called in any order and any number of times on the nodes of a document, and a class calls them for
each of its call sites. A call that brings code to the form of a function asks for an edit with a certain label and
range, its form. It gets the edit if the plan has none of that form (`Answers`), and no other call plans such an edit.
So the forms in a plan are the first occurrences of the forms that were asked for (`forms_runCalls`), whichever way the
calls came and whichever of them failed.
-/

namespace ViewCompiler.Instrument

open Script

variable {doc : Document} {o : Options} {plan : Plan} {e : Edit} {label : Text} {range : Range} {p : Progress}

/-! ### Forms -/

/-- The label and the range of an edit that brings code to the form of a function. -/
abbrev Form := Text × Range

def form? (e : Edit) : Option Form :=
  if e.label = some arrowLabel then some (arrowLabel, e.range)
  else if e.label = some callbackLabel then some (callbackLabel, e.range)
  else none

def forms (plan : Plan) : List Form := plan.filterMap form?

/-- What is asked for a node that is treated as an arrow function. -/
def arrowForm? (doc : Document) (arrow : Node) : Option Form :=
  match arrow.child? .body with
  | some body => if body.kind = .block then none else some (arrowLabel, rangeIn doc body)
  | none => none

/-- What is asked for a node that is treated as a callback. -/
def callbackForm? (doc : Document) (n : Node) : Option Form :=
  if n.kind = .arrow then arrowForm? doc n
  else if n.kind = .call ∨ n.kind = .identifier then some (callbackLabel, rangeIn doc n)
  else none

theorem form?_eq_some_iff : form? e = some (label, range) ↔
    (label = arrowLabel ∨ label = callbackLabel) ∧ e.label = some label ∧ e.range = range := by
  unfold form?
  split
  · rename_i harrow
    rw [harrow]
    constructor
    · rintro ⟨⟩
      exact ⟨Or.inl rfl, rfl, rfl⟩
    · rintro ⟨-, hlabel, rfl⟩
      rw [Option.some.inj hlabel]
  split
  · rename_i hcallback
    rw [hcallback]
    constructor
    · rintro ⟨⟩
      exact ⟨Or.inr rfl, rfl, rfl⟩
    · rintro ⟨-, hlabel, rfl⟩
      rw [Option.some.inj hlabel]
  · rename_i harrow hcallback
    constructor
    · rintro ⟨⟩
    · rintro ⟨rfl | rfl, hlabel, -⟩
      · exact absurd hlabel harrow
      · exact absurd hlabel hcallback

theorem form?_eq_none (harrow : e.label ≠ some arrowLabel) (hcallback : e.label ≠ some callbackLabel) :
    form? e = none := by
  rw [form?, if_neg harrow, if_neg hcallback]

theorem has_iff_mem_forms (hlabel : label = arrowLabel ∨ label = callbackLabel) :
    plan.has range (some label) = true ↔ (label, range) ∈ forms plan := by
  simp only [has_iff, forms, List.mem_filterMap, form?_eq_some_iff, hlabel, true_and, and_comm]

theorem forms_append (plan later : Plan) : forms (plan ++ later) = forms plan ++ forms later := List.filterMap_append

theorem forms_add_of_none (plan : Plan) (h : form? e = none) : forms (plan.add e) = forms plan := by
  rw [Plan.add, forms_append, forms, forms, List.filterMap_cons_none h, List.filterMap_nil, List.append_nil]

theorem forms_add_of_some {form : Form} (plan : Plan) (h : form? e = some form) :
    forms (plan.add e) = forms plan ++ [form] := by
  rw [Plan.add, forms_append, forms, forms, List.filterMap_cons_some h, List.filterMap_nil]

/-! ### One planner -/

/-- What is planned for a form that is asked for: an edit of that form if the plan has none, and else nothing. -/
structure Answers (plan : Plan) (asked : Option Form) (planned : Option Edit) : Prop where
  new : ∀ e ∈ planned, ∃ form ∈ asked, form? e = some form ∧ form ∉ forms plan
  old : planned = none → ∀ form ∈ asked, form ∈ forms plan

theorem Answers.forms_addSome {asked : Option Form} {planned : Option Edit} {before : List Form}
    (h : Answers plan asked planned) (hplan : forms plan = firsts id before) :
    forms (addSome plan planned).2 = firsts id (before ++ asked.toList) := by
  have hmem (form : Form) : id form ∈ before.map id ↔ form ∈ forms plan := by
    rw [List.map_id, id_eq, hplan, mem_firsts_id]
  cases planned with
  | none =>
      cases asked with
      | none => rwa [Option.toList_none, List.append_nil]
      | some form =>
          rw [Option.toList_some, firsts_concat, if_pos ((hmem form).2 (h.old rfl form rfl))]
          exact hplan
  | some e =>
      obtain ⟨form, rfl, hform, hnew⟩ := h.new e rfl
      rw [Option.toList_some, firsts_concat, if_neg ((hmem form).not.2 hnew), ← hplan]
      exact forms_add_of_some plan hform

theorem Answers.addSome_eq {asked : Option Form} {planned : Option Edit} (h : Answers plan asked planned)
    (hold : ∀ form ∈ asked, form ∈ forms plan) : addSome plan planned = (false, plan) := by
  cases planned with
  | none => rfl
  | some e =>
      obtain ⟨form, hasked, -, hnew⟩ := h.new e rfl
      exact absurd (hold form hasked) hnew

theorem answers_ite (hlabel : label = arrowLabel ∨ label = callbackLabel) (render : Text → Text) :
    Answers plan (some (label, range))
      (if plan.has range (some label) then none else some ⟨range, render, some label⟩) := by
  constructor
  · intro e he
    rw [Option.mem_def, Option.ite_none_left_eq_some, Option.some.injEq] at he
    obtain ⟨hnew, rfl⟩ := he
    exact ⟨_, rfl, form?_eq_some_iff.2 ⟨hlabel, rfl, rfl⟩, (has_iff_mem_forms hlabel).not.1 hnew⟩
  · intro hnone form hform
    obtain rfl := Option.some.inj hform
    refine (has_iff_mem_forms hlabel).1 ?_
    by_contra hnew
    rw [if_neg hnew] at hnone
    cases hnone

theorem answers_none (plan : Plan) : Answers plan none none where
  new _ he := nomatch he
  old _ _ hform := nomatch hform

theorem answers_expandArrow? (doc : Document) (o : Options) (plan : Plan) (arrow : Node) :
    Answers plan (arrowForm? doc arrow) (expandArrow? doc o plan arrow) := by
  unfold arrowForm? expandArrow?
  cases arrow.child? .body with
  | none => exact answers_none plan
  | some body =>
      by_cases hblock : body.kind = .block
      · simp only [hblock, if_true, decide_true, Bool.true_or]
        exact answers_none plan
      · simp only [hblock, if_false, decide_false, Bool.false_or]
        exact answers_ite (Or.inl rfl) _

theorem answers_expandCallback? (doc : Document) (o : Options) (plan : Plan) (slot : Slot) :
    Answers plan (callbackForm? doc slot.argument) (expandCallback? doc o plan slot) := by
  simp only [callbackForm?, expandCallback?, Bool.or_eq_true, decide_eq_true_eq]
  split
  · exact answers_expandArrow? doc o plan slot.argument
  split
  · exact answers_ite (Or.inr rfl) _
  · exact answers_none plan

/-! ### Calls -/

/-- A call of a planner. A class whose injection gives up half way has made the calls for its first slots, so it needs
no case of its own. -/
inductive Call where
  | expandArrow (o : Options) (arrow : Node)
  | expandCallback (o : Options) (slot : Slot)
  | inject (o : Options) (code : Writer → Writer) (slot : Slot)
  | addParameter (o : Options) (cls : Node) (scope : Option Text) (name type : Text)
  | instrumentClass (o : Options) (injection : Injection) (cls : Node)

/-- What has been planned after a call. One that fails leaves everything as it was. -/
def Call.run (doc : Document) (p : Progress) : Call → Progress
  | .expandArrow o arrow => { p with plan := (Instrument.expandArrow doc o p.plan arrow).2 }
  | .expandCallback o slot => { p with plan := (Instrument.expandCallback doc o p.plan slot).2 }
  | .inject o code slot => { p with plan := Instrument.inject doc o code p.plan slot }
  | .addParameter o cls scope name type => Instrument.addParameter doc o cls scope name type p
  | .instrumentClass o injection cls => (Instrument.instrumentClass doc o injection cls p).2

/-- What has been planned after some calls, one after the other. -/
def runCalls (doc : Document) (calls : List Call) : Progress := calls.foldl (Call.run doc) ⟨[], []⟩

/-- The nodes that a call treats as callbacks. A class that is refused has none. -/
def Call.callbacks (doc : Document) : Call → List Node
  | .expandCallback _ slot => [slot.argument]
  | .instrumentClass o _ cls =>
      match checkedSlots doc o cls with
      | .ok found => found.map Slot.argument
      | .error _ => []
  | _ => []

/-- The forms that a call asks for. -/
def Call.requests (doc : Document) : Call → List Form
  | .expandArrow _ arrow => (arrowForm? doc arrow).toList
  | call => (call.callbacks doc).flatMap fun n => (callbackForm? doc n).toList

theorem forms_addParameter (cls : Node) (scope : Option Text) (name type : Text) (p : Progress) :
    forms (addParameter doc o cls scope name type p).plan = forms p.plan := by
  unfold addParameter
  split
  · rename_i e record hedit
    obtain ⟨harrow, hcallback⟩ := constructorEdit?_label hedit
    exact forms_add_of_none p.plan (form?_eq_none harrow hcallback)
  · rfl

theorem forms_inject (code : Writer → Writer) (plan : Plan) (slot : Slot) :
    forms (inject doc o code plan slot) = forms plan := by
  have hne : some injectLabel ≠ some arrowLabel ∧ some injectLabel ≠ some callbackLabel := by decide
  exact forms_add_of_none plan (form?_eq_none hne.1 hne.2)

theorem forms_expandCallback {before : List Form} (hplan : forms plan = firsts id before) (o : Options) (slot : Slot) :
    forms (expandCallback doc o plan slot).2 = firsts id (before ++ (callbackForm? doc slot.argument).toList) :=
  (answers_expandCallback? doc o plan slot).forms_addSome hplan

theorem forms_foldl_instrumentSlot {before : List Form} (hplan : forms p.plan = firsts id before)
    (injection : Injection) (className : Text) (found : List Slot) :
    forms (found.foldl (instrumentSlot doc o injection className) p).plan =
      firsts id (before ++ (found.map Slot.argument).flatMap fun n => (callbackForm? doc n).toList) := by
  induction found generalizing p before with
  | nil => rwa [List.foldl_nil, List.map_nil, List.flatMap_nil, List.append_nil]
  | cons slot others ih =>
      have hslot : forms (instrumentSlot doc o injection className p slot).plan =
          firsts id (before ++ (callbackForm? doc slot.argument).toList) :=
        (forms_inject (injection slot) _ slot).trans (forms_expandCallback hplan o slot)
      rw [List.foldl_cons, ih hslot, List.map_cons, List.flatMap_cons, List.append_assoc]

theorem forms_instrumentClass {before : List Form} (hplan : forms p.plan = firsts id before) (o : Options)
    (injection : Injection) (cls : Node) : forms (instrumentClass doc o injection cls p).2.plan =
      firsts id (before ++ (Call.instrumentClass o injection cls).requests doc) := by
  simp only [instrumentClass, Call.requests, Call.callbacks]
  cases checkedSlots doc o cls with
  | error error => rwa [List.flatMap_nil, List.append_nil]
  | ok found =>
      cases found with
      | nil =>
          dsimp only
          rwa [List.map_nil, List.flatMap_nil, List.append_nil]
      | cons slot others => rw [forms_addParameter, forms_foldl_instrumentSlot hplan]

/-- One call adds those of the forms it asks for that no call before has asked for. -/
theorem forms_run {before : List Form} (hplan : forms p.plan = firsts id before) (call : Call) :
    forms (call.run doc p).plan = firsts id (before ++ call.requests doc) := by
  cases call with
  | expandArrow o arrow => exact (answers_expandArrow? doc o p.plan arrow).forms_addSome hplan
  | expandCallback o slot =>
      have hslot : forms (Instrument.expandCallback doc o p.plan slot).2 =
          firsts id (before ++ (callbackForm? doc slot.argument).toList) := forms_expandCallback hplan o slot
      rwa [← List.flatMap_singleton (fun n => (callbackForm? doc n).toList)] at hslot
  | inject o code slot =>
      refine (forms_inject code p.plan slot).trans (hplan.trans ?_)
      simp [Call.requests, Call.callbacks]
  | addParameter o cls scope name type =>
      refine (forms_addParameter cls scope name type p).trans (hplan.trans ?_)
      simp [Call.requests, Call.callbacks]
  | instrumentClass o injection cls => exact forms_instrumentClass hplan o injection cls

theorem forms_foldl_run {before : List Form} (hplan : forms p.plan = firsts id before) (calls : List Call) :
    forms (calls.foldl (Call.run doc) p).plan = firsts id (before ++ calls.flatMap (Call.requests doc)) := by
  induction calls generalizing p before with
  | nil => rwa [List.foldl_nil, List.flatMap_nil, List.append_nil]
  | cons call others ih =>
      rw [List.foldl_cons, ih (forms_run hplan call), List.flatMap_cons, List.append_assoc]

theorem forms_runCalls (doc : Document) (calls : List Call) :
    forms (runCalls doc calls).plan = firsts id (calls.flatMap (Call.requests doc)) := by
  have hstart : forms (Progress.mk [] []).plan = firsts id [] := rfl
  exact forms_foldl_run hstart calls

/-! ### Calling again -/

section

variable {calls : List Call} {call : Call} {n : Node} {form : Form}

theorem countP_eq_count (hlabel : label = arrowLabel ∨ label = callbackLabel) (range : Range) (plan : Plan) :
    plan.countP (fun e => e.range = range && e.label = some label) = (forms plan).count (label, range) := by
  rw [forms, List.count_filterMap]
  apply List.countP_congr
  intro e _
  rw [Bool.and_eq_true, decide_eq_true_eq, decide_eq_true_eq, beq_iff_eq, form?_eq_some_iff]
  exact ⟨fun ⟨hrange, he⟩ => ⟨hlabel, he, hrange⟩, fun ⟨_, he, hrange⟩ => ⟨hrange, he⟩⟩

theorem mem_requests_of_arrow (hcall : Call.expandArrow o n ∈ calls) (hform : form ∈ arrowForm? doc n) :
    form ∈ calls.flatMap (Call.requests doc) :=
  List.mem_flatMap.2 ⟨_, hcall, Option.mem_toList.2 hform⟩

theorem mem_requests_of_callback (hcall : call ∈ calls) (hn : n ∈ call.callbacks doc)
    (hform : form ∈ callbackForm? doc n) : form ∈ calls.flatMap (Call.requests doc) := by
  refine List.mem_flatMap.2 ⟨call, hcall, ?_⟩
  cases call with
  | expandArrow o arrow => exact absurd hn List.not_mem_nil
  | _ => exact List.mem_flatMap.2 ⟨n, hn, Option.mem_toList.2 hform⟩

/-- What was asked for is planned, and stays so whatever is planned besides. -/
theorem mem_forms_of_mem_requests (h : form ∈ calls.flatMap (Call.requests doc)) (later : Plan) :
    form ∈ forms ((runCalls doc calls).plan ++ later) := by
  rw [forms_append, forms_runCalls]
  apply List.mem_append_left
  exact mem_firsts_id.2 h

end

/-- However the planners are called, no two edits of a plan bring one range to the form of a function under one label.
Those that do are what the calls asked for, each at its first occurrence. A call for a node that was treated as an arrow
function, or as a callback, before changes nothing, whatever is planned between the two calls. -/
theorem form_planned_once (doc : Document) (calls : List Call) :
    (∀ range, ∀ label ∈ [arrowLabel, callbackLabel],
        (runCalls doc calls).plan.countP (fun e => e.range = range && e.label = some label) ≤ 1) ∧
      forms (runCalls doc calls).plan = firsts id (calls.flatMap (Call.requests doc)) ∧
      (∀ n, (∃ o, Call.expandArrow o n ∈ calls) ∨ (n.kind = .arrow ∧ ∃ call ∈ calls, n ∈ call.callbacks doc) →
        ∀ o later, expandArrow doc o ((runCalls doc calls).plan ++ later) n =
          (false, (runCalls doc calls).plan ++ later)) ∧
      ∀ slot, (∃ call ∈ calls, slot.argument ∈ call.callbacks doc) ∨
          (slot.argument.kind = .arrow ∧ ∃ o, Call.expandArrow o slot.argument ∈ calls) →
        ∀ o later, expandCallback doc o ((runCalls doc calls).plan ++ later) slot =
          (false, (runCalls doc calls).plan ++ later) := by
  have hforms := forms_runCalls doc calls
  have harrow {n : Node} (hkind : n.kind = .arrow) : callbackForm? doc n = arrowForm? doc n := if_pos hkind
  refine ⟨fun range label hlabel => ?_, hforms, fun n hbefore o later => ?_, fun slot hbefore o later => ?_⟩
  · have hnodup := nodup_keys_firsts id (calls.flatMap (Call.requests doc))
    rw [List.map_id] at hnodup
    rw [countP_eq_count (by simpa using hlabel), hforms]
    exact List.nodup_iff_count_le_one.1 hnodup _
  · refine (answers_expandArrow? doc o _ n).addSome_eq fun form hform => mem_forms_of_mem_requests ?_ later
    rcases hbefore with ⟨o', hcall⟩ | ⟨hkind, call, hcall, hn⟩
    · exact mem_requests_of_arrow hcall hform
    · exact mem_requests_of_callback hcall hn (harrow hkind ▸ hform)
  · refine (answers_expandCallback? doc o _ slot).addSome_eq fun form hform => mem_forms_of_mem_requests ?_ later
    rcases hbefore with ⟨call, hcall, hn⟩ | ⟨hkind, o', hcall⟩
    · exact mem_requests_of_callback hcall hn hform
    · exact mem_requests_of_arrow hcall (harrow hkind ▸ hform)

/-- An arrow function gets a block body, and then its class is instrumented: first in vain, and then twice. -/
def repeatedCalls (cls arrow : Node) : List Call :=
  [.expandArrow {} arrow, .instrumentClass { reservedStart := "p" } (injectStatement defaultStatement) cls,
    .instrumentClass {} (injectStatement defaultStatement) cls,
    .instrumentClass {} (injectStatement defaultStatement) cls]

theorem form_planned_once_nested :
    nestedCallbacks.classes.length = 1 ∧ (nestedCallbacks.nodesOf .arrow).length = 1 ∧
      ∀ cls ∈ nestedCallbacks.classes, ∀ arrow ∈ nestedCallbacks.nodesOf .arrow,
        let plan := (runCalls nestedCallbacks (repeatedCalls cls arrow)).plan
        forms plan = [(arrowLabel, ⟨37, 47, by decide⟩), (callbackLabel, ⟨45, 46, by decide⟩)] ∧
          plan.countP (fun e => e.range = ⟨37, 47, by decide⟩ && e.label = some arrowLabel) ≤ 1 ∧
          expandArrow nestedCallbacks {} plan arrow = (false, plan) ∧
          expandCallback nestedCallbacks {} plan ⟨arrow, arrow, []⟩ = (false, plan) := by
  refine ⟨by decide +kernel, by decide +kernel, fun cls hcls arrow harrow => ?_⟩
  have hrequests : ∀ cls ∈ nestedCallbacks.classes, ∀ arrow ∈ nestedCallbacks.nodesOf .arrow, arrow.kind = .arrow ∧
      firsts id ((repeatedCalls cls arrow).flatMap (Call.requests nestedCallbacks)) =
        [(arrowLabel, ⟨37, 47, by decide⟩), (callbackLabel, ⟨45, 46, by decide⟩)] := by decide +kernel
  obtain ⟨hkind, hfirsts⟩ := hrequests cls hcls arrow harrow
  have hfirst : Call.expandArrow {} arrow ∈ repeatedCalls cls arrow := List.mem_cons_self
  obtain ⟨honce, hforms, harrows, hcallbacks⟩ := form_planned_once nestedCallbacks (repeatedCalls cls arrow)
  have hagain := harrows arrow (Or.inl ⟨{}, hfirst⟩) {} []
  have hagain' := hcallbacks ⟨arrow, arrow, []⟩ (Or.inr ⟨hkind, {}, hfirst⟩) {} []
  rw [List.append_nil] at hagain hagain'
  exact ⟨hforms.trans hfirsts, honce _ _ List.mem_cons_self, hagain, hagain'⟩

end ViewCompiler.Instrument
