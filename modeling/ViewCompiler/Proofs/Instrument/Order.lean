import ViewCompiler.Proofs.Instrument.Kept
import ViewCompiler.Proofs.Instrument.Owner

/-!
# Classes may be instrumented in any order

What is planned for a class depends on the plan so far only through edits of the same ranges, and edits of other classes
have other ranges. So a run over some classes concatenates the plans that they have by themselves (`classPlan`). Another
order of the classes rearranges the parts of the whole plan and leaves the edits of each range as they are, and so does
not change the text.
-/

namespace ViewCompiler.Instrument

open Script Edit

variable {doc : Document} {o : Options} {injection : Injection} {cls : Node} {slot : Slot} {found : List Slot}
  {plan other own : Plan} {e : Edit} {p : Progress}

/-! ### One class -/

/-- No edit of the plan has the range of an argument or of its body. -/
def Elsewhere (doc : Document) (plan : Plan) (slot : Slot) : Prop :=
  ∀ e ∈ plan, e.range ≠ rangeIn doc slot.argument ∧
    ∀ body, slot.argument.kind = .arrow → slot.argument.child? .body = some body → e.range ≠ rangeIn doc body

theorem has_append {range : Range} {label : Option Text} :
    Plan.has (other ++ own) range label = (other.has range label || own.has range label) :=
  List.any_append

theorem has_eq_false {range : Range} (label : Text) (h : ∀ e ∈ plan, e.range ≠ range) :
    plan.has range (some label) = false := by
  rw [← Bool.not_eq_true, has_iff]
  intro hhas
  obtain ⟨e, he, heq, -⟩ := hhas
  exact h e he heq

theorem expandCallback?_elsewhere (h : Elsewhere doc other slot) :
    expandCallback? doc o (other ++ own) slot = expandCallback? doc o own slot := by
  have hargument := has_eq_false callbackLabel fun e he => (h e he).1
  simp only [expandCallback?, has_append, hargument, Bool.false_or]
  split
  · rename_i hkind
    simp only [expandArrow?]
    split
    · rfl
    · rename_i body hbody
      have harrow := has_eq_false arrowLabel fun e he => (h e he).2 body hkind hbody
      rw [has_append, harrow, Bool.false_or]
  · rfl

theorem foldl_instrumentSlot_elsewhere (o : Options) (injection : Injection) (className : Text) (own : Plan)
    (log log' : List Log.Record) (h : ∀ slot ∈ found, Elsewhere doc other slot) :
    (found.foldl (instrumentSlot doc o injection className) ⟨other ++ own, log⟩).plan =
      other ++ (found.foldl (instrumentSlot doc o injection className) ⟨own, log'⟩).plan := by
  induction found generalizing own log log' with
  | nil => rfl
  | cons slot rest ih =>
      rw [List.forall_mem_cons] at h
      have hstep (before : Plan) (records : List Log.Record) : ∃ records',
          instrumentSlot doc o injection className ⟨before, records⟩ slot =
            ⟨before ++ slotEdits doc o injection before slot, records'⟩ :=
        ⟨_, congrArg (Progress.mk · _) (instrumentSlot_plan className ⟨before, records⟩)⟩
      obtain ⟨records, hfirst⟩ := hstep (other ++ own) log
      obtain ⟨records', hsecond⟩ := hstep own log'
      rw [List.foldl_cons, List.foldl_cons, hfirst, hsecond, slotEdits, expandCallback?_elsewhere h.1, List.append_assoc]
      exact ih _ _ _ h.2

theorem mem_foldl_instrumentSlot {className : Text}
    (he : e ∈ (found.foldl (instrumentSlot doc o injection className) p).plan) :
    e ∈ p.plan ∨ ∃ slot ∈ found, e.range = rangeIn doc slot.argument ∨
      slot.argument.kind = .arrow ∧ ∃ body, slot.argument.child? .body = some body ∧ e.range = rangeIn doc body := by
  induction found generalizing p with
  | nil => exact Or.inl he
  | cons slot rest ih =>
      rcases ih he with hstep | ⟨later, hlater, hrange⟩
      · rw [instrumentSlot_plan, List.mem_append] at hstep
        rcases hstep with hold | hnew
        · exact Or.inl hold
        · refine Or.inr ⟨slot, List.mem_cons_self, ?_⟩
          rcases mem_slotEdits hnew with hexpand | rfl
          · rcases expandCallback?_cases hexpand with rfl | ⟨hkind, body, hbody, -, -, rfl⟩
            · exact Or.inl rfl
            · exact Or.inr ⟨hkind, body, hbody, rfl⟩
          · exact Or.inl rfl
      · exact Or.inr ⟨later, List.mem_cons_of_mem slot hlater, hrange⟩

/-- What is planned for a class by itself. -/
def classPlan (doc : Document) (o : Options) (injection : Injection) (cls : Node) : Plan :=
  (instrumentClass doc o injection cls ⟨[], []⟩).2.plan

theorem addParameter_append {scope : Option Text} {name type : Text} {log : List Log.Record} :
    (addParameter doc o cls scope name type ⟨other ++ own, log⟩).plan =
      other ++ (addParameter doc o cls scope name type ⟨own, log⟩).plan := by
  unfold addParameter
  split
  · exact List.append_assoc _ _ _
  · rfl

theorem addParameter_congr {scope : Option Text} {name type : Text} {p q : Progress} (h : p.plan = q.plan) :
    (addParameter doc o cls scope name type p).plan = (addParameter doc o cls scope name type q).plan := by
  unfold addParameter
  split
  · exact congrArg (Plan.add · _) h
  · exact h

section Class

variable (hsound : doc.Sound) (hbodies : doc.ClassBodies) (hplain : PlainBodies doc.root)

include hsound hbodies hplain

theorem owns_of_mem_classPlan (hcls : cls ∈ doc.classes) (he : e ∈ classPlan doc o injection cls) :
    Owns doc cls e.range := by
  have hroot := mem_preorder_of_mem_classes hcls
  have hclass := (List.mem_filter.1 hcls).2
  unfold classPlan instrumentClass at he
  split at he
  · cases he
  · cases he
  · rename_i found _ hchecked
    have hslots := slots_of_checkedSlots hchecked
    have hfold : e ∈ (found.foldl (instrumentSlot doc o injection (doc.className cls)) ⟨[], []⟩).plan →
        Owns doc cls e.range := by
      intro hmem
      rcases mem_foldl_instrumentSlot hmem with hnone | ⟨slot, hslot, hrange | ⟨hkind, body, hbody, hrange⟩⟩
      · cases hnone
      · rw [hrange]
        exact owns_argument hsound hbodies hroot hclass hplain hslots hslot
      · rw [hrange]
        exact owns_arrowBody hsound hbodies hroot hclass hplain hslots hslot hkind hbody
    unfold addParameter at he
    split at he
    · rename_i edit record hedit
      rcases List.mem_append.1 he with hmem | hmem
      · exact hfold hmem
      · rw [List.mem_singleton.1 hmem]
        exact owns_constructorEdit hsound hbodies hroot hclass hedit
    · exact hfold he

/-- A class adds to a plan of other classes what it plans by itself. -/
theorem instrumentClass_elsewhere (o : Options) (injection : Injection) (hcls : cls ∈ doc.classes)
    (helsewhere : ∀ e ∈ p.plan, ¬ Owns doc cls e.range) :
    (instrumentClass doc o injection cls p).1 = (instrumentClass doc o injection cls ⟨[], []⟩).1 ∧
      (instrumentClass doc o injection cls p).2.plan = p.plan ++ classPlan doc o injection cls := by
  have hroot := mem_preorder_of_mem_classes hcls
  have hclass := (List.mem_filter.1 hcls).2
  unfold classPlan instrumentClass
  split
  · exact ⟨rfl, (List.append_nil _).symm⟩
  · exact ⟨rfl, (List.append_nil _).symm⟩
  · rename_i found _ hchecked
    have hslots := slots_of_checkedSlots hchecked
    have hfound : ∀ slot ∈ found, Elsewhere doc p.plan slot := by
      intro slot hslot e he
      refine ⟨fun heq => helsewhere e he ?_, fun body hkind hbody heq => helsewhere e he ?_⟩
      · rw [heq]
        exact owns_argument hsound hbodies hroot hclass hplain hslots hslot
      · rw [heq]
        exact owns_arrowBody hsound hbodies hroot hclass hplain hslots hslot hkind hbody
    have hfold : (found.foldl (instrumentSlot doc o injection (doc.className cls)) p).plan =
        p.plan ++ (found.foldl (instrumentSlot doc o injection (doc.className cls)) ⟨[], []⟩).plan := by
      have happend := foldl_instrumentSlot_elsewhere o injection (doc.className cls) [] p.log [] hfound
      rwa [List.append_nil] at happend
    refine ⟨rfl, ?_⟩
    rw [addParameter_congr (q := ⟨p.plan ++ _, (found.foldl (instrumentSlot doc o injection (doc.className cls))
      ⟨[], []⟩).log⟩) hfold]
    exact addParameter_append

/-! ### All classes -/

/-- Where a node stands twice in a tree it covers nothing, and such a class has no body. -/
theorem classes_pairwise (o : Options) (injection : Injection) :
    doc.classes.Pairwise fun c d => c = d → classPlan doc o injection c = [] := by
  rw [Document.classes, Node.walk_eq_preorder]
  have hpairwise := hsound.spanned.pairwise_preorder.filter fun n => n.kind.isClass
  refine hpairwise.imp_of_mem fun {c d} hc _ hempty heq => List.eq_nil_iff_forall_not_mem.2 fun e he => ?_
  have hcls : c ∈ doc.classes := by rwa [Document.classes, Node.walk_eq_preorder]
  have hroot := mem_preorder_of_mem_classes hcls
  have hsurrounds := (owns_of_mem_classPlan hsound hbodies hplain hcls he).1.surrounds hsound hroot
  have hchars : (doc.rangeOf c).2 ≤ (doc.rangeOf c).1 := Text.charOffset_mono doc.text (hempty heq)
  have hle := e.range.start_le_stop
  unfold Surrounds at hsurrounds
  omega

/-- A run over classes of which none is refused plans for each of them what it plans by itself. -/
theorem instrumentClasses_elsewhere {classes : List Node} (hclasses : ∀ cls ∈ classes, cls ∈ doc.classes)
    (haccepted : ∀ cls ∈ classes, ¬ Refused doc o cls)
    (hpairwise : classes.Pairwise fun c d => c = d → classPlan doc o injection c = [])
    (helsewhere : ∀ cls ∈ classes, ∀ e ∈ p.plan, ¬ Owns doc cls e.range) :
    ∃ q, instrumentClasses doc o injection classes p =
        (.ok (classes.countP fun cls => !(callsOf doc cls).isEmpty), q) ∧
      q.plan = p.plan ++ classes.flatMap (classPlan doc o injection) := by
  induction classes generalizing p with
  | nil => exact ⟨p, rfl, (List.append_nil _).symm⟩
  | cons cls rest ih =>
      rw [List.forall_mem_cons] at hclasses haccepted helsewhere
      rw [List.pairwise_cons] at hpairwise
      obtain ⟨hstep, hplan⟩ := instrumentClass_elsewhere hsound hbodies hplain o injection hclasses.1 helsewhere.1
      have hdone : (instrumentClass doc o injection cls p).1 = .ok (!(callsOf doc cls).isEmpty) := by
        rw [hstep]
        rcases checkedSlots_cases doc o cls with ⟨hrefused, -⟩ | ⟨hnone, hchecked⟩ | ⟨-, hcalls, found, hfound, -, hchecked⟩
        · exact absurd hrefused haccepted.1
        · simp [instrumentClass, hchecked, hnone]
        · simp [instrumentClass, hchecked, hcalls]
      cases hrun : instrumentClass doc o injection cls p with
      | mk outcome q =>
          rw [hrun] at hdone hplan
          cases hdone
          -- The edits of this class are not those of a later one.
          have hlater : ∀ c ∈ rest, ∀ e ∈ q.plan, ¬ Owns doc c e.range := by
            intro c hc e he howns
            rw [hplan, List.mem_append] at he
            rcases he with hold | hnew
            · exact helsewhere.2 c hc e hold howns
            · have hown := owns_of_mem_classPlan hsound hbodies hplain hclasses.1 hnew
              have hsame := hown.unique hsound howns (mem_preorder_of_mem_classes hclasses.1)
                (mem_preorder_of_mem_classes (hclasses.2 c hc)) (List.mem_filter.1 hclasses.1).2
                (List.mem_filter.1 (hclasses.2 c hc)).2
              rw [hpairwise.1 c hc hsame] at hnew
              cases hnew
          obtain ⟨q', hrest, hplan'⟩ := ih hclasses.2 haccepted.2 hpairwise.2 hlater
          refine ⟨q', ?_, ?_⟩
          · simp only [instrumentClasses, hrun, hrest, List.countP_cons]
            cases (callsOf doc cls).isEmpty <;> rfl
          · rw [hplan', hplan, List.flatMap_cons, List.append_assoc]

end Class

theorem filter_flatMap_classPlan (hsound : doc.Sound) (hbodies : doc.ClassBodies) (hplain : PlainBodies doc.root)
    {order : List Node} (horder : order.Perm doc.classes) (r : Range) :
    (order.flatMap (classPlan doc o injection)).filter (·.range = r) =
      (doc.classes.flatMap (classPlan doc o injection)).filter (·.range = r) := by
  rw [List.filter_flatMap, List.filter_flatMap]
  refine (flatMap_eq_of_perm horder.symm ?_).symm
  have hpairwise := classes_pairwise hsound hbodies hplain o injection
  refine hpairwise.imp_of_mem fun {c d} hc hd hempty => ?_
  -- If two classes had edits of this range, both would own it.
  by_contra hboth
  rw [not_or] at hboth
  obtain ⟨a, ha⟩ := List.exists_mem_of_ne_nil _ hboth.1
  obtain ⟨b, hb⟩ := List.exists_mem_of_ne_nil _ hboth.2
  obtain ⟨ha, harange⟩ := List.mem_filter.1 ha
  obtain ⟨hb, hbrange⟩ := List.mem_filter.1 hb
  have howns := owns_of_mem_classPlan hsound hbodies hplain hc ha
  have howns' := owns_of_mem_classPlan hsound hbodies hplain hd hb
  rw [of_decide_eq_true harange] at howns
  rw [of_decide_eq_true hbrange] at howns'
  have heq := howns.unique hsound howns' (mem_preorder_of_mem_classes hc) (mem_preorder_of_mem_classes hd)
    (List.mem_filter.1 hc).2 (List.mem_filter.1 hd).2
  rw [hempty heq] at ha
  cases ha

/-- Whatever the order in which the classes of a document are taken, if none of them is refused, the run counts as many
classes and plans edits that give the same text: the one that instrumenting the document gives. -/
theorem instrumentClasses_any_order (hsound : doc.Sound) (hbodies : doc.ClassBodies) (hplain : PlainBodies doc.root)
    (o : Options) (injection : Injection) (file : Text) (haccepted : ∀ cls ∈ doc.classes, ¬ Refused doc o cls)
    {order : List Node} (horder : order.Perm doc.classes) :
    ∃ count p q text stats,
      instrumentClasses doc o injection doc.classes ⟨[], []⟩ = (.ok count, p) ∧
      instrumentClasses doc o injection order ⟨[], []⟩ = (.ok count, q) ∧
      Edit.apply doc.text p.plan = .ok (text, stats) ∧ Edit.apply doc.text q.plan = .ok (text, stats) ∧
      (instrumentDocument doc o injection file).1 = .ok text := by
  have hpairwise := classes_pairwise hsound hbodies hplain o injection
  have hsymm : ∀ {c d : Node}, (c = d → classPlan doc o injection c = []) → d = c → classPlan doc o injection d = [] := by
    intro c d h heq
    rw [heq]
    exact h heq.symm
  obtain ⟨p, hp, hplan⟩ := instrumentClasses_elsewhere (p := ⟨[], []⟩) hsound hbodies hplain (fun _ => id) haccepted
    hpairwise fun _ _ => nofun
  obtain ⟨q, hq, hplan'⟩ := instrumentClasses_elsewhere (p := ⟨[], []⟩) hsound hbodies hplain
    (fun cls hcls => horder.mem_iff.1 hcls) (fun cls hcls => haccepted cls (horder.mem_iff.1 hcls))
    ((horder.pairwise_iff hsymm).2 hpairwise) fun _ _ => nofun
  rw [List.nil_append] at hplan hplan'
  have hperm : q.plan.Perm p.plan := by
    rw [hplan, hplan']
    exact horder.flatMap_right _
  have hsame (r : Range) : q.plan.filter (·.range = r) = p.plan.filter (·.range = r) := by
    rw [hplan, hplan']
    exact filter_flatMap_classPlan hsound hbodies hplain horder r
  have hplaced : AllPlaced doc p.plan := by
    have hall := allPlaced_classes hsound o injection
    rwa [hp] at hall
  have happly : Edit.apply doc.text q.plan = Edit.apply doc.text p.plan := by
    rw [apply_of_fits (hplaced.fits.perm hperm.symm), apply_of_fits hplaced.fits, nest_eq_of_filter_eq hperm hsame,
      hperm.length_eq]
  obtain ⟨stats, htext⟩ := apply_of_laminar hplaced.fits (hplaced.laminar hsound)
  obtain ⟨result, log, hresult⟩ := instrumentDocument_ok hsound file (congrArg (·.1.toOption) hp)
  obtain ⟨count, p', hp', rfl⟩ := splice_of_instrumentDocument hsound hresult
  cases hp.symm.trans hp'
  rw [horder.countP_eq] at hq
  exact ⟨_, p, q, _, stats, hp, hq, htext, happly.trans htext, congrArg Prod.fst hresult⟩

/-- A class in the default of a parameter of another one's constructor, and a class in a callback. -/
def classesWithin : Document where
  text := "class A\x7bconstructor(x=class\x7bm()\x7bp.then(f)\x7d\x7d)\x7b\x7dn()\x7bq.then(()=>class\x7bk()\x7br.catch(g)\x7d\x7d)\x7d\x7d"
  wellFormed := true
  root :=
    ⟨.other, none, 0, 86, [⟨.classDeclaration, none, 0, 86, [⟨.typeName, some .name, 6, 1, []⟩,
      ⟨.classBody, some .body, 7, 79, [
        ⟨.methodDefinition, none, 8, 38, [⟨.propertyName, some .name, 8, 11, []⟩,
          ⟨.parameters, some .parameters, 19, 25, [⟨.other, none, 20, 23, [⟨.identifier, none, 20, 1, []⟩,
            ⟨.classExpression, none, 22, 21, [⟨.classBody, some .body, 27, 16, [
              ⟨.methodDefinition, none, 28, 14, [⟨.propertyName, some .name, 28, 1, []⟩,
                ⟨.parameters, some .parameters, 29, 2, []⟩,
                ⟨.block, some .body, 31, 11, [⟨.other, none, 32, 9, [⟨.call, none, 32, 9, [
                  ⟨.member, some .function, 32, 6, [⟨.identifier, none, 32, 1, []⟩,
                    ⟨.propertyName, some .property, 34, 4, []⟩]⟩,
                  ⟨.arguments, some .arguments, 38, 3, [⟨.identifier, none, 39, 1, []⟩]⟩]⟩]⟩]⟩]⟩]⟩]⟩]⟩]⟩,
          ⟨.block, some .body, 44, 2, []⟩]⟩,
        ⟨.methodDefinition, none, 46, 39, [⟨.propertyName, some .name, 46, 1, []⟩,
          ⟨.parameters, some .parameters, 47, 2, []⟩,
          ⟨.block, some .body, 49, 36, [⟨.other, none, 50, 34, [⟨.call, none, 50, 34, [
            ⟨.member, some .function, 50, 6, [⟨.identifier, none, 50, 1, []⟩,
              ⟨.propertyName, some .property, 52, 4, []⟩]⟩,
            ⟨.arguments, some .arguments, 56, 28, [⟨.arrow, none, 57, 26, [⟨.parameters, some .parameters, 57, 2, []⟩,
              ⟨.classExpression, some .body, 61, 22, [⟨.classBody, some .body, 66, 17, [
                ⟨.methodDefinition, none, 67, 15, [⟨.propertyName, some .name, 67, 1, []⟩,
                  ⟨.parameters, some .parameters, 68, 2, []⟩,
                  ⟨.block, some .body, 70, 12, [⟨.other, none, 71, 10, [⟨.call, none, 71, 10, [
                    ⟨.member, some .function, 71, 7, [⟨.identifier, none, 71, 1, []⟩,
                      ⟨.propertyName, some .property, 73, 5, []⟩]⟩,
                    ⟨.arguments, some .arguments, 78, 3, [⟨.identifier, none, 79, 1, []⟩]⟩]⟩]⟩]⟩]⟩]⟩]⟩]⟩]⟩]⟩]⟩]⟩]⟩]⟩]⟩]⟩

/-- The three classes of the example from the last to the first. The plans differ, the texts do not. -/
theorem instrumentClasses_any_order_within :
    classesWithin.Sound ∧ classesWithin.ClassBodies ∧ PlainBodies classesWithin.root ∧ classesWithin.classes.length = 3 ∧
      ∃ p q text stats,
        instrumentClasses classesWithin {} (injectStatement defaultStatement) classesWithin.classes ⟨[], []⟩ =
          (.ok 3, p) ∧
        instrumentClasses classesWithin {} (injectStatement defaultStatement) classesWithin.classes.reverse ⟨[], []⟩ =
          (.ok 3, q) ∧
        p.plan.map (·.range) ≠ q.plan.map (·.range) ∧
        Edit.apply classesWithin.text p.plan = .ok (text, stats) ∧
        Edit.apply classesWithin.text q.plan = .ok (text, stats) := by
  have hsound : classesWithin.Sound := by
    refine ⟨⟨?_, ?_⟩, ?_, ?_⟩
    all_goals decide +kernel
  have hbodies : classesWithin.ClassBodies := by decide +kernel
  have hplain : PlainBodies classesWithin.root := by decide +kernel
  have haccepted : ∀ cls ∈ classesWithin.classes, ¬ Refused classesWithin {} cls := by decide +kernel
  have hcount : (instrumentClasses classesWithin {} (injectStatement defaultStatement) classesWithin.classes
      ⟨[], []⟩).1.toOption = some 3 := by decide +kernel
  have hranges : (instrumentClasses classesWithin {} (injectStatement defaultStatement) classesWithin.classes
        ⟨[], []⟩).2.plan.map (·.range) ≠
      (instrumentClasses classesWithin {} (injectStatement defaultStatement) classesWithin.classes.reverse
        ⟨[], []⟩).2.plan.map (·.range) := by decide +kernel
  obtain ⟨count, p, q, text, stats, hp, hq, htext, htext', -⟩ := instrumentClasses_any_order hsound hbodies hplain {}
    (injectStatement defaultStatement) [] haccepted (List.reverse_perm classesWithin.classes)
  rw [hp] at hcount
  obtain rfl : count = 3 := Option.some.inj hcount
  rw [hp, hq] at hranges
  exact ⟨hsound, hbodies, hplain, by decide +kernel, p, q, text, stats, hp, hq, hranges, htext, htext'⟩

end ViewCompiler.Instrument
