import ViewCompiler.Instrument.Run
import ViewCompiler.Proofs.Edit.Apply
import ViewCompiler.Proofs.Instrument.CallSite

/-!
# The edits planned for a document can be applied

Whatever is planned for a document is planned for a point of its text, for a node, or for what stands
between the brackets of a parameter list (`Placed`). Each planner keeps this, so it holds after any number of
classes, whether or not one of them is refused. Two such places never cross when the tree of the document is
sound, because its nodes do not.
-/

namespace ViewCompiler.Instrument

open Script

variable {doc : Document} {m n : Node} {r s : Range} {e : Edit}

/-! ### Places -/

/-- The range is that of the node, or lies between the brackets of the parameter list that the node is. -/
def Occupies (doc : Document) (n : Node) (r : Range) : Prop :=
  (r.start = (doc.rangeOf n).1 ∧ r.stop = (doc.rangeOf n).2) ∨
    (n.role = some .parameters ∧ r.start = (doc.rangeOf n).1 + 1 ∧ r.stop = (doc.rangeOf n).2 - 1)

/-- The ranges that edits are planned for. -/
inductive Placed (doc : Document) (r : Range) : Prop where
  | point (hempty : r.start = r.stop) (hstart : 0 ≤ r.start) (hstop : r.stop ≤ doc.text.length)
  | node (n : Node) (hn : n ∈ doc.root.preorder) (hr : Occupies doc n r)

theorem Occupies.within (hr : Occupies doc n r) : (doc.rangeOf n).1 ≤ r.start ∧ r.stop ≤ (doc.rangeOf n).2 := by
  unfold Occupies at hr
  omega

theorem Occupies.covers (hr : Occupies doc n r) (hsound : doc.Sound) (hn : n ∈ doc.root.preorder)
    (hm : m ∈ n.preorder) (hne : m ≠ n) : r.start ≤ (doc.rangeOf m).1 ∧ (doc.rangeOf m).2 ≤ r.stop := by
  rcases hr with ⟨hstart, hstop⟩ | ⟨hrole, hstart, hstop⟩
  · have hcovers := hsound.rangeOf_covers hn hm
    omega
  · have hbetween := hsound.rangeOf_between_brackets hn hrole hm hne
    omega

theorem Occupies.not_crosses_below (hr : Occupies doc n r) (hs : Occupies doc m s) (hsound : doc.Sound)
    (hn : n ∈ doc.root.preorder) (hm : m ∈ n.preorder) : ¬ r.Crosses s ∧ ¬ s.Crosses r := by
  unfold Range.Crosses
  by_cases hne : m = n
  · subst hne
    unfold Occupies at hr hs
    omega
  · have hcovers := hr.covers hsound hn hm hne
    have hwithin := hs.within
    omega

theorem Occupies.not_crosses_behind (hr : Occupies doc n r) (hs : Occupies doc m s) (h : n.stop ≤ m.start) :
    ¬ r.Crosses s ∧ ¬ s.Crosses r := by
  have happart : (doc.rangeOf n).2 ≤ (doc.rangeOf m).1 := Text.charOffset_mono doc.text h
  have hfirst := hr.within
  have hsecond := hs.within
  have hle := r.start_le_stop
  have hle' := s.start_le_stop
  unfold Range.Crosses
  omega

theorem Placed.not_crosses (hr : Placed doc r) (hs : Placed doc s) (hsound : doc.Sound) : ¬ r.Crosses s := by
  intro hcross
  -- Points cross nothing, so both ranges belong to nodes.
  obtain ⟨hrfull, hsfull⟩ := hcross.not_isEmpty
  rw [Range.isEmpty_iff] at hrfull hsfull
  cases hr with
  | point hempty hstart hstop => exact hrfull hempty
  | node n hn hr =>
      cases hs with
      | point hempty hstart hstop => exact hsfull hempty
      | node m hm hs =>
          rcases hsound.spanned.nested_or_apart hm hn with hbelow | hbelow | hbehind | hbehind
          · exact (hr.not_crosses_below hs hsound hn hbelow).1 hcross
          · exact (hs.not_crosses_below hr hsound hm hbelow).2 hcross
          · exact (hs.not_crosses_behind hr hbehind).2 hcross
          · exact (hr.not_crosses_behind hs hbehind).1 hcross

theorem Placed.fits (hr : Placed doc r) : 0 ≤ r.start ∧ r.stop ≤ doc.text.length := by
  cases hr with
  | point hempty hstart hstop => exact ⟨hstart, hstop⟩
  | node n hn hr =>
      have hwithin := hr.within
      have hlength := Document.rangeOf_le_length doc n
      omega

theorem placed_rangeIn (hn : n ∈ doc.root.preorder) : Placed doc (rangeIn doc n) :=
  Placed.node n hn (Or.inl ⟨rfl, rfl⟩)

theorem placed_insertion {offset : Nat} {text : Text} {label : Option Text} (h : offset ≤ doc.text.length) :
    Placed doc (Edit.insertion offset text label).range :=
  Placed.point rfl (Int.natCast_nonneg offset) (Int.ofNat_le.2 h)

/-! ### Constructors and their parameters -/

section

variable {list last : Node} {inside : Range}

theorem interior?_eq_some_iff : interior? doc list = some inside ↔
    inside.start = (doc.rangeOf list).1 + 1 ∧ inside.stop = (doc.rangeOf list).2 - 1 :=
  Range.make?_eq_some_iff

theorem parameterEdit_behind (hlast : list.parts.getLast? = some last) (parameter : Text) :
    parameterEdit doc list parameter =
      .insertion (doc.rangeOf last).2 (", " ++ parameter) (some parameterLabel) := by
  rw [parameterEdit, hlast]

theorem parameterEdit_between (hparts : list.parts = []) (hinside : interior? doc list = some inside)
    (parameter : Text) :
    parameterEdit doc list parameter = .replacement inside parameter (some parameterLabel) := by
  rw [parameterEdit, hparts, hinside]
  rfl

variable (hsound : doc.Sound) (hn : list ∈ doc.root.preorder) (hrole : list.role = some .parameters)

include hsound hn hrole

/-- A parameter list starts and ends with a bracket, so there is something between them. -/
theorem exists_interior : ∃ inside, interior? doc list = some inside := by
  have hbrackets := hsound.rangeOf_brackets hn hrole
  exact ⟨⟨(doc.rangeOf list).1 + 1, (doc.rangeOf list).2 - 1, by omega⟩, interior?_eq_some_iff.2 ⟨rfl, rfl⟩⟩

theorem parameterEdit_cases (parameter : Text) :
    (∃ last ∈ list.children, parameterEdit doc list parameter =
        .insertion (doc.rangeOf last).2 (", " ++ parameter) (some parameterLabel)) ∨
      (list.parts = [] ∧ ∃ inside, interior? doc list = some inside ∧
        parameterEdit doc list parameter = .replacement inside parameter (some parameterLabel)) := by
  cases hlast : list.parts.getLast? with
  | some last =>
      have hchild : last ∈ list.children := (List.mem_filter.1 (List.mem_of_getLast? hlast)).1
      exact Or.inl ⟨last, hchild, parameterEdit_behind hlast parameter⟩
  | none =>
      have hparts := List.getLast?_eq_none_iff.1 hlast
      obtain ⟨inside, hinside⟩ := exists_interior hsound hn hrole
      exact Or.inr ⟨hparts, inside, hinside, parameterEdit_between hparts hinside parameter⟩

end

/-- What a class gets: a parameter in the list of its constructor, or a constructor in its body. -/
theorem constructorEdit?_eq_some {o : Options} {cls : Node} {scope : Option Text} {name type : Text}
    {record : Log.Record} (h : constructorEdit? doc o cls scope name type = some (e, record)) :
    (∃ member list, constructor? doc cls = some member ∧ member.child? .parameters = some list ∧
        e = parameterEdit doc list (parameterText scope name type)) ∨
      ∃ body, cls.child? .body = some body ∧ e = .insertion ((doc.rangeOf body).1 + 1)
        (constructorText doc o body (parameterText scope name type)) (some constructorLabel) := by
  simp only [constructorEdit?] at h
  split at h
  · rename_i member hmember
    simp only [Option.map_eq_some_iff, Prod.mk.injEq] at h
    obtain ⟨list, hlist, rfl, -⟩ := h
    exact Or.inl ⟨member, list, hmember, hlist, rfl⟩
  · simp only [Option.map_eq_some_iff, Prod.mk.injEq] at h
    obtain ⟨body, hbody, rfl, -⟩ := h
    exact Or.inr ⟨body, hbody, rfl⟩

/-! ### The planners -/

theorem placed_of_expandArrow? {o : Options} {plan : Plan} {arrow : Node}
    (harrow : arrow ∈ doc.root.preorder) (h : expandArrow? doc o plan arrow = some e) : Placed doc e.range := by
  unfold expandArrow? at h
  split at h
  · simp at h
  · rename_i body hbody
    simp only [Option.ite_none_left_eq_some, Option.some.injEq] at h
    obtain ⟨-, rfl⟩ := h
    exact placed_rangeIn (Node.mem_preorder_trans (Node.mem_preorder_of_child? hbody) harrow)

theorem placed_of_expandCallback? {o : Options} {plan : Plan} {slot : Slot}
    (hslot : slot.argument ∈ doc.root.preorder) (h : expandCallback? doc o plan slot = some e) :
    Placed doc e.range := by
  simp only [expandCallback?] at h
  split at h
  · exact placed_of_expandArrow? hslot h
  · split at h
    · simp only [Option.ite_none_left_eq_some, Option.some.injEq] at h
      obtain ⟨-, rfl⟩ := h
      exact placed_rangeIn hslot
    · simp at h

theorem placed_parameterEdit {parameters : Node} (hsound : doc.Sound) (hn : parameters ∈ doc.root.preorder)
    (hrole : parameters.role = some .parameters) (parameter : Text) :
    Placed doc (parameterEdit doc parameters parameter).range := by
  rcases parameterEdit_cases hsound hn hrole parameter with ⟨last, -, hedit⟩ | ⟨-, inside, hinside, hedit⟩
  · rw [hedit]
    exact placed_insertion (Document.rangeOf_le_length doc last)
  · rw [hedit]
    exact Placed.node parameters hn (Or.inr ⟨hrole, interior?_eq_some_iff.1 hinside⟩)

/-- The parameter list of a constructor is a node of the document. -/
theorem parameters_of_constructor {cls constructor parameters : Node} (hcls : cls ∈ doc.root.preorder)
    (hconstructor : constructor? doc cls = some constructor)
    (hparameters : constructor.child? .parameters = some parameters) :
    parameters ∈ doc.root.preorder ∧ parameters.role = some .parameters := by
  obtain ⟨body, hbody, hmember⟩ := mem_members (List.mem_of_find?_eq_some hconstructor)
  have hbelow : constructor ∈ doc.root.preorder :=
    Node.mem_preorder_trans (Node.mem_preorder_of_child hmember)
      (Node.mem_preorder_trans (Node.mem_preorder_of_child? hbody) hcls)
  exact ⟨Node.mem_preorder_trans (Node.mem_preorder_of_child? hparameters) hbelow, Node.role_of_child? hparameters⟩

/-- The insertion of a whole constructor needs that the class body has a first character. -/
theorem placed_of_constructorEdit? {o : Options} {cls : Node} {scope : Option Text} {name type : Text}
    {record : Log.Record} (hsound : doc.Sound) (hcls : cls ∈ doc.root.preorder)
    (hbody : ∀ body, cls.child? .body = some body → (doc.rangeOf body).1 < doc.text.length)
    (h : constructorEdit? doc o cls scope name type = some (e, record)) : Placed doc e.range := by
  rcases constructorEdit?_eq_some h with ⟨member, list, hmember, hlist, rfl⟩ | ⟨body, hbody', rfl⟩
  · obtain ⟨hroot, hrole⟩ := parameters_of_constructor hcls hmember hlist
    exact placed_parameterEdit hsound hroot hrole _
  · exact placed_insertion (hbody body hbody')

/-! ### The plan of a document -/

/-- Every edit of the plan is planned for a place of the document. -/
def AllPlaced (doc : Document) (plan : Plan) : Prop := ∀ e ∈ plan, Placed doc e.range

theorem AllPlaced.add {plan : Plan} (hplan : AllPlaced doc plan) (he : Placed doc e.range) :
    AllPlaced doc (plan.add e) := by
  intro a ha
  rcases List.mem_append.1 ha with ha | ha
  · exact hplan a ha
  · rw [List.mem_singleton.1 ha]
    exact he

theorem AllPlaced.addSome {plan : Plan} {planned : Option Edit} (hplan : AllPlaced doc plan)
    (hplanned : ∀ e, planned = some e → Placed doc e.range) : AllPlaced doc (addSome plan planned).2 := by
  cases planned with
  | none => exact hplan
  | some e => exact hplan.add (hplanned e rfl)

theorem AllPlaced.instrumentSlot {o : Options} {injection : Injection} {className : Text} {p : Progress}
    {slot : Slot} (hplan : AllPlaced doc p.plan)
    (hslot : slot.argument ∈ doc.root.preorder) :
    AllPlaced doc (instrumentSlot doc o injection className p slot).plan := by
  have hexpanded : AllPlaced doc (expandCallback doc o p.plan slot).2 :=
    hplan.addSome fun e h => placed_of_expandCallback? hslot h
  exact hexpanded.add (placed_rangeIn hslot)

theorem AllPlaced.foldl_instrumentSlot {o : Options} {injection : Injection} {className : Text} {p : Progress}
    {found : List Slot} (hplan : AllPlaced doc p.plan)
    (hfound : ∀ slot ∈ found, slot.argument ∈ doc.root.preorder) :
    AllPlaced doc (found.foldl (Instrument.instrumentSlot doc o injection className) p).plan := by
  induction found generalizing p with
  | nil => exact hplan
  | cons slot rest ih =>
      have hslot := hfound slot List.mem_cons_self
      exact ih (hplan.instrumentSlot hslot) fun s hs => hfound s (List.mem_cons_of_mem slot hs)

theorem AllPlaced.addParameter {o : Options} {cls : Node} {scope : Option Text} {name type : Text}
    {p : Progress} (hplan : AllPlaced doc p.plan) (hsound : doc.Sound) (hcls : cls ∈ doc.root.preorder)
    (hbody : ∀ body, cls.child? .body = some body → (doc.rangeOf body).1 < doc.text.length) :
    AllPlaced doc (addParameter doc o cls scope name type p).plan := by
  unfold Instrument.addParameter
  split
  · rename_i e record hedit
    exact hplan.add (placed_of_constructorEdit? hsound hcls hbody hedit)
  · exact hplan

theorem slots_of_checkedSlots {o : Options} {cls : Node} {found : List Slot}
    (h : checkedSlots doc o cls = .ok found) : slots doc cls = .ok found := by
  unfold checkedSlots at h
  split at h
  · simp at h
  · rename_i hslots
    rw [hslots, h]
  · rename_i hslots
    split at h
    · simp at h
    · rw [hslots, h]

theorem AllPlaced.instrumentClass {o : Options} {injection : Injection} {cls : Node} {p : Progress}
    (hplan : AllPlaced doc p.plan) (hsound : doc.Sound) (hcls : cls ∈ doc.root.preorder) :
    AllPlaced doc (instrumentClass doc o injection cls p).2.plan := by
  unfold Instrument.instrumentClass
  split
  · exact hplan
  · exact hplan
  · rename_i found hsome hchecked
    have hslots := slots_of_checkedSlots hchecked
    have hfound : ∀ slot ∈ found, slot.argument ∈ doc.root.preorder := fun slot hslot =>
      Node.mem_preorder_trans (argument_mem_of_slots hslots hslot) hcls
    -- Only a class with a slot gets a parameter, so there is text behind the start of its body.
    obtain ⟨slot, hslot⟩ := List.exists_mem_of_ne_nil found hsome
    have hbody : ∀ body, cls.child? .body = some body → (doc.rangeOf body).1 < doc.text.length := fun body =>
      body_start_lt_length hsound hcls hslots hslot
    exact (hplan.foldl_instrumentSlot hfound).addParameter hsound hcls hbody

theorem AllPlaced.instrumentClasses {o : Options} {injection : Injection} {classes : List Node} {p : Progress}
    (hplan : AllPlaced doc p.plan) (hsound : doc.Sound) (hclasses : ∀ cls ∈ classes, cls ∈ doc.root.preorder) :
    AllPlaced doc (instrumentClasses doc o injection classes p).2.plan := by
  induction classes generalizing p with
  | nil => exact hplan
  | cons cls rest ih =>
      have hclass : AllPlaced doc (Instrument.instrumentClass doc o injection cls p).2.plan :=
        hplan.instrumentClass hsound (hclasses cls List.mem_cons_self)
      have hrest : ∀ c ∈ rest, c ∈ doc.root.preorder := fun c hc => hclasses c (List.mem_cons_of_mem cls hc)
      unfold Instrument.instrumentClasses
      split
      · rename_i error p' hstep
        simpa [hstep] using hclass
      · rename_i touched p' hstep
        rw [hstep] at hclass
        have hnext := ih hclass hrest
        split
        · rename_i hrun
          simpa [hrun] using hnext
        · rename_i hrun
          simpa [hrun] using hnext

theorem mem_preorder_of_mem_classes {cls : Node} (h : cls ∈ doc.classes) : cls ∈ doc.root.preorder := by
  rw [Document.classes, Node.walk_eq_preorder] at h
  exact (List.mem_filter.1 h).1

theorem AllPlaced.fits {plan : Plan} (hplan : AllPlaced doc plan) : plan.Fits doc.text :=
  fun e he => (hplan e he).fits

theorem AllPlaced.laminar {plan : Plan} (hplan : AllPlaced doc plan) (hsound : doc.Sound) : plan.Laminar :=
  fun a ha b hb => (hplan a ha).not_crosses (hplan b hb) hsound

/-- The plan at the end of a run, also of one that stops at a class it refuses. -/
theorem allPlaced_classes (hsound : doc.Sound) (o : Options) (injection : Injection) :
    AllPlaced doc (instrumentClasses doc o injection doc.classes ⟨[], []⟩).2.plan := by
  have hstart : AllPlaced doc [] := fun e he => absurd he List.not_mem_nil
  exact AllPlaced.instrumentClasses hstart hsound fun cls => mem_preorder_of_mem_classes

/-- Whatever classes a document has, the edits planned for them fit the text and do not cross, so a run never
fails for its edits. -/
theorem instrumentClasses_applicable (hsound : doc.Sound) (o : Options) (injection : Injection) (file : Text) :
    (∀ count p, instrumentClasses doc o injection doc.classes ⟨[], []⟩ = (.ok count, p) →
      AllPlaced doc p.plan ∧ p.plan.Fits doc.text ∧ p.plan.Laminar ∧
        ∃ outcome, Edit.apply doc.text p.plan = .ok outcome) ∧
      ∀ error, (instrumentDocument doc o injection file).1 ≠ .error (.inapplicable error) := by
  have hplaced := allPlaced_classes hsound o injection
  have happly := Edit.apply_eq_ok_iff.2 ⟨hplaced.fits, hplaced.laminar hsound⟩
  constructor
  · intro count p hrun
    rw [hrun] at hplaced happly
    exact ⟨hplaced, hplaced.fits, hplaced.laminar hsound, happly⟩
  · intro error hfailed
    unfold instrumentDocument at hfailed
    split at hfailed
    · simp at hfailed
    · simp at hfailed
    · rename_i count p _ hrun
      rw [hrun] at happly
      obtain ⟨⟨text, stats⟩, h⟩ := happly
      rw [h] at hfailed
      cases hfailed

/-- A callback within a callback, in a class whose constructor has no parameter yet. -/
def nestedCallbacks : Document where
  text := "class é\x7bconstructor()\x7b\x7dm()\x7bp.then(x=>q.catch(f))\x7d\x7d"
  wellFormed := true
  root :=
    ⟨.other, none, 0, 51, [⟨.classDeclaration, none, 0, 51, [⟨.typeName, some .name, 6, 2, []⟩,
      ⟨.classBody, some .body, 8, 43, [
        ⟨.methodDefinition, none, 9, 15, [⟨.propertyName, some .name, 9, 11, []⟩,
          ⟨.parameters, some .parameters, 20, 2, []⟩, ⟨.block, some .body, 22, 2, []⟩]⟩,
        ⟨.methodDefinition, none, 24, 26, [⟨.propertyName, some .name, 24, 1, []⟩,
          ⟨.parameters, some .parameters, 25, 2, []⟩,
          ⟨.block, some .body, 27, 23, [⟨.other, none, 28, 21, [⟨.call, none, 28, 21, [
            ⟨.member, some .function, 28, 6, [⟨.identifier, none, 28, 1, []⟩,
              ⟨.propertyName, some .property, 30, 4, []⟩]⟩,
            ⟨.arguments, some .arguments, 34, 15, [⟨.arrow, none, 35, 13, [⟨.identifier, none, 35, 1, []⟩,
              ⟨.call, some .body, 38, 10, [
                ⟨.member, some .function, 38, 7, [⟨.identifier, none, 38, 1, []⟩,
                  ⟨.propertyName, some .property, 40, 5, []⟩]⟩,
                ⟨.arguments, some .arguments, 45, 3, [⟨.identifier, none, 46, 1, []⟩]⟩]⟩]⟩]⟩]⟩]⟩]⟩]⟩]⟩]⟩]⟩

theorem nestedCallbacks_sound : nestedCallbacks.Sound := by
  refine ⟨⟨?_, ?_⟩, ?_, ?_⟩
  all_goals decide +kernel

theorem instrumentClasses_applicable_nested :
    nestedCallbacks.Sound ∧
      ∃ p, instrumentClasses nestedCallbacks {} (injectStatement defaultStatement) nestedCallbacks.classes ⟨[], []⟩
          = (.ok 1, p) ∧
        p.plan.map (·.range) =
          [⟨37, 47, by decide⟩, ⟨34, 47, by decide⟩, ⟨45, 46, by decide⟩, ⟨45, 46, by decide⟩, ⟨20, 20, by decide⟩] ∧
        p.plan.Laminar ∧ ∃ outcome, Edit.apply nestedCallbacks.text p.plan = .ok outcome := by
  have hcount : (instrumentClasses nestedCallbacks {} (injectStatement defaultStatement) nestedCallbacks.classes
      ⟨[], []⟩).1.toOption = some 1 := by decide +kernel
  have hranges : (instrumentClasses nestedCallbacks {} (injectStatement defaultStatement) nestedCallbacks.classes
      ⟨[], []⟩).2.plan.map (·.range) =
        [⟨37, 47, by decide⟩, ⟨34, 47, by decide⟩, ⟨45, 46, by decide⟩, ⟨45, 46, by decide⟩, ⟨20, 20, by decide⟩] := by
    decide +kernel
  have happlicable :=
    (instrumentClasses_applicable nestedCallbacks_sound {} (injectStatement defaultStatement) []).1
  cases hrun : instrumentClasses nestedCallbacks {} (injectStatement defaultStatement) nestedCallbacks.classes
      ⟨[], []⟩ with
  | mk result p =>
      rw [hrun] at hcount hranges
      cases result with
      | error error => cases hcount
      | ok count =>
          obtain rfl : count = 1 := Option.some.inj hcount
          obtain ⟨-, -, hlaminar, happly⟩ := happlicable 1 p hrun
          exact ⟨nestedCallbacks_sound, p, rfl, hranges, hlaminar, happly⟩

end ViewCompiler.Instrument
