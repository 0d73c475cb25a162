import ViewCompiler.Instrument.CallSite
import ViewCompiler.Proofs.Members
import ViewCompiler.Proofs.Script.Document
import ViewCompiler.Proofs.Sequence

/-!
# Where the call sites of a class are

The sites of a class are calls of a callback method in the body of one of its methods (`way_to_site`), and
the slot of a site holds a child of the argument list of the call (`way_to_slot`). A call of a callback method
spells the method's name, so something of the text follows its start (`start_lt_length_of_isCallSite`).
-/

namespace ViewCompiler.Instrument

open Script

variable {doc : Document}

theorem plain_of_mem_among {call : Node} {l : List Node} (h : call ∈ callSites.among doc l) :
    ∃ c ∈ l, c.kind.isClass = false ∧ call ∈ callSites doc c := by
  induction l with
  | nil => simp [callSites.among] at h
  | cons c rest ih =>
      rw [callSites.among, List.mem_append] at h
      rcases h with h | h
      · split at h
        · simp at h
        · exact ⟨c, List.mem_cons_self, Bool.eq_false_iff.2 ‹_›, h⟩
      · obtain ⟨d, hd, hcall⟩ := ih h
        exact ⟨d, List.mem_cons_of_mem c hd, hcall⟩

theorem mem_callSites {call n : Node} (h : call ∈ callSites doc n) :
    call ∈ n.preorder ∧ isCallSite doc call = true := by
  induction n using Node.induction with
  | node n ih =>
      obtain ⟨kind, role, start, length, children⟩ := n
      rw [callSites, List.mem_append] at h
      rcases h with h | h
      · split at h
        · rename_i hsite
          rw [List.mem_singleton.1 h]
          exact ⟨Node.self_mem_preorder _, hsite⟩
        · simp at h
      · obtain ⟨c, hc, -, hcall⟩ := plain_of_mem_among h
        obtain ⟨hbelow, hsite⟩ := ih c hc hcall
        exact ⟨Node.mem_preorder.2 (Or.inr ⟨c, hc, hbelow⟩), hsite⟩

/-- What a node holds in a role besides comments are children of the child in that role. -/
theorem exists_child_of_mem_parts {n m : Node} {role : Role} (h : m ∈ ((n.child? role).map Node.parts).getD []) :
    ∃ child, n.child? role = some child ∧ m ∈ child.children := by
  cases hchild : n.child? role with
  | none => simp [hchild] at h
  | some child =>
      rw [hchild] at h
      exact ⟨child, rfl, (List.mem_filter.1 h).1⟩

theorem mem_members {cls member : Node} (h : member ∈ Document.members cls) :
    ∃ body, cls.child? .body = some body ∧ member ∈ body.children :=
  exists_child_of_mem_parts h

/-- The way from a class to one of its call sites. -/
theorem way_to_site {cls call : Node} {method : Text} (h : (method, call) ∈ sites doc cls) :
    ∃ body member block, cls.child? .body = some body ∧ member ∈ body.children ∧ member.kind = .methodDefinition ∧
      member.child? .body = some block ∧ call ∈ callSites doc block := by
  obtain ⟨member, hmember, hcall⟩ := List.mem_flatMap.1 h
  obtain ⟨hmember, hmethod⟩ := List.mem_filter.1 hmember
  obtain ⟨body, hbody, hchild⟩ := mem_members hmember
  simp only [isMethod, Bool.and_eq_true, decide_eq_true_eq] at hmethod
  cases hblock : member.child? .body with
  | none => simp [hblock] at hcall
  | some block =>
      rw [hblock] at hcall
      obtain ⟨call', hcall', heq⟩ := List.mem_map.1 hcall
      obtain ⟨-, rfl⟩ := Prod.mk.inj heq
      exact ⟨body, member, block, hbody, hchild, hmethod.1.1.1, hblock, hcall'⟩

/-! ### Slots -/

/-- The arguments of a call. Comments between them do not count. -/
def argumentsOf (call : Node) : List Node := ((call.child? .arguments).map Node.parts).getD []

theorem ofCall_eq_ok_iff {className methodName : Option Text} {call : Node} {slot : Slot} :
    Slot.ofCall doc className methodName call = .ok slot ↔
      argumentsOf call = [slot.argument] ∧ slot.argument.kind ≠ .spread ∧ slot.call = call ∧
        slot.method = ((((call.child? .function).bind (·.child? .property)).or (call.child? .function)).map
          doc.textOf).getD [] := by
  obtain ⟨call', argument, method⟩ := slot
  simp only [Slot.ofCall, argumentsOf]
  split
  · rename_i argument' hvalues
    rw [hvalues]
    split
    · rename_i hspread
      simp only [reduceCtorEq, false_iff]
      rintro ⟨heq, hplain, -⟩
      exact hplain ((List.singleton_inj.1 heq) ▸ hspread)
    · rename_i hplain
      simp only [Except.ok.injEq, Slot.mk.injEq, List.cons.injEq, and_true]
      constructor
      · rintro ⟨rfl, rfl, rfl⟩
        exact ⟨rfl, hplain, rfl, rfl⟩
      · rintro ⟨rfl, -, rfl, rfl⟩
        exact ⟨rfl, rfl, rfl⟩
  · rename_i hvalues
    simp only [reduceCtorEq, false_iff]
    rintro ⟨heq, -⟩
    exact hvalues argument heq

/-- The way from a class to the argument of one of its slots. -/
theorem way_to_slot {cls : Node} {found : List Slot} {slot : Slot} (h : slots doc cls = .ok found)
    (hslot : slot ∈ found) :
    ∃ body member block call list, cls.child? .body = some body ∧ member ∈ body.children ∧
      member.kind = .methodDefinition ∧ member.child? .body = some block ∧ call ∈ callSites doc block ∧
      call.child? .arguments = some list ∧ slot.argument ∈ list.children := by
  obtain ⟨⟨method, call⟩, hsite, hofCall⟩ := exists_of_mem_right (mapM_eq_ok_iff.1 h) hslot
  obtain ⟨body, member, block, hbody, hmember, hkind, hblock, hcall⟩ := way_to_site hsite
  have hargument : slot.argument ∈ argumentsOf call := by
    rw [(ofCall_eq_ok_iff.1 hofCall).1]
    exact List.mem_singleton_self _
  obtain ⟨list, hlist, hchild⟩ := exists_child_of_mem_parts hargument
  exact ⟨body, member, block, call, list, hbody, hmember, hkind, hblock, hcall, hlist, hchild⟩

/-- A slot of a class stands for a call of a callback method below the class body. -/
theorem mem_slots {cls : Node} {found : List Slot} {slot : Slot} (h : slots doc cls = .ok found)
    (hslot : slot ∈ found) :
    ∃ body call, cls.child? .body = some body ∧ call ∈ body.preorder ∧ isCallSite doc call = true ∧
      slot.argument ∈ call.preorder := by
  obtain ⟨body, member, block, call, list, hbody, hmember, -, hblock, hcall, hlist, hargument⟩ := way_to_slot h hslot
  obtain ⟨hbelow, hsite⟩ := mem_callSites hcall
  refine ⟨body, call, hbody, ?_, hsite, ?_⟩
  · exact Node.mem_preorder_trans hbelow
      (Node.mem_preorder_trans (Node.mem_preorder_of_child? hblock) (Node.mem_preorder_of_child hmember))
  · exact Node.mem_preorder_trans (Node.mem_preorder_of_child hargument) (Node.mem_preorder_of_child? hlist)

theorem property_of_isCallSite {call : Node} (h : isCallSite doc call = true) :
    ∃ property ∈ call.preorder, doc.textOf property ≠ [] := by
  simp only [isCallSite, Bool.and_eq_true, Option.any_eq_true] at h
  obtain ⟨-, function, hfunction, haccess⟩ := h
  simp only [isCallbackAccess, Bool.and_eq_true] at haccess
  obtain ⟨-, haccess⟩ := haccess
  split at haccess
  · rename_i property hproperty
    refine ⟨property, Node.mem_preorder_trans (Node.mem_preorder_of_child? hproperty)
      (Node.mem_preorder_of_child? hfunction), ?_⟩
    intro hempty
    simp [hempty, callbackMethods] at haccess
  · simp at haccess

theorem start_lt_length_of_isCallSite {call : Node} (hsound : doc.Sound) (hcall : call ∈ doc.root.preorder)
    (h : isCallSite doc call = true) : (doc.rangeOf call).1 < doc.text.length := by
  obtain ⟨property, hproperty, hspelled⟩ := property_of_isCallSite h
  have hlength := hsound.length_textOf (Node.mem_preorder_trans hproperty hcall)
  have hpos := List.length_pos_iff.2 hspelled
  have hcovers := (hsound.rangeOf_covers hcall hproperty).1
  have hstop := Document.rangeOf_le_length doc property
  omega

theorem argument_mem_of_slots {cls : Node} {found : List Slot} {slot : Slot} (h : slots doc cls = .ok found)
    (hslot : slot ∈ found) : slot.argument ∈ cls.preorder := by
  obtain ⟨body, call, hbody, hcall, -, hargument⟩ := mem_slots h hslot
  exact Node.mem_preorder_trans hargument (Node.mem_preorder_trans hcall (Node.mem_preorder_of_child? hbody))

/-- A class with a slot has a site, which is spelled out behind the start of the class body. -/
theorem body_start_lt_length {cls body : Node} {found : List Slot} {slot : Slot} (hsound : doc.Sound)
    (hcls : cls ∈ doc.root.preorder) (h : slots doc cls = .ok found) (hslot : slot ∈ found)
    (hbody : cls.child? .body = some body) : (doc.rangeOf body).1 < doc.text.length := by
  obtain ⟨body', call, hbody', hcall, hsite, -⟩ := mem_slots h hslot
  obtain rfl : body = body' := Option.some.inj (hbody.symm.trans hbody')
  have hroot := Node.mem_preorder_trans (Node.mem_preorder_of_child? hbody) hcls
  have hcovers := (hsound.rangeOf_covers hroot hcall).1
  have hlt := start_lt_length_of_isCallSite hsound (Node.mem_preorder_trans hcall hroot) hsite
  omega

end ViewCompiler.Instrument
