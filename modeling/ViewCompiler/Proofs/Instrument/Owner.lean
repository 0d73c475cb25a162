import ViewCompiler.Proofs.Instrument.Built

/-!
# Each edit belongs to one class

The edits of a class lie within its braces, and within the braces of no class below it: call sites are not looked for
in nested classes, and a constructor or a parameter is added next to a brace or a bracket of the class itself. The class
of an edit is therefore the innermost one around it (`Owns`), so that no two classes plan edits for one range
(`Owns.unique`).
-/

namespace ViewCompiler

namespace Script.Document

/-- The body of a class holds its members in braces. -/
def ClassBodies (doc : Document) : Prop :=
  ∀ cls ∈ doc.root.preorder, cls.kind.isClass = true → ∀ body ∈ cls.child? .body,
    body.kind = .classBody ∧ Enclosed doc '\x7b' '\x7d' body

instance (doc : Document) : Decidable (ClassBodies doc) :=
  inferInstanceAs (Decidable (∀ cls ∈ doc.root.preorder, cls.kind.isClass = true → ∀ body ∈ cls.child? .body, _ ∧ _))

end Script.Document

namespace Instrument

open Script

variable {doc : Document} {o : Options} {cls c d m n child body : Node} {slot : Slot} {found : List Slot} {r : Range}
  {e : Edit}

def Covers (doc : Document) (n : Node) (r : Range) : Prop := (doc.rangeOf n).1 ≤ r.start ∧ r.stop ≤ (doc.rangeOf n).2

def Surrounds (doc : Document) (n : Node) (r : Range) : Prop :=
  (doc.rangeOf n).1 < r.start ∧ r.stop < (doc.rangeOf n).2

/-- The range lies within the braces of the class. -/
def Embraces (doc : Document) (cls : Node) (r : Range) : Prop :=
  ∃ body, cls.child? .body = some body ∧ Surrounds doc body r

/-- The class is the innermost one around the range. -/
def Owns (doc : Document) (cls : Node) (r : Range) : Prop :=
  Embraces doc cls r ∧ ∀ c ∈ cls.preorder, c.kind.isClass = true → Embraces doc c r → c = cls

theorem covers_rangeIn (doc : Document) (n : Node) : Covers doc n (rangeIn doc n) :=
  ⟨Int.le_refl _, Int.le_refl _⟩

section Tree

variable (hsound : doc.Sound)

include hsound

theorem Covers.of_below (h : Covers doc m r) (hn : n ∈ doc.root.preorder) (hm : m ∈ n.preorder) : Covers doc n r := by
  have hcovers := hsound.rangeOf_covers hn hm
  unfold Covers at h ⊢
  omega

theorem Surrounds.of_below (h : Surrounds doc m r) (hn : n ∈ doc.root.preorder) (hm : m ∈ n.preorder) :
    Surrounds doc n r := by
  have hcovers := hsound.rangeOf_covers hn hm
  unfold Surrounds at h ⊢
  omega

theorem Embraces.surrounds (h : Embraces doc c r) (hc : c ∈ doc.root.preorder) : Surrounds doc c r := by
  obtain ⟨body, hbody, hsurrounds⟩ := h
  exact hsurrounds.of_below hsound hc (Node.mem_preorder_of_child? hbody)

theorem not_surrounds_rangeIn (hn : n ∈ doc.root.preorder) (hm : m ∈ n.preorder) : ¬ Surrounds doc m (rangeIn doc n) := by
  have hcovers := hsound.rangeOf_covers hn hm
  simp only [Surrounds, rangeIn]
  omega

/-- Of the children of a node, only the one that covers a range can hold something around it. -/
theorem eq_of_surrounds (hn : n ∈ doc.root.preorder) (hchild : child ∈ n.children) (hcovers : Covers doc child r)
    (hd : d ∈ n.children) (hm : m ∈ d.preorder) (hsurrounds : Surrounds doc m r) : d = child := by
  by_contra hne
  have hroot : d ∈ doc.root.preorder := Node.mem_preorder_trans (Node.mem_preorder_of_child hd) hn
  have hle := r.start_le_stop
  obtain ⟨hstart, hstop⟩ := hsurrounds.of_below hsound hroot hm
  obtain ⟨hstart', hstop'⟩ := hcovers
  rcases (hsound.spanned.subtree hn).siblings_apart hd hchild hne with hapart | hapart
  · have hchars : (doc.rangeOf d).2 ≤ (doc.rangeOf child).1 := Text.charOffset_mono doc.text hapart
    omega
  · have hchars : (doc.rangeOf child).2 ≤ (doc.rangeOf d).1 := Text.charOffset_mono doc.text hapart
    omega

theorem below_child (hn : n ∈ doc.root.preorder) (hchild : child ∈ n.children) (hcovers : Covers doc child r)
    (hm : m ∈ n.preorder) (hne : m ≠ n) (hsurrounds : Surrounds doc m r) : m ∈ child.preorder := by
  rcases Node.mem_preorder.1 hm with heq | ⟨d, hd, hbelow⟩
  · exact absurd heq hne
  · rwa [← eq_of_surrounds hsound hn hchild hcovers hd hbelow hsurrounds]

theorem Owns.unique {cls' : Node} (h : Owns doc cls r) (h' : Owns doc cls' r) (hcls : cls ∈ doc.root.preorder)
    (hcls' : cls' ∈ doc.root.preorder) (hclass : cls.kind.isClass = true) (hclass' : cls'.kind.isClass = true) :
    cls = cls' := by
  have hle := r.start_le_stop
  obtain ⟨hstart, hstop⟩ := h.1.surrounds hsound hcls
  obtain ⟨hstart', hstop'⟩ := h'.1.surrounds hsound hcls'
  rcases hsound.spanned.nested_or_apart hcls hcls' with hbelow | hbelow | hapart | hapart
  · exact h'.2 cls hbelow hclass h.1
  · exact (h.2 cls' hbelow hclass' h'.1).symm
  · have hchars : (doc.rangeOf cls).2 ≤ (doc.rangeOf cls').1 := Text.charOffset_mono doc.text hapart
    omega
  · have hchars : (doc.rangeOf cls').2 ≤ (doc.rangeOf cls).1 := Text.charOffset_mono doc.text hapart
    omega

/-! ### On the way to a call site -/

/-- The search for call sites passes no class. -/
theorem below_call {call : Node} (hn : n ∈ doc.root.preorder) (hcall : call ∈ callSites doc n)
    (hcovers : Covers doc call r) (hc : c ∈ n.preorder) (hclass : c.kind.isClass = true) (hsurrounds : Surrounds doc c r)
    (hne : c ≠ n) : c ∈ call.preorder := by
  induction n using Node.induction with
  | node n ih =>
      obtain ⟨kind, role, start, length, children⟩ := n
      rw [callSites, List.mem_append] at hcall
      rcases hcall with hcall | hcall
      · split at hcall
        · rwa [List.mem_singleton.1 hcall]
        · simp at hcall
      · obtain ⟨d, hd, hplain, hcall⟩ := plain_of_mem_among hcall
        have hroot := Node.mem_preorder_trans (Node.mem_preorder_of_child hd) hn
        have hcovers' := hcovers.of_below hsound hroot (mem_callSites hcall).1
        have hbelow := below_child hsound hn hd hcovers' hc hne hsurrounds
        refine ih d hd hroot hcall hbelow ?_
        intro heq
        rw [← heq, hclass] at hplain
        cases hplain

end Tree

/-! ### The edits of a class -/

section Class

variable (hsound : doc.Sound) (hbodies : doc.ClassBodies) (hcls : cls ∈ doc.root.preorder)
  (hclass : cls.kind.isClass = true)

include hsound hbodies hcls hclass

theorem below_member {member : Node} (hbody : cls.child? .body = some body) (hmember : member ∈ body.children)
    (hcovers : Covers doc member r) (hc : c ∈ cls.preorder) (hc' : c.kind.isClass = true) (hne : c ≠ cls)
    (hsurrounds : Surrounds doc c r) : c ∈ member.preorder := by
  have hchild := List.mem_of_find?_eq_some hbody
  have hroot := Node.mem_preorder_trans (Node.mem_preorder_of_child hchild) hcls
  have hbelow := below_child hsound hcls hchild
    (hcovers.of_below hsound hroot (Node.mem_preorder_of_child hmember)) hc hne hsurrounds
  refine below_child hsound hroot hmember hcovers hbelow ?_ hsurrounds
  intro heq
  rw [heq, (hbodies cls hcls hclass body hbody).1] at hc'
  cases hc'

theorem embraces_of_member {member : Node} (hbody : cls.child? .body = some body) (hmember : member ∈ body.children)
    (hcovers : Covers doc member r) : Embraces doc cls r := by
  have hroot := Node.mem_preorder_trans (Node.mem_preorder_of_child? hbody) hcls
  have hbetween := (hbodies cls hcls hclass body hbody).2.between_child hsound hroot hmember
  refine ⟨body, hbody, ?_⟩
  unfold Covers at hcovers
  unfold Surrounds
  omega

theorem embraces_argument (hslots : slots doc cls = .ok found) (hslot : slot ∈ found)
    (hcovers : Covers doc slot.argument r) : Embraces doc cls r := by
  obtain ⟨body, member, block, call, list, hbody, hmember, -, hblock, hcall, hlist, hargument⟩ := way_to_slot hslots hslot
  refine embraces_of_member hsound hbodies hcls hclass hbody hmember (hcovers.of_below hsound ?_ ?_)
  · exact Node.mem_preorder_trans (Node.mem_preorder_of_child hmember)
      (Node.mem_preorder_trans (Node.mem_preorder_of_child? hbody) hcls)
  · exact Node.mem_preorder_trans (Node.mem_preorder_of_child hargument) (Node.mem_preorder_trans
      (Node.mem_preorder_of_child? hlist) (Node.mem_preorder_trans (mem_callSites hcall).1
        (Node.mem_preorder_of_child? hblock)))

variable (hplain : PlainBodies doc.root)

include hplain

/-- A class below that lies around something in an argument is part of the argument, or has the argument for its
body. -/
theorem below_argument (hslots : slots doc cls = .ok found) (hslot : slot ∈ found) (hcovers : Covers doc slot.argument r)
    (hc : c ∈ cls.preorder) (hc' : c.kind.isClass = true) (hne : c ≠ cls) (hembraces : Embraces doc c r) :
    c ∈ slot.argument.preorder ∨ c.child? .body = some slot.argument := by
  obtain ⟨body, member, block, call, list, hbody, hmember, hmethod, hblock, hcall, hlist, hargument⟩ :=
    way_to_slot hslots hslot
  have hbodyRoot := Node.mem_preorder_trans (Node.mem_preorder_of_child? hbody) hcls
  have hmemberRoot := Node.mem_preorder_trans (Node.mem_preorder_of_child hmember) hbodyRoot
  have hblockRoot := Node.mem_preorder_trans (Node.mem_preorder_of_child? hblock) hmemberRoot
  obtain ⟨hcallBlock, hsite⟩ := mem_callSites hcall
  have hcallRoot := Node.mem_preorder_trans hcallBlock hblockRoot
  have hlistRoot := Node.mem_preorder_trans (Node.mem_preorder_of_child? hlist) hcallRoot
  have hlistCovers := hcovers.of_below hsound hlistRoot (Node.mem_preorder_of_child hargument)
  have hcallCovers := hlistCovers.of_below hsound hcallRoot (Node.mem_preorder_of_child? hlist)
  have hblockCovers := hcallCovers.of_below hsound hblockRoot hcallBlock
  have hmemberCovers := hblockCovers.of_below hsound hmemberRoot (Node.mem_preorder_of_child? hblock)
  have hsurrounds := hembraces.surrounds hsound (Node.mem_preorder_trans hc hcls)
  -- No node on the way down is a class, up to the argument list, whose kind is not known.
  have hother {n : Node} (hn : n.kind.isClass = false) : c ≠ n := by
    intro heq
    rw [heq, hn] at hc'
    cases hc'
  have hbelow := below_member hsound hbodies hcls hclass hbody hmember hmemberCovers hc hc' hne hsurrounds
  replace hbelow := below_child hsound hmemberRoot (List.mem_of_find?_eq_some hblock) hblockCovers hbelow
    (hother (by rw [hmethod]; rfl)) hsurrounds
  replace hbelow := below_call hsound hblockRoot hcall hcallCovers hbelow hc' hsurrounds
    (hother (hplain member hmemberRoot (Or.inr hmethod) block hblock))
  replace hbelow := below_child hsound hcallRoot (List.mem_of_find?_eq_some hlist) hlistCovers hbelow
    (hother (by rw [(isCallSite_iff.1 hsite).1]; rfl)) hsurrounds
  by_cases heq : c = list
  · obtain ⟨inner, hinner, hsurrounds⟩ := hembraces
    rw [heq] at hinner
    have hsame := eq_of_surrounds hsound hlistRoot hargument hcovers (List.mem_of_find?_eq_some hinner)
      (Node.self_mem_preorder inner) hsurrounds
    rw [heq, hinner, hsame]
    exact Or.inr rfl
  · exact Or.inl (below_child hsound hlistRoot hargument hcovers hbelow heq hsurrounds)

theorem owns_argument (hslots : slots doc cls = .ok found) (hslot : slot ∈ found) :
    Owns doc cls (rangeIn doc slot.argument) := by
  have hroot := Node.mem_preorder_trans (argument_mem_of_slots hslots hslot) hcls
  have hcovers := covers_rangeIn doc slot.argument
  refine ⟨embraces_argument hsound hbodies hcls hclass hslots hslot hcovers, fun c hc hc' hembraces => ?_⟩
  by_contra hne
  rcases below_argument hsound hbodies hcls hclass hplain hslots hslot hcovers hc hc' hne hembraces with hbelow | hbody
  · exact not_surrounds_rangeIn hsound hroot hbelow (hembraces.surrounds hsound (Node.mem_preorder_trans hc hcls))
  · obtain ⟨inner, hinner, hsurrounds⟩ := hembraces
    rw [hbody] at hinner
    cases hinner
    exact not_surrounds_rangeIn hsound hroot (Node.self_mem_preorder _) hsurrounds

theorem owns_arrowBody (hslots : slots doc cls = .ok found) (hslot : slot ∈ found) (hkind : slot.argument.kind = .arrow)
    (hbody : slot.argument.child? .body = some body) : Owns doc cls (rangeIn doc body) := by
  have hargument := Node.mem_preorder_trans (argument_mem_of_slots hslots hslot) hcls
  have hroot := Node.mem_preorder_trans (Node.mem_preorder_of_child? hbody) hargument
  have hcovers := covers_rangeIn doc body
  have hcovers' := hcovers.of_below hsound hargument (Node.mem_preorder_of_child? hbody)
  refine ⟨embraces_argument hsound hbodies hcls hclass hslots hslot hcovers', fun c hc hc' hembraces => ?_⟩
  by_contra hne
  have hcroot := Node.mem_preorder_trans hc hcls
  have hsurrounds := hembraces.surrounds hsound hcroot
  rcases below_argument hsound hbodies hcls hclass hplain hslots hslot hcovers' hc hc' hne hembraces with hbelow | hinner
  · have harrow : c ≠ slot.argument := by
      intro heq
      rw [heq, hkind] at hc'
      cases hc'
    exact not_surrounds_rangeIn hsound hroot
      (below_child hsound hargument (List.mem_of_find?_eq_some hbody) hcovers hbelow harrow hsurrounds) hsurrounds
  · have hmembers := (hbodies c hcroot hc' _ hinner).1
    rw [hkind] at hmembers
    cases hmembers

omit hplain

theorem owns_parameterEdit {member list : Node} (hbody : cls.child? .body = some body)
    (hmember : member ∈ body.children) (hmethod : member.kind = .methodDefinition)
    (hlist : member.child? .parameters = some list) (text : Text) :
    Owns doc cls (parameterEdit doc list text).range := by
  have hmemberRoot := Node.mem_preorder_trans (Node.mem_preorder_of_child hmember)
    (Node.mem_preorder_trans (Node.mem_preorder_of_child? hbody) hcls)
  have hlistRoot := Node.mem_preorder_trans (Node.mem_preorder_of_child? hlist) hmemberRoot
  have hrole := Node.role_of_child? hlist
  have hbrackets := hsound.bracketed list hlistRoot hrole
  -- Nothing below the list lies around the place of the edit, so no class does either.
  suffices hplace : Covers doc list (parameterEdit doc list text).range ∧
      ∀ d ∈ list.children, ¬ Surrounds doc d (parameterEdit doc list text).range by
    have hcovers := hplace.1.of_below hsound hmemberRoot (Node.mem_preorder_of_child? hlist)
    refine ⟨embraces_of_member hsound hbodies hcls hclass hbody hmember hcovers, fun c hc hc' hembraces => ?_⟩
    by_contra hne
    have hsurrounds := hembraces.surrounds hsound (Node.mem_preorder_trans hc hcls)
    have hbelow := below_member hsound hbodies hcls hclass hbody hmember hcovers hc hc' hne hsurrounds
    have hother : c ≠ member := by
      intro heq
      rw [heq, hmethod] at hc'
      cases hc'
    replace hbelow := below_child hsound hmemberRoot (List.mem_of_find?_eq_some hlist) hplace.1 hbelow hother hsurrounds
    rcases Node.mem_preorder.1 hbelow with rfl | ⟨d, hd, hbelow⟩
    · obtain ⟨inner, hinner, hsurrounds⟩ := hembraces
      exact hplace.2 inner (List.mem_of_find?_eq_some hinner) hsurrounds
    · exact hplace.2 d hd (hsurrounds.of_below hsound
        (Node.mem_preorder_trans (Node.mem_preorder_of_child hd) hlistRoot) hbelow)
  rcases parameterEdit_cases hsound hlistRoot hrole text with ⟨last, hmem, hedit⟩ | ⟨-, inside, hinside, hedit⟩
  · have hle := doc.rangeOf_le last
    have hbetween := hbrackets.between_child hsound hlistRoot hmem
    rw [hedit]
    refine ⟨?_, fun d hd hsurrounds => ?_⟩
    · simp only [Covers, Edit.insertion]
      omega
    · have hcovers : Covers doc last ⟨((doc.rangeOf last).2 : Nat), ((doc.rangeOf last).2 : Nat), Int.le_refl _⟩ := by
        simp only [Covers]
        omega
      have hsame := eq_of_surrounds hsound hlistRoot hmem hcovers hd (Node.self_mem_preorder d) hsurrounds
      rw [hsame] at hsurrounds
      simp only [Surrounds, Edit.insertion] at hsurrounds
      omega
  · obtain ⟨hstart, hstop⟩ := interior?_eq_some_iff.1 hinside
    rw [hedit]
    refine ⟨?_, fun d hd hsurrounds => ?_⟩
    · simp only [Covers, Edit.replacement]
      omega
    · have hbetween := hbrackets.between_child hsound hlistRoot hd
      simp only [Surrounds, Edit.replacement] at hsurrounds
      omega

theorem owns_constructorEdit {scope : Option Text} {name type : Text} {record : Log.Record}
    (h : constructorEdit? doc o cls scope name type = some (e, record)) : Owns doc cls e.range := by
  rcases constructorEdit?_eq_some h with ⟨member, list, hmember, hlist, rfl⟩ | ⟨body, hbody, rfl⟩
  · have hconstructor := List.find?_some hmember
    simp only [isConstructor, Bool.and_eq_true, decide_eq_true_eq] at hconstructor
    obtain ⟨body, hbody, hchild⟩ := mem_members (List.mem_of_find?_eq_some hmember)
    exact owns_parameterEdit hsound hbodies hcls hclass hbody hchild hconstructor.1.1 hlist _
  · obtain ⟨hkind, hbraces⟩ := hbodies cls hcls hclass body hbody
    have hchild := List.mem_of_find?_eq_some hbody
    have hroot := Node.mem_preorder_trans (Node.mem_preorder_of_child hchild) hcls
    have htwo := hbraces.two_le (by decide) hsound hroot
    refine ⟨⟨body, hbody, ?_⟩, fun c hc hc' hembraces => ?_⟩
    · simp only [Surrounds, Edit.insertion]
      omega
    · by_contra hne
      have hsurrounds := hembraces.surrounds hsound (Node.mem_preorder_trans hc hcls)
      have hcovers : Covers doc body (Edit.insertion ((doc.rangeOf body).1 + 1)
          (constructorText doc o body (parameterText scope name type)) (some constructorLabel)).range := by
        simp only [Covers, Edit.insertion]
        omega
      have hbelow := below_child hsound hcls hchild hcovers hc hne hsurrounds
      have hother : c ≠ body := by
        intro heq
        rw [heq, hkind] at hc'
        cases hc'
      have hbetween := hbraces.between hsound hroot hbelow hother
      simp only [Surrounds, Edit.insertion] at hsurrounds
      omega

end Class

end Instrument

end ViewCompiler
