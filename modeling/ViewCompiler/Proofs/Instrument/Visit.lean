import ViewCompiler.Proofs.Instrument.CallSite
import ViewCompiler.Proofs.Script.Address

/-!
# Every call site is visited once

`SiteOf` says which calls are call sites of which class, by addresses and without a traversal. `visits` is the
traversal that collects the sites of all classes of a document, with the addresses of the class and of the call
kept; without them it is what `Document.classes` and `sites` give (`visits_erased`).

That no call is visited for two classes rests on the way between them. Below a class that owns a site there is
no other class on the way down to the site: the class body and the method are none, the method's body is none,
and below it the traversal passes classes by.
-/

namespace ViewCompiler.Instrument

open Script

variable {doc : Document}

/-- A call of a member that is spelled like a callback method. -/
def CallsCallback (doc : Document) (call : Node) : Prop :=
  call.kind = .call ∧ ∃ function, call.child? .function = some function ∧ function.kind = .member ∧
    ∃ property, function.child? .property = some property ∧ property.kind = .propertyName ∧
      (doc.textOf property = "then" ∨ doc.textOf property = "catch")

/-- A method with the given body that is neither a constructor nor an accessor. -/
structure IsMethodWith (doc : Document) (method body : Node) : Prop where
  kind : method.kind = .methodDefinition
  body : method.child? .body = some body
  name : ∀ name, method.child? .name = some name → doc.textOf name ≠ "constructor"
  plain : ∀ c ∈ method.children, c.kind ≠ .accessor

/-- The call at the second address is a call site of the class at the first: it stands in the body of a method
of that class, and no class lies on the way from there. -/
def SiteOf (doc : Document) (owner site : Address) : Prop :=
  ∃ cls body method block call number rest,
    doc.root.at? owner = some cls ∧ cls.kind.isClass = true ∧ cls.child? .body = some body ∧
    body.children[number]? = some method ∧ IsMethodWith doc method block ∧
    site = owner ++ cls.place .body :: number :: method.place .body :: rest ∧
    block.at? rest = some call ∧ CallsCallback doc call ∧
    ∀ a c, a ≠ [] → a <+: rest → block.at? a = some c → c.kind.isClass = false

/-- The call sites of a class with their addresses below it. -/
def visitsOf (doc : Document) (cls : Node) : List (Address × Node) :=
  match cls.child? .body with
  | none => []
  | some body =>
      (body.children.zipIdx.filter fun (member, _) => isMethod doc member).flatMap fun (method, number) =>
        match method.child? .body with
        | none => []
        | some block =>
            ((block.reach fun c => !c.kind.isClass).filter fun (_, call) => isCallSite doc call).map
              fun (rest, call) => (cls.place .body :: number :: method.place .body :: rest, call)

/-- The call sites that are collected for the classes of a document, each with the class it is collected for. -/
def visits (doc : Document) : List ((Address × Node) × (Address × Node)) :=
  ((doc.root.reach fun _ => true).filter fun (_, cls) => cls.kind.isClass).flatMap fun (owner, cls) =>
    (visitsOf doc cls).map fun (site, call) => ((owner, cls), (owner ++ site, call))

/-- Neither the body of a class nor that of a method is itself a class. -/
def PlainBodies (root : Node) : Prop :=
  ∀ n ∈ root.preorder, n.kind.isClass = true ∨ n.kind = .methodDefinition →
    ∀ body ∈ n.child? .body, body.kind.isClass = false

instance (root : Node) : Decidable (PlainBodies root) :=
  inferInstanceAs (Decidable (∀ n ∈ root.preorder, n.kind.isClass = true ∨ n.kind = .methodDefinition →
    ∀ body ∈ n.child? .body, body.kind.isClass = false))

/-! ### The conditions on nodes -/

theorem isCallSite_iff {call : Node} : isCallSite doc call = true ↔ CallsCallback doc call := by
  simp only [isCallSite, isCallbackAccess, CallsCallback, Bool.and_eq_true, decide_eq_true_eq, Option.any_eq_true]
  refine and_congr_right fun _ => exists_congr fun function => and_congr_right fun _ => and_congr_right fun _ => ?_
  cases function.child? .property with
  | none => simp
  | some property => simp [callbackMethods]

theorem isMethod_iff {method : Node} : isMethod doc method = true ↔ ∃ body, IsMethodWith doc method body := by
  have hname : methodName doc method ≠ "constructor".toList ↔
      ∀ name, method.child? .name = some name → doc.textOf name ≠ "constructor" := by
    unfold methodName
    cases method.child? .name with
    | none => simp
    | some name => simp
  simp only [isMethod, Bool.and_eq_true, decide_eq_true_eq, Option.isSome_iff_exists, Bool.not_eq_true',
    List.any_eq_false]
  constructor
  · rintro ⟨⟨⟨hkind, body, hbody⟩, hconstructor⟩, hplain⟩
    exact ⟨body, hkind, hbody, hname.1 hconstructor, fun c hc => by simpa using hplain c hc⟩
  · rintro ⟨body, hkind, hbody, hconstructor, hplain⟩
    exact ⟨⟨⟨hkind, body, hbody⟩, hname.2 hconstructor⟩, fun c hc => by simpa using hplain c hc⟩

/-! ### The traversal without addresses -/

theorem among_eq_map_below {l : List Node} (i : Nat)
    (hl : ∀ n ∈ l, callSites doc n =
      ((n.reach fun c => !c.kind.isClass).filter fun (_, call) => isCallSite doc call).map Prod.snd) :
    callSites.among doc l =
      ((Node.reach.below (fun c => !c.kind.isClass) i l).filter fun (_, call) => isCallSite doc call).map
        Prod.snd := by
  induction l generalizing i with
  | nil => rfl
  | cons c l ih =>
      rw [callSites.among, Node.reach.below, List.filter_append, List.map_append,
        ih (i + 1) fun n hn => hl n (List.mem_cons_of_mem c hn)]
      cases hclass : c.kind.isClass with
      | true => simp
      | false => simp [hl c List.mem_cons_self, List.filter_map, Function.comp_def]

theorem callSites_eq_map_reach (n : Node) : callSites doc n =
    ((n.reach fun c => !c.kind.isClass).filter fun (_, call) => isCallSite doc call).map Prod.snd := by
  induction n using Node.induction with
  | node n ih =>
      obtain ⟨kind, role, start, length, children⟩ := n
      rw [callSites, Node.reach_eq, List.filter_cons, among_eq_map_below 0 ih]
      split <;> rfl

theorem methods_eq {cls body : Node} (h : cls.child? .body = some body) :
    methods doc cls = body.children.filter (isMethod doc) := by
  rw [methods, Document.members, h, Option.map_some, Option.getD_some, Node.parts, List.filter_filter]
  apply List.filter_congr
  intro member _
  cases hmethod : isMethod doc member with
  | false => rfl
  | true =>
      obtain ⟨block, hwith⟩ := isMethod_iff.1 hmethod
      simp [hwith.kind]

theorem visitsOf_erased (doc : Document) (cls : Node) : (visitsOf doc cls).map Prod.snd = (sites doc cls).map Prod.snd := by
  unfold visitsOf sites
  cases hbody : cls.child? .body with
  | none => simp [methods, Document.members, hbody]
  | some body =>
      have hmethods : body.children.filter (isMethod doc) =
          (body.children.zipIdx.filter fun (member, _) => isMethod doc member).map Prod.fst := by
        conv_lhs => rw [← List.zipIdx_map_fst 0 body.children, List.filter_map]
        rfl
      simp only [methods_eq hbody, hmethods, List.flatMap_map, List.map_flatMap]
      apply List.flatMap_congr
      rintro ⟨method, number⟩ -
      cases method.child? .body with
      | none => rfl
      | some block => simp [callSites_eq_map_reach, Function.comp_def]

theorem visits_erased (doc : Document) :
    (visits doc).map (fun v => (v.1.2, v.2.2)) =
      doc.classes.flatMap fun cls => (sites doc cls).map fun site => (cls, site.2) := by
  have hclasses : doc.classes = ((doc.root.reach fun _ => true).filter fun (_, cls) => cls.kind.isClass).map
      Prod.snd := by
    rw [Document.classes, Node.walk_eq_preorder, ← Node.map_snd_reach, List.filter_map]
    rfl
  rw [visits, hclasses, List.flatMap_map, List.map_flatMap]
  apply List.flatMap_congr
  rintro ⟨owner, cls⟩ -
  have herased := congrArg (List.map (Prod.mk cls)) (visitsOf_erased doc cls)
  simpa [Function.comp_def] using herased

/-! ### What is visited -/

theorem mem_visitsOf {cls call : Node} {site : Address} : (site, call) ∈ visitsOf doc cls ↔
    ∃ body method block number rest, cls.child? .body = some body ∧ body.children[number]? = some method ∧
      IsMethodWith doc method block ∧ site = cls.place .body :: number :: method.place .body :: rest ∧
      block.at? rest = some call ∧ CallsCallback doc call ∧
      ∀ a c, a ≠ [] → a <+: rest → block.at? a = some c → c.kind.isClass = false := by
  unfold visitsOf
  cases hbody : cls.child? .body with
  | none => simp
  | some body =>
      simp only [List.mem_flatMap, List.mem_filter, Prod.exists, List.mem_zipIdx_iff_getElem?]
      constructor
      · rintro ⟨method, number, ⟨hmember, hmethod⟩, hsite⟩
        obtain ⟨block, hwith⟩ := isMethod_iff.1 hmethod
        simp only [hwith.body, List.mem_map, List.mem_filter, Prod.exists, Prod.mk.injEq] at hsite
        obtain ⟨rest, call', ⟨hreach, hcall⟩, rfl, rfl⟩ := hsite
        obtain ⟨hat, hopen⟩ := Node.mem_reach.1 hreach
        refine ⟨body, method, block, number, rest, rfl, hmember, hwith, rfl, hat, isCallSite_iff.1 hcall, ?_⟩
        intro a c hne hway hc
        simpa using hopen a c hne hway hc
      · rintro ⟨body', method, block, number, rest, heq, hmember, hwith, rfl, hat, hcall, hopen⟩
        obtain rfl : body = body' := Option.some.inj heq
        refine ⟨method, number, ⟨hmember, isMethod_iff.2 ⟨block, hwith⟩⟩, ?_⟩
        simp only [hwith.body, List.mem_map, List.mem_filter, Prod.exists, Prod.mk.injEq]
        refine ⟨rest, call, ⟨Node.mem_reach.2 ⟨hat, ?_⟩, isCallSite_iff.2 hcall⟩, rfl, rfl⟩
        intro a c hne hway hc
        simp [hopen a c hne hway hc]

theorem mem_visits {owner site : Address} {cls call : Node} : ((owner, cls), (site, call)) ∈ visits doc ↔
    doc.root.at? owner = some cls ∧ cls.kind.isClass = true ∧
      ∃ below, site = owner ++ below ∧ (below, call) ∈ visitsOf doc cls := by
  simp only [visits, List.mem_flatMap, List.mem_filter, List.mem_map, Prod.exists, Prod.mk.injEq]
  constructor
  · rintro ⟨owner', cls', ⟨hreach, hclass⟩, below, call', hbelow, ⟨rfl, rfl⟩, rfl, rfl⟩
    exact ⟨(Node.mem_reach.1 hreach).1, hclass, below, rfl, hbelow⟩
  · rintro ⟨hat, hclass, below, rfl, hbelow⟩
    have hreach : (owner, cls) ∈ doc.root.reach fun _ => true := Node.mem_reach.2 ⟨hat, fun _ _ _ _ _ => rfl⟩
    exact ⟨owner, cls, ⟨hreach, hclass⟩, below, call, hbelow, ⟨rfl, rfl⟩, rfl, rfl⟩

theorem visited_iff {owner site : Address} :
    (∃ cls call, ((owner, cls), (site, call)) ∈ visits doc) ↔ SiteOf doc owner site := by
  constructor
  · rintro ⟨cls, call, h⟩
    obtain ⟨hat, hclass, below, rfl, hbelow⟩ := mem_visits.1 h
    obtain ⟨body, method, block, number, rest, hbody, hmember, hwith, rfl, hcall⟩ := mem_visitsOf.1 hbelow
    exact ⟨cls, body, method, block, call, number, rest, hat, hclass, hbody, hmember, hwith, rfl, hcall⟩
  · rintro ⟨cls, body, method, block, call, number, rest, hat, hclass, hbody, hmember, hwith, rfl, hcall⟩
    refine ⟨cls, call, mem_visits.2 ⟨hat, hclass, _, rfl, mem_visitsOf.2 ?_⟩⟩
    exact ⟨body, method, block, number, rest, hbody, hmember, hwith, rfl, hcall⟩

theorem at?_of_mem_visits {v : (Address × Node) × (Address × Node)} (h : v ∈ visits doc) :
    doc.root.at? v.1.1 = some v.1.2 ∧ doc.root.at? v.2.1 = some v.2.2 := by
  obtain ⟨⟨owner, cls⟩, site, call⟩ := v
  obtain ⟨hat, -, below, rfl, hbelow⟩ := mem_visits.1 h
  obtain ⟨body, method, block, number, rest, hbody, hmember, hwith, rfl, hcall, -⟩ := mem_visitsOf.1 hbelow
  refine ⟨hat, ?_⟩
  rw [Node.at?_append_of_eq hat, Node.at?_place hbody, Node.at?_child hmember, Node.at?_place hwith.body, hcall]

/-! ### Only once -/

/-- Between a class and its call sites there is no other class. -/
theorem SiteOf.not_isClass_between {owner site a : Address} {n : Node} (h : SiteOf doc owner site)
    (hplain : PlainBodies doc.root) (hne : a ≠ []) (hway : owner ++ a <+: site)
    (hn : doc.root.at? (owner ++ a) = some n) : n.kind.isClass = false := by
  obtain ⟨cls, body, method, block, call, number, rest, hat, hclass, hbody, hmember, hwith, rfl, -, -, hopen⟩ := h
  have hcls := Node.mem_preorder_of_at? hat
  have hmethod : method ∈ doc.root.preorder := Node.mem_preorder_trans
    (Node.mem_preorder_of_child (List.mem_of_getElem? hmember))
    (Node.mem_preorder_trans (Node.mem_preorder_of_child? hbody) hcls)
  rw [List.prefix_append_right_inj] at hway
  rw [Node.at?_append_of_eq hat] at hn
  -- The first three steps down from the class lead to its body, to the method and to the method's body.
  cases a with
  | nil => exact absurd rfl hne
  | cons i a =>
      obtain ⟨rfl, hinBody⟩ := List.cons_prefix_cons.1 hway
      rw [Node.at?_place hbody] at hn
      cases a with
      | nil =>
          obtain rfl : body = n := Option.some.inj hn
          exact hplain cls hcls (Or.inl hclass) body hbody
      | cons i a =>
          obtain ⟨rfl, hinMethod⟩ := List.cons_prefix_cons.1 hinBody
          rw [Node.at?_child hmember] at hn
          cases a with
          | nil =>
              obtain rfl : method = n := Option.some.inj hn
              rw [hwith.kind]
              rfl
          | cons i a =>
              obtain ⟨rfl, hinBlock⟩ := List.cons_prefix_cons.1 hinMethod
              rw [Node.at?_place hwith.body] at hn
              by_cases ha : a = []
              · subst ha
                obtain rfl : block = n := Option.some.inj hn
                exact hplain method hmethod (Or.inr hwith.kind) block hwith.body
              · exact hopen a n ha hinBlock hn

theorem SiteOf.below_owner {owner site : Address} (h : SiteOf doc owner site) : owner <+: site := by
  obtain ⟨cls, body, method, block, call, number, rest, -, -, -, -, -, rfl, -⟩ := h
  exact List.prefix_append _ _

theorem SiteOf.isClass {owner site : Address} (h : SiteOf doc owner site) :
    ∃ cls, doc.root.at? owner = some cls ∧ cls.kind.isClass = true := by
  obtain ⟨cls, body, method, block, call, number, rest, hat, hclass, -⟩ := h
  exact ⟨cls, hat, hclass⟩

theorem SiteOf.eq_of_below {owner other site : Address} (h : SiteOf doc owner site)
    (h' : SiteOf doc other site) (hplain : PlainBodies doc.root) (hway : owner <+: other) : owner = other := by
  obtain ⟨a, rfl⟩ := hway
  obtain ⟨cls, hat, hclass⟩ := h'.isClass
  by_cases ha : a = []
  · rw [ha, List.append_nil]
  · rw [h.not_isClass_between hplain ha h'.below_owner hat] at hclass
    exact absurd hclass Bool.false_ne_true

theorem SiteOf.owner_unique {owner other site : Address} (h : SiteOf doc owner site)
    (h' : SiteOf doc other site) (hplain : PlainBodies doc.root) : owner = other := by
  rcases List.prefix_or_prefix_of_prefix h.below_owner h'.below_owner with hway | hway
  · exact h.eq_of_below h' hplain hway
  · exact (h'.eq_of_below h hplain hway).symm

theorem visitsOf_nodup (doc : Document) (cls : Node) : ((visitsOf doc cls).map Prod.fst).Nodup := by
  unfold visitsOf
  cases cls.child? .body with
  | none => exact List.nodup_nil
  | some body =>
      simp only [List.map_flatMap]
      rw [List.nodup_flatMap]
      constructor
      · rintro ⟨method, number⟩ -
        cases method.child? .body with
        | none => exact List.nodup_nil
        | some block =>
            have hreach := ((block.reach_nodup fun c => !c.kind.isClass).sublist
              ((List.filter_sublist (p := fun v => isCallSite doc v.2)).map Prod.fst)).map
              (f := fun rest => cls.place .body :: number :: method.place .body :: rest) fun x y h => by simpa using h
            simpa [Function.comp_def] using hreach
      · -- Sites of different methods differ in the number of the method.
        have hnumbers : (body.children.zipIdx.filter fun (member, _) => isMethod doc member).Pairwise
            fun v w => v.2 ≠ w.2 := by
          apply List.Pairwise.filter
          rw [← List.pairwise_map, List.zipIdx_map_snd]
          exact List.nodup_range'
        apply hnumbers.imp
        rintro ⟨method, number⟩ ⟨method', number'⟩ hne site hsite hsite'
        obtain ⟨v, hv, rfl⟩ := List.mem_map.1 hsite
        obtain ⟨v', hv', heq⟩ := List.mem_map.1 hsite'
        cases hblock : method.child? .body with
        | none => simp [hblock] at hv
        | some block =>
            cases hblock' : method'.child? .body with
            | none => simp [hblock'] at hv'
            | some block' =>
                simp only [hblock, hblock', List.mem_map] at hv hv'
                obtain ⟨w, -, rfl⟩ := hv
                obtain ⟨w', -, rfl⟩ := hv'
                simp only [List.cons.injEq, true_and] at heq
                exact hne heq.1.symm

theorem visits_nodup (hplain : PlainBodies doc.root) : ((visits doc).map (·.2.1)).Nodup := by
  simp only [visits, List.map_flatMap]
  rw [List.nodup_flatMap]
  constructor
  · rintro ⟨owner, cls⟩ -
    have hbelow := (visitsOf_nodup doc cls).map (f := (owner ++ ·)) fun x y h => List.append_cancel_left h
    simpa [Function.comp_def] using hbelow
  · have haddresses : ((doc.root.reach fun _ => true).filter fun (_, cls) => cls.kind.isClass).Pairwise
        fun v w => v.1 ≠ w.1 := by
      apply List.Pairwise.filter
      exact List.pairwise_map.1 (doc.root.reach_nodup fun _ => true)
    apply haddresses.imp_of_mem
    rintro ⟨owner, cls⟩ ⟨other, cls'⟩ hmem hmem' hne site hsite hsite'
    have hvisited (k : Address) (c : Node)
        (hk : (k, c) ∈ (doc.root.reach fun _ => true).filter fun (_, cls) => cls.kind.isClass)
        (hs : site ∈ ((visitsOf doc c).map fun (below, call) => ((k, c), (k ++ below, call))).map (·.2.1)) :
        SiteOf doc k site := by
      simp only [List.map_map, List.mem_map, Function.comp_apply, Prod.exists] at hs
      obtain ⟨below, call, hbelow, rfl⟩ := hs
      refine visited_iff.1 ⟨c, call, ?_⟩
      exact List.mem_flatMap.2 ⟨(k, c), hk, List.mem_map.2 ⟨(below, call), hbelow, rfl⟩⟩
    exact hne ((hvisited owner cls hmem hsite).owner_unique (hvisited other cls' hmem' hsite') hplain)

/-- The traversal of a document visits, for each class, exactly the call sites of that class. Where no body of a
class or of a method is itself a class, it visits each of them once and for no other class. -/
theorem visits_exactly_sites (doc : Document) :
    (visits doc).map (fun v => (v.1.2, v.2.2)) =
        doc.classes.flatMap (fun cls => (sites doc cls).map fun site => (cls, site.2)) ∧
      (∀ v ∈ visits doc, doc.root.at? v.1.1 = some v.1.2 ∧ doc.root.at? v.2.1 = some v.2.2) ∧
      (∀ owner site, (∃ cls call, ((owner, cls), (site, call)) ∈ visits doc) ↔ SiteOf doc owner site) ∧
      (PlainBodies doc.root → ∀ owner site, SiteOf doc owner site →
        ((visits doc).map (·.2.1)).count site = 1 ∧ ∀ other, SiteOf doc other site → other = owner) := by
  refine ⟨visits_erased doc, fun v => at?_of_mem_visits, fun owner site => visited_iff, ?_⟩
  intro hplain owner site hsite
  obtain ⟨cls, call, hvisit⟩ := visited_iff.2 hsite
  constructor
  · exact List.count_eq_one_of_mem (visits_nodup hplain) (List.mem_map.2 ⟨_, hvisit, rfl⟩)
  · intro other hother
    exact hother.owner_unique hsite hplain

/-- A class in the callback of another one. Both have a call site, and the inner one a constructor, with a zero-width
space and a comment in its parameter list. -/
def nestedClasses : Document where
  text := "class A\x7bm()\x7bq.then(()=>(class\x7bconstructor(\u200B/*c*/)\x7b\x7dn()\x7bp.catch(f)\x7d\x7d))\x7d\x7d"
  wellFormed := true
  root :=
    ⟨.other, none, 0, 73, [⟨.classDeclaration, none, 0, 73, [⟨.typeName, some .name, 6, 1, []⟩,
      ⟨.classBody, some .body, 7, 66, [⟨.methodDefinition, none, 8, 64, [⟨.propertyName, some .name, 8, 1, []⟩,
        ⟨.parameters, some .parameters, 9, 2, []⟩,
        ⟨.block, some .body, 11, 61, [⟨.other, none, 12, 59, [⟨.call, none, 12, 59, [
          ⟨.member, some .function, 12, 6, [⟨.identifier, none, 12, 1, []⟩,
            ⟨.propertyName, some .property, 14, 4, []⟩]⟩,
          ⟨.arguments, some .arguments, 18, 53, [⟨.arrow, none, 19, 51, [
            ⟨.parameters, some .parameters, 19, 2, []⟩,
            ⟨.parenthesized, some .body, 23, 47, [⟨.classExpression, none, 24, 45, [
              ⟨.classBody, some .body, 29, 40, [
                ⟨.methodDefinition, none, 30, 23, [⟨.propertyName, some .name, 30, 11, []⟩,
                  ⟨.parameters, some .parameters, 41, 10, [⟨.comment, none, 45, 5, []⟩]⟩,
                  ⟨.block, some .body, 51, 2, []⟩]⟩,
                ⟨.methodDefinition, none, 53, 15, [⟨.propertyName, some .name, 53, 1, []⟩,
                  ⟨.parameters, some .parameters, 54, 2, []⟩,
                  ⟨.block, some .body, 56, 12, [⟨.other, none, 57, 10, [⟨.call, none, 57, 10, [
                    ⟨.member, some .function, 57, 7, [⟨.identifier, none, 57, 1, []⟩,
                      ⟨.propertyName, some .property, 59, 5, []⟩]⟩,
                    ⟨.arguments, some .arguments, 64, 3, [⟨.identifier, none, 65, 1, []⟩]⟩]⟩]⟩]⟩]⟩]⟩]⟩]⟩]⟩]⟩]⟩]⟩]⟩]⟩]⟩]⟩]⟩

theorem visits_exactly_sites_nested :
    PlainBodies nestedClasses.root ∧
      (visits nestedClasses).map (fun v => (v.1.1, v.2.1)) =
        [([0], [0, 1, 0, 2, 0, 0]), ([0, 1, 0, 2, 0, 0, 1, 0, 1, 0], [0, 1, 0, 2, 0, 0, 1, 0, 1, 0, 0, 1, 2, 0, 0])] ∧
      SiteOf nestedClasses [0] [0, 1, 0, 2, 0, 0] ∧
      ∀ owner, SiteOf nestedClasses owner [0, 1, 0, 2, 0, 0] → owner = [0] := by
  have hplain : PlainBodies nestedClasses.root := by decide +kernel
  have hvisits : (visits nestedClasses).map (fun v => (v.1.1, v.2.1)) =
      [([0], [0, 1, 0, 2, 0, 0]),
        ([0, 1, 0, 2, 0, 0, 1, 0, 1, 0], [0, 1, 0, 2, 0, 0, 1, 0, 1, 0, 0, 1, 2, 0, 0])] := by
    decide +kernel
  obtain ⟨-, -, hiff, honce⟩ := visits_exactly_sites nestedClasses
  have hfirst : (([0], [0, 1, 0, 2, 0, 0]) : Address × Address) ∈
      (visits nestedClasses).map fun v => (v.1.1, v.2.1) := by
    rw [hvisits]
    exact List.mem_cons_self
  obtain ⟨⟨⟨owner, cls⟩, site, call⟩, hvisit, heq⟩ := List.mem_map.1 hfirst
  obtain ⟨rfl, rfl⟩ := Prod.mk.inj heq
  have hsite := (hiff [0] [0, 1, 0, 2, 0, 0]).1 ⟨cls, call, hvisit⟩
  exact ⟨hplain, hvisits, hsite, (honce hplain _ _ hsite).2⟩

end ViewCompiler.Instrument
