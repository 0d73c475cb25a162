import ViewCompiler.Proofs.Edit.Walk
import ViewCompiler.Proofs.Instrument.Plan
import ViewCompiler.Proofs.Text.Words
import Mathlib.Logic.Function.Iterate

/-!
# A constructor parameter that is added several times

Each time the same edit is planned, so all of them have one range and each is handed what the one before it made. An
insertion behind the last parameter keeps that and adds to it (`foldl_insertion`). Where there is no parameter, the
space between the brackets is replaced, and a replacement drops what it is handed (`foldl_replacement`): of all that is
added to an empty list one parameter is left.
-/

namespace ViewCompiler

theorem Text.slice_append_of_le {s : Text} {start stop : Nat} (h : stop ≤ s.length) (t : Text) :
    Text.slice (s ++ t) start stop = s.slice start stop := by
  rw [slice, slice, List.take_append_of_le_length h]

namespace Edit

/-! ### One edit after the other -/

/-- An edit that is planned several times is handed each time what it made of its range before. -/
theorem apply_replicate {text : Text} {e : Edit} {start stop : Nat} (hstart : e.range.start = start)
    (hstop : e.range.stop = stop) (hlength : stop ≤ text.length) (k : Nat) :
    ∃ stats, apply text (List.replicate k e) = .ok (text.slice 0 start ++
      (List.replicate k e).foldl (fun current e => e.render current) (text.slice start stop) ++
        text.slice stop text.length, stats) := by
  have hplan : ∀ f ∈ List.replicate k e, f.range = e.range := fun f hf =>
    congrArg Edit.range (List.eq_of_mem_replicate hf)
  have hfits : 0 ≤ e.range.start ∧ e.range.stop ≤ text.length := by omega
  have happly := apply_of_one_range hplan hfits.1 hfits.2
  rwa [hstart, hstop, Int.toNat_natCast, Int.toNat_natCast] at happly

theorem foldl_insertion (offset : Int) (added : Text) (label : Option Text) (current : Text) (k : Nat) :
    (List.replicate k (insertion offset added label)).foldl (fun current e => e.render current) current =
      current ++ (List.replicate k added).flatten := by
  induction k with
  | zero => rw [List.replicate_zero, List.foldl_nil, List.replicate_zero, List.flatten_nil, List.append_nil]
  | succ k ih =>
      rw [List.replicate_succ', List.foldl_append, ih, List.foldl_cons, List.foldl_nil, List.replicate_succ',
        List.flatten_append, List.flatten_singleton, ← List.append_assoc]
      rfl

theorem foldl_replacement (range : Range) (added : Text) (label : Option Text) (current : Text) (k : Nat) :
    (List.replicate (k + 1) (replacement range added label)).foldl (fun current e => e.render current) current =
      added := by
  rw [List.replicate_succ', List.foldl_append, List.foldl_cons, List.foldl_nil]
  rfl

end Edit

namespace Instrument

open Script Edit

variable {doc : Document} {o : Options} {cls member list last n : Node} {scope : Option Text} {name type : Text}

/-- The text of a document with another text between the brackets of a parameter list. -/
def withInterior (doc : Document) (list : Node) (interior : Text) : Text :=
  doc.text.slice 0 ((doc.rangeOf list).1 + 1) ++ interior ++
    doc.text.slice ((doc.rangeOf list).2 - 1) doc.text.length

/-- What stands between the brackets of a parameter list, with parameters added behind those it has. -/
def interiorWith (doc : Document) (list : Node) (added : List Text) : Text :=
  match list.parts.getLast? with
  | some last =>
      doc.text.slice ((doc.rangeOf list).1 + 1) (doc.rangeOf last).2 ++ added.flatMap (", ".toList ++ ·) ++
        doc.text.slice (doc.rangeOf last).2 ((doc.rangeOf list).2 - 1)
  | none =>
      if added = [] then doc.text.slice ((doc.rangeOf list).1 + 1) ((doc.rangeOf list).2 - 1)
      else Text.join ", " added

/-! ### Planning -/

theorem addParameter_plan_of_constructor (hmember : constructor? doc cls = some member)
    (hlist : member.child? .parameters = some list) (p : Progress) :
    (addParameter doc o cls scope name type p).plan =
      p.plan ++ [parameterEdit doc list (parameterText scope name type)] := by
  simp only [addParameter, constructorEdit?, hmember, hlist, Option.map_some]
  rfl

theorem iterate_addParameter_plan (hmember : constructor? doc cls = some member)
    (hlist : member.child? .parameters = some list) (log : List Log.Record) (k : Nat) :
    ((addParameter doc o cls scope name type)^[k] ⟨[], log⟩).plan =
      List.replicate k (parameterEdit doc list (parameterText scope name type)) := by
  induction k with
  | zero => rfl
  | succ k ih =>
      rw [Function.iterate_succ_apply', addParameter_plan_of_constructor hmember hlist, ih, List.replicate_succ']

/-! ### What becomes of a parameter list -/

section

variable (hsound : doc.Sound) (hn : list ∈ doc.root.preorder) (hrole : list.role = some .parameters)

include hsound hn hrole

/-- A parameter of a list stands within its brackets, and not behind the last one. -/
theorem rangeOf_parameter (hlast : list.parts.getLast? = some last) (hpart : n ∈ list.parts) :
    (doc.rangeOf list).1 + 1 ≤ (doc.rangeOf n).1 ∧ (doc.rangeOf n).1 ≤ (doc.rangeOf n).2 ∧
      (doc.rangeOf n).2 ≤ (doc.rangeOf last).2 ∧ (doc.rangeOf last).2 ≤ (doc.rangeOf list).2 - 1 := by
  have hbetween {m : Node} (hm : m ∈ list.parts) :=
    (hsound.bracketed list hn hrole).between_child hsound hn (List.mem_filter.1 hm).1
  have hmem := List.mem_of_getLast? hlast
  have hstop : (doc.rangeOf n).2 ≤ (doc.rangeOf last).2 := by
    obtain ⟨front, hparts⟩ := List.getLast?_eq_some_iff.1 hlast
    have hordered : list.parts.Pairwise fun c d => c.stop ≤ d.start := (hsound.spanned.ordered list hn).filter _
    rw [hparts, List.pairwise_append] at hordered
    rw [hparts, List.mem_append] at hpart
    rcases hpart with hfront | hpart
    · have hchars : (doc.rangeOf n).2 ≤ (doc.rangeOf last).1 :=
        Text.charOffset_mono doc.text (hordered.2.2 n hfront last List.mem_cons_self)
      exact Nat.le_trans hchars (doc.rangeOf_le last)
    · rw [List.mem_singleton.1 hpart]
  have hopen := (hbetween hpart).1
  have hclose := (hbetween hmem).2
  exact ⟨hopen, doc.rangeOf_le n, hstop, by omega⟩

/-- Behind the last parameter all that is added stands. -/
theorem apply_parameters_behind (hlast : list.parts.getLast? = some last) (parameter : Text) (k : Nat) :
    ∃ stats, apply doc.text (List.replicate k (parameterEdit doc list parameter)) =
      .ok (withInterior doc list (interiorWith doc list (List.replicate k parameter)), stats) := by
  obtain ⟨hopen, hle, -, hclose⟩ := rangeOf_parameter hsound hn hrole hlast (List.mem_of_getLast? hlast)
  have hlength := Document.rangeOf_le_length doc list
  obtain ⟨stats, happly⟩ := apply_replicate (e := parameterEdit doc list parameter)
    (by rw [parameterEdit_behind hlast]; rfl) (by rw [parameterEdit_behind hlast]; rfl)
    (Document.rangeOf_le_length doc last) k
  refine ⟨stats, happly.trans ?_⟩
  have hadded : (List.replicate k parameter).flatMap (", ".toList ++ ·) =
      (List.replicate k (", ".toList ++ parameter)).flatten := by
    rw [List.flatMap_def, List.map_replicate]
  have hfront := Text.slice_append doc.text (Nat.zero_le ((doc.rangeOf list).1 + 1)) (Nat.le_trans hopen hle)
  have hbehind := Text.slice_append doc.text hclose (show (doc.rangeOf list).2 - 1 ≤ doc.text.length by omega)
  rw [parameterEdit_behind hlast, foldl_insertion, Text.slice_self, List.nil_append, ← hadded, ← hfront, ← hbehind,
    withInterior, interiorWith, hlast]
  simp only [List.append_assoc]

/-- Between empty brackets one parameter stands, however often it was added. -/
theorem apply_parameters_between (hempty : list.parts = []) (parameter : Text) (k : Nat) :
    ∃ stats, apply doc.text (List.replicate k (parameterEdit doc list parameter)) =
      .ok (withInterior doc list (interiorWith doc list (List.replicate (min k 1) parameter)), stats) := by
  have hbrackets := hsound.rangeOf_brackets hn hrole
  have hlength := Document.rangeOf_le_length doc list
  obtain ⟨inside, hinside⟩ := exists_interior hsound hn hrole
  obtain ⟨hfirst, hlast⟩ := interior?_eq_some_iff.1 hinside
  have hedit := parameterEdit_between hempty hinside parameter
  have hstart : (parameterEdit doc list parameter).range.start = ((doc.rangeOf list).1 + 1 : Nat) := by
    rw [hedit]
    exact hfirst
  have hstop : (parameterEdit doc list parameter).range.stop = ((doc.rangeOf list).2 - 1 : Nat) := by
    rw [hedit]
    simp only [replacement]
    omega
  obtain ⟨stats, happly⟩ := apply_replicate hstart hstop (Nat.le_trans (Nat.sub_le _ 1) hlength) k
  refine ⟨stats, happly.trans ?_⟩
  rw [withInterior, interiorWith, hempty, List.getLast?_nil]
  cases k with
  | zero => rfl
  | succ k =>
      rw [hedit, foldl_replacement, Nat.min_eq_right (by omega), List.replicate_one]
      dsimp only
      rw [if_neg (List.cons_ne_nil _ _), Text.join_singleton]

/-- What stands in front of the end of the last parameter stays in its place. -/
theorem slice_withInterior (hlast : list.parts.getLast? = some last) (added : List Text) (hpart : n ∈ list.parts) :
    (withInterior doc list (interiorWith doc list added)).slice (doc.rangeOf n).1 (doc.rangeOf n).2 = doc.textOf n := by
  obtain ⟨hopen, hle, hstop, hclose⟩ := rangeOf_parameter hsound hn hrole hlast hpart
  have hlength := Document.rangeOf_le_length doc last
  have hfront := Text.slice_append doc.text (Nat.zero_le ((doc.rangeOf list).1 + 1))
    (show (doc.rangeOf list).1 + 1 ≤ (doc.rangeOf last).2 by omega)
  have htake : doc.text.slice 0 (doc.rangeOf last).2 = doc.text.take (doc.rangeOf last).2 := List.drop_zero
  rw [hsound.textOf_eq (Node.mem_preorder_trans (Node.mem_preorder_of_parts hpart) hn), withInterior, interiorWith,
    hlast]
  dsimp only
  rw [List.append_assoc, List.append_assoc, List.append_assoc, ← List.append_assoc (doc.text.slice 0 _), hfront, htake,
    Text.slice_append_of_le (by rwa [List.length_take_of_le hlength]), Text.slice, Text.slice, List.take_take,
    Nat.min_eq_left hstop]

end

/-- Two parameters are longer than one. -/
theorem length_join_replicate (parameter : Text) {k : Nat} (hk : 2 ≤ k) :
    parameter.length < (Text.join ", " (List.replicate k parameter)).length := by
  obtain ⟨j, rfl⟩ := Nat.exists_eq_add_of_le' hk
  have hsep : (", ".toList).length = 2 := rfl
  rw [List.replicate_succ, Text.join_cons (by simp), List.length_append, List.length_append, hsep]
  omega

theorem withInterior_once_ne (hempty : list.parts = []) (parameter : Text) {k : Nat} (hk : 2 ≤ k) :
    withInterior doc list (interiorWith doc list (List.replicate 1 parameter)) ≠
      withInterior doc list (interiorWith doc list (List.replicate k parameter)) := by
  intro heq
  have hlonger := length_join_replicate parameter hk
  have hne : List.replicate k parameter ≠ [] := by
    rw [ne_eq, List.replicate_eq_nil_iff]
    omega
  rw [withInterior, withInterior, interiorWith, interiorWith, hempty, List.getLast?_nil] at heq
  dsimp only at heq
  rw [if_neg hne, List.replicate_one, if_neg (List.cons_ne_nil _ _), Text.join_singleton, List.append_left_inj,
    List.append_right_inj] at heq
  rw [← heq] at hlonger
  exact absurd hlonger (Nat.lt_irrefl _)

/-- A parameter that is added several times to a constructor stands there as often exactly if the constructor had a
parameter before or it was added at most once. Otherwise it stands there once. What was there stays in its place. -/
theorem iterate_addParameter_iff (hsound : doc.Sound) (hcls : cls ∈ doc.classes)
    (hmember : constructor? doc cls = some member) (hlist : member.child? .parameters = some list) (o : Options)
    (scope : Option Text) (name type : Text) (log : List Log.Record) (k : Nat) :
    ∃ result stats,
      apply doc.text ((addParameter doc o cls scope name type)^[k] ⟨[], log⟩).plan = .ok (result, stats) ∧
        (result = withInterior doc list (interiorWith doc list (List.replicate k (parameterText scope name type))) ↔
          list.parts ≠ [] ∨ k ≤ 1) ∧
        (list.parts = [] → result =
          withInterior doc list (interiorWith doc list (List.replicate (min k 1) (parameterText scope name type)))) ∧
        ∀ n ∈ list.parts, result.slice (doc.rangeOf n).1 (doc.rangeOf n).2 = doc.textOf n := by
  obtain ⟨hn, hrole⟩ := parameters_of_constructor (mem_preorder_of_mem_classes hcls) hmember hlist
  rw [iterate_addParameter_plan hmember hlist]
  cases hlast : list.parts.getLast? with
  | some last =>
      have hfull : list.parts ≠ [] := List.ne_nil_of_mem (List.mem_of_getLast? hlast)
      obtain ⟨stats, happly⟩ := apply_parameters_behind hsound hn hrole hlast (parameterText scope name type) k
      exact ⟨_, stats, happly, iff_of_true rfl (Or.inl hfull), fun hempty => absurd hempty hfull,
        fun n hpart => slice_withInterior hsound hn hrole hlast _ hpart⟩
  | none =>
      have hempty : list.parts = [] := List.getLast?_eq_none_iff.1 hlast
      obtain ⟨stats, happly⟩ := apply_parameters_between hsound hn hrole hempty (parameterText scope name type) k
      refine ⟨_, stats, happly, ⟨fun heq => Or.inr ?_, ?_⟩, fun _ => rfl, fun n hpart => ?_⟩
      · by_contra hk
        rw [Nat.min_eq_right (by omega)] at heq
        exact withInterior_once_ne hempty _ (by omega) heq
      · rintro (hfull | hk)
        · exact absurd hempty hfull
        · rw [Nat.min_eq_left hk]
      · rw [hempty] at hpart
        exact absurd hpart List.not_mem_nil

/-- A constructor with two parameters. -/
def twoParameters : Document where
  text := "class A\x7bconstructor(a, b)\x7b\x7d\x7d"
  wellFormed := true
  root :=
    ⟨.other, none, 0, 28, [⟨.classDeclaration, none, 0, 28, [⟨.typeName, some .name, 6, 1, []⟩,
      ⟨.classBody, some .body, 7, 21, [
        ⟨.methodDefinition, none, 8, 19, [⟨.propertyName, some .name, 8, 11, []⟩,
          ⟨.parameters, some .parameters, 19, 6, [⟨.other, none, 20, 1, [⟨.identifier, none, 20, 1, []⟩]⟩,
            ⟨.other, none, 23, 1, [⟨.identifier, none, 23, 1, []⟩]⟩]⟩,
          ⟨.block, some .body, 25, 2, []⟩]⟩]⟩]⟩]⟩

theorem iterate_addParameter_iff_twice :
    twoParameters.Sound ∧ ∃ cls ∈ twoParameters.classes, ∃ member ∈ constructor? twoParameters cls,
      ∃ list ∈ member.child? .parameters, list.parts ≠ [] ∧ ∃ stats,
        apply twoParameters.text ((addParameter twoParameters {} cls (some "private") "x" "any")^[2] ⟨[], []⟩).plan =
          .ok ("class A\x7bconstructor(a, b, private x: any, private x: any)\x7b\x7d\x7d", stats) := by
  have hsound : twoParameters.Sound := by
    refine ⟨⟨?_, ?_⟩, ?_, ?_⟩
    all_goals decide +kernel
  have hresult : ∃ cls ∈ twoParameters.classes, ∃ member ∈ constructor? twoParameters cls,
      ∃ list ∈ member.child? .parameters, list.parts ≠ [] ∧
        withInterior twoParameters list (interiorWith twoParameters list
          (List.replicate 2 (parameterText (some "private") "x" "any"))) =
            "class A\x7bconstructor(a, b, private x: any, private x: any)\x7b\x7d\x7d".toList := by decide +kernel
  obtain ⟨cls, hcls, member, hmember, list, hlist, hfull, htext⟩ := hresult
  obtain ⟨result, stats, happly, hiff, -⟩ :=
    iterate_addParameter_iff hsound hcls hmember hlist {} (some "private") "x" "any" [] 2
  rw [hiff.2 (Or.inl hfull), htext] at happly
  exact ⟨hsound, cls, hcls, member, hmember, list, hlist, hfull, stats, happly⟩

/-- Of two parameters that are added to a constructor without any, one is left. -/
theorem addParameter_twice_leaves_one :
    ∃ cls ∈ nestedCallbacks.classes, ∃ member ∈ constructor? nestedCallbacks cls,
      ∃ list ∈ member.child? .parameters,
        interiorWith nestedCallbacks list (List.replicate 2 (parameterText (some "private") "x" "any")) =
            "private x: any, private x: any".toList ∧ ∃ stats,
          apply nestedCallbacks.text
              ((addParameter nestedCallbacks {} cls (some "private") "x" "any")^[2] ⟨[], []⟩).plan =
            .ok ("class é\x7bconstructor(private x: any)\x7b\x7dm()\x7bp.then(x=>q.catch(f))\x7d\x7d", stats) := by
  have hresult : ∃ cls ∈ nestedCallbacks.classes, ∃ member ∈ constructor? nestedCallbacks cls,
      ∃ list ∈ member.child? .parameters, list.parts = [] ∧
        interiorWith nestedCallbacks list (List.replicate 2 (parameterText (some "private") "x" "any")) =
          "private x: any, private x: any".toList ∧
        withInterior nestedCallbacks list (interiorWith nestedCallbacks list
          (List.replicate (min 2 1) (parameterText (some "private") "x" "any"))) =
            "class é\x7bconstructor(private x: any)\x7b\x7dm()\x7bp.then(x=>q.catch(f))\x7d\x7d".toList := by
    decide +kernel
  obtain ⟨cls, hcls, member, hmember, list, hlist, hempty, htwice, htext⟩ := hresult
  obtain ⟨hn, hrole⟩ := parameters_of_constructor (mem_preorder_of_mem_classes hcls) hmember hlist
  obtain ⟨stats, happly⟩ := apply_parameters_between nestedCallbacks_sound hn hrole hempty
    (parameterText (some "private") "x" "any") 2
  rw [← iterate_addParameter_plan (o := {}) hmember hlist [], htext] at happly
  exact ⟨cls, hcls, member, hmember, list, hlist, htwice, stats, happly⟩

end Instrument

end ViewCompiler
