import ViewCompiler.Proofs.Edit.Order
import ViewCompiler.Proofs.Members

/-!
# The nesting that one pass finds

`forest` says by recursion how edits in order are nested: an edit takes the edits after it for as long
as they lie within it. The pass with the stack of open edits builds the same nesting, or finds two edits
that cross. The link between the two is `resume`, the nesting that the open edits and the edits still to
come amount to: entering an edit leaves it unchanged (`resume_of_enter`).

A plan is refused exactly when an edit does not fit the text or two edits cross. That no crossing pair
is missed rests on the order: an edit that is closed stops before the edit that closed it, and so before
all that follow.
-/

namespace ViewCompiler.Edit

/-- Whether the range of another edit lies within that of an edit. -/
def encloses (e x : Edit) : Bool := e.range.contains x.range

theorem encloses_trans {d e x : Edit} (hde : d.encloses e = true) (hex : e.encloses x = true) :
    d.encloses x = true :=
  Range.contains_trans hde hex

/-- The nesting of edits in order. -/
def forest : List Edit → List Nested
  | [] => []
  | e :: rest =>
      .mk e (forest (rest.takeWhile e.encloses)) :: forest (rest.dropWhile e.encloses)
  termination_by l => l.length
  decreasing_by
    · exact Nat.lt_succ_of_le (List.takeWhile_sublist _).length_le
    · exact Nat.lt_succ_of_le (List.dropWhile_sublist _).length_le

/-- The nesting that open edits and the edits still to come amount to. Each open edit, innermost first,
takes what lies within it and closes. -/
def resume (l : List Edit) (stack : List Opened) (outermost : List Nested) : List Nested :=
  match stack with
  | [] => outermost.reverse ++ forest l
  | top :: rest =>
      let inside := l.takeWhile top.edit.encloses
      let closed := closeInto ⟨top.edit, (forest inside).reverse ++ top.inner⟩ rest outermost
      resume (l.dropWhile top.edit.encloses) closed.1 closed.2
  termination_by stack.length
  decreasing_by simp [length_closeInto]

/-- The open edits without what was found within them. -/
def opened (stack : List Opened) : List Edit := stack.map Opened.edit

@[simp] theorem opened_closeInto (closed : Opened) (rest : List Opened) (outermost : List Nested) :
    opened (closeInto closed rest outermost).1 = opened rest := by
  cases rest <;> rfl

/-! ### Entering an edit -/

theorem resume_cons (l : List Edit) (top : Opened) (rest : List Opened) (outermost : List Nested) :
    resume l (top :: rest) outermost =
      resume (l.dropWhile top.edit.encloses)
        (closeInto ⟨top.edit, (forest (l.takeWhile top.edit.encloses)).reverse ++ top.inner⟩ rest outermost).1
        (closeInto ⟨top.edit, (forest (l.takeWhile top.edit.encloses)).reverse ++ top.inner⟩ rest outermost).2 := by
  rw [resume]

theorem resume_close {e : Edit} {l : List Edit} {top : Opened} {rest : List Opened}
    (outermost : List Nested) (hout : ¬ top.edit.encloses e = true) :
    resume (e :: l) (top :: rest) outermost =
      resume (e :: l) (closeInto top rest outermost).1 (closeInto top rest outermost).2 := by
  rw [resume_cons, List.takeWhile_cons_of_neg hout, List.dropWhile_cons_of_neg hout, forest,
    List.reverse_nil, List.nil_append]

theorem forest_cons (e : Edit) (l : List Edit) :
    forest (e :: l) = .mk e (forest (l.takeWhile e.encloses)) :: forest (l.dropWhile e.encloses) := by
  rw [forest]

theorem resume_open_first (e : Edit) (l : List Edit) (outermost : List Nested) :
    resume l [⟨e, []⟩] outermost = resume (e :: l) [] outermost := by
  rw [resume_cons, List.append_nil, closeInto, List.reverse_reverse, resume, resume, forest_cons,
    List.reverse_cons, List.append_assoc, List.singleton_append]

theorem resume_open_within {e : Edit} {top : Opened} (l : List Edit) (rest : List Opened)
    (outermost : List Nested) (hin : top.edit.encloses e = true) :
    resume l (⟨e, []⟩ :: top :: rest) outermost = resume (e :: l) (top :: rest) outermost := by
  have hsplit := takeWhile_dropWhile_of_imp (fun x : Edit => encloses_trans (x := x) hin) l
  rw [resume_cons l, resume_cons (e :: l), List.takeWhile_cons_of_pos hin,
    List.dropWhile_cons_of_pos hin, forest_cons, hsplit.1, hsplit.2.1, hsplit.2.2]
  rw [closeInto, resume_cons]
  simp only [List.append_nil, List.reverse_reverse, List.reverse_cons, List.append_assoc,
    List.singleton_append]

/-- Entering an edit does not change what the nesting amounts to. -/
theorem resume_of_enter {e : Edit} {stack stack' : List Opened} {outermost outermost' : List Nested}
    (l : List Edit) (h : enter e stack outermost = .ok (stack', outermost')) :
    resume l stack' outermost' = resume (e :: l) stack outermost := by
  fun_induction enter e stack outermost with
  | case1 outermost =>
      simp only [Except.ok.injEq, Prod.mk.injEq] at h
      obtain ⟨rfl, rfl⟩ := h
      exact resume_open_first e l outermost
  | case2 outermost top rest hin =>
      simp only [Except.ok.injEq, Prod.mk.injEq] at h
      obtain ⟨rfl, rfl⟩ := h
      exact resume_open_within l rest outermost hin
  | case3 outermost top rest hout hoverlaps => exact absurd h (by simp)
  | case4 outermost top rest hout hoverlaps ih =>
      rw [ih h, resume_close outermost hout]

/-- Entering an edit closes some innermost edits, none of which overlaps it, and keeps the others. -/
theorem opened_of_enter {e : Edit} {stack stack' : List Opened} {outermost outermost' : List Nested}
    (h : enter e stack outermost = .ok (stack', outermost')) :
    ∃ closed kept, opened stack = closed ++ kept ∧ opened stack' = e :: kept ∧
      (∀ f ∈ closed, ¬ f.range.contains e.range = true ∧ ¬ f.range.overlaps e.range = true) ∧
        ∀ f ∈ kept.head?, f.range.contains e.range = true := by
  fun_induction enter e stack outermost with
  | case1 outermost =>
      simp only [Except.ok.injEq, Prod.mk.injEq] at h
      obtain ⟨rfl, rfl⟩ := h
      exact ⟨[], [], rfl, rfl, by simp, by simp⟩
  | case2 outermost top rest hin =>
      simp only [Except.ok.injEq, Prod.mk.injEq] at h
      obtain ⟨rfl, rfl⟩ := h
      exact ⟨[], opened (top :: rest), rfl, rfl, by simp, by simpa [opened] using hin⟩
  | case3 outermost top rest hout hoverlaps => exact absurd h (by simp)
  | case4 outermost top rest hout hoverlaps ih =>
      obtain ⟨closed, kept, hstack, hstack', hclosed, hkept⟩ := ih h
      rw [opened_closeInto] at hstack
      refine ⟨top.edit :: closed, kept, ?_, hstack', ?_, hkept⟩
      · rw [List.cons_append, ← hstack]
        rfl
      · intro f hf
        rcases List.mem_cons.1 hf with rfl | hf
        · exact ⟨hout, hoverlaps⟩
        · exact hclosed f hf

/-- What every open edit has to the edits to come stays so when one of them is entered that has it too. -/
theorem forall_opened_of_enter {R : Edit → Edit → Prop} {e : Edit} {l : List Edit}
    {stack stack' : List Opened} {outermost outermost' : List Nested}
    (henter : enter e stack outermost = .ok (stack', outermost')) (hentered : ∀ x ∈ l, R e x)
    (hopen : ∀ f ∈ opened stack, ∀ x ∈ e :: l, R f x) : ∀ f ∈ opened stack', ∀ x ∈ l, R f x := by
  obtain ⟨closed, kept, hstack, hstack', -, -⟩ := opened_of_enter henter
  intro f hf x hx
  rw [hstack', List.mem_cons] at hf
  rcases hf with rfl | hf
  · exact hentered x hx
  · exact hopen f (hstack ▸ List.mem_append_right _ hf) x (List.mem_cons_of_mem _ hx)

theorem error_of_enter {e : Edit} {stack : List Opened} {outermost : List Nested} {error : Error}
    (h : enter e stack outermost = .error error) :
    ∃ f ∈ opened stack, error = .overlap f.range e.range ∧ ¬ f.range.contains e.range = true ∧
      f.range.overlaps e.range = true := by
  fun_induction enter e stack outermost with
  | case1 outermost => exact absurd h (by simp)
  | case2 outermost top rest hin => exact absurd h (by simp)
  | case3 outermost top rest hout hoverlaps =>
      rw [Except.error.injEq] at h
      exact ⟨top.edit, List.mem_cons_self, h.symm, hout, hoverlaps⟩
  | case4 outermost top rest hout hoverlaps ih =>
      obtain ⟨f, hf, hrefused⟩ := ih h
      rw [opened_closeInto] at hf
      exact ⟨f, List.mem_cons_of_mem _ hf, hrefused⟩

theorem closeAll_eq_resume (stack : List Opened) (outermost : List Nested) :
    closeAll stack outermost = resume [] stack outermost := by
  fun_induction closeAll stack outermost with
  | case1 outermost => rw [resume, forest, List.append_nil]
  | case2 outermost top rest ih =>
      rw [ih, resume_cons, List.takeWhile_nil, List.dropWhile_nil, forest, List.reverse_nil, List.nil_append]

/-! ### A whole pass -/

/-- Edits in order none of which crosses another, or an open one, are nested as `resume` says. -/
theorem nestFrom_eq_resume {l : List Edit} {stack : List Opened} (outermost : List Nested)
    (hsorted : l.Pairwise fun a b => a.range.Precedes b.range)
    (happart : l.Pairwise fun a b => ¬ a.range.Crosses b.range)
    (hopen : ∀ f ∈ opened stack, ∀ x ∈ l, f.range.Precedes x.range ∧ ¬ f.range.Crosses x.range) :
    nestFrom l stack outermost = .ok (resume l stack outermost) := by
  induction l generalizing stack outermost with
  | nil => rw [nestFrom, closeAll_eq_resume]
  | cons e rest ih =>
      rw [List.pairwise_cons] at hsorted happart
      rw [nestFrom]
      cases henter : enter e stack outermost with
      | error error =>
          obtain ⟨f, hf, -, hout, hoverlaps⟩ := error_of_enter henter
          obtain ⟨hprec, hcross⟩ := hopen f hf e List.mem_cons_self
          exact absurd (Range.crosses_of_overlaps hprec hoverlaps hout) hcross
      | ok entered =>
          obtain ⟨stack', outermost'⟩ := entered
          have hopen' := forall_opened_of_enter henter
            (fun x hx => ⟨hsorted.1 x hx, happart.1 x hx⟩) hopen
          show nestFrom rest stack' outermost' = _
          rw [ih outermost' hsorted.2 happart.2 hopen', resume_of_enter rest henter]

/-- The open edits form a chain, each within the next, and entering an edit keeps it one: those that stay
open contain the edit, and those that are closed stop before it. -/
theorem chain_of_enter {e : Edit} {stack stack' : List Opened} {outermost outermost' : List Nested}
    (henter : enter e stack outermost = .ok (stack', outermost'))
    (hopen : ∀ f ∈ opened stack, f.range.Precedes e.range)
    (hchain : (opened stack).Pairwise fun inner outer => outer.encloses inner = true) :
    ((opened stack').Pairwise fun inner outer => outer.encloses inner = true) ∧ e ∈ opened stack' ∧
      ∀ f ∈ opened stack, (f ∈ opened stack' ∧ f.encloses e = true) ∨ f.range.stop ≤ e.range.start := by
  obtain ⟨closed, kept, hstack, hstack', hclosed, hkept⟩ := opened_of_enter henter
  rw [hstack, List.pairwise_append] at hchain
  have henclosed : ∀ f ∈ kept, f.encloses e = true := by
    cases kept with
    | nil => simp
    | cons top outer =>
        have htop : top.encloses e = true := hkept top rfl
        intro f hf
        rcases List.mem_cons.1 hf with rfl | hf
        · exact htop
        · exact encloses_trans ((List.pairwise_cons.1 hchain.2.1).1 f hf) htop
  rw [hstack']
  refine ⟨List.pairwise_cons.2 ⟨henclosed, hchain.2.1⟩, List.mem_cons_self, fun f hf => ?_⟩
  have hprec := hopen f hf
  rw [hstack, List.mem_append] at hf
  rcases hf with hf | hf
  · exact Or.inr (Range.stop_le_of_not_overlaps hprec (hclosed f hf).2 (hclosed f hf).1)
  · exact Or.inl ⟨List.mem_cons_of_mem e hf, henclosed f hf⟩

theorem not_crosses_of_nestFrom {l : List Edit} {stack : List Opened} {outermost result : List Nested}
    (hnest : nestFrom l stack outermost = .ok result)
    (hsorted : l.Pairwise fun a b => a.range.Precedes b.range)
    (hopen : ∀ f ∈ opened stack, ∀ x ∈ l, f.range.Precedes x.range)
    (hchain : (opened stack).Pairwise fun inner outer => outer.encloses inner = true) :
    (l.Pairwise fun a b => ¬ a.range.Crosses b.range) ∧
      ∀ f ∈ opened stack, ∀ x ∈ l, ¬ f.range.Crosses x.range := by
  induction l generalizing stack outermost with
  | nil => exact ⟨List.Pairwise.nil, fun f _ x hx => absurd hx List.not_mem_nil⟩
  | cons e rest ih =>
      rw [List.pairwise_cons] at hsorted
      rw [nestFrom] at hnest
      cases henter : enter e stack outermost with
      | error error => simp [henter] at hnest
      | ok entered =>
          obtain ⟨stack', outermost'⟩ := entered
          rw [henter] at hnest
          obtain ⟨hchain', hentered, hstays⟩ :=
            chain_of_enter henter (fun f hf => hopen f hf e List.mem_cons_self) hchain
          obtain ⟨hrest, hlater⟩ := ih hnest hsorted.2
            (forall_opened_of_enter henter hsorted.1 hopen) hchain'
          refine ⟨List.pairwise_cons.2 ⟨hlater e hentered, hrest⟩, fun f hf x hx => ?_⟩
          rcases hstays f hf with ⟨hf', hin⟩ | hbefore
          · rcases List.mem_cons.1 hx with rfl | hx
            · exact fun hcross => hcross.not_contains hin
            · exact hlater f hf' x hx
          · -- A closed edit stops before this one, hence before all that follow it.
            refine Range.not_crosses_of_stop_le hbefore ?_
            rcases List.mem_cons.1 hx with rfl | hx
            · exact Int.le_refl _
            · exact (hsorted.1 x hx).start_le

/-- A pass fails only with a crossing pair, which it names. -/
theorem error_of_nestFrom {l : List Edit} {stack : List Opened} {outermost : List Nested} {error : Error}
    (hnest : nestFrom l stack outermost = .error error)
    (hsorted : l.Pairwise fun a b => a.range.Precedes b.range)
    (hopen : ∀ f ∈ opened stack, ∀ x ∈ l, f.range.Precedes x.range) :
    ∃ f ∈ opened stack ++ l, ∃ x ∈ l, error = .overlap f.range x.range ∧ f.range.Crosses x.range := by
  induction l generalizing stack outermost with
  | nil => simp [nestFrom] at hnest
  | cons e rest ih =>
      rw [List.pairwise_cons] at hsorted
      rw [nestFrom] at hnest
      cases henter : enter e stack outermost with
      | error error' =>
          rw [henter] at hnest
          obtain ⟨f, hf, herror, hout, hoverlaps⟩ := error_of_enter henter
          refine ⟨f, List.mem_append_left _ hf, e, List.mem_cons_self, ?_, ?_⟩
          · exact (Except.error.inj hnest).symm.trans herror
          · exact Range.crosses_of_overlaps (hopen f hf e List.mem_cons_self) hoverlaps hout
      | ok entered =>
          obtain ⟨stack', outermost'⟩ := entered
          rw [henter] at hnest
          obtain ⟨closed, kept, hstack, hstack', -, -⟩ := opened_of_enter henter
          obtain ⟨f, hf, x, hx, hfound⟩ := ih hnest hsorted.2
            (forall_opened_of_enter henter hsorted.1 hopen)
          refine ⟨f, ?_, x, List.mem_cons_of_mem _ hx, hfound⟩
          rw [hstack', hstack] at *
          simp only [List.cons_append, List.mem_cons, List.mem_append] at hf ⊢
          rcases hf with rfl | hf | hf
          · exact Or.inr (Or.inl rfl)
          · exact Or.inl (Or.inr hf)
          · exact Or.inr (Or.inr hf)

end ViewCompiler.Edit
