import Mathlib.Data.List.Forall2

/-!
# One step after the other

A computation that may fail is run on each member of a list. It succeeds if every step does, and otherwise the first
step that fails decides.
-/

namespace ViewCompiler

variable {α β γ δ ε : Type} {f : α → Except ε β} {l : List α}

theorem eq_ok_of_toOption {x : Except ε α} {a : α} (h : x.toOption = some a) : x = .ok a := by
  cases x with
  | error e => cases h
  | ok b => exact congrArg _ (Option.some.inj h)

theorem bind_eq_ok {x : Except ε α} {g : α → Except ε β} {b : β} (h : x >>= g = .ok b) : ∃ a, x = .ok a ∧ g a = .ok b := by
  cases x with
  | error e => cases h
  | ok a => exact ⟨a, rfl, h⟩

/-- Computations whose steps fail alike fail alike. -/
theorem bind_eq_error_congr {x : Except ε α} {y : Except ε β} {g : α → Except ε γ} {h : β → Except ε δ}
    (hxy : ∀ e, x = .error e ↔ y = .error e) (hnext : ∀ a b e, g a = .error e ↔ h b = .error e) (e : ε) :
    x >>= g = .error e ↔ y >>= h = .error e := by
  cases x with
  | error e' =>
      rw [(hxy e').1 rfl]
      simp [bind, Except.bind]
  | ok a =>
      cases y with
      | error e' => cases (hxy e').2 rfl
      | ok b => exact hnext a b e

theorem mapM_eq_ok_iff {found : List β} :
    l.mapM f = .ok found ↔ List.Forall₂ (fun a b => f a = .ok b) l found := by
  induction l generalizing found with
  | nil => cases found <;> simp [pure, Except.pure]
  | cons a l ih =>
      rw [List.mapM_cons]
      cases ha : f a with
      | error e => cases found <;> simp [ha, bind, Except.bind]
      | ok first =>
          cases hl : l.mapM f with
          | error e => cases found <;> simp [ha, hl, ← ih, bind, Except.bind]
          | ok others => cases found <;> simp [ha, hl, ← ih, bind, Except.bind, pure, Except.pure]

theorem mapM_eq_some_iff {g : α → Option β} {found : List β} :
    l.mapM g = some found ↔ List.Forall₂ (fun a b => g a = some b) l found := by
  induction l generalizing found with
  | nil => cases found <;> simp
  | cons a l ih =>
      rw [List.mapM_cons]
      cases ha : g a with
      | none => cases found <;> simp [ha]
      | some first =>
          cases hl : l.mapM g with
          | none => cases found <;> simp [ha, hl, ← ih]
          | some others => cases found <;> simp [ha, hl, ← ih]

theorem mapM_eq_error_iff : (∃ e, l.mapM f = .error e) ↔ ∃ a ∈ l, ∃ e, f a = .error e := by
  induction l with
  | nil => simp [pure, Except.pure]
  | cons a l ih =>
      rw [List.mapM_cons]
      cases ha : f a with
      | error e => simp [ha, bind, Except.bind]
      | ok first =>
          simp only [List.mem_cons, exists_eq_or_imp, ha, reduceCtorEq, exists_false, false_or, ← ih]
          cases l.mapM f with
          | error e => simp [bind, Except.bind]
          | ok others => simp [bind, Except.bind, pure, Except.pure]

theorem mapM_eq_first_error_iff {e : ε} : l.mapM f = .error e ↔
    ∃ front a back, l = front ++ a :: back ∧ (∀ x ∈ front, ∃ b, f x = .ok b) ∧ f a = .error e := by
  induction l with
  | nil => simp [pure, Except.pure]
  | cons a l ih =>
      rw [List.mapM_cons]
      cases ha : f a with
      | error e' =>
          constructor
          · rintro ⟨⟩
            exact ⟨[], a, l, rfl, by simp, ha⟩
          · rintro ⟨front, a', back, heq, hfront, ha'⟩
            cases front with
            | nil =>
                cases heq
                cases ha.symm.trans ha'
                rfl
            | cons x front =>
                cases heq
                obtain ⟨b, hb⟩ := hfront a List.mem_cons_self
                cases ha.symm.trans hb
      | ok b =>
          have hlater : (do let others ← l.mapM f; pure (b :: others)) = .error e ↔ l.mapM f = .error e := by
            cases l.mapM f <;> simp [bind, Except.bind, pure, Except.pure]
          refine hlater.trans (ih.trans ?_)
          constructor
          · rintro ⟨front, a', back, rfl, hfront, ha'⟩
            exact ⟨a :: front, a', back, rfl, List.forall_mem_cons.2 ⟨⟨b, ha⟩, hfront⟩, ha'⟩
          · rintro ⟨front, a', back, heq, hfront, ha'⟩
            cases front with
            | nil =>
                cases heq
                cases ha.symm.trans ha'
            | cons x front =>
                cases heq
                exact ⟨front, a', back, rfl, (List.forall_mem_cons.1 hfront).2, ha'⟩

end ViewCompiler
