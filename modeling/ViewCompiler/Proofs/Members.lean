import Mathlib.Data.List.Forall2
import Mathlib.Data.List.TakeWhile

/-!
# Members of a list

Where the members of a list stand to each other, which of them have a property, and which belong to the members of
another list. Nothing here is about a template or a script.
-/

namespace ViewCompiler

variable {α β : Type} {a b : α} {l l' : List α} {p : α → Bool}

/-! ### One before another -/

theorem sublist_or_sublist (ha : a ∈ l) (hb : b ∈ l) (hne : a ≠ b) : [a, b].Sublist l ∨ [b, a].Sublist l := by
  obtain ⟨front, back, rfl⟩ := List.append_of_mem ha
  rcases List.mem_append.1 hb with hfront | hback
  · exact Or.inr (List.cons_sublist_iff.2 ⟨front, a :: back, rfl, hfront, by simp⟩)
  · have hbehind : b ∈ back := (List.mem_cons.1 hback).resolve_left hne.symm
    exact Or.inl (List.cons_sublist_iff.2 ⟨front ++ [a], back, by simp, by simp, by simpa using hbehind⟩)

theorem not_sublist_of_sublist (hnodup : l.Nodup) (h : [a, b].Sublist l) : ¬ [b, a].Sublist l := by
  intro h'
  obtain ⟨front, back, rfl, ha, hb⟩ := List.cons_sublist_iff.1 h
  obtain ⟨front', back', heq, hb', ha'⟩ := List.cons_sublist_iff.1 h'
  rw [List.singleton_sublist] at hb ha'
  obtain ⟨-, -, hapart⟩ := List.nodup_append.1 hnodup
  rcases List.append_eq_append_iff.1 heq with ⟨middle, rfl, rfl⟩ | ⟨middle, rfl, rfl⟩
  · exact hapart a ha a (List.mem_append_right _ ha') rfl
  · exact hapart b (List.mem_append_left _ hb') b hb rfl

theorem sublist_of_getLast? (hlast : l.getLast? = some a) (hb : b ∈ l) (hne : b ≠ a) : [b, a].Sublist l := by
  obtain ⟨front, rfl⟩ := List.getLast?_eq_some_iff.1 hlast
  have hfront : b ∈ front := by simpa [hne] using hb
  exact List.cons_sublist_iff.2 ⟨front, [a], rfl, hfront, List.Sublist.refl _⟩

theorem getLast?_eq_some_iff_sublist (hnodup : l.Nodup) (ha : a ∈ l) :
    l.getLast? = some a ↔ ∀ b ∈ l, b ≠ a → [b, a].Sublist l := by
  refine ⟨fun hlast b => sublist_of_getLast? hlast, fun h => ?_⟩
  have hsome := List.getLast?_eq_some_getLast (List.ne_nil_of_mem ha)
  generalize l.getLast _ = last at hsome
  by_cases hne : last = a
  · rw [hsome, hne]
  · have hbefore := h last (List.mem_of_getLast? hsome) hne
    exact absurd (sublist_of_getLast? hsome ha (Ne.symm hne)) (not_sublist_of_sublist hnodup hbefore)

/-- The first member of a kind comes before all others of that kind. -/
theorem sublist_of_find? (hfound : l.find? p = some a) (hb : b ∈ l) (hp : p b = true) (hne : b ≠ a) :
    [a, b].Sublist l := by
  obtain ⟨-, front, back, rfl, hfront⟩ := List.find?_eq_some_iff_append.1 hfound
  have hnot : b ∉ front := by
    intro hmem
    have hskipped := hfront b hmem
    rw [hp] at hskipped
    cases hskipped
  have hback : b ∈ back := by simpa [hnot, hne] using hb
  exact List.cons_sublist_iff.2 ⟨front ++ [a], back, by simp, by simp, by simpa using hback⟩

/-! ### Members with a property -/

theorem filter_eq_singleton (ha : a ∈ l.filter p) (hone : l.Pairwise fun x y => ¬ (p x = true ∧ p y = true)) :
    l.filter p = [a] := by
  have hnone : (l.filter p).Pairwise fun _ _ => False :=
    List.pairwise_filter.2 (hone.imp fun h hx hy => h ⟨hx, hy⟩)
  match hl : l.filter p with
  | [] =>
      rw [hl] at ha
      exact absurd ha List.not_mem_nil
  | [x] =>
      rw [hl] at ha
      rw [List.mem_singleton.1 ha]
  | x :: y :: rest =>
      rw [hl, List.pairwise_cons] at hnone
      exact absurd List.mem_cons_self (hnone.1 y)

theorem filter_eq_of_perm (hperm : l.Perm l') (hone : l.Pairwise fun x y => ¬ (p x = true ∧ p y = true)) :
    l.filter p = l'.filter p := by
  have hfilter := hperm.filter p
  by_cases hnone : l.filter p = []
  · rw [hnone] at hfilter ⊢
    exact hfilter.nil_eq
  · obtain ⟨a, ha⟩ := List.exists_mem_of_ne_nil _ hnone
    rw [filter_eq_singleton ha hone] at hfilter ⊢
    exact (List.perm_singleton.1 hfilter.symm).symm

/-- Parts of which no two say something may be put together in any order. -/
theorem flatMap_eq_of_perm {f : α → List β} (hperm : l.Perm l')
    (hone : l.Pairwise fun a b => f a = [] ∨ f b = []) : l.flatMap f = l'.flatMap f := by
  induction hperm with
  | nil => rfl
  | cons a _ ih => rw [List.flatMap_cons, List.flatMap_cons, ih (List.pairwise_cons.1 hone).2]
  | swap a b l =>
      have hab := (List.pairwise_cons.1 hone).1 a List.mem_cons_self
      simp only [List.flatMap_cons, ← List.append_assoc]
      rcases hab with h | h
      · rw [h, List.append_nil, List.nil_append]
      · rw [h, List.append_nil, List.nil_append]
  | trans hperm _ ih ih' =>
      exact (ih hone).trans (ih' ((hperm.pairwise_iff Or.symm).1 hone))

theorem takeWhile_dropWhile_eq_filter (h : l.Pairwise fun x y => p y = true → p x = true) :
    l.takeWhile p = l.filter p ∧ l.dropWhile p = l.filter fun x => !p x := by
  induction l with
  | nil => exact ⟨rfl, rfl⟩
  | cons x l ih =>
      rw [List.pairwise_cons] at h
      by_cases hx : p x = true
      · rw [List.takeWhile_cons_of_pos hx, List.dropWhile_cons_of_pos hx, List.filter_cons_of_pos hx,
          List.filter_cons_of_neg (by simpa using hx), (ih h.2).1]
        exact ⟨rfl, (ih h.2).2⟩
      · have hnone : ∀ y ∈ l, ¬ p y = true := fun y hy hpy => hx (h.1 y hy hpy)
        rw [List.takeWhile_cons_of_neg hx, List.dropWhile_cons_of_neg hx, List.filter_cons_of_neg hx,
          List.filter_cons_of_pos (by simpa using hx), List.filter_eq_nil_iff.2 hnone,
          List.filter_eq_self.2 (by simpa using hnone)]
        exact ⟨rfl, rfl⟩

theorem takeWhile_dropWhile_of_imp {q : α → Bool} (h : ∀ x, p x = true → q x = true) (l : List α) :
    (l.takeWhile q).takeWhile p = l.takeWhile p ∧ (l.takeWhile q).dropWhile p = (l.dropWhile p).takeWhile q ∧
      l.dropWhile q = (l.dropWhile p).dropWhile q := by
  induction l with
  | nil => exact ⟨rfl, rfl, rfl⟩
  | cons x l ih =>
      by_cases hp : p x = true
      · have hq := h x hp
        rw [List.takeWhile_cons_of_pos hq, List.takeWhile_cons_of_pos hp, List.takeWhile_cons_of_pos hp,
          List.dropWhile_cons_of_pos hp, List.dropWhile_cons_of_pos hp, List.dropWhile_cons_of_pos hq, ih.1]
        exact ⟨rfl, ih.2⟩
      · rw [List.takeWhile_cons_of_neg hp, List.dropWhile_cons_of_neg hp]
        by_cases hq : q x = true
        · rw [List.takeWhile_cons_of_pos hq, List.takeWhile_cons_of_neg hp, List.dropWhile_cons_of_neg hp]
          exact ⟨rfl, rfl, rfl⟩
        · rw [List.takeWhile_cons_of_neg hq]
          exact ⟨rfl, rfl, rfl⟩

/-! ### Members of another list -/

theorem exists_of_mem_right {R : α → β → Prop} {found : List β} {b : β} (h : List.Forall₂ R l found) (hb : b ∈ found) :
    ∃ a ∈ l, R a b := by
  induction h with
  | nil => cases hb
  | @cons a c l found hac _ ih =>
      rcases List.mem_cons.1 hb with rfl | hb
      · exact ⟨a, List.mem_cons_self, hac⟩
      · obtain ⟨d, hd, hdb⟩ := ih hb
        exact ⟨d, List.mem_cons_of_mem a hd, hdb⟩

end ViewCompiler
