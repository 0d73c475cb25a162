import ViewCompiler.Binding.Set
import Mathlib.Data.List.Induction
import Mathlib.Data.List.Nodup

/-!
# Sets made of lists of bindings

A list of bindings makes a set if no two of them have one key. Otherwise the first binding whose key has come before
is refused.
-/

namespace ViewCompiler.BindingSet

variable {bindings front back : List Binding} {b : Binding}

theorem add_eq_ok_iff {s added : BindingSet} :
    s.add b = .ok added ↔ b.key ∉ s.items.map Binding.key ∧ added.items = s.items ++ [b] := by
  have hkey : s.contains b.kind b.name? = true ↔ b.key ∈ s.items.map Binding.key := contains_iff
  rw [← hkey, add]
  split
  · rename_i hseen
    simp only [reduceCtorEq, hseen, not_true_eq_false, false_and]
  · rename_i hnew
    rw [Except.ok.injEq, BindingSet.ext_iff, and_iff_right hnew]
    exact eq_comm

theorem add_eq_error_iff {s : BindingSet} {d : Duplicate} :
    s.add b = .error d ↔ b.key ∈ s.items.map Binding.key ∧ d = ⟨b.kind, b.name?⟩ := by
  have hkey : s.contains b.kind b.name? = true ↔ b.key ∈ s.items.map Binding.key := contains_iff
  rw [← hkey, add]
  split
  · rename_i hseen
    simp only [Except.error.injEq, hseen, true_and, eq_comm]
  · rename_i hnew
    simp only [reduceCtorEq, hnew, false_and]

theorem foldlM_add_eq_ok_iff {s all : BindingSet} :
    bindings.foldlM add s = .ok all ↔ all.items = s.items ++ bindings := by
  induction bindings generalizing s with
  | nil =>
      rw [List.foldlM_nil, List.append_nil]
      exact ⟨fun h => congrArg items (Except.ok.inj h).symm, fun h => congrArg _ (BindingSet.ext h.symm)⟩
  | cons b others ih =>
      rw [List.foldlM_cons]
      cases hadd : s.add b with
      | error d =>
          refine ⟨nofun, fun h => ?_⟩
          have hnodup := all.nodup
          rw [h, List.map_append, List.nodup_append] at hnodup
          exact absurd rfl (hnodup.2.2 _ (add_eq_error_iff.1 hadd).1 _ List.mem_cons_self)
      | ok added =>
          rw [List.append_cons, ← (add_eq_ok_iff.1 hadd).2]
          exact ih

theorem ofList_eq_ok_iff {s : BindingSet} : ofList bindings = .ok s ↔ s.items = bindings := foldlM_add_eq_ok_iff

theorem ofList_of_duplicate (hfront : (front.map Binding.key).Nodup) (hagain : b.key ∈ front.map Binding.key) :
    ofList (front ++ b :: back) = .error ⟨b.kind, b.name?⟩ := by
  have hbegin : front.foldlM add empty = .ok ⟨front, hfront⟩ := ofList_eq_ok_iff.2 rfl
  have hadd : add ⟨front, hfront⟩ b = .error ⟨b.kind, b.name?⟩ := add_eq_error_iff.2 ⟨hagain, rfl⟩
  rw [ofList, List.foldlM_append, hbegin]
  change (b :: back).foldlM add ⟨front, hfront⟩ = _
  rw [List.foldlM_cons, hadd]
  rfl

theorem exists_first_duplicate (h : ¬ (bindings.map Binding.key).Nodup) :
    ∃ front b back, bindings = front ++ b :: back ∧ (front.map Binding.key).Nodup ∧ b.key ∈ front.map Binding.key := by
  induction bindings using List.reverseRecOn with
  | nil => exact absurd List.nodup_nil h
  | append_singleton others b ih =>
      by_cases hothers : (others.map Binding.key).Nodup
      · refine ⟨others, b, [], rfl, hothers, ?_⟩
        by_contra hnew
        apply h
        rw [List.map_append, List.map_singleton, ← List.concat_eq_append]
        exact hothers.concat hnew
      · obtain ⟨front, c, back, rfl, hfront, hagain⟩ := ih hothers
        exact ⟨front, c, back ++ [b], by simp, hfront, hagain⟩

theorem ofList_eq_error_iff {d : Duplicate} : ofList bindings = .error d ↔
    ∃ front b back, bindings = front ++ b :: back ∧ (front.map Binding.key).Nodup ∧ b.key ∈ front.map Binding.key ∧
      d = ⟨b.kind, b.name?⟩ := by
  constructor
  · intro h
    have hnodup : ¬ (bindings.map Binding.key).Nodup := by
      intro hnodup
      cases h.symm.trans (ofList_eq_ok_iff.2 (rfl : (⟨bindings, hnodup⟩ : BindingSet).items = bindings))
    obtain ⟨front, b, back, rfl, hfront, hagain⟩ := exists_first_duplicate hnodup
    rw [ofList_of_duplicate hfront hagain] at h
    exact ⟨front, b, back, rfl, hfront, hagain, (Except.error.inj h).symm⟩
  · rintro ⟨front, b, back, rfl, hfront, hagain, rfl⟩
    exact ofList_of_duplicate hfront hagain

end ViewCompiler.BindingSet
