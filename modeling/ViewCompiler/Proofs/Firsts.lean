import Mathlib.Data.List.Induction
import Mathlib.Data.List.Nodup

/-!
# First occurrences

Of the members of a list that have one key, the first is kept and the others are passed over. Everything here follows
from what one more member at the end changes (`firsts_concat`), which is also how a state that keeps what comes first
is filled.
-/

namespace ViewCompiler

variable {α κ : Type} [DecidableEq κ] {key : α → κ} {l : List α}

/-- The members of a list whose key no member before them has. -/
def firsts (key : α → κ) (l : List α) : List α :=
  (l.zipIdx.filter fun (a, i) => key a ∉ (l.take i).map key).map Prod.fst

theorem firsts_concat (key : α → κ) (l : List α) (a : α) :
    firsts key (l ++ [a]) = if key a ∈ l.map key then firsts key l else firsts key l ++ [a] := by
  have hbefore : (l.zipIdx.filter fun (b, i) => key b ∉ ((l ++ [a]).take i).map key) =
      l.zipIdx.filter fun (b, i) => key b ∉ (l.take i).map key := by
    apply List.filter_congr
    rintro ⟨b, i⟩ hmem
    have hlt := (List.mem_zipIdx hmem).2.1
    have htake : (l ++ [a]).take i = l.take i := List.take_append_of_le_length (by omega)
    simp only [htake]
  rw [firsts, List.zipIdx_append, List.filter_append, hbefore, List.map_append]
  by_cases hseen : key a ∈ l.map key
  · simp [firsts, hseen]
  · simp [firsts, hseen]

theorem mem_keys_firsts {k : κ} : k ∈ (firsts key l).map key ↔ k ∈ l.map key := by
  induction l using List.reverseRecOn with
  | nil => exact Iff.rfl
  | append_singleton l a ih =>
      rw [firsts_concat, List.map_append, List.mem_append]
      split
      · rename_i hseen
        rw [ih, List.map_singleton, List.mem_singleton]
        exact ⟨Or.inl, fun h => h.elim id fun heq => heq ▸ hseen⟩
      · rw [List.map_append, List.mem_append, ih]

theorem mem_firsts_id {l : List κ} {k : κ} : k ∈ firsts id l ↔ k ∈ l := by
  rw [← List.map_id (firsts id l), mem_keys_firsts, List.map_id]

theorem nodup_keys_firsts (key : α → κ) (l : List α) : ((firsts key l).map key).Nodup := by
  induction l using List.reverseRecOn with
  | nil => exact List.nodup_nil
  | append_singleton l a ih =>
      rw [firsts_concat]
      split
      · exact ih
      · rename_i hnew
        rw [List.map_append, List.map_singleton, ← List.concat_eq_append]
        exact ih.concat (mem_keys_firsts.not.2 hnew)

/-- What is first of its key in a list is still so when the others are passed over. -/
theorem find?_firsts (key : α → κ) (l : List α) (k : κ) :
    (firsts key l).find? (key · = k) = l.find? (key · = k) := by
  induction l using List.reverseRecOn with
  | nil => rfl
  | append_singleton l a ih =>
      rw [firsts_concat, List.find?_append]
      split
      · rename_i hseen
        rw [ih]
        by_cases hkey : key a = k
        · obtain ⟨b, hb, hsame⟩ := List.mem_map.1 hseen
          have hfound : (l.find? (key · = k)).isSome = true :=
            List.find?_isSome.2 ⟨b, hb, decide_eq_true (hsame.trans hkey)⟩
          rw [Option.or_of_isSome hfound]
        · simp [hkey]
      · rw [List.find?_append, ih]

end ViewCompiler
