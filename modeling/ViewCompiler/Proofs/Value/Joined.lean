import ViewCompiler.Proofs.Value.Call

/-!
# Splitting and joining

A separator that splits is always read clear of brackets and quotes, and so is the part behind it from its first
character on. A part is therefore scanned by itself as it was within the expression, and nothing splits it any further.
The parts of an expression are the only texts that can be joined to it in this way (`split_eq_iff_join`).
-/

namespace ViewCompiler.Expression

open Scan
open Text (join_cons)

variable {c : Char} {sep p t : Text} {parts : List Text}

theorem Divides.solid_part (h : Divides c t parts) : ∀ p ∈ parts, Solid [c] start p := by
  induction h with
  | last hsolid => simpa using hsolid
  | cons hsolid hfree hrest ih => exact List.forall_mem_cons.2 ⟨hsolid, ih⟩

theorem split_eq_self_iff : split [c] p = [p] ↔ Solid [c] start p := by
  refine ⟨fun h => ?_, split_of_solid⟩
  exact (split_eq_iff.1 h).solid_part p List.mem_cons_self

/-! ### Texts that are joined by a separator -/

theorem Divides.join_eq (h : Divides c t parts) : Text.join [c] parts = t := by
  induction h with
  | last hsolid => simp [Text.join]
  | cons hsolid hfree hrest ih => rw [join_cons hrest.ne_nil, ih, List.singleton_append]

theorem Divides.clear_part (h : Divides c t parts) : ∀ p ∈ parts.dropLast, (start.run p).Clear := by
  induction h with
  | last hsolid => exact nofun
  | cons hsolid hfree hrest ih =>
      rw [List.dropLast_cons_of_ne_nil hrest.ne_nil]
      exact List.forall_mem_cons.2 ⟨(isFree_iff.1 hfree).1, ih⟩

theorem divides_join (hc : isOrdinary c = true) (hne : parts ≠ []) (hparts : ∀ p ∈ parts, split [c] p = [p])
    (hclear : ∀ p ∈ parts.dropLast, (start.run p).Clear) : Divides c (Text.join [c] parts) parts := by
  induction parts with
  | nil => exact absurd rfl hne
  | cons p parts ih =>
      rw [List.forall_mem_cons] at hparts
      have hsolid := split_eq_self_iff.1 hparts.1
      by_cases hlast : parts = []
      · subst hlast
        simpa [Text.join] using Divides.last hsolid
      · rw [List.dropLast_cons_of_ne_nil hlast, List.forall_mem_cons] at hclear
        rw [join_cons hlast, List.singleton_append]
        exact .cons hsolid (isFree_iff.2 ⟨hclear.1, hc⟩) (ih hlast hparts.2 hclear.2)

/-- The parts of an expression are the texts without a free separator that are joined to it, of which every one but the
last leaves no bracket and no quote open. -/
theorem split_eq_iff_join (hc : isOrdinary c = true) : split [c] t = parts ↔
    parts ≠ [] ∧ Text.join [c] parts = t ∧ (∀ p ∈ parts, split [c] p = [p]) ∧
      ∀ p ∈ parts.dropLast, (start.run p).Clear := by
  rw [split_eq_iff]
  constructor
  · exact fun h => ⟨h.ne_nil, h.join_eq, fun p hp => split_of_solid (h.solid_part p hp), h.clear_part⟩
  · rintro ⟨hne, rfl, hparts, hclear⟩
    exact divides_join hc hne hparts hclear

/-! ### Separators of any length -/

/-- Only a single character can be a separator that is read. -/
theorem split_cases (sep t : Text) : split sep t = [t] ∨ ∃ c, sep = [c] := by
  by_cases h : ∃ c, sep = [c]
  · exact Or.inr h
  · refine Or.inl (split_of_solid fun front c back _ hsep => ?_)
    exact absurd ⟨c, hsep⟩ h

theorem join_split (sep t : Text) : Text.join sep (split sep t) = t := by
  rcases split_cases sep t with hwhole | ⟨c, rfl⟩
  · simp [hwhole, Text.join]
  · exact (split_eq_iff.1 rfl).join_eq

/-- Splitting loses nothing, for any separator. With a separator that is neither a quote mark nor a bracket, no part can
be split again, and texts that cannot be split and leave no bracket and no quote open are found again when they are
joined. -/
theorem split_lossless_exact :
    (∀ sep t : Text, Text.join sep (split sep t) = t) ∧
      ∀ c : Char, isOrdinary c = true →
        (∀ t : Text, ∀ p ∈ split [c] t, split [c] p = [p]) ∧
        ∀ parts : List Text, parts ≠ [] → (∀ p ∈ parts, split [c] p = [p] ∧ (start.run p).Clear) →
          split [c] (Text.join [c] parts) = parts := by
  refine ⟨join_split, fun c hc => ⟨fun t p hp => ?_, fun parts hne hparts => ?_⟩⟩
  · exact ((split_eq_iff_join hc).1 rfl).2.2.1 p hp
  · refine (split_eq_iff_join hc).2 ⟨hne, rfl, fun p hp => (hparts p hp).1, fun p hp => ?_⟩
    exact (hparts p (List.mem_of_mem_dropLast hp)).2

theorem split_lossless_exact_nested :
    isOrdinary ',' = true ∧
      (∀ p ∈ ["f(a, [b, c])".toList, [], "'x, \\'(y'".toList],
        split [','] p = [p] ∧ (start.run p).quote = none ∧ (start.run p).depth = 0) ∧
      split [','] "f(a, [b, c]),,'x, \\'(y'" = ["f(a, [b, c])".toList, [], "'x, \\'(y'".toList] := by
  have hcomma : isOrdinary ',' = true := by decide
  have hparts : ∀ p ∈ ["f(a, [b, c])".toList, [], "'x, \\'(y'".toList],
      split [','] p = [p] ∧ (start.run p).quote = none ∧ (start.run p).depth = 0 := by
    decide +kernel
  exact ⟨hcomma, hparts, (split_lossless_exact.2 ',' hcomma).2 _ (by simp) hparts⟩

end ViewCompiler.Expression
