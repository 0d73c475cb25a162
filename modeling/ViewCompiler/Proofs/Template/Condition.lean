import ViewCompiler.Proofs.Template.Element

/-!
# What can be a condition

A condition is one text that all attributes of the directive are joined to. A path has no space in it, while a space
comes in with every value and with every attribute but the first. So only a single attribute without a value can be a
condition (`exists_key_of_isCondition`), and the line feed that a path may end in is excluded with all other blanks.
-/

namespace ViewCompiler.Template

open Markup (Attribute)

variable {t path : Text} {negated : Bool} {attributes : List Attribute}

/-- Attributes that spell out a path, and whether it is negated. -/
inductive SpellsCondition : List Attribute → Text → Bool → Prop
  | plain {path : Text} (hpath : ∀ c ∈ path, c.isAlpha = true ∨ c = '.') : SpellsCondition [⟨path, none⟩] path false
  | negated {path : Text} (hpath : ∀ c ∈ path, c.isAlpha = true ∨ c = '.') :
      SpellsCondition [⟨'!' :: path, none⟩] path true

/-! ### Paths -/

theorem isPathChar_iff {c : Char} : isPathChar c = true ↔ c.isAlpha = true ∨ c = '.' := by
  rw [isPathChar, Bool.or_eq_true, beq_iff_eq]

theorem isPath_iff (h : '\n' ∉ t) : isPath t = true ↔ ∀ c ∈ t, c.isAlpha = true ∨ c = '.' := by
  have hlast : t.getLast? ≠ some '\n' := fun hnewline => h (List.mem_of_getLast? hnewline)
  simp only [isPath, withoutFinalNewline, if_neg hlast, List.all_eq_true, isPathChar_iff]

theorem newline_not_mem (h : ∀ c ∈ t, c.isAlpha = true ∨ c = '.') : '\n' ∉ t :=
  fun hmem => absurd (h '\n' hmem) (by decide)

theorem space_not_mem_of_isPath (h : isPath t = true) : ' ' ∉ t := by
  rw [isPath, withoutFinalNewline, List.all_eq_true] at h
  intro hspace
  split at h
  · rename_i hlast
    obtain ⟨front, rfl⟩ := List.getLast?_eq_some_iff.1 hlast
    rw [List.dropLast_concat] at h
    have hfront : ' ' ∈ front := by simpa using hspace
    exact absurd (h ' ' hfront) (by decide)
  · exact absurd (h ' ' hspace) (by decide)

theorem isCondition_negated (path : Text) : isCondition ('!' :: path) = isPath path := rfl

theorem isCondition_of_head (h : t.head? ≠ some '!') : isCondition t = isPath t := by
  unfold isCondition
  split
  · exact absurd rfl h
  · rfl

theorem space_not_mem_of_isCondition (h : isCondition t = true) : ' ' ∉ t := by
  unfold isCondition at h
  split at h
  · simpa using space_not_mem_of_isPath h
  · exact space_not_mem_of_isPath h

/-! ### Attributes -/

theorem conditionText_singleton (key : Text) : conditionText [⟨key, none⟩] = key := by
  simp [conditionText, conditionPart, Text.join]

/-- Every value and every further attribute brings a space in. -/
theorem exists_key_of_isCondition (hne : attributes ≠ []) (h : isCondition (conditionText attributes) = true) :
    ∃ key, attributes = [⟨key, none⟩] := by
  have hspace := space_not_mem_of_isCondition h
  match attributes with
  | [] => exact absurd rfl hne
  | [⟨key, none⟩] => exact ⟨key, rfl⟩
  | [⟨key, some value⟩] => exact absurd (by simp [conditionText, conditionPart, Text.join]) hspace
  | first :: second :: others => exact absurd (by simp [conditionText, Text.join, List.intercalate]) hspace

theorem spellsCondition_of_isCondition {key : Text} (hkey : '\n' ∉ key) (h : isCondition key = true) :
    ∃ path negated, SpellsCondition [⟨key, none⟩] path negated := by
  by_cases hhead : key.head? = some '!'
  · obtain ⟨path, rfl⟩ := List.head?_eq_some_iff.1 hhead
    rw [List.mem_cons, not_or] at hkey
    rw [isCondition_negated] at h
    exact ⟨path, true, .negated ((isPath_iff hkey.2).1 h)⟩
  · rw [isCondition_of_head hhead] at h
    exact ⟨key, false, .plain ((isPath_iff hkey).1 h)⟩

theorem SpellsCondition.condition_eq (h : SpellsCondition attributes path negated) :
    condition attributes = .ok (.conditional (.ofText path) negated) := by
  cases h with
  | plain hpath =>
      have hhead : path.head? ≠ some '!' := by
        intro hmark
        exact absurd (hpath '!' (List.mem_of_head? hmark)) (by decide)
      have hcondition : isCondition path = true := by
        rw [isCondition_of_head hhead, isPath_iff (newline_not_mem hpath)]
        exact hpath
      rw [condition, conditionText_singleton]
      simp only [List.isEmpty_cons, hcondition, Bool.not_true, Bool.false_eq_true, if_false]
      split
      · exact absurd rfl hhead
      · rfl
  | negated hpath =>
      have hcondition : isCondition ('!' :: path) = true := by
        rw [isCondition_negated, isPath_iff (newline_not_mem hpath)]
        exact hpath
      rw [condition, conditionText_singleton]
      simp only [List.isEmpty_cons, hcondition, Bool.not_true, Bool.false_eq_true, if_false]

theorem condition_eq_error (hkeys : ∀ a ∈ attributes, ∀ c ∈ a.key, Text.isBlank c = false)
    (h : ¬ ∃ path negated, SpellsCondition attributes path negated) :
    condition attributes = .error (if attributes = [] then .missingCondition else .conditionNotPath) := by
  by_cases hempty : attributes = []
  · rw [if_pos hempty, hempty]
    rfl
  · have hcondition : isCondition (conditionText attributes) = false := by
      rw [Bool.eq_false_iff]
      intro hcondition
      obtain ⟨key, rfl⟩ := exists_key_of_isCondition hempty hcondition
      rw [conditionText_singleton] at hcondition
      have hnewline : '\n' ∉ key := fun hmem => absurd (hkeys _ List.mem_cons_self '\n' hmem) (by decide)
      exact h (spellsCondition_of_isCondition hnewline hcondition)
    simp [condition, hempty, hcondition]

/-! ### Elements -/

theorem Element.node_of_condition {e : Element} (htag : e.tag.lower = "w:if".toList) : e.node =
    match condition e.attributes with
    | .ok content => .ok (.ofContent content (some e.position))
    | .error cause => refuse e.position cause := by
  have hnode := node_of_directive (isDirectiveTag_of_lower htag rfl)
  rw [directiveNode, directive, if_pos htag] at hnode
  exact hnode

/-- With keys as they can be scanned, the directive accepts a single attribute without a value that is a path, perhaps
after an exclamation mark, and nothing else. Everything else is refused where the element stands. -/
theorem Element.node_condition_iff {e : Element} (htag : e.tag.lower = "w:if".toList)
    (hkeys : ∀ a ∈ e.attributes, ∀ c ∈ a.key, Text.isBlank c = false) :
    (∀ node, e.node = .ok node ↔ ∃ path negated, SpellsCondition e.attributes path negated ∧
        node = .ofContent (.conditional (.ofText path) negated) (some e.position)) ∧
      ((¬ ∃ path negated, SpellsCondition e.attributes path negated) →
        e.node = refuse e.position (if e.attributes = [] then .missingCondition else .conditionNotPath)) := by
  have hrefused : (¬ ∃ path negated, SpellsCondition e.attributes path negated) →
      e.node = refuse e.position (if e.attributes = [] then .missingCondition else .conditionNotPath) := by
    intro hnone
    rw [node_of_condition htag, condition_eq_error hkeys hnone]
  refine ⟨fun node => ⟨fun hok => ?_, ?_⟩, hrefused⟩
  · by_cases h : ∃ path negated, SpellsCondition e.attributes path negated
    · obtain ⟨path, negated, hspells⟩ := h
      rw [node_of_condition htag, hspells.condition_eq] at hok
      cases hok
      exact ⟨path, negated, hspells, rfl⟩
    · rw [hrefused h] at hok
      cases hok
  · rintro ⟨path, negated, hspells, rfl⟩
    rw [node_of_condition htag, hspells.condition_eq]

theorem Element.node_condition_iff_negated :
    (∀ a ∈ [⟨"!user.isKnown", none⟩], ∀ c ∈ Attribute.key a, Text.isBlank c = false) ∧
      Element.node ⟨"W:If", [⟨"!user.isKnown", none⟩], some ⟨2, 5⟩⟩ =
        .ok (.ofContent (.conditional (.ofText "user.isKnown") true) (some (some ⟨2, 5⟩))) ∧
      (∀ a ∈ [⟨"a", none⟩, ⟨"", some []⟩], ∀ c ∈ Attribute.key a, Text.isBlank c = false) ∧
      Element.node ⟨"w:if", [⟨"a", none⟩, ⟨"", some []⟩], some ⟨1, 1⟩⟩ = refuse (some ⟨1, 1⟩) .conditionNotPath := by
  have hkeys : ∀ a ∈ [⟨"!user.isKnown", none⟩], ∀ c ∈ Attribute.key a, Text.isBlank c = false := by
    simp [Text.isBlank]
  have hkeys' : ∀ a ∈ [⟨"a", none⟩, ⟨"", some []⟩], ∀ c ∈ Attribute.key a, Text.isBlank c = false := by
    simp [Text.isBlank]
  have hpath : ∀ c ∈ "user.isKnown".toList, c.isAlpha = true ∨ c = '.' := by simp
  have hspells : SpellsCondition [⟨"!user.isKnown", none⟩] "user.isKnown" true := .negated hpath
  have haccepted := (node_condition_iff (e := ⟨"W:If", _, some ⟨2, 5⟩⟩) (by decide) hkeys).1
  have hrefused := (node_condition_iff (e := ⟨"w:if", _, some ⟨1, 1⟩⟩) (by decide) hkeys').2
  refine ⟨hkeys, (haccepted _).2 ⟨_, _, hspells, rfl⟩, hkeys', hrefused ?_⟩
  rintro ⟨path, negated, hnone⟩
  cases hnone

end ViewCompiler.Template
