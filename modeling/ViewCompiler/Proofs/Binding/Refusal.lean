import ViewCompiler.Proofs.Binding.Classify
import ViewCompiler.Proofs.Binding.Priority

/-!
# When an attribute is refused

By default a key has one of three shapes. In square brackets it has to have a value, in round brackets it has to
have the call of a handler for a value, and any other key makes a binding with a value and without one. What is bound is
settled before the value is looked at: its name depends on the key alone, its target also on the carrier and on
whether there is a value (`boundTarget`, `boundName`).
-/

namespace ViewCompiler.Binding

open Template (Failure refuse)

variable {role : Role} {position : Option Position} {key : Text} {value : Option Text} {b : Binding}

/-- A key that starts with one mark and ends with another. -/
def IsBetween (opening closing : Char) (key : Text) : Prop := ∃ inner, key = opening :: (inner ++ [closing])

/-- The name that an attribute is bound under. -/
def boundName (key : Text) : Text :=
  if Delimiters.explicitAttribute.wraps key then Delimiters.explicitAttribute.unwrap key
  else if Delimiters.property.wraps key then Delimiters.property.unwrap key
  else if Delimiters.event.wraps key then Delimiters.event.unwrap key
  else key

/-- What an attribute is bound to, with or without a value. -/
def boundTarget (role : Role) (key : Text) (valued : Bool) : Target :=
  if Delimiters.event.wraps key then role.event
  else if Delimiters.explicitAttribute.wraps key || key.contains '-' then .attr
  else if valued || Delimiters.property.wraps key then role.property
  else .attr

/-! ### The three shapes of a key -/

theorem property_wraps_iff : Delimiters.property.wraps key = true ↔ IsBetween '[' ']' key := Delimiters.wraps_iff

theorem event_wraps_iff : Delimiters.event.wraps key = true ↔ IsBetween '(' ')' key := Delimiters.wraps_iff

theorem not_explicit_of_not_property (h : Delimiters.property.wraps key = false) :
    Delimiters.explicitAttribute.wraps key = false := by
  rw [Bool.eq_false_iff]
  intro hexplicit
  cases h.symm.trans (property_of_explicit hexplicit)

theorem classify_bracketed (h : Delimiters.property.wraps key = true) :
    classify defaultRules role position key value = withValue key value position fun written =>
      .ok (named (boundTarget role key value.isSome) (boundName key) (.ofText written)) := by
  have hevent := not_event_of_property h
  cases hexplicit : Delimiters.explicitAttribute.wraps key with
  | true =>
      simp [classify, defaultRules, Rule.accepts, Rule.bind, boundTarget, boundName, h, hevent, hexplicit]
  | false =>
      cases hdash : key.contains '-' <;>
        simp [classify, defaultRules, Rule.accepts, Rule.bind, boundTarget, boundName, h, hevent, hexplicit, hdash]

theorem classify_event (h : Delimiters.event.wraps key = true) :
    classify defaultRules role position key value = withValue key value position fun written =>
      named (boundTarget role key value.isSome) (boundName key) <$> Expression.call position written := by
  have hproperty : Delimiters.property.wraps key = false := by
    rw [Bool.eq_false_iff]
    intro hproperty
    cases h.symm.trans (not_event_of_property hproperty)
  have hexplicit := not_explicit_of_not_property hproperty
  simp [classify, defaultRules, Rule.accepts, Rule.bind, boundTarget, boundName, h, hproperty, hexplicit]

theorem classify_bare (hproperty : Delimiters.property.wraps key = false)
    (hevent : Delimiters.event.wraps key = false) :
    classify defaultRules role position key value =
      .ok (named (boundTarget role key value.isSome) (boundName key) (constantOf (value.getD []))) := by
  have hexplicit := not_explicit_of_not_property hproperty
  cases hdash : key.contains '-' <;> cases value <;>
    simp [classify, defaultRules, Rule.accepts, Rule.bind, boundTarget, boundName, hproperty, hevent, hexplicit, hdash]

/-! ### Outcomes -/

theorem withValue_eq_error_iff {α : Type} {next : Text → Except Failure α} {failure : Failure} :
    withValue key value position next = .error failure ↔
      value = none ∧ failure = .refused ⟨.missingValue key, position, []⟩ ∨
        ∃ written, value = some written ∧ next written = .error failure := by
  cases value with
  | none => simp [withValue, refuse, eq_comm]
  | some written => simp [withValue]

theorem map_call_eq_error_iff {f : Value → Binding} {written : Text} {failure : Failure} :
    f <$> Expression.call position written = .error failure ↔
      Expression.call? written = none ∧ failure = .refused ⟨.invalidCall, position, []⟩ := by
  unfold Expression.call
  cases Expression.call? written with
  | none => simp [refuse, Functor.map, Except.map, eq_comm]
  | some called => simp [Functor.map, Except.map]

theorem classify_eq_error_iff {failure : Failure} : classify defaultRules role position key value = .error failure ↔
    value = none ∧ (IsBetween '[' ']' key ∨ IsBetween '(' ')' key) ∧
        failure = .refused ⟨.missingValue key, position, []⟩ ∨
      ∃ written, value = some written ∧ IsBetween '(' ')' key ∧ Expression.call? written = none ∧
        failure = .refused ⟨.invalidCall, position, []⟩ := by
  rw [← property_wraps_iff, ← event_wraps_iff]
  cases hproperty : Delimiters.property.wraps key with
  | true =>
      rw [classify_bracketed hproperty, withValue_eq_error_iff]
      simp [not_event_of_property hproperty]
  | false =>
      cases hevent : Delimiters.event.wraps key with
      | true =>
          rw [classify_event hevent, withValue_eq_error_iff]
          simp [map_call_eq_error_iff]
      | false =>
          rw [classify_bare hproperty hevent]
          simp

theorem exists_named_of_classify (h : classify defaultRules role position key value = .ok b) :
    ∃ bound, b = named (boundTarget role key value.isSome) (boundName key) bound := by
  cases hproperty : Delimiters.property.wraps key with
  | true =>
      rw [classify_bracketed hproperty] at h
      obtain ⟨written, hwritten⟩ := withValue_eq_ok h
      cases hwritten
      exact ⟨_, rfl⟩
  | false =>
      cases hevent : Delimiters.event.wraps key with
      | true =>
          rw [classify_event hevent] at h
          obtain ⟨written, hwritten⟩ := withValue_eq_ok h
          obtain ⟨handler, -, hnamed⟩ := bind_eq_ok hwritten
          cases hnamed
          exact ⟨_, rfl⟩
      | false =>
          rw [classify_bare hproperty hevent] at h
          cases h
          exact ⟨_, rfl⟩

/-- An attribute is refused, at its own position, exactly if it needs a value and has none, or should call a handler and
does not. Otherwise it is bound under a name that its key tells, to a target that does not depend on the value. -/
theorem classify_outcome (role : Role) (position : Option Position) (key : Text) (value : Option Text) :
    (∀ failure, classify defaultRules role position key value = .error failure ↔
      value = none ∧ (IsBetween '[' ']' key ∨ IsBetween '(' ')' key) ∧
          failure = .refused ⟨.missingValue key, position, []⟩ ∨
        ∃ written, value = some written ∧ IsBetween '(' ')' key ∧ Expression.call? written = none ∧
          failure = .refused ⟨.invalidCall, position, []⟩) ∧
    (∀ b, classify defaultRules role position key value = .ok b →
      b.kind = .named (boundTarget role key value.isSome) ∧ b.name? = some (boundName key)) ∧
    ∀ position' value' b b', value.isSome = value'.isSome → classify defaultRules role position key value = .ok b →
      classify defaultRules role position' key value' = .ok b' → b.kind = b'.kind ∧ b.name? = b'.name? := by
  refine ⟨fun failure => classify_eq_error_iff, fun b h => ?_, fun position' value' b b' hvalued h h' => ?_⟩
  · obtain ⟨bound, rfl⟩ := exists_named_of_classify h
    exact ⟨rfl, rfl⟩
  · obtain ⟨bound, rfl⟩ := exists_named_of_classify h
    obtain ⟨bound', rfl⟩ := exists_named_of_classify h'
    rw [hvalued]
    exact ⟨rfl, rfl⟩

end ViewCompiler.Binding
