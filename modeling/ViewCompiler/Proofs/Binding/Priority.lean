import ViewCompiler.Binding.Classify
import ViewCompiler.Proofs.Members
import ViewCompiler.Proofs.Text.Cut

/-!
# In which order the rules are tried

Most rules have no key in common. The marks around a property also stand around `[attr.x]` and around keys with a dash,
and the last rule accepts every key. So only these pairs of rules need an order (`Rule.outranks`), and a list of rules
that keeps it finds the same rule for every key as any other (`Ranked.find?_eq`).
-/

namespace ViewCompiler

/-! ### Keys between marks -/

theorem Delimiters.wraps_iff {d : Delimiters} {key : Text} :
    d.wraps key = true ↔ ∃ inner, key = d.opening ++ (inner ++ d.closing) := by
  simp only [wraps, Bool.and_eq_true, decide_eq_true_eq, Text.startsWith_iff, Text.endsWith, List.isSuffixOf_iff_suffix]
  constructor
  · rintro ⟨⟨hlength, rest, rfl⟩, hends⟩
    rw [List.length_append, Nat.add_le_add_iff_left] at hlength
    obtain ⟨inner, rfl⟩ := List.suffix_of_suffix_length_le hends (List.suffix_append d.opening rest) hlength
    exact ⟨inner, rfl⟩
  · rintro ⟨inner, rfl⟩
    refine ⟨⟨?_, List.prefix_append _ _⟩, ?_⟩
    · simp only [List.length_append]
      omega
    · rw [← List.append_assoc]
      exact List.suffix_append _ _

namespace Binding

variable {rule other : Rule} {rules rules' : List Rule} {key : Text}

/-! ### Which rules need an order -/

theorem not_event_of_property (h : Delimiters.property.wraps key = true) : Delimiters.event.wraps key = false := by
  obtain ⟨inner, rfl⟩ := Delimiters.wraps_iff.1 h
  rw [Bool.eq_false_iff]
  intro hevent
  obtain ⟨inner', heq⟩ := Delimiters.wraps_iff.1 hevent
  exact absurd (List.cons.inj heq).1 (by decide)

theorem property_of_explicit (h : Delimiters.explicitAttribute.wraps key = true) :
    Delimiters.property.wraps key = true := by
  obtain ⟨inner, rfl⟩ := Delimiters.wraps_iff.1 h
  exact Delimiters.wraps_iff.2 ⟨"attr." ++ inner, rfl⟩

/-- Whether a rule has to be tried before another one. -/
def Rule.outranks : Rule → Rule → Bool
  | .explicit, .property | .implicit, .property => true
  | rule, .plain => rule ≠ .plain
  | _, _ => false

theorem Rule.outranks_iff : rule.outranks other = true ↔
    (rule = .explicit ∨ rule = .implicit) ∧ other = .property ∨ rule ≠ .plain ∧ other = .plain := by
  cases rule <;> cases other <;> decide

/-- Of two rules that accept a key, one outranks the other. -/
theorem Rule.eq_or_outranks (h : rule.accepts key = true) (h' : other.accepts key = true) :
    rule = other ∨ rule.outranks other = true ∨ other.outranks rule = true := by
  -- A dash counts only outside of the other marks, and no key is between two pairs of marks that start differently.
  have hevent := @not_event_of_property key
  have hexplicit := @property_of_explicit key
  cases rule <;> cases other <;> simp_all [Rule.accepts, Rule.outranks]

theorem Rule.outranks_self (rule : Rule) : rule.outranks rule = false := by
  cases rule <;> rfl

theorem Rule.ne_of_outranks (h : rule.outranks other = true) : rule ≠ other := by
  rintro rfl
  cases rule.outranks_self.symm.trans h

/-- No rule of a list outranks one before it. -/
def Ranked (rules : List Rule) : Prop := rules.Pairwise fun earlier later => later.outranks earlier = false

theorem ranked_defaultRules : Ranked defaultRules := by
  unfold Ranked
  decide

theorem Ranked.outranks_found (h : Ranked rules) (hfound : rules.find? (·.accepts key) = some rule)
    (hmem : other ∈ rules) (hother : other.accepts key = true) : other.outranks rule = false := by
  by_cases heq : other = rule
  · rw [heq, rule.outranks_self]
  · exact List.pairwise_iff_forall_sublist.1 h (sublist_of_find? hfound hmem hother heq)

/-- The rule that is found is settled by the rules there are. -/
theorem Ranked.find?_eq (h : Ranked rules) (h' : Ranked rules') (hperm : rules.Perm rules') (key : Text) :
    rules.find? (·.accepts key) = rules'.find? (·.accepts key) := by
  cases hfound : rules.find? (·.accepts key) with
  | none =>
      symm
      rw [List.find?_eq_none] at hfound ⊢
      exact fun rule hmem => hfound rule (hperm.mem_iff.2 hmem)
  | some rule =>
      have hmem := List.mem_of_find?_eq_some hfound
      have haccepts := (List.find?_eq_some_iff_append.1 hfound).1
      have hsome : (rules'.find? (·.accepts key)).isSome = true :=
        List.find?_isSome.2 ⟨rule, hperm.mem_iff.1 hmem, haccepts⟩
      obtain ⟨other, hfound'⟩ := Option.isSome_iff_exists.1 hsome
      have hmem' := List.mem_of_find?_eq_some hfound'
      have haccepts' := (List.find?_eq_some_iff_append.1 hfound').1
      have hnot := h.outranks_found hfound (hperm.mem_iff.2 hmem') haccepts'
      have hnot' := h'.outranks_found hfound' (hperm.mem_iff.1 hmem) haccepts
      rw [hfound']
      rcases Rule.eq_or_outranks haccepts haccepts' with rfl | hover | hover
      · rfl
      · cases hnot'.symm.trans hover
      · cases hnot.symm.trans hover

theorem mem_of_perm (hperm : rules.Perm defaultRules) (rule : Rule) : rule ∈ rules := by
  rw [hperm.mem_iff]
  cases rule <;> decide

theorem nodup_of_perm (hperm : rules.Perm defaultRules) : rules.Nodup := hperm.nodup_iff.2 (by decide)

theorem ranked_iff_sublist (hperm : rules.Perm defaultRules) :
    Ranked rules ↔ ∀ rule other : Rule, rule.outranks other = true → [rule, other].Sublist rules := by
  rw [Ranked, List.pairwise_iff_forall_sublist]
  constructor
  · intro h rule other hover
    have hne := Rule.ne_of_outranks hover
    refine (sublist_or_sublist (mem_of_perm hperm rule) (mem_of_perm hperm other) hne).resolve_right fun hback => ?_
    cases (h hback).symm.trans hover
  · intro h earlier later hsub
    rw [Bool.eq_false_iff]
    exact fun hover => not_sublist_of_sublist (nodup_of_perm hperm) hsub (h later earlier hover)

theorem ranked_iff (hperm : rules.Perm defaultRules) : Ranked rules ↔
    [.explicit, .property].Sublist rules ∧ [.implicit, .property].Sublist rules ∧ rules.getLast? = some .plain := by
  rw [ranked_iff_sublist hperm, getLast?_eq_some_iff_sublist (nodup_of_perm hperm) (mem_of_perm hperm .plain)]
  constructor
  · intro h
    exact ⟨h _ _ rfl, h _ _ rfl, fun rule _ hne => h rule .plain (Rule.outranks_iff.2 (Or.inr ⟨hne, rfl⟩))⟩
  · rintro ⟨hexplicit, himplicit, hlast⟩ rule other hover
    rcases Rule.outranks_iff.1 hover with ⟨rfl | rfl, rfl⟩ | ⟨hne, rfl⟩
    · exact hexplicit
    · exact himplicit
    · exact hlast rule (mem_of_perm hperm rule) hne

/-! ### Attributes that tell the rules apart -/

/-- An attribute that only its rule binds as it should. -/
def Rule.sample : Rule → Text × Text
  | explicit => ("[attr.x]", "y")
  | implicit => ("[a-b]", "y")
  | property => ("[x]", "y")
  | event => ("(x)", "f()")
  | plain => ("x", "y")

theorem Rule.accepts_sample (rule : Rule) : rule.accepts rule.sample.1 = true := by
  cases rule <;> decide

theorem Rule.accepts_sample_of_outranks (h : rule.outranks other = true) : other.accepts rule.sample.1 = true := by
  revert h
  cases rule <;> cases other <;> decide

theorem Rule.eq_of_bind_sample (h : other.bind .element none rule.sample.1 (some rule.sample.2) =
    rule.bind .element none rule.sample.1 (some rule.sample.2)) : other = rule := by
  revert h
  cases rule <;> cases other <;> decide

theorem classify_of_find? {role : Role} {position : Option Position} {value : Option Text}
    (h : rules.find? (·.accepts key) = some rule) :
    classify rules role position key value = rule.bind role position key value := by
  rw [classify, h]

/-- Where an attribute of a rule's own is bound as by default, that rule is found. -/
theorem find?_sample (hperm : rules.Perm defaultRules)
    (h : classify rules .element none rule.sample.1 (some rule.sample.2) =
      classify defaultRules .element none rule.sample.1 (some rule.sample.2)) :
    rules.find? (·.accepts rule.sample.1) = some rule := by
  have hdefault : defaultRules.find? (·.accepts rule.sample.1) = some rule := by cases rule <;> decide
  have hsome : (rules.find? (·.accepts rule.sample.1)).isSome = true :=
    List.find?_isSome.2 ⟨rule, mem_of_perm hperm rule, rule.accepts_sample⟩
  obtain ⟨found, hfound⟩ := Option.isSome_iff_exists.1 hsome
  rw [classify_of_find? hfound, classify_of_find? hdefault] at h
  rw [hfound, Rule.eq_of_bind_sample h]

theorem ranked_of_classify (hperm : rules.Perm defaultRules)
    (h : ∀ rule : Rule, classify rules .element none rule.sample.1 (some rule.sample.2) =
      classify defaultRules .element none rule.sample.1 (some rule.sample.2)) : Ranked rules := by
  rw [ranked_iff_sublist hperm]
  intro rule other hover
  exact sublist_of_find? (find?_sample hperm (h rule)) (mem_of_perm hperm other)
    (Rule.accepts_sample_of_outranks hover) (Rule.ne_of_outranks hover).symm

/-- Rules in another order bind every attribute alike, the same errors included, exactly if those for `[attr.x]` and for
dashes both come before the one for properties, and the plain one comes last. -/
theorem classify_eq_default_iff (hperm : rules.Perm defaultRules) :
    (∀ role position key value, classify rules role position key value = classify defaultRules role position key value) ↔
      [.explicit, .property].Sublist rules ∧ [.implicit, .property].Sublist rules ∧ rules.getLast? = some .plain := by
  rw [← ranked_iff hperm]
  constructor
  · intro h
    exact ranked_of_classify hperm fun rule => h .element none rule.sample.1 (some rule.sample.2)
  · intro h role position key value
    rw [classify, classify, h.find?_eq ranked_defaultRules hperm]

theorem classify_eq_default_iff_events_first :
    [.event, .implicit, .explicit, .property, .plain].Perm defaultRules ∧
      ∀ role position key value, classify [.event, .implicit, .explicit, .property, .plain] role position key value =
        classify defaultRules role position key value := by
  have hperm : [.event, .implicit, .explicit, .property, .plain].Perm defaultRules := by decide
  exact ⟨hperm, (classify_eq_default_iff hperm).2 ⟨by decide, by decide, rfl⟩⟩

end Binding

end ViewCompiler
