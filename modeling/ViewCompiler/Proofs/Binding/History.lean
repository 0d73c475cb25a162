import ViewCompiler.Proofs.Binding.Set
import ViewCompiler.Proofs.Firsts

/-!
# The history of a binding set

Bindings are added to a set one after the other. One that is refused leaves the set as it was, and the next one is
added to that. Whatever the history, the set holds the first binding of each key in the order they came
(`items_history`), and what the set answers is what its history answers.
-/

namespace ViewCompiler

/-- Every kind of binding. -/
def Binding.Kind.all : List Binding.Kind :=
  [.named .attr, .named .property, .named .event, .named .input, .named .output, .conditional, .repeating,
    .interpolation, .text]

theorem Binding.Kind.mem_all (kind : Binding.Kind) : kind ∈ all := by
  cases kind with
  | named target => cases target <;> decide
  | _ => decide

namespace BindingSet

variable {s : BindingSet} {b : Binding} {kind kind' : Binding.Kind}

/-- The set after an addition, whether or not it is refused. -/
def after (s : BindingSet) (b : Binding) : BindingSet :=
  match s.add b with
  | .ok added => added
  | .error _ => s

/-- The set that is left when bindings have been added to the empty set one after the other. -/
def history (bindings : List Binding) : BindingSet := bindings.foldl after empty

/-! ### One addition -/

theorem items_after (s : BindingSet) (b : Binding) :
    (s.after b).items = if b.key ∈ s.items.map Binding.key then s.items else s.items ++ [b] := by
  rw [after]
  cases hadd : s.add b with
  | error d => rw [if_pos (add_eq_error_iff.1 hadd).1]
  | ok added => rw [if_neg (add_eq_ok_iff.1 hadd).1, (add_eq_ok_iff.1 hadd).2]

/-! ### All additions -/

theorem history_concat (bindings : List Binding) (b : Binding) :
    history (bindings ++ [b]) = (history bindings).after b := by
  rw [history, List.foldl_append]
  rfl

theorem items_history (bindings : List Binding) : (history bindings).items = firsts Binding.key bindings := by
  induction bindings using List.reverseRecOn with
  | nil => rfl
  | append_singleton bindings b ih =>
      rw [history_concat, items_after, ih, firsts_concat]
      by_cases hseen : b.key ∈ bindings.map Binding.key
      · rw [if_pos hseen, if_pos (mem_keys_firsts.2 hseen)]
      · rw [if_neg hseen, if_neg (mem_keys_firsts.not.2 hseen)]

theorem contains_history {bindings : List Binding} {name : Option Text} :
    (history bindings).contains kind name = true ↔ (kind, name) ∈ bindings.map Binding.key := by
  rw [contains_iff, items_history, mem_keys_firsts]

theorem get?_history (bindings : List Binding) (kind : Binding.Kind) (name : Option Text) :
    (history bindings).get? kind name = bindings.find? (·.key = (kind, name)) := by
  rw [get?, items_history, find?_firsts]

/-! ### The bindings of a kind -/

theorem mem_ofKind : b ∈ s.ofKind kind ↔ b ∈ s.items ∧ b.kind = kind := by
  rw [ofKind, List.mem_filter, decide_eq_true_eq]

theorem disjoint_ofKind (s : BindingSet) (h : kind ≠ kind') : (s.ofKind kind).Disjoint (s.ofKind kind') := by
  intro b hb hb'
  exact h ((mem_ofKind.1 hb).2.symm.trans (mem_ofKind.1 hb').2)

theorem perm_ofKind (s : BindingSet) : (Binding.Kind.all.flatMap s.ofKind).Perm s.items := by
  have h : s.items.Nodup := s.nodup.of_map Binding.key
  have hkinds : (Binding.Kind.all.flatMap s.ofKind).Nodup := by
    rw [List.nodup_flatMap]
    refine ⟨fun kind _ => h.filter _, ?_⟩
    have hdistinct : Binding.Kind.all.Nodup := by decide
    exact hdistinct.imp fun hne => disjoint_ofKind s hne
  rw [List.perm_ext_iff_of_nodup hkinds h]
  intro b
  simp only [List.mem_flatMap, mem_ofKind]
  exact ⟨fun ⟨_, _, hb, _⟩ => hb, fun hb => ⟨b.kind, b.kind.mem_all, hb, rfl⟩⟩

/-- A set holds those bindings of its history, in order, whose key had not come before. An addition is refused exactly
if its key is there already, and then nothing changes. A key is looked up as the first binding that was added with it,
and the bindings of the several kinds make up the set. -/
theorem history_keeps_firsts (bindings : List Binding) :
    (history bindings).items = firsts Binding.key bindings ∧
      (∀ b, ((∃ d, (history bindings).add b = .error d) ↔ (history bindings).contains b.kind b.name? = true) ∧
        ∀ d, (history bindings).add b = .error d →
          d = ⟨b.kind, b.name?⟩ ∧ history (bindings ++ [b]) = history bindings) ∧
      (∀ kind name, ((history bindings).contains kind name = true ↔ (kind, name) ∈ bindings.map Binding.key) ∧
        (history bindings).get? kind name = bindings.find? (·.key = (kind, name))) ∧
      (∀ kind, (history bindings).ofKind kind = (firsts Binding.key bindings).filter (·.kind = kind)) ∧
      (∀ kind kind', kind ≠ kind' → ((history bindings).ofKind kind).Disjoint ((history bindings).ofKind kind')) ∧
      (Binding.Kind.all.flatMap (history bindings).ofKind).Perm (history bindings).items := by
  refine ⟨items_history bindings, fun b => ⟨?_, fun d hrefused => ?_⟩, fun kind name => ?_, fun kind => ?_, ?_, ?_⟩
  · simp only [add_eq_error_iff, exists_and_left, exists_eq, and_true]
    exact contains_iff.symm
  · refine ⟨(add_eq_error_iff.1 hrefused).2, ?_⟩
    rw [history_concat, after, hrefused]
  · exact ⟨contains_history, get?_history bindings kind name⟩
  · rw [ofKind, items_history]
  · exact fun kind kind' hne => disjoint_ofKind _ hne
  · exact perm_ofKind _

/-- Two conditions have one key, since neither has a name; an attribute and a property of one name have two. -/
theorem history_keeps_firsts_unnamed :
    let bindings : List Binding := [.conditional (.ofText "a") false, .named .attr "x" (.ofText "b"),
      .conditional (.ofText "c") true, .named .property "x" (.ofText "d"), .named .attr "x" (.ofText "e")]
    (history bindings).items = [.conditional (.ofText "a") false, .named .attr "x" (.ofText "b"),
        .named .property "x" (.ofText "d")] ∧
      (history bindings).get? .conditional none = some (.conditional (.ofText "a") false) ∧
      history (bindings ++ [.conditional (.ofText "f") false]) = history bindings ∧
      ((history bindings).ofKind (.named .attr)).Disjoint ((history bindings).ofKind (.named .property)) := by
  intro bindings
  obtain ⟨hitems, hadd, hanswers, -, hdisjoint, -⟩ := history_keeps_firsts bindings
  have hrefused : (history bindings).add (.conditional (.ofText "f") false) = .error ⟨.conditional, none⟩ := by
    decide +kernel
  refine ⟨hitems.trans (by decide +kernel), (hanswers .conditional none).2.trans (by decide +kernel),
    ((hadd _).2 _ hrefused).2, hdisjoint _ _ (by decide)⟩

end BindingSet

end ViewCompiler
