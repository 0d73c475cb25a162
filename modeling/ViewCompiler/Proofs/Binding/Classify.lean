import ViewCompiler.Binding.Classify
import ViewCompiler.Proofs.Members
import ViewCompiler.Proofs.Sequence
import ViewCompiler.Proofs.Text.Strip

/-!
# What an attribute can be bound to

Whatever rule an attribute falls under, its target is one that its carrier has (`Role.targets`), and the target decides
the shape of the value: an event or an output is given the call of a handler, everything else a literal or a path.
-/

namespace ViewCompiler

/-! ### Shapes of values -/

/-- An argument under the name that its text asks for. -/
def Argument.Resolved : Argument → Prop
  | constant literal => isLiteral literal = true
  | property path => isLiteral path = false
  | placeholder => True

/-- The call of a handler, whose name ends where its arguments begin. -/
def Value.IsHandler (value : Value) : Prop :=
  ∃ name arguments, value = .call name arguments ∧ name ≠ [] ∧ '(' ∉ name ∧ ∀ a ∈ arguments, a.Resolved

/-- A literal or a path. -/
def Value.IsData (value : Value) : Prop := ∃ a : Argument, value = .plain a ∧ a ≠ .placeholder ∧ a.Resolved

/-- Whether bindings of a kind call a handler. -/
def Binding.Kind.handles : Binding.Kind → Bool
  | named .event | named .output => true
  | _ => false

def Binding.Sound (b : Binding) : Prop := if b.kind.handles then b.value.IsHandler else b.value.IsData

def Binding.Role.targets : Binding.Role → List Binding.Target
  | element => [.attr, .property, .event]
  | component => [.attr, .input, .output]

variable {value : Value} {t : Text}

theorem Argument.resolved_ofText (t : Text) : (Argument.ofText t).Resolved := by
  simp only [ofText]
  split
  · exact ‹_›
  · exact Bool.eq_false_iff.2 ‹_›

theorem Argument.ofText_ne_placeholder (t : Text) : Argument.ofText t ≠ .placeholder := by
  simp only [ofText]
  split <;> exact nofun

theorem Value.isData_ofText (t : Text) : (Value.ofText t).IsData :=
  ⟨_, rfl, Argument.ofText_ne_placeholder t, Argument.resolved_ofText t⟩

theorem Value.isData_quote (t : Text) : (Value.plain (.constant t.quote)).IsData := by
  refine ⟨_, rfl, nofun, ?_⟩
  show isLiteral t.quote = true
  simp [isLiteral, Text.quote, isQuoteMark]

/-! ### Calls -/

namespace Expression

theorem resolved_of_argument? {a : Argument} (h : argument? t = some a) : a.Resolved := by
  simp only [argument?] at h
  split at h
  · cases h
  split at h
  · cases h
    trivial
  · cases h
    exact Argument.resolved_ofText _

theorem resolved_of_arguments? {arguments : List Argument} (h : arguments? t = some arguments) :
    ∀ a ∈ arguments, a.Resolved := by
  simp only [arguments?] at h
  split at h
  · cases h
    exact nofun
  · intro a ha
    obtain ⟨part, -, hpart⟩ := exists_of_mem_right (mapM_eq_some_iff.1 h) ha
    exact resolved_of_argument? hpart

theorem isHandler_of_call? (h : call? t = some value) : value.IsHandler := by
  simp only [call?] at h
  split at h
  · cases h
  split at h
  · cases h
  rename_i hname
  obtain ⟨arguments, harguments, rfl⟩ := Option.map_eq_some_iff.1 h
  rw [Bool.or_eq_true, not_or, List.isEmpty_iff] at hname
  refine ⟨_, arguments, rfl, hname.1, fun hparen => ?_, resolved_of_arguments? harguments⟩
  have hhead := List.mem_takeWhile_imp ((Text.strip_infix _).subset hparen)
  exact absurd hhead (by decide)

end Expression

/-! ### Rules -/

namespace Binding

open Template (Failure)

variable {rule : Rule} {role : Role} {position : Option Position} {key : Text} {written : Option Text} {b : Binding}

/-- A binding that its carrier may have. -/
def FitsOn (b : Binding) (role : Role) : Prop := b.Sound ∧ ∃ target ∈ role.targets, b.kind = .named target

theorem withValue_eq_ok {α : Type} {next : Text → Except Failure α} {a : α}
    (h : withValue key written position next = .ok a) : ∃ t, next t = .ok a := by
  cases written with
  | none => cases h
  | some t => exact ⟨t, h⟩

theorem fitsOn_attr {name : Text} (hvalue : value.IsData) : (named .attr name value).FitsOn role := by
  refine ⟨hvalue, .attr, ?_, rfl⟩
  cases role <;> decide

theorem fitsOn_property {name : Text} (hvalue : value.IsData) : (named role.property name value).FitsOn role := by
  cases role with
  | element => exact ⟨hvalue, .property, by decide, rfl⟩
  | component => exact ⟨hvalue, .input, by decide, rfl⟩

theorem fitsOn_event {name : Text} (hvalue : value.IsHandler) : (named role.event name value).FitsOn role := by
  cases role with
  | element => exact ⟨hvalue, .event, by decide, rfl⟩
  | component => exact ⟨hvalue, .output, by decide, rfl⟩

theorem isHandler_of_call (h : Expression.call position t = .ok value) : value.IsHandler := by
  unfold Expression.call at h
  split at h
  · rename_i found hfound
    cases h
    exact Expression.isHandler_of_call? hfound
  · cases h

theorem fitsOn_of_bind (h : rule.bind role position key written = .ok b) : b.FitsOn role := by
  cases rule with
  | explicit =>
      obtain ⟨t, ht⟩ := withValue_eq_ok h
      cases ht
      exact fitsOn_attr (Value.isData_ofText t)
  | implicit =>
      simp only [Rule.bind] at h
      split at h
      · obtain ⟨t, ht⟩ := withValue_eq_ok h
        cases ht
        exact fitsOn_attr (Value.isData_ofText t)
      · cases h
        exact fitsOn_attr (Value.isData_quote _)
  | property =>
      obtain ⟨t, ht⟩ := withValue_eq_ok h
      cases ht
      exact fitsOn_property (Value.isData_ofText t)
  | event =>
      obtain ⟨t, ht⟩ := withValue_eq_ok h
      obtain ⟨handler, hhandler, hnamed⟩ := bind_eq_ok ht
      cases hnamed
      exact fitsOn_event (isHandler_of_call hhandler)
  | plain =>
      cases written with
      | none =>
          cases h
          exact fitsOn_attr (Value.isData_quote _)
      | some t =>
          cases h
          exact fitsOn_property (Value.isData_quote t)

theorem fitsOn_of_classify {rules : List Rule} (h : classify rules role position key written = .ok b) :
    b.FitsOn role := by
  unfold classify at h
  split at h
  · exact fitsOn_of_bind h
  · cases h

end Binding

end ViewCompiler
