import ViewCompiler.Binding.Basic

/-!
# Binding sets

The bindings of one node, in the order they were added. No two have the same kind and name: a second one
is refused and leaves the set as it was.
-/

namespace ViewCompiler

@[ext]
structure BindingSet where
  items : List Binding
  nodup : (items.map Binding.key).Nodup
  deriving DecidableEq, Repr

/-- The refusal of a binding whose kind and name a set already has. -/
structure BindingSet.Duplicate where
  kind : Binding.Kind
  name : Option Text
  deriving DecidableEq, Repr

namespace BindingSet

def Duplicate.message (d : Duplicate) : Text :=
  match d.name with
  | some name => "Duplicate " ++ d.kind.label ++ " '" ++ name ++ "' binding"
  | none => "Duplicate " ++ d.kind.label ++ " binding"

def empty : BindingSet := ⟨[], List.Pairwise.nil⟩

/-- The set of at most one binding. -/
def ofOption (binding? : Option Binding) : BindingSet := ⟨binding?.toList, by cases binding? <;> simp⟩

def get? (s : BindingSet) (kind : Binding.Kind) (name : Option Text) : Option Binding :=
  s.items.find? (·.key = (kind, name))

def contains (s : BindingSet) (kind : Binding.Kind) (name : Option Text) : Bool := (s.get? kind name).isSome

theorem contains_iff {s : BindingSet} {kind : Binding.Kind} {name : Option Text} :
    s.contains kind name = true ↔ (kind, name) ∈ s.items.map Binding.key := by
  simp only [contains, get?, List.find?_isSome, decide_eq_true_eq, List.mem_map]

theorem nodup_concat {s : BindingSet} {b : Binding} (hnew : ¬ s.contains b.kind b.name? = true) :
    ((s.items ++ [b]).map Binding.key).Nodup := by
  rw [contains_iff] at hnew
  rw [List.map_append, List.nodup_append]
  refine ⟨s.nodup, by simp, fun key hkey other hother heq => hnew ?_⟩
  rw [List.map_singleton, List.mem_singleton] at hother
  rwa [heq, hother] at hkey

def add (s : BindingSet) (b : Binding) : Except Duplicate BindingSet :=
  if hseen : s.contains b.kind b.name? then .error ⟨b.kind, b.name?⟩ else .ok ⟨s.items ++ [b], nodup_concat hseen⟩

/-- The set of some bindings, added one after the other. -/
def ofList (bindings : List Binding) : Except Duplicate BindingSet := bindings.foldlM add empty

/-- The bindings of a kind, in order. -/
def ofKind (s : BindingSet) (kind : Binding.Kind) : List Binding := s.items.filter (·.kind = kind)

def size (s : BindingSet) : Nat := s.items.length

def inspect (s : BindingSet) : Text := "BindingSet([" ++ Text.join ", " (s.items.map Binding.inspect) ++ "])"

end BindingSet

end ViewCompiler
