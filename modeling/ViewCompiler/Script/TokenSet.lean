/-!
# Sets of terminals

The terminals of a grammar are numbered, so a set of them is a number whose bits say which are in it.
-/

namespace ViewCompiler.Script

structure TokenSet where
  bits : Nat
  deriving DecidableEq, Hashable, Repr

namespace TokenSet

instance : EmptyCollection TokenSet := ⟨⟨0⟩⟩

instance : Union TokenSet := ⟨fun s t => ⟨s.bits ||| t.bits⟩⟩

def singleton (t : Nat) : TokenSet := ⟨1 <<< t⟩

def contains (s : TokenSet) (t : Nat) : Bool := s.bits.testBit t

def isEmpty (s : TokenSet) : Bool := s.bits == 0

/-- Whether two sets have a terminal in common. -/
def meets (s t : TokenSet) : Bool := s.bits &&& t.bits != 0

theorem contains_union (s t : TokenSet) (n : Nat) : (s ∪ t).contains n = (s.contains n || t.contains n) :=
  Nat.testBit_or ..

theorem contains_singleton (t n : Nat) : (singleton t).contains n = decide (t = n) := by
  simp [singleton, contains, Nat.one_shiftLeft, Nat.testBit_two_pow]

theorem contains_empty (n : Nat) : (∅ : TokenSet).contains n = false := Nat.zero_testBit n

end TokenSet

end ViewCompiler.Script
