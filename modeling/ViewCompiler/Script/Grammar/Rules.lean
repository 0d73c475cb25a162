import ViewCompiler.Script.Automaton
import ViewCompiler.Script.Grammar.Classes
import ViewCompiler.Script.Grammar.Expressions
import ViewCompiler.Script.Grammar.Modules
import ViewCompiler.Script.Grammar.Patterns
import ViewCompiler.Script.Grammar.Statements
import ViewCompiler.Script.Grammar.Strengths
import ViewCompiler.Script.Grammar.Types

/-!
# The grammar as a whole
-/

namespace ViewCompiler.Script.Grammar

def rules : List (Construct × Rule) :=
  moduleRules ++ statementRules ++ expressionRules ++ patternRules ++ classRules ++ typeRules

/-- The automaton that reads scripts. -/
def automaton : Automaton := .ofRules rules strengths

end ViewCompiler.Script.Grammar
