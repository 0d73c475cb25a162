import ViewCompiler.Script.Construct
import ViewCompiler.Script.Lexeme

/-!
# Rules of a grammar

A rule says what a construct consists of: terminals, other constructs, sequences of rules, choices
between rules and repetitions. A part of a rule may be shown as a node of another kind than its own
and may play a role in the node of the construct. The grammar is ambiguous; strengths, groupings and
weights say which reading is meant.

A piece of text may be written where a rule is expected, and stands for the terminal spelled that way.
-/

namespace ViewCompiler.Script

inductive Terminal where
  | literal (spelling : String)
  | lexeme (l : Lexeme)
  /-- The end of the script. -/
  | finish
  deriving DecidableEq, Hashable, Repr

/-- How strongly a rule holds what it has read, where another rule could go on with it. The first four are
numbers, which compare with each other; the other strengths compare by the lists of the grammar. -/
inductive Strength where
  | unset
  | lowered
  | plain
  | raised
  | member
  | taggedTemplate
  | call
  | creation
  | instantiation
  | assertion
  | unary
  | power
  | product
  | sum
  | shift
  | relation
  | equality
  | bitAnd
  | bitXor
  | bitOr
  | logicalAnd
  | logicalOr
  | conditional
  | cast
  | assignment
  | superclass
  | declaration
  | literal
  | object
  deriving DecidableEq, Hashable, Repr

/-- The number of a strength, where it has one. -/
def Strength.number? : Strength → Option Int
  | .lowered => some (-1)
  | .plain => some 0
  | .raised => some 1
  | _ => none

/-- Which way operands of equal strength are grouped. -/
inductive Grouping where
  | left
  | right
  deriving DecidableEq, Hashable, Repr

/-- An entry in a list of what holds more strongly than what. -/
inductive Rank where
  | level (s : Strength)
  | construct (c : Construct)

instance : Coe Construct Rank := ⟨.construct⟩

inductive Rule where
  | nothing
  | terminal (t : Terminal)
  | construct (c : Construct)
  /-- All the parts, one after the other. -/
  | all (parts : List Rule)
  /-- One of the options. -/
  | any (options : List Rule)
  /-- The rule once or more often. -/
  | repeated (rule : Rule)
  | held (strength : Strength) (grouping : Option Grouping) (rule : Rule)
  /-- Counts for or against every reading that the rule takes part in. -/
  | weighted (weight : Int) (rule : Rule)
  /-- Shows the parts of the rule as nodes of the given kind. -/
  | shown (kind : Kind) (rule : Rule)
  | role (role : Role) (rule : Rule)

namespace Rule

instance : Coe String Rule := ⟨fun spelling => .terminal (.literal spelling)⟩

instance : Coe Construct Rule := ⟨.construct⟩

def level (s : Strength) : Rank := .level s

def lexeme (l : Lexeme) : Rule := .terminal (.lexeme l)

def identifier : Rule := lexeme .identifier

def automaticSemicolon : Rule := lexeme .automaticSemicolon

def openBrace : Rule := "\x7b"

def closeBrace : Rule := "\x7d"

def seq (parts : List Rule) : Rule := .all parts

def oneOf (options : List Rule) : Rule := .any options

def optional (rule : Rule) : Rule := .any [rule, .nothing]

/-- The rule any number of times. -/
def many (rule : Rule) : Rule := optional (.repeated rule)

/-- The rule once or more often, with separators in between. -/
def sepBy1 (separator rule : Rule) : Rule := seq [rule, many (seq [separator, rule])]

def commaSep1 (rule : Rule) : Rule := sepBy1 "," rule

def commaSep (rule : Rule) : Rule := optional (commaSep1 rule)

def strength (s : Strength) (rule : Rule) : Rule := .held s none rule

def left (s : Strength) (rule : Rule) : Rule := .held s (some .left) rule

def right (s : Strength) (rule : Rule) : Rule := .held s (some .right) rule

end Rule

end ViewCompiler.Script
