import ViewCompiler.Binding.Set
import ViewCompiler.Text.Integer
import ViewCompiler.Text.Position

/-!
# Errors in templates

An error is a cause, the position it is reported at, and the file the template came from. What else
may go wrong while a template is read (`Failure`) is a fault of its surroundings: a classifier that
leaves out an attribute, or a markup reference that is no number or too long a one.
-/

namespace ViewCompiler.Template

inductive Cause where
  | invalidCall
  | missingValue (key : Text)
  | missingCondition
  | conditionNotPath
  | loopShape
  | loopNames
  | loopVariable (name : Text)
  | loopClause
  | loopKeyword (word : Text)
  | loopKeyPath
  | unsupportedDirective (tag : Text)
  | duplicateBinding (duplicate : BindingSet.Duplicate) (tag : Text)
  | unclosedTag (tag : Text)
  | malformedAttribute (tag : Text)
  deriving DecidableEq, Repr

def Cause.message : Cause → Text
  | invalidCall => "Invalid method invocation."
  | missingValue key => "Binding '" ++ key ++ "' requires a value."
  | missingCondition => "Must specify the condition in w:if."
  | conditionNotPath => "The conditional for w:if must be a property name."
  | loopShape => "Expected '<item> of <items>' in w:for."
  | loopNames => "Expected '(item, index)' in w:for."
  | loopVariable name => "Invalid variable name '" ++ name ++ "' in w:for."
  | loopClause => "Bad format after \";\" in w:for."
  | loopKeyword word => "Key \"" ++ word ++ "\" not supported in w:for."
  | loopKeyPath => "The key must be simple property access."
  | unsupportedDirective tag => "Unsupported directive <" ++ tag ++ ">."
  | duplicateBinding duplicate tag => duplicate.message ++ " on <" ++ tag ++ ">."
  | unclosedTag tag => "Unclosed start tag <" ++ tag ++ ">."
  | malformedAttribute tag => "Malformed attribute in <" ++ tag ++ ">."

/-- An error as it is shown: a message with a place. A template without a file has an empty file name. -/
structure Report where
  message : Text
  file : Text
  line : Int
  column : Int
  deriving DecidableEq, Repr

def Report.text (r : Report) : Text :=
  let text := "Parse Error (" ++ Text.ofInt r.line ++ ":" ++ Text.ofInt r.column ++ "): " ++ r.message
  if r.file.isEmpty then text else r.file ++ ": " ++ text

/-- A message at a position. Without one it is reported at 0:0. -/
def Report.at (position : Option Position) (message file : Text) : Report :=
  match position with
  | some p => ⟨message, file, p.line, p.column⟩
  | none => ⟨message, file, 0, 0⟩

structure Error where
  cause : Cause
  position : Option Position
  file : Text := []
  deriving DecidableEq, Repr

def Error.report (e : Error) : Report := .at e.position e.cause.message e.file

def Error.text (e : Error) : Text := e.report.text

inductive Failure where
  | refused (error : Error)
  /-- No rule of the classifier accepts the attribute. -/
  | unclassified (key : Text)
  /-- The reference of an element is not a number. -/
  | badReference (text : Text)
  /-- The reference of an element has too many digits. -/
  | longReference (digits : Nat)
  deriving DecidableEq, Repr

/-- The length up to which a bad reference is shown. -/
def shownLength : Nat := 200

def Failure.message : Failure → Text
  | refused error => error.cause.message
  | unclassified key => "No attribute parser accepts '" ++ key ++ "'"
  | badReference text => "invalid literal for int() with base 10: " ++ text.inspect.take shownLength
  | longReference digits =>
      "Exceeds the limit (" ++ Text.ofNat Text.maxDigits ++ " digits) for integer string conversion: value has " ++
        Text.ofNat digits ++ " digits; use sys.set_int_max_str_digits() to increase the limit"

/-- A failure for a cause at a position. -/
def refuse {α : Type} (position : Option Position) (cause : Cause) : Except Failure α :=
  .error (.refused { cause, position })

end ViewCompiler.Template
