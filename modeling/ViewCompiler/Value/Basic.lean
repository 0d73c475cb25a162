import ViewCompiler.Text.Blank
import ViewCompiler.Text.Digit
import ViewCompiler.Text.Quoted

/-!
# Values of bindings

What a binding is bound to: a literal copied as it stands, a path of properties of the component, the
event that a handler is called for, or the call of a handler. The arguments of a call are not calls
themselves.
-/

namespace ViewCompiler

/-- A value that can be an argument of a call. -/
inductive Argument where
  | constant (literal : Text)
  | property (path : Text)
  /-- The event that the handler is called for. -/
  | placeholder
  deriving DecidableEq, Repr

inductive Value where
  | plain (argument : Argument)
  | call (name : Text) (arguments : List Argument)
  deriving DecidableEq, Repr

/-- The written form of the placeholder. -/
def Argument.placeholderText : Text := "#"

namespace Argument

def describe : Argument → Text
  | constant literal => "Constant(" ++ literal ++ ")"
  | property path => "PropertyAccess(" ++ path ++ ")"
  | placeholder => "Placeholder(" ++ placeholderText ++ ")"

def inspect : Argument → Text
  | constant literal => "ViewBoundConstant(value=" ++ Text.inspect literal ++ ")"
  | property path => "ViewBoundPropertyAccess(path=" ++ Text.inspect path ++ ")"
  | placeholder => "ViewBoundPlaceholder()"

/-- An argument as it is written in a template. -/
def print : Argument → Text
  | constant literal => literal
  | property path => path
  | placeholder => placeholderText

end Argument

namespace Value

def describe : Value → Text
  | plain argument => argument.describe
  | call name arguments => "MethodCall(" ++ name ++ ", [" ++ Text.join ", " (arguments.map Argument.describe) ++ "])"

def inspect : Value → Text
  | plain argument => argument.inspect
  | call name arguments =>
      "ViewBoundMethodCall(name=" ++ Text.inspect name ++ ", args=" ++
        Text.inspectTuple (arguments.map Argument.inspect) ++ ")"

/-- Why a value cannot stand where it was put. -/
inductive Misplaced where
  | callAsArgument (value : Value)
  | textNotConstant (value : Value)
  deriving DecidableEq, Repr

def Misplaced.message : Misplaced → Text
  | callAsArgument value => "Unsupported method call argument: " ++ value.inspect
  | textNotConstant value => "TextBinding requires a constant value, got " ++ value.inspect

def toArgument : Value → Except Misplaced Argument
  | plain argument => .ok argument
  | call name arguments => .error (.callAsArgument (call name arguments))

/-- The call of a handler with the given values, none of which may be a call. -/
def callOf (name : Text) (values : List Value) : Except Misplaced Value := do
  return call name (← values.mapM toArgument)

end Value

/-! ### Literals and paths -/

def keywordLiterals : List Text := ["null".toList, "undefined".toList, "true".toList, "false".toList]

def isQuoteMark (c : Char) : Bool := c == '\'' || c == '"' || c == '`'

/-- Whether an expression is a literal: a keyword, or anything that starts like a string or a number. -/
def isLiteral (t : Text) : Bool :=
  keywordLiterals.contains t || t.head?.any fun c => isQuoteMark c || Text.isDigit c || c == '.'

/-- A text without the line feed it may end in. -/
def withoutFinalNewline (t : Text) : Text := if t.getLast? = some '\n' then t.dropLast else t

def isPathChar (c : Char) : Bool := c.isAlpha || c == '.'

/-- Whether a text is a path: letters and dots only, perhaps none, and perhaps a line feed at the end. -/
def isPath (t : Text) : Bool := (withoutFinalNewline t).all isPathChar

/-- Whether a text is a path or the negation of one. -/
def isCondition (t : Text) : Bool :=
  match t with
  | '!' :: path => isPath path
  | _ => isPath t

/-- The argument that an expression denotes. -/
def Argument.ofText (t : Text) : Argument :=
  let expression := t.strip
  if isLiteral expression then .constant expression else .property expression

/-- The value that an expression other than a call denotes. -/
def Value.ofText (t : Text) : Value := .plain (.ofText t)

end ViewCompiler
