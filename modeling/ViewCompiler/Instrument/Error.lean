import ViewCompiler.Text.Basic

/-!
# Why a class cannot be instrumented
-/

namespace ViewCompiler.Instrument

inductive Cause where
  | argumentCount (method : Text) (line count : Nat)
  | spreadArgument (method : Text) (line : Nat)
  | reservedName (name : Text) (line : Nat) (start : Text)
  deriving DecidableEq, Repr

/-- A cause and the class and method it was found in, as far as they are known. -/
structure Error where
  cause : Cause
  className : Option Text
  methodName : Option Text
  deriving DecidableEq, Repr

def Cause.message : Cause → Text
  | argumentCount method line count =>
      "Expected exactly one argument to ." ++ method ++ "() on line " ++ Text.ofNat line ++ ", got " ++
        Text.ofNat count ++ "."
  | spreadArgument method line =>
      "Cannot instrument a spread argument to ." ++ method ++ "() on line " ++ Text.ofNat line ++ "."
  | reservedName name line start =>
      "Identifier '" ++ name ++ "' on line " ++ Text.ofNat line ++ " uses the reserved prefix '" ++ start ++ "'."

/-- A message behind the class and the method it is about. A method is named only within a class, and an
empty name counts as none. -/
def located (className methodName : Option Text) (message : Text) : Text :=
  match className.getD [], methodName.getD [] with
  | [], _ => message
  | cls, [] => cls ++ ": " ++ message
  | cls, method => cls ++ "." ++ method ++ ": " ++ message

def Error.text (e : Error) : Text := located e.className e.methodName e.cause.message

end ViewCompiler.Instrument
