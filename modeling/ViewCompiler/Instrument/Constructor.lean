import ViewCompiler.Edit.Basic
import ViewCompiler.Instrument.CallSite
import ViewCompiler.Instrument.Options
import ViewCompiler.Log

/-!
# The constructor parameter of an instrumented class

The parameter goes behind the last parameter of the constructor that has a body. A class without one
gets a constructor as its first member, laid out like the members it already has.
-/

namespace ViewCompiler.Instrument

open Script

def constructorLabel : Text := "constructor"

def parameterLabel : Text := "constructor-param"

/-- A parameter as it is written. An empty modifier counts as none. -/
def parameterText (scope : Option Text) (name type : Text) : Text :=
  match scope with
  | none | some [] => name ++ ": " ++ type
  | some word => word ++ " " ++ name ++ ": " ++ type

/-- What stands between the brackets of a parameter list, if it has room for both. -/
def interior? (doc : Document) (parameters : Node) : Option Range :=
  Range.make? ((doc.rangeOf parameters).1 + 1) ((doc.rangeOf parameters).2 - 1)

/-- The edit that adds a parameter to a constructor. It goes behind the last one that is there, or takes the place of
all that stands between the brackets. A list that was read has both brackets; one without them is only added to. -/
def parameterEdit (doc : Document) (parameters : Node) (parameter : Text) : Edit :=
  match parameters.parts.getLast?, interior? doc parameters with
  | some last, _ => .insertion (doc.rangeOf last).2 (", " ++ parameter) (some parameterLabel)
  | none, some interior => .replacement interior parameter (some parameterLabel)
  | none, none => .insertion ((doc.rangeOf parameters).1 + 1) parameter (some parameterLabel)

/-- A constructor with one parameter as it is inserted after the brace that opens a class body: on the
brace's line where the first member is, else on a line of its own. -/
def constructorText (doc : Document) (o : Options) (body : Node) (parameter : Text) : Text :=
  let declaration := "constructor (" ++ parameter ++ ") \x7b \x7d"
  let classIndent := doc.lineIndent (doc.rangeOf body).1
  match body.parts with
  | first :: _ =>
      if doc.lineOf first = doc.lineOf body then " " ++ declaration
      else "\n" ++ doc.indentOf first ++ declaration
  | [] =>
      let line := "\n" ++ classIndent ++ o.indentText ++ declaration
      if doc.lineOf body < doc.lineAt body.stop then line else line ++ "\n" ++ classIndent

/-- The edit that gives a class a constructor parameter, and the record of it. -/
def constructorEdit? (doc : Document) (o : Options) (cls : Node) (scope : Option Text) (name type : Text) :
    Option (Edit × Log.Record) :=
  let parameter := parameterText scope name type
  match constructor? doc cls with
  | some constructor =>
      (constructor.child? .parameters).map fun parameters =>
        (parameterEdit doc parameters parameter,
          ⟨.debug, .instrumentation, "Added " ++ name ++ " to constructor of " ++ doc.className cls⟩)
  | none =>
      (cls.child? .body).map fun body =>
        (.insertion ((doc.rangeOf body).1 + 1) (constructorText doc o body parameter) (some constructorLabel),
          ⟨.debug, .instrumentation, "Synthesized constructor for " ++ doc.className cls⟩)

end ViewCompiler.Instrument
