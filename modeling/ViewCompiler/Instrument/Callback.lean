import ViewCompiler.Edit.Basic
import ViewCompiler.Instrument.CallSite
import ViewCompiler.Instrument.Options
import ViewCompiler.Text.Blank
import ViewCompiler.Text.Indentation
import ViewCompiler.Writer

/-!
# Wrapping a callback

A callback is first brought to the form of a function with a block body (`expandArrow`,
`expandCallback`), then called from within a wrapper that runs the injected code after it and returns
what it returned (`inject`). Each step is an edit that renders the current text of the callback, so
callbacks nested in a callback come out instrumented as well.

Code that starts in the middle of a line carries the indentation of that line; it is taken off before
the code is written into its new place and put on again for the whole of the result.
-/

namespace ViewCompiler.Instrument

open Script

/-- The statements that run after a callback, as something that writes them. -/
abbrev Injection := Slot → Writer → Writer

/-- Injects the same statement after every callback. -/
def injectStatement (statement : Text) : Injection := fun _ w => w.writeLine statement

def arrowLabel : Text := "expand-arrow"

def callbackLabel : Text := "expand-callback"

def injectLabel : Text := "inject-callback"

/-- A block that returns a value, as the body of an arrow function. -/
def returnBlock (o : Options) (base value : Text) : Text :=
  let body := fun (w : Writer) => w.writeLine ("return " ++ Text.dedent base value)
  Text.indent base ((((Writer.empty o.indentText).write "\x7b").block body).write "\x7d").text

/-- An arrow function that passes all its arguments on to a function. -/
def forwardingArrow (o : Options) (base function : Text) : Text :=
  let body := fun (w : Writer) =>
    w.writeLine ("return " ++ Text.dedent base function ++ "(" ++ o.spreadArguments ++ ")")
  let head := "(" ++ o.restParameter ++ ") => \x7b"
  Text.indent base ((((Writer.empty o.indentText).write head).block body).write "\x7d").text

/-- An arrow function that calls the callback, runs the injected code and returns the callback's result. -/
def wrapper (o : Options) (code : Writer → Writer) (base callback : Text) : Text :=
  let call := "const " ++ o.resultName ++ " = (" ++ Text.dedent base callback ++ ")(" ++ o.spreadArguments ++ ")"
  let body := fun (w : Writer) => (code (w.writeLine call)).writeLine ("return " ++ o.resultName)
  let head := "(" ++ o.restParameter ++ ") => \x7b"
  Text.indent base ((((Writer.empty o.indentText).write head).block body).write "\x7d").text

/-- The value of a concise body: what stands between the brackets of a parenthesized one. -/
def conciseValue (parenthesized : Bool) (body : Text) : Text :=
  if parenthesized then Text.strip ((body.drop 1).dropLast) else body

def rangeIn (doc : Document) (n : Node) : Range :=
  ⟨(doc.rangeOf n).1, (doc.rangeOf n).2, Int.ofNat_le.2 (doc.rangeOf_le n)⟩

/-- The edit that gives an arrow function a block body, unless it has one or the edit is planned already. -/
def expandArrow? (doc : Document) (o : Options) (plan : Plan) (arrow : Node) : Option Edit :=
  match arrow.child? .body with
  | none => none
  | some body =>
      let range := rangeIn doc body
      if body.kind = .block || plan.has range (some arrowLabel) then none
      else
        let base := doc.lineIndent (doc.rangeOf body).1
        let bracketed := body.kind = .parenthesized
        some ⟨range, fun current => returnBlock o base (conciseValue bracketed current), some arrowLabel⟩

/-- The edit that brings a callback to the form of a function: an arrow function gets a block body, a name
or a call is wrapped in an arrow function that passes its arguments on. Anything else stays as it is. -/
def expandCallback? (doc : Document) (o : Options) (plan : Plan) (slot : Slot) : Option Edit :=
  let node := slot.argument
  if node.kind = .arrow then expandArrow? doc o plan node
  else if node.kind = .call || node.kind = .identifier then
    let range := rangeIn doc node
    if plan.has range (some callbackLabel) then none
    else some ⟨range, forwardingArrow o (doc.indentOf node), some callbackLabel⟩
  else none

/-- The edit that wraps a callback so that the injected code runs after it. -/
def injectEdit (doc : Document) (o : Options) (code : Writer → Writer) (slot : Slot) : Edit :=
  ⟨rangeIn doc slot.argument, wrapper o code (doc.indentOf slot.argument), some injectLabel⟩

/-- Plans an edit if there is one, and says whether there was. -/
def addSome (plan : Plan) : Option Edit → Bool × Plan
  | some e => (true, plan.add e)
  | none => (false, plan)

/-- Plans a block body for an arrow function, and says whether it had to. -/
def expandArrow (doc : Document) (o : Options) (plan : Plan) (arrow : Node) : Bool × Plan :=
  addSome plan (expandArrow? doc o plan arrow)

/-- Plans the form of a function for a callback, and says whether it had to. -/
def expandCallback (doc : Document) (o : Options) (plan : Plan) (slot : Slot) : Bool × Plan :=
  addSome plan (expandCallback? doc o plan slot)

def inject (doc : Document) (o : Options) (code : Writer → Writer) (plan : Plan) (slot : Slot) : Plan :=
  plan.add (injectEdit doc o code slot)

end ViewCompiler.Instrument
