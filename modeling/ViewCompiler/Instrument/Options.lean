import ViewCompiler.Text.Basic

/-!
# Names and layout of the generated code
-/

namespace ViewCompiler.Instrument

structure Options where
  /-- The indentation of one level of generated code. -/
  indentText : Text := "  "
  /-- The rest parameter of a generated arrow function, and its type. -/
  argsName : Text := "args"
  argsType : Option Text := some "any[]"
  /-- The constant that holds what the callback returned. -/
  resultName : Text := "__wane__result"
  /-- The constructor parameter of an instrumented class: its modifier, its name and its type. -/
  factoryScope : Option Text := some "private"
  factoryName : Text := "__wane__factory"
  factoryType : Text := "any"
  /-- What no name in an instrumented class may start with. -/
  reservedStart : Text := "__wane__"
  deriving DecidableEq, Repr

/-- The statement that runs after a callback unless another one is asked for. -/
def defaultStatement : Text := "this.__wane__factory.__wane__diff()"

namespace Options

def spreadArguments (o : Options) : Text := "..." ++ o.argsName

/-- The rest parameter with its type. An empty type counts as none. -/
def restParameter (o : Options) : Text :=
  match o.argsType with
  | none | some [] => o.spreadArguments
  | some type => o.spreadArguments ++ ": " ++ type

end Options

end ViewCompiler.Instrument
