import ViewCompiler.Text.Basic

/-!
# Settings

What a settings file can say: the indentation of generated code, the type of the constructor parameter,
the statement that runs after a callback, and the directory of the templates.
-/

namespace ViewCompiler

/-- The value of a setting. -/
inductive Setting where
  | text (value : Text)
  | integer (value : Int)
  | nothing
  deriving DecidableEq, Repr

/-- A value written out. -/
def Setting.print : Setting → Text
  | text value => value
  | integer value => Text.ofInt value
  | nothing => "None"

structure Settings where
  indentation : Option Setting := none
  factoryType : Option Setting := none
  statement : Option Setting := none
  templates : Option Text := none
  deriving DecidableEq, Repr

end ViewCompiler
