import ViewCompiler.Text.Basic

/-!
# Log records

What the compiler reports besides its results. Records are returned as data; the command line decides
which of them it shows.
-/

namespace ViewCompiler

inductive Log.Level where
  | debug
  | info
  | warning
  | error
  deriving DecidableEq, Repr

/-- The part of the compiler that a record comes from. -/
inductive Log.Origin where
  | templates
  | instrumentation
  | settings
  deriving DecidableEq, Repr

structure Log.Record where
  level : Log.Level
  origin : Log.Origin
  message : Text
  deriving DecidableEq, Repr

namespace Log

def Level.name : Level → Text
  | debug => "DEBUG"
  | info => "INFO"
  | warning => "WARNING"
  | error => "ERROR"

def Origin.name : Origin → Text
  | templates => "wane.compiler.parser"
  | instrumentation => "wane.compiler.codegen.wrap_async_code"
  | settings => "wane.config"

/-- A record as one line. -/
def Record.line (r : Record) : Text := r.level.name ++ " " ++ r.origin.name ++ ": " ++ r.message

end Log

end ViewCompiler
