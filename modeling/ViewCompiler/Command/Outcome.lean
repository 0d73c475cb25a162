import ViewCompiler.Command.Arguments
import ViewCompiler.Files.Basic
import ViewCompiler.Instrument.Run
import ViewCompiler.Settings.Basic
import ViewCompiler.Template.Parse
import ViewCompiler.Text.Styled

/-!
# Outcomes of commands

A command turns files into an outcome: what it prints, the files afterwards, and how it ended.
-/

namespace ViewCompiler.Command

/-- A failure that no command expects. -/
inductive Crash where
  | template (failure : Template.Failure)
  | edit (error : Edit.Error)
  | unreadable (obstacle : Files.Obstacle)
  /-- The indentation is not a text. -/
  | indentation (value : Setting)
  /-- The statement to inject is not a text. -/
  | statement (value : Setting)
  deriving DecidableEq, Repr

def Crash.message : Crash → Text
  | template failure => failure.message
  | edit error => error.message
  | unreadable obstacle => obstacle.message
  | indentation .nothing => "unsupported operand type(s) for *: 'NoneType' and 'int'"
  | indentation _ => "unsupported operand type(s) for +: 'int' and 'str'"
  | statement .nothing => "'NoneType' object has no attribute 'split'"
  | statement _ => "'int' object has no attribute 'split'"

/-- What has been printed so far, and the files as they are now. -/
structure Session where
  files : Files
  verbose : Bool := false
  out : Text := []
  err : Text := []
  deriving DecidableEq, Repr

/-- How a command ended. -/
inductive Ending where
  | done
  | failed
  | misused
  | crashed (crash : Crash)
  deriving DecidableEq, Repr

def Ending.exitCode : Ending → Nat
  | done => 0
  | failed | crashed _ => 1
  | misused => 2

structure Outcome where
  session : Session
  ending : Ending
  deriving DecidableEq, Repr

namespace Session

def print (s : Session) (text : Text) : Session := { s with out := s.out ++ text.withoutStyle }

def printLine (s : Session) (text : Text) : Session := s.print (text ++ "\n")

def complain (s : Session) (line : Text) : Session := { s with err := s.err ++ line.withoutStyle ++ "\n" }

/-- Shows a log record as it is. -/
def display (s : Session) (record : Log.Record) : Session := { s with err := s.err ++ record.line ++ "\n" }

/-- Shows log records. Those for debugging are shown only on demand. -/
def log (s : Session) (records : List Log.Record) : Session :=
  records.foldl (fun s r => if s.verbose || r.level ≠ .debug then s.display r else s) s

def done (s : Session) : Outcome := ⟨s, .done⟩

/-- Ends with an error message. -/
def fail (s : Session) (message : Text) : Outcome := ⟨s.complain ("Error: " ++ message), .failed⟩

def crash (s : Session) (crash : Crash) : Outcome := ⟨s, .crashed crash⟩

end Session

end ViewCompiler.Command
