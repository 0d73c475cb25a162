import ViewCompiler.Settings.Literal
import ViewCompiler.Text.Newline
import ViewCompiler.Text.Quoted

/-!
# The text of a settings file

Each line assigns a value to a name, gives up with a message, or says nothing. Later lines win. A file
that gives up anywhere has no settings at all, and neither has one with a fault in any of its lines.
-/

namespace ViewCompiler.Settings

/-- What a line says. -/
inductive Statement where
  | assign (name : Text) (value : Setting)
  | giveUp (message : Text)
  deriving DecidableEq, Repr

/-! ### Giving up -/

/-- The kinds of error that a file can give up with. -/
def errorKinds : List Text :=
  Text.words <|
    "ArithmeticError AssertionError AttributeError BaseException BlockingIOError BrokenPipeError BufferError " ++
    "BytesWarning ChildProcessError ConnectionAbortedError ConnectionError ConnectionRefusedError " ++
    "ConnectionResetError DeprecationWarning EOFError EncodingWarning EnvironmentError Exception " ++
    "FileExistsError FileNotFoundError FloatingPointError FutureWarning GeneratorExit IOError ImportError " ++
    "ImportWarning IndentationError IndexError InterruptedError IsADirectoryError KeyError KeyboardInterrupt " ++
    "LookupError MemoryError ModuleNotFoundError NameError NotADirectoryError NotImplementedError OSError " ++
    "OverflowError PendingDeprecationWarning PermissionError ProcessLookupError RecursionError " ++
    "ReferenceError ResourceWarning RuntimeError RuntimeWarning StopAsyncIteration StopIteration SyntaxError " ++
    "SyntaxWarning SystemError SystemExit TabError TimeoutError TypeError UnboundLocalError UnicodeError " ++
    "UnicodeWarning UserWarning ValueError Warning ZeroDivisionError"

/-- The kinds of error that need more than a message, how this is told, and how much they need. -/
def demandingKinds : List (String × String × Nat) :=
  [("UnicodeDecodeError", "function", 5), ("UnicodeEncodeError", "function", 5),
   ("UnicodeTranslateError", "function", 4), ("BaseExceptionGroup", "BaseExceptionGroup.__new__()", 2),
   ("ExceptionGroup", "BaseExceptionGroup.__new__()", 2)]

/-- The kinds of error that tell of a missing message. -/
def frankKinds : List Text := Text.words "SyntaxError IndentationError TabError"

/-- The message of an error of the given kind. The kind for missing keys quotes a text. -/
def errorMessage (kind : Text) (argument : Option Setting) : Text :=
  match demandingKinds.find? (·.1.toList = kind) with
  | some (_, maker, count) =>
      maker.toList ++ " takes exactly " ++ Text.ofNat count ++ " arguments (" ++
        Text.ofNat argument.toList.length ++ " given)"
  | none =>
      if !errorKinds.contains kind then "name " ++ kind.inspect ++ " is not defined"
      else
        match argument with
        | none => if frankKinds.contains kind then Setting.nothing.print else []
        | some (.text text) => if kind = "KeyError".toList then text.inspect else text
        | some value => value.print

/-! ### Lines -/

def isNameChar (c : Char) : Bool := Text.isWordChar c

/-- Whether nothing follows but a comment. -/
def endsHere (t : Text) : Bool := (Text.stripLeft t).head?.all (· == '#')

/-- What a line that gives up says, from what comes after its first word. -/
def surrender (t : Text) : Except Fault Statement := do
  let kind : Text := t.takeWhile isNameChar
  match Text.stripLeft (t.drop kind.length) with
  | '(' :: inner => return .giveUp (errorMessage kind ((← literal (Text.stripLeft inner)).map (·.1)))
  | _ => return .giveUp (errorMessage kind none)

/-- What an assignment says, from what comes after its equals sign. -/
def assignment? (name t : Text) : Except Fault (Option Statement) := do
  match ← literal (Text.stripLeft t) with
  | some (value, after) => return if endsHere after then some (.assign name value) else none
  | none => return none

/-- What a line says, if it says anything. -/
def statement? (line : Text) : Except Fault (Option Statement) :=
  if endsHere line then .ok none
  else if line.head?.any fun c => c == ' ' || c == '\t' then .error .unexpectedIndent
  else
    let name : Text := line.takeWhile isNameChar
    let rest : Text := Text.stripLeft (line.drop name.length)
    if name = "raise".toList then (surrender rest).map some
    else
      match rest with
      | '=' :: value => assignment? name value
      | _ => .ok none

/-- What the lines of a file say, counted from `line` on. -/
def statements (file : Text) (line : Nat) : List Text → Except Text (List Statement)
  | [] => .ok []
  | first :: others =>
      match statement? first with
      | .error fault => .error (fault.message line ++ " (" ++ file ++ ", line " ++ Text.ofNat line ++ ")")
      | .ok said => return said.toList ++ (← statements file (line + 1) others)

def Statement.apply (s : Settings) : Statement → Except Text Settings
  | giveUp message => .error message
  | assign name value =>
      if name = "INDENT".toList then .ok { s with indentation := some value }
      else if name = "FACTORY_TYPE".toList then .ok { s with factoryType := some value }
      else if name = "INJECT".toList then .ok { s with statement := some value }
      else if name = "TEMPLATES_DIR".toList then .ok { s with templates := some value.print }
      else .ok s

/-- A text without the mark that may tell its encoding. -/
def withoutMark (t : Text) : Text := if t.head? = some '\uFEFF' then t.drop 1 else t

/-- The settings that the text of a file makes, or the message it gives up with. -/
def ofText (file t : Text) : Except Text Settings := do
  let (first, others) := (withoutMark t).withLineFeeds.lines
  (← statements file 1 (first :: others)).foldlM Statement.apply {}

end ViewCompiler.Settings
