import ViewCompiler.Command.Instrument
import ViewCompiler.Command.Validate
import ViewCompiler.Settings.Load

/-!
# The command line

The first arguments are options for all commands; then come the name of a command and its own
arguments. The settings are loaded once the command is known, before its arguments are looked at.
-/

namespace ViewCompiler.Command

inductive Name where
  | parse
  | instrument
  | validate
  deriving DecidableEq, Repr

/-- The name under which the program shows itself. -/
def programName : Text := "cli"

def version : Text := "0.1.0"

def Name.text : Name → Text
  | parse => "parse"
  | instrument => "instrument"
  | validate => "validate"

def Name.all : List Name := [parse, instrument, validate]

def Name.ofText? (t : Text) : Option Name := Name.all.find? (·.text = t)

/-- What a command is called with, as the usage line shows it. -/
def Name.parameters : Name → Text
  | parse => "FILE"
  | instrument => "FILES..."
  | validate => "[PATH]"

def helpForm : OptionForm := { name := "--help" }

def Name.forms : Name → List OptionForm
  | instrument =>
      [{ name := "--in-place" }, { name := "--inject", hasValue := true },
       { name := "--factory-type", hasValue := true }, helpForm]
  | _ => [helpForm]

/-- The options for all commands. -/
def generalForms : List OptionForm :=
  [{ name := "--version" }, { name := "--verbose", letter := some 'v' }, { name := "--config", hasValue := true },
   helpForm]

/-- The name of the program and of a command, if one is known. -/
def caller (command : Option Name) : Text :=
  match command with
  | some name => programName ++ " " ++ name.text
  | none => programName

def usage (command : Option Name) : Text :=
  let parameters := match command with
    | some name => name.parameters
    | none => "COMMAND [ARGS]..."
  "Usage: " ++ caller command ++ " [OPTIONS] " ++ parameters

/-- Ends with what is wrong with the arguments of a command, after its usage. -/
def misuse (s : Session) (command : Option Name) (problem : Misuse) : Outcome :=
  let introduced :=
    if problem.showsUsage then
      ((s.complain (usage command)).complain ("Try '" ++ caller command ++ " --help' for help.")).complain []
    else s
  ⟨introduced.complain ("Error: " ++ problem.message), .misused⟩

/-- A path that has to lead to a file. -/
def filePath (s : Session) (parameter t : Text) : Except Misuse Path :=
  if s.files.isFile t then .ok (Path.ofText t)
  else if s.files.isDirectory t then .error (.invalid parameter ("File " ++ t.inspect ++ " is a directory."))
  else .error (.invalid parameter ("File " ++ t.inspect ++ " does not exist."))

/-- A path that must not lead to a file. -/
def directoryPath (s : Session) (parameter t : Text) : Except Misuse Path :=
  if s.files.isFile t then .error (.invalid parameter ("Directory " ++ t.inspect ++ " is a file."))
  else .ok (Path.ofText t)

/-- Accepts arguments that leave nothing over. -/
def nothingOver (others : List Text) : Except Misuse Unit :=
  if others.isEmpty then .ok () else .error (.unexpected others)

/-- Runs a command on arguments that its options have been taken from. -/
def start (s : Session) (settings : Settings) (name : Name) (a : Arguments) : Except Misuse Outcome :=
  let parameters := name.parameters
  match name with
  | .parse =>
      match a.others with
      | [] => .error (.argumentMissing parameters)
      | first :: others => do
          let file ← filePath s parameters first
          nothingOver others
          return parse s file
  | .instrument => do
      if a.others.isEmpty then throw (.argumentMissing parameters)
      let files ← a.others.mapM (filePath s parameters)
      return instrument s settings ⟨a.has "--in-place", a.value? "--inject", a.value? "--factory-type"⟩ files
  | .validate => do
      let directory ← match a.others.head? with
        | some t => directoryPath s parameters t
        | none => pure (Path.ofText (settings.templates.getD "."))
      nothingOver (a.others.drop 1)
      return validate s directory

/-- Runs a command on its arguments. -/
def runCommand (s : Session) (settings : Settings) (name : Name) (arguments : List Text) : Outcome :=
  let result := do
    let a ← Arguments.read name.forms true arguments
    if a.has "--help" then return (s.printLine (usage (some name))).done
    start s settings name a
  match result with
  | .ok outcome => outcome
  | .error problem => misuse s (some name) problem

/-- The settings file that was asked for, which must not be a directory. -/
def askedSettings (s : Session) (a : Arguments) : Except Misuse (Option Text) :=
  match a.value? "--config" with
  | none => .ok none
  | some t =>
      if s.files.isDirectory t then .error (.invalid "--config" ("File " ++ t.inspect ++ " is a directory."))
      else .ok (some t)

/-- What keeps a command from being run. -/
inductive Stop where
  | misused (problem : Misuse)
  /-- All that was asked for is a line of text. -/
  | shown (line : Text)
  deriving DecidableEq, Repr

/-- The option that was given first of those that only show something. -/
def shownFirst? (a : Arguments) : Option Text :=
  (a.options.map (·.1)).find? fun name => name = "--version".toList || name = "--help".toList

/-- The options for all commands, the settings file among them, and the arguments after them. -/
def readGeneral (s : Session) (arguments : List Text) : Except Stop (Arguments × Option Text) := do
  let a ← (Arguments.read generalForms false arguments).mapError .misused
  match shownFirst? a with
  | some shown =>
      throw (.shown (if shown = "--version".toList then programName ++ ", version " ++ version else usage none))
  | none => return (a, ← (askedSettings s a).mapError .misused)

/-- Whether an argument in the place of a command looks like an option. -/
def looksLikeOption (t : Text) : Bool := t.head?.any fun c => !Text.isWordChar c || c == '_'

/-- Runs the command that the arguments name. What looks like an option instead is read as one first. -/
def dispatch (s : Session) (arguments : List Text) : Except Stop Outcome := do
  let (a, asked) ← readGeneral s arguments
  match a.others with
  | [] => throw (.misused .commandMissing)
  | first :: others =>
      match Name.ofText? first with
      | some name =>
          let s := { s with verbose := a.has "--verbose" }
          let (settings, records) := Settings.load s.files asked
          return runCommand (s.log records) settings name others
      | none =>
          if looksLikeOption first then
            let _ ← readGeneral s a.others
          throw (.misused (.noSuchCommand first (closeNames (Name.all.map Name.text) first)))

/-- Runs the program on its arguments. Without any it shows its usage. -/
def run (files : Files) (arguments : List Text) : Outcome :=
  let s : Session := { files }
  if arguments.isEmpty then ⟨s.complain (usage none), .misused⟩
  else
    match dispatch s arguments with
    | .ok outcome => outcome
    | .error (.shown line) => (s.printLine line).done
    | .error (.misused problem) => misuse s none problem

end ViewCompiler.Command
