import ViewCompiler.Command.Outcome

/-!
# Instrumenting files

Instruments scripts one after the other, and stops at the first that cannot be. Each result is printed,
or else stored when it differs from what the file contained.
-/

namespace ViewCompiler.Command

open Instrument (Options)

/-- What the arguments of the command ask for. An empty text counts as none. -/
structure Request where
  inPlace : Bool
  statement : Option Text
  factoryType : Option Text
  deriving DecidableEq, Repr

/-- A text that was asked for, or else the setting, or else the usual text. -/
def choose (asked : Option Text) (setting : Option Setting) (usual : Text) : Setting :=
  match asked with
  | some (c :: rest) => .text (c :: rest)
  | _ => setting.getD (.text usual)

def indentation (settings : Settings) : Setting := settings.indentation.getD (.text "  ")

def statement (settings : Settings) (request : Request) : Setting :=
  choose request.statement settings.statement Instrument.defaultStatement

def options (settings : Settings) (request : Request) : Options :=
  { indentText := (indentation settings).print
    factoryType := (choose request.factoryType settings.factoryType "any").print }

/-- What keeps generated code from being written. -/
def obstacle? (settings : Settings) (request : Request) : Option Crash :=
  match indentation settings, statement settings request with
  | .text _, .text _ => none
  | .text _, value => some (.statement value)
  | value, _ => some (.indentation value)

/-- Whether instrumenting a document generates any code. -/
def generatesCode (doc : Script.Document) : Bool :=
  doc.classes.any fun cls => !(Instrument.sites doc cls).isEmpty

/-- The instrumented text of a script, with the session after its log has been shown. -/
def instrumentText (s : Session) (settings : Settings) (request : Request) (file : Path) (source : Text) :
    Except Outcome (Session × Text) :=
  let doc := Script.Document.read source
  let injection := Instrument.injectStatement (statement settings request).print
  let (result, records) := Instrument.instrumentDocument doc (options settings request) injection file.text
  match result, obstacle? settings request with
  | .error (.refused e), _ => .error ((s.log records).fail (file.text ++ ": " ++ e.text))
  | .error (.inapplicable e), _ => .error ((s.log records).crash (.edit e))
  -- The last record, which counts the edits, comes after all code has been written.
  | .ok text, some crash =>
      if generatesCode doc then .error ((s.log records.dropLast).crash crash) else .ok (s.log records, text)
  | .ok text, none => .ok (s.log records, text)

/-- Instruments one file. -/
def instrumentFile (settings : Settings) (request : Request) (s : Session) (file : Path) :
    Except Outcome Session := do
  let source ← (s.files.read file.text).mapError fun obstacle => s.crash (.unreadable obstacle)
  let (s, text) ← instrumentText s settings request file source
  if !request.inPlace then return s.print text
  else if text = source then return s
  else return { s with files := s.files.write file.text text }.printLine ("✏️  " ++ file.text)

def instrument (s : Session) (settings : Settings) (request : Request) (files : List Path) : Outcome :=
  match files.foldlM (instrumentFile settings request) s with
  | .ok s => s.done
  | .error outcome => outcome

end ViewCompiler.Command
