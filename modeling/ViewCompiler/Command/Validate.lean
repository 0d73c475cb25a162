import ViewCompiler.Command.Parse

/-!
# Checking templates

Checks every template under a directory: first those in files of their own, then those that stand as
literals in scripts.
-/

namespace ViewCompiler.Command

/-- The errors found so far. -/
structure Check where
  session : Session
  errors : List Text

/-- Notes the result of parsing one template. `within` says where the template stands. -/
def Check.note (c : Check) (result : Except Crash Template.Forest × List Log.Record) (within : Text) :
    Except Outcome Check :=
  let s := c.session.log result.2
  match result.1 with
  | .ok _ => .ok { c with session := s }
  | .error (.template (.refused e)) => .ok ⟨s, c.errors ++ [within ++ e.text]⟩
  | .error crash => .error (s.crash crash)

def checkFile (c : Check) (file : Path) : Except Outcome Check := c.note (parseFile c.session.files file.text) []

/-- Checks a template that stands in a script. -/
def checkLiteral (file : Path) (c : Check) (literal : Script.TemplateLiteral) : Except Outcome Check :=
  let (result, records) := Template.parse literal.text []
  c.note (result.mapError .template, records) (file.text ++ ":" ++ Text.ofNat literal.line ++ ": ")

def checkScript (c : Check) (file : Path) : Except Outcome Check :=
  match c.session.files.read file.text with
  | .error obstacle => .error (c.session.crash (.unreadable obstacle))
  | .ok source => ((Script.Document.read source).templates "Template").foldlM (checkLiteral file) c

def checkAll (c : Check) (directory : Path) : Except Outcome Check := do
  let files := c.session.files
  let c ← (files.under directory ".html").foldlM checkFile c
  (files.under directory ".ts").foldlM checkScript c

def validate (s : Session) (directory : Path) : Outcome :=
  let result :=
    if s.files.exists? directory.text then checkAll ⟨s, []⟩ directory
    else .ok ⟨s, ["Templates directory not found: " ++ directory.text]⟩
  match result with
  | .error outcome => outcome
  | .ok ⟨s, []⟩ => (s.printLine "✅ All templates are valid").done
  | .ok ⟨s, errors⟩ =>
      let s := errors.foldl Session.complain s
      ⟨s.complain ("❌ " ++ Text.ofNat errors.length ++ " template error(s)"), .failed⟩

end ViewCompiler.Command
