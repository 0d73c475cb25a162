import ViewCompiler.Log
import ViewCompiler.Markup.Read
import ViewCompiler.Template.Forest

/-!
# Parsing templates
-/

namespace ViewCompiler.Template

/-- The error of a template that came from a file. -/
def Error.within (e : Error) (file : Text) : Error := if e.file.isEmpty then { e with file } else e

/-- The view of a template, and what is logged on the way. Every error of the template itself is logged. -/
def parseWith (rules : List Binding.Rule) (template file : Text) : Except Failure Forest × List Log.Record :=
  match Markup.read template >>= Forest.ofMarkup rules with
  | .error (.refused e) =>
      let e := e.within file
      (.error (.refused e), [⟨.error, .templates, "Failed to parse template: " ++ e.text⟩])
  | result => (result, [])

def parse (template file : Text) : Except Failure Forest × List Log.Record :=
  parseWith Binding.defaultRules template file

end ViewCompiler.Template
