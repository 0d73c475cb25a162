import ViewCompiler.Command.Outcome

/-!
# Showing a template

Prints the view of one template.
-/

namespace ViewCompiler.Command

/-- The view of the template in a file, and what is logged on the way. -/
def parseFile (files : Files) (path : Text) : Except Crash Template.Forest × List Log.Record :=
  match files.read path with
  | .error obstacle => (.error (.unreadable obstacle), [])
  | .ok text =>
      let (result, records) := Template.parse text path
      (result.mapError .template, records)

def parse (s : Session) (file : Path) : Outcome :=
  let (result, records) := parseFile s.files file.text
  let s := s.log records
  match result with
  | .ok forest => (s.printLine (forest.pretty "  ")).done
  | .error (.template (.refused e)) => s.fail e.text
  | .error crash => s.crash crash

end ViewCompiler.Command
