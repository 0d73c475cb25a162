import ViewCompiler.Command.Run

/-!
# The program

Reads the files that the arguments may be about, runs the command on them, and stores and prints what
comes out.
-/

namespace ViewCompiler.Program

/-- The texts of a file, or of all files under a directory, under the paths that lead there from the
current directory. What cannot be read is left out. -/
def readPlace (place : String) : IO (List (Path × Text)) := do
  let current ← IO.currentDir
  let target := current / place
  unless ← target.pathExists do return []
  let found ← if ← target.isDir then target.walkDir else pure #[target]
  let mut entries := []
  for file in found do
    unless ← file.isDir do
      let shown : Text := file.toString.toList
      let base : Text := (current.toString ++ "/").toList
      let path := Path.ofText (if (Path.ofText place.toList).absolute then shown else shown.drop base.length)
      try
        entries := (path, (← IO.FS.readFile file).toList) :: entries
      catch _ => pure ()
  return entries

/-- The places that arguments name, with or without an option in front. -/
def placesOf (arguments : List String) : List String :=
  String.ofList Settings.usualName :: arguments.flatMap fun argument =>
    let text := argument.toList
    [argument, String.ofList ((text.dropWhile (· != '=')).drop 1)].filter (!·.isEmpty)

/-- The directories that settings name, and the current one if there are templates to be checked in it. -/
def templatePlaces (arguments : List String) (entries : List (Path × Text)) : List String :=
  let named := entries.filterMap fun (path, text) => (Settings.ofText path.name text).toOption.bind (·.templates)
  if arguments.contains "validate" then "." :: named.map String.ofList else []

def gather (arguments : List String) : IO Files := do
  let first ← (placesOf arguments).mapM readPlace
  let more ← (templatePlaces arguments first.flatten).mapM readPlace
  let entries := (first ++ more).flatten.foldl (fun kept entry =>
    if kept.any (·.1.resolved = entry.1.resolved) then kept else entry :: kept) []
  return ⟨(← IO.currentDir).toString.toList, entries⟩

end ViewCompiler.Program

open ViewCompiler in
def main (arguments : List String) : IO UInt32 := do
  let files ← Program.gather arguments
  let outcome := Command.run files (arguments.map String.toList)
  for (path, text) in outcome.session.files.entries do
    if files.textAt? path.resolved ≠ some text then
      IO.FS.writeFile (String.ofList path.text) (String.ofList text)
  IO.print (String.ofList outcome.session.out)
  IO.eprint (String.ofList outcome.session.err)
  if let .crashed crash := outcome.ending then
    IO.eprintln (String.ofList crash.message)
  return outcome.ending.exitCode.toUInt32
