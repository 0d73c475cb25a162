import ViewCompiler.Files.Path
import ViewCompiler.Text.Newline
import ViewCompiler.Text.Quoted

/-!
# Files

The files that a command sees, as data: each path with its text. There is no other directory than
those that the paths of the files lead through, the current one and those that it lies in.
-/

namespace ViewCompiler

/-- Some files, and the name of the directory that their paths start from. -/
structure Files where
  directory : Text
  entries : List (Path × Text)
  deriving DecidableEq, Repr

namespace Files

/-- Why there is no file under a path. -/
inductive Cause where
  | missing
  | notDirectory
  | isDirectory
  deriving DecidableEq, Repr

def Cause.message : Cause → Text
  | missing => "[Errno 2] No such file or directory"
  | notDirectory => "[Errno 20] Not a directory"
  | isDirectory => "[Errno 21] Is a directory"

/-- A path as it was given, and why it cannot be read. -/
structure Obstacle where
  cause : Cause
  path : Text
  deriving DecidableEq, Repr

def Obstacle.message (o : Obstacle) : Text := o.cause.message ++ ": " ++ o.path.inspect

/-! ### Places

A place is a path without double dots, except for those at its start that lead out of the current
directory. -/

/-- The text that is stored at a place. -/
def textAt? (f : Files) (place : Path) : Option Text := (f.entries.find? (·.1.resolved = place)).map (·.2)

def hasDirectoryAt (f : Files) (place : Path) : Bool :=
  place.names.all (· = Path.parent) || f.entries.any fun (file, _) => (place.namesTo? file.resolved).isSome

/-- Follows one name of a path. Every name has to be that of a file or a directory, and only directories can
be left for another place. -/
def follow (f : Files) (place : Path) (name : Text) : Except Cause Path :=
  if (f.textAt? place).isSome then .error .notDirectory
  else if name.isEmpty || name = Path.current then .ok place
  else if name = Path.parent then .ok place.up
  else
    let next := place.append [name]
    if (f.textAt? next).isSome || f.hasDirectoryAt next then .ok next else .error .missing

/-- The place that a written path leads to. -/
def locate (f : Files) (path : Text) : Except Cause Path :=
  let (first, others) := Text.pieces '/' path
  if path.isEmpty then .error .missing
  else (first :: others).foldlM f.follow ⟨path.startsWith "/", []⟩

/-- The text of a file as it is stored. -/
def stored (f : Files) (path : Text) : Except Obstacle Text :=
  match f.locate path with
  | .error cause => .error ⟨cause, path⟩
  | .ok place =>
      match f.textAt? place with
      | some text => .ok text
      | none => .error ⟨.isDirectory, path⟩

/-- The text of a file as it is read, with line feeds at the ends of its lines. -/
def read (f : Files) (path : Text) : Except Obstacle Text := (f.stored path).map Text.withLineFeeds

def exists? (f : Files) (path : Text) : Bool := (f.locate path).isOk

def isFile (f : Files) (path : Text) : Bool := (f.stored path).isOk

def isDirectory (f : Files) (path : Text) : Bool := f.exists? path && !f.isFile path

/-- The starts of a list of names, the shortest first. -/
def starts (names : List Text) : List (List Text) := (List.range names.length).map fun n => names.take (n + 1)

/-- The files and directories under a directory whose names end in a given way, in order. -/
def under (f : Files) (directory : Path) (ending : Text) : List Path :=
  match f.locate directory.text with
  | .error _ => []
  | .ok place =>
      let found := f.entries.flatMap fun (file, _) => ((place.namesTo? file.resolved).map starts).getD []
      let named := found.eraseDups.filter fun names => (names.getLast?.getD []).endsWith ending
      (named.map directory.append).mergeSort Path.atMost

/-- Stores another text in a file. -/
def write (f : Files) (path text : Text) : Files :=
  match f.locate path with
  | .error _ => f
  | .ok place =>
      { f with entries := f.entries.map fun (file, old) => (file, if file.resolved = place then text else old) }

end Files

end ViewCompiler
