import ViewCompiler.Files.Basic
import ViewCompiler.Log
import ViewCompiler.Settings.Source

/-!
# Loading settings

Settings come from a file that was asked for, or from the file of the usual name in the current
directory. Without the file, and with a file that gives up, there are none.
-/

namespace ViewCompiler.Settings

def usualName : Text := "wane.config.py"

/-- How the name of a settings file ends. Other files are not read. -/
def nameEnding : Text := ".py"

/-- The settings that the files contain, and what is logged on the way. -/
def load (files : Files) (asked : Option Text) : Settings × List Log.Record :=
  let path := Path.ofText (asked.getD usualName)
  let shown := match asked with
    | some _ => path.text
    | none => ((Path.ofText files.directory).append path.names).text
  match files.stored path.text with
  | .error _ => ({}, [])
  | .ok source =>
      if !shown.endsWith nameEnding then ({}, [])
      else
        match ofText path.name source with
        | .ok settings => (settings, [])
        | .error message =>
            ({}, [⟨.warning, .settings, "Failed to load config from " ++ shown ++ ": " ++ message⟩])

end ViewCompiler.Settings
