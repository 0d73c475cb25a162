import ViewCompiler.Edit.Apply
import ViewCompiler.Instrument.Callback
import ViewCompiler.Instrument.Constructor

/-!
# Instrumenting scripts

A class is instrumented as a whole or not at all: all its call sites are collected and all its names
checked before the first edit is planned. A script is instrumented class by class, an outer class
before the classes within it, and then all planned edits are applied together.
-/

namespace ViewCompiler.Instrument

open Script

/-- What has been planned and reported so far. -/
structure Progress where
  plan : Plan
  log : List Log.Record

/-- The first name within a class that starts with what no name may start with. -/
def reservedName? (doc : Document) (o : Options) (cls : Node) : Option (Node × Text) :=
  (doc.namesIn cls).find? fun (_, name) => Text.startsWith name o.reservedStart

/-- The slots of a class, once nothing stands against instrumenting it. -/
def checkedSlots (doc : Document) (o : Options) (cls : Node) : Except Error (List Slot) :=
  match slots doc cls with
  | .error error => .error error
  | .ok [] => .ok []
  | .ok found =>
      match reservedName? doc o cls with
      | some (node, name) =>
          .error ⟨.reservedName name (doc.lineOf node) o.reservedStart, some (doc.className cls), none⟩
      | none => .ok found

/-- Plans the edits of one call site. -/
def instrumentSlot (doc : Document) (o : Options) (injection : Injection) (className : Text) (p : Progress)
    (slot : Slot) : Progress :=
  let (_, expanded) := expandCallback doc o p.plan slot
  let message := "Instrumented ." ++ slot.method ++ "() in " ++ className ++ " on line " ++
    Text.ofNat (doc.lineOf slot.call)
  { plan := inject doc o (injection slot) expanded slot
    log := p.log ++ [⟨.debug, .instrumentation, message⟩] }

/-- Plans the constructor parameter of a class. -/
def addParameter (doc : Document) (o : Options) (cls : Node) (scope : Option Text) (name type : Text)
    (p : Progress) : Progress :=
  match constructorEdit? doc o cls scope name type with
  | some (edit, record) => { plan := p.plan.add edit, log := p.log ++ [record] }
  | none => p

/-- Plans the edits of one class and says whether there were any. -/
def instrumentClass (doc : Document) (o : Options) (injection : Injection) (cls : Node) (p : Progress) :
    Except Error Bool × Progress :=
  match checkedSlots doc o cls with
  | .error error => (.error error, p)
  | .ok [] => (.ok false, p)
  | .ok found =>
      let planned := found.foldl (instrumentSlot doc o injection (doc.className cls)) p
      (.ok true, addParameter doc o cls o.factoryScope o.factoryName o.factoryType planned)

/-- Plans the edits of some classes, up to the first that cannot be instrumented, and counts those that were. -/
def instrumentClasses (doc : Document) (o : Options) (injection : Injection) :
    List Node → Progress → Except Error Nat × Progress
  | [], p => (.ok 0, p)
  | cls :: rest, p =>
      match instrumentClass doc o injection cls p with
      | (.error error, p) => (.error error, p)
      | (.ok touched, p) =>
          match instrumentClasses doc o injection rest p with
          | (.error error, p) => (.error error, p)
          | (.ok count, p) => (.ok (if touched then count + 1 else count), p)

/-- What keeps a script from being instrumented: a class of it, or edits that do not fit together. -/
inductive Failure where
  | refused (error : Error)
  | inapplicable (error : Edit.Error)

/-- The statistics of the edits as the log shows them. -/
def statsText (s : Edit.Stats) : Text :=
  s!"\x7b'edits_applied': {s.applied}, 'chars_removed': {s.removed}, 'chars_added': {s.added}\x7d"

/-- The instrumented text of a document, with the records of the run. -/
def instrumentDocument (doc : Document) (o : Options) (injection : Injection) (file : Text) :
    Except Failure Text × List Log.Record :=
  match instrumentClasses doc o injection doc.classes ⟨[], []⟩ with
  | (.error error, p) => (.error (.refused error), p.log)
  | (.ok 0, p) => (.ok doc.text, p.log)
  | (.ok count, p) =>
      match Edit.apply doc.text p.plan with
      | .error error => (.error (.inapplicable error), p.log)
      | .ok (text, stats) =>
          let shown := if file.isEmpty then "<source>".toList else file
          let message := "Instrumented " ++ Text.ofNat count ++ " class(es) in " ++ shown ++ ": " ++ statsText stats
          (.ok text, p.log ++ [⟨.debug, .instrumentation, message⟩])

/-- The instrumented text of a script. -/
def instrument (text : Text) (o : Options) (injection : Injection) (file : Text) :
    Except Failure Text × List Log.Record :=
  instrumentDocument (Document.read text) o injection file

/-- The instrumented texts of several scripts under their paths, up to the first that cannot be instrumented. -/
def instrumentAll (o : Options) (injection : Injection) :
    List (Text × Text) → Except Failure (List (Text × Text)) × List Log.Record
  | [] => (.ok [], [])
  | (file, text) :: rest =>
      match instrument text o injection file with
      | (.error (.refused error), log) =>
          (.error (.refused error),
            log ++ [⟨.error, .instrumentation, "Failed to instrument " ++ file ++ ": " ++ error.text⟩])
      | (.error failure, log) => (.error failure, log)
      | (.ok result, log) =>
          match instrumentAll o injection rest with
          | (.error failure, further) => (.error failure, log ++ further)
          | (.ok results, further) => (.ok ((file, result) :: results), log ++ further)

end ViewCompiler.Instrument
