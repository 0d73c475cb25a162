import ViewCompiler.Command.Suggestion

/-!
# Arguments of commands

Arguments that start with a dash are options, and everything after a double dash is not. An option with
a value takes it from behind an equals sign or from the next argument, whatever that looks like.
-/

namespace ViewCompiler.Command

/-- An option: its long name, its letter if it has one, and whether it has a value. -/
structure OptionForm where
  name : Text
  letter : Option Char := none
  hasValue : Bool := false
  deriving DecidableEq, Repr

/-- Why arguments do not fit a command. -/
inductive Misuse where
  | noSuchOption (name : Text) (close : List Text)
  | valueMissing (name : Text)
  | valueNotTaken (name : Text)
  | argumentMissing (name : Text)
  | invalid (name problem : Text)
  | unexpected (arguments : List Text)
  | noSuchCommand (name : Text) (close : List Text)
  | commandMissing
  deriving DecidableEq, Repr

def Misuse.message : Misuse → Text
  | noSuchOption name close => "No such option " ++ name.inspect ++ "." ++ suggestion close
  | valueMissing name => "Option '" ++ name ++ "' requires an argument."
  | valueNotTaken name => "Option '" ++ name ++ "' does not take a value."
  | argumentMissing name => "Missing argument '" ++ name ++ "'."
  | invalid name problem => "Invalid value for '" ++ name ++ "': " ++ problem
  | unexpected arguments =>
      "Got unexpected extra argument" ++ (if arguments.length = 1 then [] else ['s']) ++ " (" ++
        Text.join " " arguments ++ ")"
  | noSuchCommand name close => "No such command " ++ name.inspect ++ "." ++ suggestion close
  | commandMissing => "Missing command."

/-- Whether the usage of the command is shown along with what is wrong. A known option with or without a value
is only named. -/
def Misuse.showsUsage : Misuse → Bool
  | valueMissing _ | valueNotTaken _ => false
  | _ => true

/-- The options and the other arguments of a command. -/
structure Arguments where
  options : List (Text × Text) := []
  others : List Text := []
  deriving DecidableEq, Repr

namespace Arguments

def has (a : Arguments) (name : Text) : Bool := a.options.any (·.1 = name)

/-- The value of an option. The last one given counts. -/
def value? (a : Arguments) (name : Text) : Option Text := (a.options.reverse.find? (·.1 = name)).map (·.2)

/-- Reads the letters of a short option. A letter with a value takes the rest of the letters for it, or
else the next argument. -/
def letters (forms : List OptionForm) : Text → List Text → Except Misuse (List (Text × Text) × List Text)
  | [], next => .ok ([], next)
  | c :: rest, next =>
      match forms.find? (·.letter = some c) with
      | none => .error (.noSuchOption ['-', c] [])
      | some form =>
          if !form.hasValue then do
            let (others, next) ← letters forms rest next
            return ((form.name, []) :: others, next)
          else
            match rest, next with
            | _ :: _, _ => .ok ([(form.name, rest)], next)
            | [], value :: next => .ok ([(form.name, value)], next)
            | [], [] => .error (.valueMissing ['-', c])

/-- Reads one option. The result is what it sets and the arguments after it. -/
def option (forms : List OptionForm) (argument : Text) (next : List Text) :
    Except Misuse (List (Text × Text) × List Text) :=
  let name : Text := argument.takeWhile (· != '=')
  let value? := if name.length < argument.length then some (argument.drop (name.length + 1)) else none
  match forms.find? (·.name = name) with
  | some form =>
      match form.hasValue, value?, next with
      | true, some value, _ => .ok ([(form.name, value)], next)
      | true, none, value :: next => .ok ([(form.name, value)], next)
      | true, none, [] => .error (.valueMissing name)
      | false, some _, _ => .error (.valueNotTaken name)
      | false, none, _ => .ok ([(form.name, [])], next)
  | none =>
      if argument.startsWith "--" then .error (.noSuchOption name (closeNames (forms.map (·.name)) name))
      else letters forms (argument.drop 1) next

/-- Reads arguments. With `mixed`, options may also come after other arguments; the fuel is the number of
arguments. -/
def readWithin (forms : List OptionForm) (mixed : Bool) : Nat → List Text → Except Misuse Arguments
  | 0, _ | _, [] => .ok {}
  | fuel + 1, argument :: next =>
      if argument = "--".toList then .ok { others := next }
      else if argument.startsWith "-" && 1 < argument.length then do
        let (options, next) ← option forms argument next
        let later ← readWithin forms mixed fuel next
        return { later with options := options ++ later.options }
      else if mixed then do
        let later ← readWithin forms mixed fuel next
        return { later with others := argument :: later.others }
      else .ok { others := argument :: next }

def read (forms : List OptionForm) (mixed : Bool) (arguments : List Text) : Except Misuse Arguments :=
  readWithin forms mixed arguments.length arguments

end Arguments

end ViewCompiler.Command
