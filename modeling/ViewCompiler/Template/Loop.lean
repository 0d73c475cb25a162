import ViewCompiler.Markup.Node
import ViewCompiler.Template.Error
import ViewCompiler.Template.Node
import ViewCompiler.Text.Word

/-!
# Loops

The directive `w:for` takes a definition such as `(item, index) of items; key: item.id`, written as the
keys of its attributes. The index and the key may be left out.
-/

namespace ViewCompiler.Template

open Markup (Attribute)

/-- The word between the names and the items, with the blanks after it. It has to be followed by a blank. -/
def dropOf? : Text → Option Text
  | 'o' :: 'f' :: c :: rest => if Text.isBlank c then some (rest.dropWhile Text.isBlank) else none
  | _ => none

/-- What stands before the first `of` between blanks, and what stands after it. -/
def splitAtInnerOf? : Text → Option (Text × Text)
  | [] => none
  | c :: rest =>
      let here := if Text.isBlank c then dropOf? (rest.dropWhile Text.isBlank) else none
      match here with
      | some after => some ([], after)
      | none => (splitAtInnerOf? rest).map fun (before, after) => (c :: before, after)

/-- The two sides of the first `of`. At the start of a clause it needs no blank before it. -/
def splitAtOf? (clause : Text) : Option (Text × Text) :=
  match dropOf? clause with
  | some after => some ([], after)
  | none => splitAtInnerOf? clause

def isNameStart (c : Char) : Bool := c.isAlpha || c == '_' || c == '$'

def isNamePart (c : Char) : Bool := Text.isWordChar c || c == '$'

/-- Whether a text can name a variable. -/
def isVariableName : Text → Bool
  | [] => false
  | c :: rest => isNameStart c && rest.all isNamePart

/-- The variables of a loop: an item, or an item and an index in parentheses. -/
def loopNames (binder : Text) : Except Cause (Text × Option Text) :=
  if binder.startsWith "(" && binder.endsWith ")" then
    let (first, others) := Text.pieces ',' (binder.drop 1).dropLast
    match others with
    | [] => .ok (first.strip, none)
    | [index] => .ok (first.strip, some index.strip)
    | _ => .error .loopNames
  else .ok (binder, none)

def checkName (name : Text) : Except Cause Unit :=
  if isVariableName name then .ok () else .error (.loopVariable name)

/-- The item, the index and the items of the part before the semicolon. -/
def iteration (clause : Text) : Except Cause (Text × Option Text × Text) :=
  match splitAtOf? clause with
  | none => .error .loopShape
  | some (left, right) =>
      let binder := left.strip
      let source := right.strip
      if binder.isEmpty || source.isEmpty then .error .loopShape
      else do
        let (item, index) ← loopNames binder
        checkName item
        index.forM checkName
        return (item, index, source)

/-- What stands before the first `mark` and what stands after it, if it occurs. -/
def partitionAt (mark : Char) (t : Text) : Text × Option Text :=
  let before : Text := t.takeWhile (· != mark)
  (before, if before.length < t.length then some (t.drop (before.length + 1)) else none)

/-- The path of the part after the semicolon. -/
def keyPath (clause : Text) : Except Cause Text :=
  let (left, right?) := partitionAt ':' clause
  let word := left.strip
  let path := (right?.getD []).strip
  if path.isEmpty then .error .loopClause
  else if word ≠ "key".toList then .error (.loopKeyword word)
  else if !isPath path then .error .loopKeyPath
  else .ok path

/-- The definition that the attributes of a directive spell out. Their values do not count. -/
def loopText (attributes : List Attribute) : Text := (Text.join " " (attributes.map (·.key.strip))).strip

/-- The content of a loop with a definition. -/
def loopOf (definition : Text) : Except Cause Content := do
  let (clause, tail?) := partitionAt ';' definition
  let (item, index, source) ← iteration clause.strip
  let tail := (tail?.getD []).strip
  let key ← if tail.isEmpty then pure none else some <$> keyPath tail
  return .repeating (.ofText source) item index key

def loop (attributes : List Attribute) : Except Cause Content := loopOf (loopText attributes)

end ViewCompiler.Template
