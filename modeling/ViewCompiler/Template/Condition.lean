import ViewCompiler.Markup.Node
import ViewCompiler.Template.Error
import ViewCompiler.Template.Node

/-!
# Conditions

The directive `w:if` takes one path, written as an attribute without a value and perhaps after an
exclamation mark: `<w:if user.isKnown>` or `<w:if !user.isKnown>`.
-/

namespace ViewCompiler.Template

open Markup (Attribute)

/-- An attribute as it is read within a condition. One with a value never makes a path. -/
def conditionPart (a : Attribute) : Text :=
  match a.value with
  | none => a.key
  | some value => a.key ++ " = " ++ value

/-- The condition that the attributes of a directive spell out. -/
def conditionText (attributes : List Attribute) : Text := Text.join " " (attributes.map conditionPart)

/-- The content of a condition. -/
def condition (attributes : List Attribute) : Except Cause Content :=
  if attributes.isEmpty then .error .missingCondition
  else
    let text := conditionText attributes
    if !isCondition text then .error .conditionNotPath
    else
      match text with
      | '!' :: path => .ok (.conditional (.ofText path) true)
      | path => .ok (.conditional (.ofText path) false)

end ViewCompiler.Template
