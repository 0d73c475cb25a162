import ViewCompiler.Script.Rule

/-!
# Patterns and parameters

What a value is taken apart into. A pattern counts against a reading, so that what could be an
expression as well is one.
-/

namespace ViewCompiler.Script.Grammar

open Rule Construct

def patternRules : List (Construct × Rule) :=
  [(pattern, weighted (-1) (oneOf [assignable, restPattern])),
   (restPattern, right .plain (seq ["...", assignable])),
   (destructuring, oneOf [objectPattern, arrayPattern]),
   (objectPattern, strength .object <| seq [
     openBrace,
     commaSep <| optional <| oneOf [
       pairPattern, restPattern, objectAssignmentPattern,
       shown .shorthandPattern (oneOf [identifier, softKeyword])],
     closeBrace]),
   (pairPattern, seq [propertyName, ":", oneOf [pattern, assignmentPattern]]),
   (objectAssignmentPattern, seq [
     oneOf [shown .shorthandPattern (oneOf [softKeyword, identifier]), destructuring], "=",
     expression]),
   (arrayPattern, seq ["[", commaSep (optional (oneOf [pattern, assignmentPattern])), "]"]),
   (assignmentPattern, seq [pattern, "=", expression]),
   (parameters, seq ["(", optional (seq [commaSep1 parameter, optional ","]), ")"]),
   (parameter, oneOf [requiredParameter, optionalParameter]),
   (requiredParameter, seq [parameterName, optional typeAscription, optional initializer]),
   (optionalParameter, seq [parameterName, "?", optional typeAscription, optional initializer]),
   (parameterName, seq [
     many decorator, optional accessibility, optional overrideModifier, optional "readonly",
     oneOf [pattern, "this"]])]

end ViewCompiler.Script.Grammar
