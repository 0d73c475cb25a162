import ViewCompiler.Script.Rule

/-!
# Expressions

An operand is primary; the rules that join operands say how strongly they hold. Which of two rules
wins where both could go on is a matter of `Grammar.Strengths`.
-/

namespace ViewCompiler.Script.Grammar

open Rule Construct

/-- The binary operators that group to the left, by how strongly they hold their operands. -/
def leftOperators : List (Strength × List String) :=
  [(.logicalAnd, ["&&"]), (.logicalOr, ["||"]), (.shift, [">>", ">>>", "<<"]), (.bitAnd, ["&"]), (.bitXor, ["^"]),
   (.bitOr, ["|"]), (.sum, ["+", "-"]), (.product, ["*", "/", "%"]),
   (.relation, ["<", "<=", ">=", ">", "instanceof"]), (.equality, ["==", "===", "!=", "!=="]),
   (.conditional, ["??"])]

def expressionRules : List (Construct × Rule) :=
  [(expressions, oneOf [expression, sequence]),
   (expression, oneOf [
     asExpression, satisfiesExpression, instantiation, namespaceDeclaration, typeAssertion, primary,
     assignment, compoundAssignment, awaitExpression, unary, binary, conditional, update, newExpression,
     yieldExpression]),
   (primary, oneOf [
     subscript, member, parenthesized, name, shown .identifier softKeyword, "this", "super",
     lexeme .number, stringLiteral, template, regexLiteral, "true", "false", "null", object, array,
     functionExpression, arrow, generatorExpression, classExpression, metaProperty, call, nonNull]),
   (sequence, right .plain (commaSep1 expression)),
   (parenthesized, seq ["(", oneOf [seq [expression, optional typeAscription], sequence], ")"]),
   (name, oneOf ["undefined", identifier]),
   (softKeyword, oneOf [
     "declare", "namespace", "type", "public", "private", "protected", "override", "readonly", "module",
     "any", "number", "boolean", "string", "symbol", "export", "object", "new", "get", "set", "async",
     "static", "let"]),
   (assignment, right .assignment <| seq [
     optional "using", oneOf [parenthesized, assignable], "=", expression]),
   (compoundAssignment, right .assignment <| seq [
     updatable,
     oneOf [
       "+=", "-=", "*=", "/=", "%=", "^=", "&=", "|=", ">>=", ">>>=", "<<=", "**=", "&&=", "||=", "??="],
     expression]),
   (assignable, oneOf [member, subscript, name, shown .identifier softKeyword, destructuring, nonNull]),
   (updatable, oneOf [
     member, subscript, shown .identifier softKeyword, identifier, parenthesized, nonNull]),
   (conditional, right .conditional (seq [expression, lexeme .conditionalMark, expression, ":", expression])),
   (binary, oneOf (
     (leftOperators.map fun (strength, signs) =>
       left strength (seq [expression, oneOf (signs.map fun (sign : String) => (sign : Rule)), expression])) ++
     [right .power (seq [expression, "**", expression]),
      left .relation (seq [oneOf [expression, lexeme .privateName], "in", expression])])),
   (unary, left .unary (seq [oneOf ["!", "~", "-", "+", "typeof", "void", "delete"], expression])),
   (update, left .plain <| oneOf [
     seq [expression, oneOf ["++", "--"]], seq [oneOf ["++", "--"], expression]]),
   (awaitExpression, strength .unary (seq ["await", expression])),
   (yieldExpression, right .plain (seq ["yield", oneOf [seq ["*", expression], optional expression]])),
   (asExpression, left .cast (seq [expression, "as", oneOf ["const", type]])),
   (satisfiesExpression, left .cast (seq [expression, "satisfies", type])),
   (typeAssertion, left .assertion (seq [typeArguments, expression])),
   (nonNull, left .assertion (seq [expression, "!"])),
   (instantiation, strength .instantiation (seq [expression, typeArguments])),
   (call, oneOf [
     strength .call <| seq [
       role .function (oneOf [expression, importCallee]), optional typeArguments,
       role .arguments arguments],
     strength .taggedTemplate <| seq [
       role .function (oneOf [primary, newExpression]), role .arguments template],
     strength .member <| seq [
       role .function primary, "?.", optional typeArguments, role .arguments arguments]]),
   (arguments, seq ["(", commaSep (optional (oneOf [expression, spread])), ")"]),
   (spread, seq ["...", expression]),
   (newExpression, right .creation (seq ["new", primary, optional typeArguments, optional arguments])),
   (member, strength .member <| seq [
     oneOf [expression, primary, importCallee], oneOf [".", optionalChain],
     role .property (oneOf [lexeme .privateName, shown .propertyName identifier])]),
   (subscript, right .member <| seq [
     oneOf [expression, primary], optional optionalChain, "[", expressions, "]"]),
   (optionalChain, "?."),
   (metaProperty, oneOf [seq ["new", ".", "target"], seq ["import", ".", "meta"]]),
   (object, strength .object <| seq [
     openBrace,
     commaSep <| optional <| oneOf [
       pair, spread, methodDefinition, shown .shorthand (oneOf [identifier, softKeyword])],
     closeBrace]),
   (pair, seq [propertyName, ":", expression]),
   (propertyName, oneOf [
     shown .propertyName (oneOf [identifier, softKeyword]), lexeme .privateName, stringLiteral,
     lexeme .number, computedName]),
   (computedName, seq ["[", expression, "]"]),
   (array, seq ["[", commaSep (optional (oneOf [expression, spread])), "]"]),
   (stringLiteral, oneOf [
     seq ["\"", many (oneOf [shown .other (lexeme .doubleQuoted), lexeme .escape]), "\""],
     seq ["'", many (oneOf [shown .other (lexeme .singleQuoted), lexeme .escape]), "'"]]),
   (template, seq [
     "`", many (oneOf [shown .other (lexeme .templateText), lexeme .escape, substitution]), "`"]),
   (substitution, seq ["$\x7b", expressions, closeBrace]),
   (regexLiteral, seq ["/", lexeme .regexBody, lexeme .regexEnd, optional (lexeme .regexFlags)]),
   (functionExpression, strength .literal <| seq [
     optional "async", "function", optional identifier, signature, block]),
   (generatorExpression, strength .literal <| seq [
     optional "async", "function", "*", optional identifier, signature, block]),
   (arrow, seq [
     optional "async", oneOf [shown .identifier softKeyword, identifier, signature], "=>",
     role .body (oneOf [expression, block])])]

end ViewCompiler.Script.Grammar
