import ViewCompiler.Script.Rule

/-!
# Classes, functions and interfaces

The declarations with members or parameters of their own.
-/

namespace ViewCompiler.Script.Grammar

open Rule Construct

def classRules : List (Construct × Rule) :=
  [(classExpression, strength .literal <| seq [
     many decorator, "class", role .name (optional typeName), optional typeParameters,
     optional classHeritage, role .body classBody]),
   (classDeclaration, left .declaration <| seq [
     many decorator, "class", role .name typeName, optional typeParameters, optional classHeritage,
     role .body classBody, optional automaticSemicolon]),
   (abstractClass, strength .declaration <| seq [
     many decorator, "abstract", "class", role .name typeName, optional typeParameters,
     optional classHeritage, role .body classBody]),
   (classHeritage, oneOf [seq [extendsClause, optional implementsClause], implementsClause]),
   (extendsClause, seq ["extends", commaSep1 superclass]),
   (superclass, strength .superclass (seq [expression, optional typeArguments])),
   (implementsClause, seq ["implements", commaSep1 type]),
   (classBody, seq [
     openBrace,
     many <| oneOf [
       seq [many decorator, methodDefinition, optional semicolon],
       seq [methodSignature, oneOf [lexeme .signatureSemicolon, ","]], staticBlock,
       seq [
         oneOf [abstractMethodSignature, indexSignature, methodSignature, field],
         oneOf [semicolon, ","]],
       ";"],
     closeBrace]),
   (methodDefinition, left .plain <| seq [
     optional accessibility, optional "static", optional overrideModifier, optional "readonly",
     optional "async", optional (oneOf ["get", "set", "*"]), role .name propertyName, optional "?",
     signature, role .body block]),
   (methodSignature, seq [
     optional accessibility, optional "static", optional overrideModifier, optional "readonly",
     optional "async", optional (oneOf ["get", "set", "*"]), role .name propertyName, optional "?",
     signature]),
   (abstractMethodSignature, seq [
     optional accessibility, "abstract", optional overrideModifier,
     optional (oneOf ["get", "set", "*"]), role .name propertyName, optional "?", signature]),
   (field, seq [
     many decorator,
     optional <| oneOf [
       seq ["declare", optional accessibility], seq [accessibility, optional "declare"]],
     oneOf [
       seq [optional "static", optional overrideModifier, optional "readonly"],
       seq [optional "abstract", optional "readonly"], seq [optional "readonly", optional "abstract"],
       optional "accessor"],
     propertyName, optional (oneOf ["?", "!"]), optional typeAscription, optional initializer]),
   (staticBlock, seq ["static", optional automaticSemicolon, block]),
   (accessibility, oneOf ["public", "private", "protected"]),
   (overrideModifier, "override"),
   (decorator, seq [
     "@",
     oneOf [
       identifier, shown .member decoratorMember, shown .call decoratorCall,
       shown .parenthesized decoratorParenthesized]]),
   (decoratorMember, strength .member <| seq [
     oneOf [identifier, shown .member decoratorMember], ".",
     role .property (shown .propertyName identifier)]),
   (decoratorCall, strength .call <| seq [
     role .function (oneOf [identifier, shown .member decoratorMember]), optional typeArguments,
     role .arguments arguments]),
   (decoratorParenthesized, seq [
     "(", oneOf [identifier, shown .member decoratorMember, shown .call decoratorCall], ")"]),
   (functionDeclaration, right .declaration <| seq [
     optional "async", "function", identifier, signature, block,
     optional automaticSemicolon]),
   (generatorDeclaration, right .declaration <| seq [
     optional "async", "function", "*", identifier, signature, block,
     optional automaticSemicolon]),
   (functionSignature, seq [
     optional "async", "function", identifier, signature,
     oneOf [semicolon, lexeme .signatureSemicolon]]),
   (signature, seq [
     optional typeParameters, role .parameters parameters,
     optional (oneOf [typeAscription, assertionAscription, typePredicateAscription])]),
   (interfaceDeclaration, strength .declaration <| seq [
     "interface", typeName, optional typeParameters, optional superinterfaces, shown .other objectType]),
   (superinterfaces, seq ["extends", commaSep1 (oneOf [typeName, qualifiedType, genericType])])]

end ViewCompiler.Script.Grammar
