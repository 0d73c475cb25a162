import ViewCompiler.Script.Rule

/-!
# Types

Annotations, the types they consist of, and the queries for the type of a value.
-/

namespace ViewCompiler.Script.Grammar

open Rule Construct

def typeRules : List (Construct × Rule) :=
  [(typeAlias, seq ["type", typeName, optional typeParameters, "=", type, semicolon]),
   (type, oneOf [
     primaryType, functionType, readonlyType, constructorType, inferType,
     strength .lowered (shown .member importedTypeMember),
     strength .lowered (shown .call importedTypeCall)]),
   (primaryType, oneOf [
     parenthesizedType, builtinType, typeName, qualifiedType, genericType, objectType, arrayType,
     tupleType, maybeType, typeQuery, keysType, shown .other "this", starType, literalType, lookupType,
     conditionalType, templateType, intersectionType, unionType, "const"]),
   (typeAscription, seq [":", type]),
   (omittingTypeAscription, seq ["-?:", type]),
   (addingTypeAscription, seq ["+?:", type]),
   (optingTypeAscription, seq ["?:", type]),
   (assertionAscription, seq [":", assertion]),
   (typePredicateAscription, seq [":", typePredicate]),
   (assertion, seq ["asserts", oneOf [typePredicate, identifier, "this"]]),
   (typePredicate, seq [oneOf [identifier, "this", shown .identifier builtinType], "is", type]),
   (parenthesizedType, seq ["(", type, ")"]),
   (builtinType, oneOf [
     "any", "number", "boolean", "string", "symbol", seq ["unique", "symbol"], "void", "unknown",
     "string", "never", "object"]),
   (literalType, oneOf [
     shown .other signedNumber, lexeme .number, stringLiteral, "true", "false", "null", "undefined"]),
   (signedNumber, left .raised (seq [oneOf ["-", "+"], lexeme .number])),
   (typeName, shown .typeName identifier),
   (qualifiedType, strength .member (seq [oneOf [identifier, qualifiedName], ".", typeName])),
   (genericType, strength .call (seq [oneOf [typeName, qualifiedType], typeArguments])),
   (typeArguments, seq ["<", commaSep1 type, optional ",", ">"]),
   (typeParameters, seq ["<", commaSep1 typeParameter, optional ",", ">"]),
   (typeParameter, seq [optional "const", typeName, optional constraint, optional defaultType]),
   (constraint, seq [oneOf ["extends", ":"], type]),
   (defaultType, seq ["=", type]),
   (objectType, seq [
     oneOf [openBrace, "\x7b|"],
     optional <| seq [
       optional (oneOf [",", ";"]),
       sepBy1 (oneOf [",", semicolon]) (oneOf [
           exportStatement, propertySignature, callSignature, constructSignature, indexSignature,
           methodSignature]),
       optional (oneOf [",", semicolon])],
     oneOf [closeBrace, "|\x7d"]]),
   (propertySignature, seq [
     optional accessibility, optional "static", optional overrideModifier, optional "readonly",
     propertyName, optional "?", optional typeAscription]),
   (callSignature, signature),
   (constructSignature, seq [
     optional "abstract", "new", optional typeParameters, role .parameters parameters,
     optional typeAscription]),
   (indexSignature, seq [
     optional (seq [optional (oneOf ["-", "+"]), "readonly"]), "[",
     oneOf [seq [oneOf [identifier, shown .identifier softKeyword], ":", type], mappedType],
     "]", oneOf [typeAscription, omittingTypeAscription, addingTypeAscription, optingTypeAscription]]),
   (mappedType, seq [typeName, "in", type, optional (seq ["as", type])]),
   (arrayType, seq [primaryType, "[", "]"]),
   (tupleType, seq ["[", commaSep tupleMember, optional ",", "]"]),
   (tupleMember, oneOf [
     shown .other tupleParameter, shown .other optionalTupleParameter, optionalType, restType, type]),
   (tupleParameter, seq [oneOf [identifier, restPattern], typeAscription]),
   (optionalTupleParameter, seq [identifier, "?", typeAscription]),
   (optionalType, seq [type, "?"]),
   (restType, seq ["...", type]),
   (lookupType, seq [primaryType, "[", type, "]"]),
   (keysType, seq ["keyof", primaryType]),
   (typeQuery, right .plain <| seq [
     "typeof",
     oneOf [
       shown .other queriedSubscript, shown .member queriedMember, shown .call queriedCall,
       shown .other queriedInstantiation, identifier, "this"]]),
   (queriedMember, seq [
     oneOf [
       identifier, "this", shown .other queriedSubscript, shown .member queriedMember,
       shown .call queriedCall],
     oneOf [".", "?."],
     role .property (oneOf [lexeme .privateName, shown .propertyName identifier])]),
   (queriedSubscript, seq [
     oneOf [
       identifier, "this", shown .other queriedSubscript, shown .member queriedMember,
       shown .call queriedCall],
     optional "?.", "[", oneOf [builtinType, stringLiteral, lexeme .number], "]"]),
   (queriedCall, seq [
     role .function <| oneOf [
       importCallee, identifier, shown .member queriedMember, shown .other queriedSubscript],
     role .arguments arguments]),
   (queriedInstantiation, seq [
     oneOf [
       importCallee, identifier, shown .member queriedMember, shown .other queriedSubscript],
     typeArguments]),
   (importedTypeMember, seq [
     oneOf [importCallee, shown .member importedTypeMember, shown .call importedTypeCall], ".",
     role .property (oneOf [lexeme .privateName, shown .propertyName identifier])]),
   (importedTypeCall, seq [
     role .function (oneOf [importCallee, shown .member importedTypeMember]), role .arguments arguments]),
   (readonlyType, seq ["readonly", type]),
   (unionType, left .plain (seq [optional type, "|", type])),
   (intersectionType, left .plain (seq [optional type, "&", type])),
   (functionType, left .plain <| seq [
     optional typeParameters, role .parameters parameters, "=>", oneOf [type, assertion, typePredicate]]),
   (constructorType, left .plain <| seq [
     optional "abstract", "new", optional typeParameters, role .parameters parameters, "=>", type]),
   (conditionalType, left .plain (seq [type, "extends", type, "?", type, ":", type])),
   (inferType, right .plain (seq ["infer", typeName, optional (seq ["extends", type])])),
   (templateType, seq ["`", many (oneOf [shown .other (lexeme .templateText), typeSubstitution]), "`"]),
   (typeSubstitution, seq ["$\x7b", oneOf [primaryType, inferType], closeBrace]),
   (starType, "*"),
   (maybeType, right .plain (seq ["?", primaryType]))]

end ViewCompiler.Script.Grammar
