import ViewCompiler.Script.Rule

/-!
# Which rule holds more strongly

Where one rule could end and another could go on, the stronger one wins. Each list names strengths and
constructs from the strongest to the weakest; the first list that holds both sides decides. Where no
list does, the grouping of the rule decides, and where that is of no help either both readings are
followed.
-/

namespace ViewCompiler.Script.Grammar

open Rule Construct

def expressionStrengths : List (List Rank) :=
  [[level .member, level .taggedTemplate, level .call, update, level .unary, level .power,
    level .product, level .sum, level .shift, level .relation, level .equality, level .bitAnd,
    level .bitXor, level .bitOr, level .logicalAnd, level .logicalOr, level .conditional, sequence,
    arrow],
   [level .assignment, primary],
   [level .member, level .taggedTemplate, level .creation, level .call, expression],
   [level .declaration, level .literal],
   [primary, block, level .object],
   [metaProperty, importCallee],
   [importStatement, importCallee],
   [exportStatement, primary],
   [lexicalDeclaration, primary],
   [level .call, level .instantiation, level .assertion, level .cast, awaitExpression, arrow]]

def typeStrengths : List (List Rank) :=
  [[level .superclass, level .instantiation],
   [intersectionType, unionType, conditionalType, functionType, level .cast, typePredicate,
    readonlyType],
   [mappedType, primary],
   [accessibility, primary],
   [level .unary, expression],
   [extendsClause, primary],
   [level .assertion, level .assignment],
   [level .declaration, expression],
   [builtinType, unary],
   [type, maybeType]]

def typeShapeStrengths : List (List Rank) :=
  [[tupleType, arrayType, pattern, type],
   [readonlyType, pattern],
   [readonlyType, primary],
   [typeQuery, subscript, expression],
   [typeQuery, queriedSubscript],
   [qualifiedType, genericType, primaryType, lookupType, keysType, type],
   [asExpression, satisfiesExpression, primaryType],
   [queriedMember, member],
   [member, importedTypeMember]]

def ambiguousWordStrengths : List (List Rank) :=
  [[queriedMember, primary],
   [queriedSubscript, subscript],
   [queriedSubscript, primary],
   [queriedCall, primary],
   [queriedInstantiation, primary],
   [typeQuery, primary],
   [overrideModifier, primary],
   [decoratorCall, decorator],
   [literalType, pattern],
   [builtinType, pattern],
   [call, queriedCall],
   [call, importedTypeCall],
   [newExpression, primary],
   [metaProperty, primary],
   [constructSignature, propertyName]]

def strengths : List (List Rank) :=
  expressionStrengths ++ typeStrengths ++ typeShapeStrengths ++ ambiguousWordStrengths

end ViewCompiler.Script.Grammar
