import ViewCompiler.Script.Node

/-!
# Constructs

The constructs of the language, each of which the grammar has a rule for. Some of them only name a
choice between others or a part of another, and leave no node of their own in a syntax tree.

The order counts where a text can be read in two ways that nothing else decides between: see
`Derivation.isBefore`.
-/

namespace ViewCompiler.Script

inductive Construct where
  | script | exportStatement | namespaceExport | exportClause | exportSpecifier | exportedName
  | declaration | importCallee | importStatement | importClause | fromClause | namespaceImport
  | namedImports | importSpecifier | importAttributes | statement | expressionStatement
  | variableDeclaration | lexicalDeclaration | variableDeclarator | block | elseClause | ifStatement
  | switchStatement | forStatement | forInStatement | forHeader | whileStatement | doStatement
  | tryStatement | withStatement | breakStatement | continueStatement | debuggerStatement
  | returnStatement | throwStatement | emptyStatement | labeledStatement | switchBody | switchCase
  | switchDefault | catchClause | finallyClause | parenthesized | expressions | expression | primary
  | yieldExpression | object | objectPattern | assignmentPattern | objectAssignmentPattern | array
  | arrayPattern | qualifiedName | classExpression | classDeclaration | classHeritage
  | functionExpression | functionDeclaration | generatorExpression | generatorDeclaration | arrow
  | signature | parameter | optionalChain | call | newExpression | awaitExpression | member | subscript
  | assignable | assignment | updatable | compoundAssignment | initializer | destructuring | spread
  | conditional | binary | unary | update | sequence | stringLiteral | template | substitution
  | regexLiteral | name | metaProperty | arguments | decorator | decoratorMember | decoratorCall
  | classBody | staticBlock | parameters | pattern | restPattern | methodDefinition | pair | pairPattern
  | propertyName | computedName | softKeyword | semicolon | field | nonNull | methodSignature
  | abstractMethodSignature | functionSignature | decoratorParenthesized | importName | typeAssertion
  | asExpression | satisfiesExpression | instantiation | requireClause | extendsClause | superclass
  | implementsClause | ambientDeclaration | abstractClass | moduleDeclaration | namespaceDeclaration
  | moduleBody | importAlias | qualifiedType | interfaceDeclaration | superinterfaces | enumDeclaration
  | enumBody | enumAssignment | typeAlias | accessibility | overrideModifier | requiredParameter
  | optionalParameter | parameterName | omittingTypeAscription | addingTypeAscription
  | optingTypeAscription | typeAscription | importedTypeMember | importedTypeCall | assertion
  | assertionAscription | type | tupleParameter | optionalTupleParameter | optionalType | restType
  | tupleMember | constructorType | primaryType | typeSubstitution | templateType | inferType
  | conditionalType | genericType | typePredicate | typePredicateAscription | queriedMember
  | queriedSubscript | queriedCall | queriedInstantiation | typeQuery | keysType | lookupType
  | mappedType | literalType | signedNumber | starType | maybeType | parenthesizedType | builtinType
  | typeArguments | objectType | callSignature | propertySignature | typeParameters | typeParameter
  | defaultType | constraint | constructSignature | indexSignature | arrayType | tupleType
  | readonlyType | unionType | intersectionType | functionType | typeName
  deriving DecidableEq, Hashable, Repr

namespace Construct

/-- The constructs that leave no node of their own. -/
def isHidden : Construct → Bool
  | .exportedName | .declaration | .fromClause | .statement | .forHeader | .expressions | .expression
  | .primary | .signature | .parameter | .assignable | .updatable | .initializer | .destructuring
  | .name | .pattern | .propertyName | .softKeyword | .semicolon | .importName | .superclass
  | .moduleBody | .parameterName | .importedTypeMember | .importedTypeCall | .type | .tupleMember
  | .primaryType | .queriedMember | .queriedSubscript | .queriedCall | .queriedInstantiation
  | .signedNumber | .typeName => true
  | _ => false

/-- The constructs that a rule takes over as if their own rule were written out in their place. -/
def isTransparent : Construct → Bool
  | .expressions | .semicolon | .name | .softKeyword | .assignable | .typeName => true
  | _ => false

/-- The kind of node that a construct leaves. -/
def kind : Construct → Kind
  | .classDeclaration => .classDeclaration
  | .abstractClass => .abstractClass
  | .classExpression => .classExpression
  | .classBody => .classBody
  | .methodDefinition => .methodDefinition
  | .parameters => .parameters
  | .arguments => .arguments
  | .call => .call
  | .member => .member
  | .arrow => .arrow
  | .block => .block
  | .parenthesized => .parenthesized
  | .spread => .spread
  | .decorator => .decorator
  | .stringLiteral => .string
  | .template => .template
  | .substitution => .substitution
  | _ => .other

end Construct

end ViewCompiler.Script
