import ViewCompiler.Script.Rule

/-!
# Statements

Declarations of variables and the statements that steer the flow of control. A statement ends with a
semicolon or where the layout ends it.
-/

namespace ViewCompiler.Script.Grammar

open Rule Construct

def statementRules : List (Construct × Rule) :=
  [(statement, oneOf [
     exportStatement, importStatement, debuggerStatement, expressionStatement, declaration, block,
     ifStatement, switchStatement, forStatement, forInStatement, whileStatement, doStatement,
     tryStatement, withStatement, breakStatement, continueStatement, returnStatement, throwStatement,
     emptyStatement, labeledStatement]),
   (declaration, oneOf [
     functionDeclaration, generatorDeclaration, classDeclaration, lexicalDeclaration,
     variableDeclaration, functionSignature, abstractClass, moduleDeclaration,
     strength .declaration namespaceDeclaration, typeAlias, enumDeclaration, interfaceDeclaration,
     importAlias, ambientDeclaration]),
   (expressionStatement, seq [expressions, semicolon]),
   (variableDeclaration, seq ["var", commaSep1 variableDeclarator, semicolon]),
   (lexicalDeclaration, seq [oneOf ["let", "const"], commaSep1 variableDeclarator, semicolon]),
   (variableDeclarator, oneOf [
     seq [oneOf [identifier, destructuring], optional typeAscription, optional initializer],
     strength .declaration (seq [identifier, "!", typeAscription])]),
   (initializer, seq ["=", expression]),
   (block, right .plain <| seq [
     openBrace, many statement, closeBrace, optional automaticSemicolon]),
   (ifStatement, right .plain (seq ["if", parenthesized, statement, optional elseClause])),
   (elseClause, seq ["else", statement]),
   (switchStatement, seq ["switch", parenthesized, switchBody]),
   (switchBody, seq [openBrace, many (oneOf [switchCase, switchDefault]), closeBrace]),
   (switchCase, seq ["case", expressions, ":", many statement]),
   (switchDefault, seq ["default", ":", many statement]),
   (forStatement, seq [
     "for", "(",
     oneOf [lexicalDeclaration, variableDeclaration, seq [expressions, ";"], emptyStatement],
     oneOf [seq [expressions, ";"], emptyStatement], optional expressions, ")", statement]),
   (forInStatement, seq ["for", optional "await", forHeader, statement]),
   (forHeader, seq [
     "(",
     oneOf [
       assignable, parenthesized,
       seq ["var", oneOf [identifier, destructuring], optional initializer],
       seq [
         oneOf ["let", "const"], oneOf [identifier, destructuring],
         optional automaticSemicolon]],
     oneOf ["in", "of"], expressions, ")"]),
   (whileStatement, seq ["while", parenthesized, statement]),
   (doStatement, right .plain (seq ["do", statement, "while", parenthesized, optional semicolon])),
   (tryStatement, seq ["try", block, optional catchClause, optional finallyClause]),
   (catchClause, seq [
     "catch",
     optional (seq ["(", oneOf [identifier, destructuring], optional typeAscription, ")"]),
     block]),
   (finallyClause, seq ["finally", block]),
   (withStatement, seq ["with", parenthesized, statement]),
   (breakStatement, seq ["break", optional (shown .other identifier), semicolon]),
   (continueStatement, seq ["continue", optional (shown .other identifier), semicolon]),
   (debuggerStatement, seq ["debugger", semicolon]),
   (returnStatement, seq ["return", optional expressions, semicolon]),
   (throwStatement, seq ["throw", expressions, semicolon]),
   (emptyStatement, ";"),
   (labeledStatement, weighted (-1) <| seq [
     shown .other (oneOf [identifier, softKeyword]), ":", statement]),
   (semicolon, oneOf [automaticSemicolon, ";"]),
   (enumDeclaration, seq [optional "const", "enum", identifier, enumBody]),
   (enumBody, seq [
     openBrace, optional (seq [commaSep1 (oneOf [propertyName, enumAssignment]), optional ","]),
     closeBrace]),
   (enumAssignment, seq [propertyName, initializer])]

end ViewCompiler.Script.Grammar
