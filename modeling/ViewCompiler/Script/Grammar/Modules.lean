import ViewCompiler.Script.Rule

/-!
# Modules

The script as a whole, what it takes from other modules and gives to them, and the namespaces
that a script may be divided into.
-/

namespace ViewCompiler.Script.Grammar

open Rule Construct

def moduleRules : List (Construct × Rule) :=
  [(script, seq [optional (lexeme .hashBang), many statement]),
   (exportStatement, oneOf [
     seq [
       "export",
       oneOf [
         seq ["*", fromClause], seq [namespaceExport, fromClause], seq [exportClause, fromClause],
         exportClause],
       semicolon],
     seq [
       many decorator, "export",
       oneOf [declaration, seq ["default", oneOf [declaration, seq [expression, semicolon]]]]],
     seq ["export", "type", exportClause, optional fromClause, semicolon],
     seq ["export", "import", importAlias], seq ["export", "=", expression, semicolon],
     seq ["export", "as", "namespace", identifier, semicolon]]),
   (namespaceExport, seq ["*", "as", exportedName]),
   (exportClause, seq [openBrace, commaSep exportSpecifier, optional ",", closeBrace]),
   (exportSpecifier, seq [
     optional (oneOf ["type", "typeof"]), seq [exportedName, optional (seq ["as", exportedName])]]),
   (exportedName, oneOf [identifier, stringLiteral]),
   (importCallee, "import"),
   (importStatement, seq [
     "import", optional (oneOf ["type", "typeof"]),
     oneOf [seq [importClause, fromClause], requireClause, stringLiteral], optional importAttributes,
     semicolon]),
   (importClause, oneOf [
     namespaceImport, namedImports,
     seq [importName, optional (seq [",", oneOf [namespaceImport, namedImports]])]]),
   (fromClause, seq ["from", stringLiteral]),
   (namespaceImport, seq ["*", "as", identifier]),
   (namedImports, seq [openBrace, commaSep importSpecifier, optional ",", closeBrace]),
   (importSpecifier, seq [
     optional (oneOf ["type", "typeof"]),
     oneOf [
       importName,
       seq [
         oneOf [exportedName, shown .identifier "type", shown .identifier "default"], "as", importName]]]),
   (importAttributes, seq ["with", object]),
   (importName, oneOf [identifier, shown .identifier "type"]),
   (requireClause, seq [identifier, "=", "require", "(", stringLiteral, ")"]),
   (importAlias, seq [
     "import", identifier, "=", oneOf [identifier, qualifiedName], semicolon]),
   (ambientDeclaration, seq [
     "declare",
     oneOf [
       declaration, seq ["global", block],
       seq ["module", ".", shown .propertyName identifier, ":", type, semicolon]]]),
   (moduleDeclaration, seq ["module", moduleBody]),
   (namespaceDeclaration, seq ["namespace", moduleBody]),
   (moduleBody, right .plain <| seq [
     oneOf [stringLiteral, identifier, qualifiedName], optional block]),
   (qualifiedName, strength .member <| seq [
     oneOf [identifier, shown .member qualifiedName], ".",
     shown .propertyName identifier])]

end ViewCompiler.Script.Grammar
