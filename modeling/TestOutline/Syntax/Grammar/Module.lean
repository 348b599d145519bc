/-
**Imports and exports.** Statements that connect a source to others.
-/

import TestOutline.Syntax.Grammar.Declaration

namespace TestOutline.Syntax.Grammar

open TestOutline.Syntax.Parser

variable (rules : Rules)

/-- What a name stands for in another module: a word or a string. -/
def exportedName : Parser Node := leaf .identifier (discard word <|> discard (lexeme Lexeme.string))

/-- A name with another name after the word `as`, the one or both. -/
def renamed : Parser (List Node) := do
  let name := (← exportedName).as .name
  (do
    keyword "as"
    return [name, (← exportedName).as .alias]) <|> return [name]

/-- A name that is imported, and perhaps marked as a type. A mark may itself be the name. -/
def importSpecifier : Parser Node := node .importSpecifier <|
  (do
    let mark ← keywordNode .typeKeyword "type" <|> leaf .other (keyword "typeof")
    require (!(← atWord "as") || (← isAhead (do keyword "as"; keyword "as"; exportedName)))
    let names ← renamed
    return mark :: names) <|> renamed

/-- The names in braces that are imported. -/
def namedImports : Parser Node := node .namedImports do
  char '\x7b'
  let specifiers ← commaList importSpecifier
  char '\x7d'
  return specifiers

/-- A star and the name that the whole module goes by. -/
def namespaceImport : Parser Node := node .namespaceImport do
  symbol "*"
  keyword "as"
  return [← identifier]

/-- What is imported: a default, names, or the whole module. -/
def importClause : Parser Node := node .importClause <|
  (do return [← namespaceImport <|> namedImports]) <|>
  (do
    let defaultName ← identifier
    let others ← optionalNodes do
      symbol ","
      return [← namespaceImport <|> namedImports]
    return defaultName :: others)

/-- The word `from` and the module. -/
def fromClause : Parser Node := do
  keyword "from"
  return (← string).as .source

/-- How the module is to be read. -/
def importAttributes : Parser Unit := do
  keyword "with" <|> (do keyword "assert"; require (← sameLine))
  discard (object rules)

/-- An import. A mark as a type may itself be the name that is imported. -/
def importStatement : Parser Node := node .importStatement do
  keyword "import"
  let clause ← plain [] <|> (do
      let mark ← keywordNode .typeKeyword "type" <|> leaf .other (do typed; keyword "typeof")
      plain [mark]) <|> required
  let _ ← optional (importAttributes rules)
  endStatement false
  return clause
where
  /-- A module alone, or what is imported from it. -/
  plain (marks : List Node) : Parser (List Node) :=
    (do return marks ++ [(← string).as .source]) <|>
    (do
      let clause ← importClause
      return marks ++ [clause, ← fromClause])
  /-- A module that is required under a name. -/
  required : Parser (List Node) := do
    typed
    let _ ← optional (do
      keyword "type"
      require (← isAhead identifier))
    let name ← identifier
    symbol "="
    let clause ← node .other do
      keyword "require"
      char '('
      let source ← string
      char ')'
      return [source.as .source]
    return [name, clause]

/-- The names in braces that are exported. -/
def exportClause : Parser (List Node) := do
  char '\x7b'
  let names ← commaList <| node .other do
    let _ ← optional (do
      keyword "type"
      require (!(← atChar ',') && !(← atChar '\x7d') && !(← atWord "as")))
    renamed
  char '\x7d'
  return names

/-- What is exported, after the word `export`. -/
def exported : Parser (List Node) :=
  (do
    keyword "default"
    (do return [(← defaultDeclaration).as .declaration]) <|> (do
      let value := (← rules .expression).as .value
      endStatement true
      return [value])) <|>
  (do
    let _ ← optional (keyword "type")
    symbol "*"
    let _ ← optional (do keyword "as"; exportedName)
    let source ← fromClause
    let _ ← optional (importAttributes rules)
    endStatement false
    return [source]) <|>
  (do
    let _ ← optional (keyword "type")
    let names ← exportClause
    let source ← optionalNodes do
      let source ← fromClause
      let _ ← optional (importAttributes rules)
      return [source]
    endStatement false
    return names ++ source) <|>
  (do
    typed
    keyword "as"
    keyword "namespace"
    let name ← identifier
    endStatement false
    return [name]) <|>
  (do
    typed
    symbol "="
    let value ← rules .expression
    endStatement true
    return [value]) <|>
  (do return [← importAlias]) <|>
  (do return [(← declaration rules).as .declaration])
where
  /-- A declaration that may be the default export: it has a name. -/
  defaultDeclaration : Parser Node :=
    functionDeclaration rules <|> functionSignature rules <|> classDeclaration rules <|>
      abstractClassDeclaration rules <|> interfaceDeclaration rules <|> enumDeclaration rules

/-- An export, behind the decorators of the class that it exports. -/
def exportStatement : Parser Node := node .exportStatement do
  let decorators ← many (decorator rules)
  keyword "export"
  return decorators ++ (← exported rules)

end TestOutline.Syntax.Grammar
