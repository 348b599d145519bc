/-
**Declarations.** Variables, functions, classes, types, and what is only announced.
-/

import TestOutline.Syntax.Grammar.Expression

namespace TestOutline.Syntax.Grammar

open TestOutline.Syntax.Parser

variable (rules : Rules)

/-- A name with its type and value, or a pattern. -/
def declarator : Parser Node := node .variableDeclarator do
  let target ← rules .pattern
  let _ ← optional (do typed; char '!')
  let _ ← optional (annotatedType rules)
  let value ← optionalNodes do
    symbol "="
    return [(← anAssignment rules).as .value]
  return target.as .name :: value

/-- The words that start a declaration of variables. `let`, `const` and `using` need a name or a
pattern after them. -/
def variableWord : Parser NodeKind :=
  (do keyword "var"; return .variableDeclaration) <|>
  (do
    keyword "let" <|> keyword "const"
    require (!(← atWord "enum"))
    return .lexicalDeclaration)

/-- Variables without the end of the statement. -/
def variableList : Parser Node := do
  let start ← get
  let kind ← variableWord
  let declarators ← separated (symbol ",") (declarator rules)
  return .mk ⟨kind, none, true, false, start.offset, (← get).lastStop⟩ declarators

/-- A declaration of variables. -/
def variableStatement : Parser Node := do
  let .mk head declarators ← variableList rules
  endStatement (declarators.getLast?.any fun last => (Node.child? .value last).isSome)
  return .mk { head with stop := (← get).lastStop } declarators

/-- A function with its body; the comments up to an implied semicolon are part of it. -/
def functionDeclaration : Parser Node := node .functionDeclaration do
  let marks ← functionWords
  let name := (← identifier).as .name
  let signature ← callSignature rules
  let body ← functionBody rules
  optionalEnd
  return marks ++ name :: signature ++ [body]

/-- A function without a body. -/
def functionSignature : Parser Node := node .other do
  typed
  let marks ← functionWords
  let name ← identifier
  let signature ← callSignature rules
  endStatement false
  return marks ++ name :: signature

/-- A class; the comments up to an implied semicolon are part of it. -/
def classDeclaration : Parser Node := node .classDeclaration do
  let decorators ← many (decorator rules)
  keyword "class"
  let name ← className
  let rest ← classRest rules
  optionalEnd
  return decorators ++ name :: rest

def abstractClassDeclaration : Parser Node := node .classDeclaration do
  typed
  let decorators ← many (decorator rules)
  keyword "abstract"
  keyword "class"
  let name ← className
  return decorators ++ name :: (← classRest rules)

def interfaceDeclaration : Parser Node := node .typeDeclaration do
  typed
  keyword "interface"
  let name := (← leaf .typeIdentifier name).as .name
  let _ ← optional (typeParameters rules)
  let _ ← optional (do keyword "extends"; separated (symbol ",") (aType rules))
  objectType rules
  return [name]

/-- A name for a type. -/
def typeAlias : Parser Node := node .typeDeclaration do
  typed
  keyword "type"
  let name := (← leaf .typeIdentifier name).as .name
  let _ ← optional (typeParameters rules)
  symbol "="
  aType rules
  endStatement false
  return [name]

/-- A member of an enumeration with its value. -/
def enumMember : Parser (List Node) := do
  let key ← memberKey rules
  return key ++ (← fallback rules)

def enumDeclaration : Parser Node := node .typeDeclaration do
  typed
  let _ ← optional (keyword "const")
  keyword "enum"
  let name := (← identifier).as .name
  char '\x7b'
  let members ← commaList (enumMember rules)
  char '\x7d'
  return name :: members.flatten

def namespaceDeclaration : Parser Node := node .other do
  typed
  keyword "namespace" <|> keyword "module"
  require (← sameLine)
  discard string <|> dottedName
  return [← rules .block]

/-- Another name for a member of a namespace. -/
def importAlias : Parser Node := node .other do
  typed
  keyword "import"
  let name ← identifier
  symbol "="
  dottedName
  endStatement false
  return [name]

/-- What is only announced: declarations that are defined elsewhere. -/
def ambientDeclaration (declaration : Parser Node) : Parser Node := node .other do
  typed
  keyword "declare"
  (do keyword "global"; return [← rules .block]) <|>
    (do
      keyword "module"
      let _ ← string
      endStatement false
      return []) <|>
    (do return [← declaration])

/-- A declaration that is defined where it stands. -/
def plainDeclaration : Parser Node :=
  functionDeclaration rules <|> functionSignature rules <|> classDeclaration rules <|>
    abstractClassDeclaration rules <|> enumDeclaration rules <|> variableStatement rules <|>
    interfaceDeclaration rules <|> typeAlias rules <|> namespaceDeclaration rules <|> importAlias

def declaration : Parser Node :=
  plainDeclaration rules <|> ambientDeclaration rules (plainDeclaration rules)

end TestOutline.Syntax.Grammar
