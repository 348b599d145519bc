/-
**Functions and what values are bound to.** Patterns, parameters, arguments and the parts that all
functions share.
-/

import TestOutline.Syntax.Grammar.Type

namespace TestOutline.Syntax.Grammar

open TestOutline.Syntax.Parser

variable (rules : Rules)

/-- An expression without commas. -/
def anAssignment : Parser Node := rules (.assignment true)

/-- An equals sign and a value to fall back on. -/
def fallback : Parser (List Node) := optionalNodes do
  symbol "="
  return [← anAssignment rules]

/-- A pattern and the value it falls back on. -/
def patternWithFallback : Parser (List Node) := do
  let target ← rules .pattern
  return target :: (← fallback rules)

/-- A property of an object pattern. -/
def patternProperty : Parser (List Node) :=
  (do symbol "..."; return [← rules .pattern]) <|>
  (do
    let key ← memberKey rules
    symbol ":"
    return key ++ (← patternWithFallback rules)) <|>
  (do
    let key ← identifier
    return key :: (← fallback rules))

/-- An element of an array pattern, which may be left out. -/
def patternElement : Parser (List Node) := optionalNodes <|
  (do symbol "..."; return [← rules .pattern]) <|> patternWithFallback rules

/-- What a value is bound to. -/
def pattern : Parser Node :=
  identifier <|>
  node .other (do
    char '\x7b'
    let properties ← commaList (patternProperty rules)
    char '\x7d'
    return properties.flatten) <|>
  node .other (do
    char '['
    let elements ← separated (symbol ",") (patternElement rules)
    char ']'
    return elements.flatten)

/-- The arguments of a call. -/
def arguments : Parser Node := node .arguments do
  char '('
  let arguments ← commaList <|
    node .other (do symbol "..."; return [← anAssignment rules]) <|> anAssignment rules
  char ')'
  return arguments

/-- An at sign and what decorates a declaration: a name, a call, or an expression in parentheses. -/
def decorator : Parser Node := node .other do
  char '@'
  (do char '('; let inner ← rules .expression; char ')'; return [inner]) <|> (do
    let simple ← identifier
    let members ← many (do symbol "."; word)
    let callee ← if members.isEmpty then pure simple else nodeFrom .other simple [simple]
    (do
      let _ ← optional (typeArguments rules)
      let arguments ← arguments rules
      return [← nodeFrom .call callee [callee.as .function, arguments.as .arguments]]) <|>
      return [callee])

/-- A parameter with its decorators, modifiers, type and fallback. -/
def parameter : Parser (List Node) := do
  let decorators ← many (decorator rules)
  let _ ← many (do
    typed
    keyword "public" <|> keyword "private" <|> keyword "protected" <|> keyword "readonly" <|>
      keyword "override"
    require (← isAhead (rules .pattern)))
  let _ ← optional (symbol "...")
  let target ← leaf .other (keyword "this") <|> rules .pattern
  let _ ← optional (do typed; char '?')
  let _ ← optional (annotatedType rules)
  return decorators ++ target :: (← fallback rules)

def parameters : Parser Node := node .other do
  char '('
  let parameters ← commaList (parameter rules)
  char ')'
  return parameters.flatten

/-- A colon and what a function gives back. -/
def annotatedResult : Parser Unit := do typed; symbol ":"; resultType rules

/-- The parameters and the result type of a function. -/
def callSignature : Parser (List Node) := do
  let _ ← optional (typeParameters rules)
  let parameters ← parameters rules
  let _ ← optional (annotatedResult rules)
  return [parameters]

/-- The word `async` when what follows stands on its line. -/
def asyncWord : Parser (List Node) := optionalNodes do
  let keyword ← keywordNode .asyncKeyword "async"
  require (← sameLine)
  return [keyword]

/-- The word `function` with what marks an asynchronous function or a generator. -/
def functionWords : Parser (List Node) := do
  let marks ← asyncWord
  keyword "function"
  let _ ← optional (symbol "*")
  return marks

def functionBody : Parser Node := return (← rules .block).as .body

def functionExpression : Parser Node := node .functionExpression do
  let marks ← functionWords
  let name ← optionalNodes (return [(← identifier).as .name])
  let signature ← callSignature rules
  return marks ++ name ++ signature ++ [← functionBody rules]

/-- Parameters between parentheses, behind the types that they are about. Where elements are part of
the language, those types must hold a comma or a bound, or else they are a tag. -/
def arrowParameters (typedArrows : Bool) : Parser (List Node) := do
  let before ← next
  let generic ← optional (typeParameters rules)
  let text := before.take (before.length - (← next).length)
  require (generic.isNone || !(← read).hasElements || text.contains ',' ||
    (Text.ofChars text).contains "extends")
  let parameters ← parameters rules
  if typedArrows then
    let _ ← optional (annotatedResult rules)
  return [parameters]

def arrowFunction (typedArrows : Bool) : Parser Node := node .arrowFunction do
  let marks ← optionalNodes do
    let marks ← asyncWord
    require (!marks.isEmpty && Lexeme.punctuator (← next) != "=>".toList)
    return marks
  let parameters ← (do return [← identifier]) <|> arrowParameters rules typedArrows
  symbol "=>"
  let body ← rules .block <|> anAssignment rules
  return marks ++ parameters ++ [body.as .body]

end TestOutline.Syntax.Grammar
