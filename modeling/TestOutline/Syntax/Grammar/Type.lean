/-
**Types.** Types, their parameters and arguments, and the members of object types. The tree keeps of
a type only where it stands.
-/

import TestOutline.Syntax.Parser

namespace TestOutline.Syntax.Grammar

open TestOutline.Syntax.Parser

variable (rules : Rules)

def aType : Parser Unit := discard (rules .type)

/-- A colon and a type. -/
def annotatedType : Parser Unit := do typed; symbol ":"; aType rules

/-- The types between angle brackets that a generic thing is applied to. -/
def typeArguments : Parser Unit := do
  typed
  char '<'
  let _ ← commaList (aType rules)
  char '>'

/-- The types between angle brackets that a generic thing is about. -/
def typeParameters : Parser Unit := do
  typed
  char '<'
  let _ ← commaList do
    let _ ← many (do
      keyword "const" <|> keyword "in" <|> keyword "out"
      require (← isAhead name))
    let _ ← name
    let _ ← optional (do keyword "extends"; aType rules)
    let _ ← optional (do symbol "="; aType rules)
  char '>'

/-- The key of a member: a word, a string, a number, a private name, or an expression in brackets,
whose node is kept. -/
def memberKey : Parser (List Node) :=
  (do char '['; let key ← rules .expression; char ']'; return [key]) <|>
  (do let _ ← word; return []) <|>
  (do let _ ← lexeme Lexeme.string; return []) <|>
  (do let _ ← lexeme Lexeme.number; return []) <|>
  (do char '#'; let _ ← word; return [])

/-- The parameters of a function type: patterns with types, optional ones and a rest. -/
def typeOfParameters : Parser Unit := do
  char '('
  let _ ← commaList do
    let _ ← optional (symbol "...")
    keyword "this" <|> discard (rules .pattern)
    let _ ← optional (char '?')
    let _ ← optional (annotatedType rules)
  char ')'

/-- What a function gives back: a type, or what it says about its arguments. -/
def resultType : Parser Unit := do
  let _ ← optional (do
    keyword "asserts"
    require (← isAhead (keyword "this" <|> discard name)))
  (do
    keyword "this" <|> discard name
    require (← sameLine)
    keyword "is"
    aType rules) <|> aType rules

/-- A function type, after what may stand in front of it. -/
def functionType : Parser Unit := do
  let _ ← optional (typeParameters rules)
  typeOfParameters rules
  symbol "=>"
  resultType rules

/-- A member of an object type. -/
def typeMember : Parser Unit :=
  -- a mapped type or an index signature
  (do
    let _ ← optional (do (char '+' <|> char '-'); keyword "readonly")
    let _ ← optional (do keyword "readonly"; require (← atChar '['))
    char '['
    let _ ← name
    (do keyword "in"; aType rules; let _ ← optional (do keyword "as"; aType rules)) <|>
      annotatedType rules
    char ']'
    let _ ← optional (do (char '+' <|> char '-'); char '?')
    let _ ← optional (char '?')
    let _ ← optional (annotatedType rules)) <|>
  -- a signature of calls or of constructors
  (do
    let _ ← optional (do keyword "new"; require ((← atChar '(') || (← atChar '<')))
    signature) <|>
  -- an accessor
  (do
    keyword "get" <|> keyword "set"
    let _ ← memberKey rules
    signature) <|>
  -- a property or a method
  (do
    let _ ← optional (do
      keyword "readonly"
      require (← isAhead (memberKey rules)))
    let _ ← memberKey rules
    let _ ← optional (char '?')
    signature <|> (do let _ ← optional (annotatedType rules)))
where
  /-- The parameters and the result of a method. -/
  signature : Parser Unit := do
    let _ ← optional (typeParameters rules)
    typeOfParameters rules
    let _ ← optional (do symbol ":"; resultType rules)

/-- Members between braces, with semicolons, commas or line ends between them. -/
def objectType : Parser Unit := do
  char '{'
  let _ ← many (symbol ";" <|> symbol "," <|> typeMember rules)
  char '}'

/-- The text of a template up to its closing mark or up to a substitution, with that mark. -/
def templateText (closing : Bool) : Parser Unit := do
  let chars := (← get).gap
  let some size := Lexeme.templateText? chars | failure
  require ((chars.drop size).head? == some (if closing then '\x60' else '$'))
  resume (size + if closing then 1 else 2)

/-- A template, from its opening mark to its closing one, with the parts that are substituted. -/
def template (part : Parser Node) : Parser (List Node) := do
  char '\x60'
  let parts ← many do
    templateText false
    let part ← part
    char '\x7d'
    return part
  templateText true
  return parts

def dottedName : Parser Unit := do
  let _ ← word
  let _ ← many (do symbol "."; word)

/-- A type that no operator takes apart. -/
def primaryType : Parser Unit :=
  (do let _ ← optional (keyword "abstract"); keyword "new"; functionType rules) <|>
  functionType rules <|>
  (do char '('; aType rules; char ')') <|>
  objectType rules <|>
  (do
    char '['
    let _ ← commaList do
      let _ ← optional (symbol "...")
      let _ ← optional (do let _ ← word; let _ ← optional (char '?'); symbol ":")
      aType rules
      optional (char '?')
    char ']') <|>
  (do let _ ← string) <|>
  (do let _ ← optional (char '-'); let _ ← lexeme Lexeme.number) <|>
  (do let _ ← template (rules .type)) <|>
  (do
    keyword "typeof"
    (do importType) <|> dottedName
    let _ ← optional (do require (← sameLine); typeArguments rules)) <|>
  importType <|>
  (do
    require (!(← atWord "typeof"))
    dottedName
    let _ ← optional (do require (← sameLine); typeArguments rules))
where
  /-- A type of another module. -/
  importType : Parser Unit := do
    keyword "import"
    char '('
    let _ ← commaList (rules (.assignment true))
    char ')'
    let _ ← many (do symbol "."; word)
    let _ ← optional (typeArguments rules)

/-- A primary type with brackets after it: an array type or the type of a member. -/
def postfixType : Parser Unit := do
  primaryType rules
  let _ ← many (do
    require (← sameLine)
    char '['
    let _ ← optional (aType rules)
    char ']')

/-- A type with the words that may stand in front of it. -/
def prefixedType : Parser Unit := do
  let _ ← many (do
    keyword "keyof" <|> keyword "unique" <|> keyword "readonly"
    require (← isAhead (primaryType rules)))
  inferredType <|> postfixType rules
where
  /-- A type to be found, which may have a bound. -/
  inferredType : Parser Unit := do
    keyword "infer"
    let _ ← name
    let _ ← optional (do keyword "extends"; aType rules)

/-- Types joined by ampersands. -/
def intersectionType : Parser Unit := do
  let _ ← optional (symbol "&")
  let _ ← separated (symbol "&") (prefixedType rules)

/-- Types joined by bars. -/
def unionType : Parser Unit := do
  let _ ← optional (symbol "|")
  let _ ← separated (symbol "|") (intersectionType rules)

/-- A type: a union, or a choice between two types. -/
def type : Parser Node := leaf .other do
  unionType rules
  let _ ← optional (do
    keyword "extends"
    unionType rules
    symbol "?"
    aType rules
    symbol ":"
    aType rules)

end TestOutline.Syntax.Grammar
