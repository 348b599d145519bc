/-
**Expressions.** From primary ones over calls, operators, arrow functions and assignments to lists
with commas. Operators are not ranked: the outline asks only what is called and where an operand
ends.
-/

import TestOutline.Syntax.Grammar.Class

namespace TestOutline.Syntax.Grammar

open TestOutline.Syntax.Parser

variable (rules : Rules)

/-- The punctuators between two operands. -/
def binaryOperators : List String :=
  ["||", "&&", "??", "|", "^", "&", "==", "!=", "===", "!==", "<", ">", "<=", ">=", "<<", ">>",
    ">>>", "+", "-", "*", "/", "%", "**"]

/-- The punctuators that store a value. -/
def assignmentOperators : List String :=
  ["=", "+=", "-=", "*=", "/=", "%=", "**=", "<<=", ">>=", ">>>=", "&=", "|=", "^=", "&&=",
    "||=", "??="]

/-- Consumes one of some punctuators. -/
def oneOf (symbols : List String) : Parser Unit := do
  let found := Lexeme.punctuator (← next)
  require (symbols.any fun symbol => symbol.toList == found)
  modify (·.advance found.length)

/-- A template as an expression. -/
def templateNode : Parser Node :=
  node .other <| template <| node .other do return [← rules .expression]

/-- Makes a call of what was read so far. -/
def callOf (callee : Node) (arguments : Node) : Parser Node :=
  nodeFrom .call callee [callee.as .function, arguments.as .arguments]

/-- The name of a member after its dot. -/
def memberName : Parser Unit := do
  let _ ← optional (char '#')
  let _ ← word

/-- A member picked out of an object, without a call. -/
def memberOf (object : Node) : Parser Node :=
  (do symbol "."; memberName; nodeFrom .other object [object]) <|>
  (do
    char '['
    let index ← rules .expression
    char ']'
    nodeFrom .other object [object, index]) <|>
  (do
    typed
    symbol "!"
    nodeFrom .other object [object])

/-- Arguments or a template, behind the types that they are given. -/
def callArguments : Parser Node :=
  (do
    let _ ← optional (typeArguments rules)
    arguments rules) <|>
  (do
    let _ ← optional (typeArguments rules)
    templateNode rules)

/-- The words that start statements and no operand. -/
def statementWords : List String :=
  ["break", "case", "const", "continue", "debugger", "default", "do", "else", "enum", "export",
    "for", "if", "return", "switch", "throw", "try", "var", "while", "with"]

/-- Whether no operand starts at the next token. -/
def atOperandEnd : Parser Bool := do
  let word ← peekWord
  match (← next).head? with
  | none => return true
  | some first => return ")]\x7d,;:.?&|".contains first || statementWords.any fun known =>
    known.toList == word

/-- What may follow an operand: a member, arguments, types, or a mark that stands on its line. -/
def tailOf (base : Node) : Parser Node :=
  (do callOf base (← callArguments rules)) <|>
  (do
    symbol "?."
    (do callOf base (← callArguments rules)) <|>
      (do
        char '['
        let index ← rules .expression
        char ']'
        nodeFrom .other base [base, index]) <|>
      (do memberName; nodeFrom .other base [base])) <|>
  (do
    require ((← next).head? != some '!' || (← sameLine))
    memberOf rules base) <|>
  (do
    typeArguments rules
    require (← atOperandEnd)
    nodeFrom .other base [base]) <|>
  (do
    require (← sameLine)
    oneOf ["++", "--"]
    nodeFrom .other base [base])

/-- Adds to a node what follows it, as long as something does. -/
def extend (tail : Node → Parser Node) (base : Node) : Parser Node :=
  do go ((← next).length + 1) base
where
  /-- Adds at most as many tails as there is fuel. -/
  go : Nat → Node → Parser Node
    | 0, base => pure base
    | fuel + 1, base => do
      match ← optional (tail base) with
      | none => pure base
      | some longer => go fuel longer

/-- A property of an object. -/
def property : Parser (List Node) :=
  (do symbol "..."; return [← anAssignment rules]) <|>
  (do
    let key ← memberKey rules
    symbol ":"
    return key ++ [← anAssignment rules]) <|>
  (do
    -- a method or an accessor
    let method ← node .other do
      let marks ← many memberModifier
      let _ ← optional (symbol "*")
      let key ← memberKey rules
      let signature ← callSignature rules
      return marks.flatten ++ key ++ signature ++ [← functionBody rules]
    return [method]) <|>
  (do
    let key ← identifier
    return key :: (← fallback rules))

def object : Parser Node := node .other do
  char '\x7b'
  let properties ← commaList (property rules)
  char '\x7d'
  return properties.flatten

def array : Parser Node := node .other do
  char '['
  let elements ← separated (symbol ",") <| optionalNodes <|
    (do symbol "..."; return [← anAssignment rules]) <|> (do return [← anAssignment rules])
  char ']'
  return elements.flatten

def parenthesized : Parser Node := node .parenthesized do
  char '('
  let inner ← rules .expression
  let _ ← optional (annotatedType rules)
  char ')'
  return [inner]

/-- The construction of an object: a class with members but without calls, then arguments. -/
def construction : Parser (List Node) := do
  keyword "new"
  (do char '.'; keyword "target"; return []) <|> (do
    let callee ← extend (memberOf rules) (← rules .primary)
    let _ ← optional (typeArguments rules)
    return callee :: (← optionalNodes (return [← arguments rules])))

/-- An operand that starts with a word. -/
def wordExpression : Parser Node := do
  let word ← peekWord
  if word == "function".toList then functionExpression rules
  else if word == "async".toList then functionExpression rules <|> identifier
  else if word == "class".toList then classExpression rules
  else if word == "new".toList then node .other (construction rules)
  else if ["import", "this", "super", "null", "true", "false"].any fun known =>
    known.toList == word then
    leaf .other (lexeme Lexeme.name)
  else identifier

/-- An operand that nothing takes apart. -/
def primary : Parser Node := do
  match (← next).head? with
  | none => failure
  | some '(' => parenthesized rules
  | some '[' => array rules
  | some '\x7b' => object rules
  | some '\x60' => templateNode rules
  | some '/' => leaf .other (lexeme Lexeme.regex)
  | some '@' => classExpression rules
  | some '#' => leaf .other (do char '#'; word)
  | some '<' => do
    require (← read).hasElements
    rules .element
  | some _ => string <|> leaf .other (lexeme Lexeme.number) <|> wordExpression rules

/-- An operand: a primary expression with what follows it, behind the operators and type assertions
in front of it. -/
def operand : Parser Node :=
  node .awaitExpression (do keyword "await"; return [← rules .operand]) <|>
  node .other (do
    (keyword "delete" <|> keyword "void" <|> keyword "typeof") <|>
      oneOf ["!", "~", "+", "-", "++", "--"]
    return [← rules .operand]) <|>
  node .other (do
    require (!(← read).hasElements)
    char '<'
    aType rules
    char '>'
    return [← rules .operand]) <|>
  (do extend (tailOf rules) (← primary rules))

/-- An operator and its right operand, or what an operand is said to be. -/
def binaryRest : Parser (List Node) :=
  (do oneOf binaryOperators; return [← rules .operand]) <|>
  (do keyword "in" <|> keyword "instanceof"; return [← rules .operand]) <|>
  (do
    typed
    keyword "as" <|> keyword "satisfies"
    keyword "const" <|> aType rules
    return [])

/-- Operands with operators between them. -/
def binary : Parser Node := do
  let first ← rules .operand
  match ← many (binaryRest rules) with
  | [] => pure first
  | rest => nodeFrom .other first (first :: rest.flatten)

/-- The two branches of a choice. In the first one a colon ends the branch rather than starting the
result type of an arrow function, if it cannot be both. -/
def branches (typedArrows : Bool) : Parser (List Node) := do
  symbol "?"
  let first ← branch true <|> branch false
  return [first, ← rules (.assignment typedArrows)]
where
  /-- The branch up to the colon. -/
  branch (typedArrows : Bool) : Parser Node := do
    let inner ← rules (.assignment typedArrows)
    symbol ":"
    return inner

/-- What a generator hands out. -/
def yielded : Parser Node := node .other do
  keyword "yield"
  let _ ← optional (symbol "*")
  optionalNodes do
    require (← sameLine)
    return [← anAssignment rules]

/-- One expression: an arrow function, a choice, or the storing of a value. -/
def assignment (typedArrows : Bool) : Parser Node :=
  yielded rules <|> arrowFunction rules typedArrows <|> (do
    let first ← binary rules
    (do nodeFrom .other first (first :: (← branches rules typedArrows))) <|>
      (do
        oneOf assignmentOperators
        let value ← rules (.assignment typedArrows)
        nodeFrom .other first [first, value]) <|>
      pure first)

def expression : Parser Node := do
  match ← separated (symbol ",") (anAssignment rules) with
  | [single] => pure single
  | [] => failure
  | first :: rest => nodeFrom .other first (first :: rest)

end TestOutline.Syntax.Grammar
