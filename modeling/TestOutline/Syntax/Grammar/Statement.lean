/-
**Statements.** Blocks, branches, loops, jumps, and the statements that are declarations or
expressions.
-/

import TestOutline.Syntax.Grammar.Module

namespace TestOutline.Syntax.Grammar

open TestOutline.Syntax.Parser

variable (rules : Rules)

/-- Statements between braces. -/
def block : Parser Node := node .statementBlock do
  char '\x7b'
  let statements ← many (rules .statement)
  char '\x7d'
  return statements

/-- An expression in parentheses that a statement depends on. -/
def condition : Parser Node := node .parenthesized do
  char '('
  let inner ← rules .expression
  char ')'
  return [inner]

/-- A choice between statements. -/
def ifStatement : Parser (List Node) := do
  keyword "if"
  let test ← condition rules
  let first ← rules .statement
  let second ← optionalNodes do
    keyword "else"
    return [← rules .statement]
  return test :: first :: second

/-- What a loop over values binds or stores them in: a declaration or a place. -/
def loopTarget : Parser (List Node) :=
  (do
    let _ ← variableWord <|> (do keyword "using"; return .other)
    return [← rules .pattern]) <|>
  (do return [← rules .operand])

/-- A loop over the values or the keys of something. -/
def loopOver : Parser (List Node) := do
  let target ← loopTarget rules
  keyword "of" <|> keyword "in"
  return target ++ [← rules .expression]

/-- The start, the test and the step of a counting loop, each of which may be left out. -/
def loopCounting : Parser (List Node) := do
  let start ← optionalNodes (return [← variableList rules <|> rules .expression])
  symbol ";"
  let test ← optionalNodes (return [← rules .expression])
  symbol ";"
  let step ← optionalNodes (return [← rules .expression])
  return start ++ test ++ step

/-- A loop with a head in parentheses. -/
def forStatement : Parser (List Node) := do
  keyword "for"
  let _ ← optional (keyword "await")
  char '('
  let head ← (do let head ← loopOver rules; require (← atChar ')'); return head) <|>
      loopCounting rules
  char ')'
  return head ++ [← rules .statement]

/-- A loop that tests before each round. -/
def whileStatement : Parser (List Node) := do
  keyword "while"
  let test ← condition rules
  return [test, ← rules .statement]

/-- A statement in which names may stand for the members of an object. -/
def withStatement : Parser (List Node) := do
  keyword "with"
  let object ← condition rules
  return [object, ← rules .statement]

/-- A loop that tests after each round. -/
def doStatement : Parser (List Node) := do
  keyword "do"
  let body ← rules .statement
  keyword "while"
  let test ← condition rules
  let _ ← optional (endStatement false)
  return [body, test]

/-- A choice by value. -/
def switchStatement : Parser (List Node) := do
  keyword "switch"
  let value ← condition rules
  char '\x7b'
  let branches ← many do
    let label ← (do keyword "case"; return [← rules .expression]) <|>
        (do keyword "default"; return [])
    symbol ":"
    return label ++ (← many (rules .statement))
  char '\x7d'
  return value :: branches.flatten

/-- A block with what happens when it fails and what happens in any case. -/
def tryStatement : Parser (List Node) := do
  keyword "try"
  let body ← rules .block
  let handler ← optionalNodes do
    keyword "catch"
    let binding ← optionalNodes do
      char '('
      let target ← rules .pattern
      let _ ← optional (annotatedType rules)
      char ')'
      return [target]
    return binding ++ [← rules .block]
  let finalizer ← optionalNodes do
    keyword "finally"
    return [← rules .block]
  require (!(handler.isEmpty && finalizer.isEmpty))
  return body :: handler ++ finalizer

/-- A word that leaves a loop, with the label of the loop. -/
def jumpStatement : Parser (List Node) := do
  keyword "break" <|> keyword "continue"
  endStatement false <|> (do
    let _ ← name
    endStatement false)
  return []

/-- The end of a function, with its result. -/
def returnStatement : Parser (List Node) := do
  keyword "return"
  (do endStatement false; return []) <|> (do
    let value ← rules .expression
    endStatement true
    return [value])

def throwStatement : Parser (List Node) := do
  keyword "throw"
  let value ← rules .expression
  endStatement true
  return [value]

def labeledStatement : Parser (List Node) := do
  let label ← leaf .other name
  symbol ":"
  return [label, ← rules .statement]

/-- A declaration of variables that are disposed of. -/
def usingStatement : Parser (List Node) := do
  let _ ← optional (keyword "await")
  keyword "using"
  require (← sameLine)
  let declarators ← separated (symbol ",") (declarator rules)
  endStatement true
  return declarators

/-- An expression as a statement. -/
def expressionStatement : Parser Node := node .expressionStatement do
  let value ← rules .expression
  endStatement true
  return [value]

def wordStatement : Parser Node := node .other <|
  ifStatement rules <|> forStatement rules <|> whileStatement rules <|> doStatement rules <|>
    switchStatement rules <|> tryStatement rules <|> withStatement rules <|> jumpStatement <|>
    returnStatement rules <|> throwStatement rules <|>
      (do keyword "debugger"; endStatement false; return []) <|>
    usingStatement rules <|> labeledStatement rules

def statement : Parser Node := do
  match (← next).head? with
  | none => failure
  | some '\x7b' => block rules
  | some ';' => leaf .other (char ';')
  | some '\x7d' => failure
  | some '@' => exportStatement rules <|> declaration rules <|> expressionStatement rules
  | some first =>
    if isNameStart first || first == '\\' then
      importStatement rules <|> exportStatement rules <|> declaration rules <|> wordStatement
        rules <|>
        expressionStatement rules
    else expressionStatement rules

end TestOutline.Syntax.Grammar
