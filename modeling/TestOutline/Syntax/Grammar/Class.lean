/-
**Classes.** Their heads and members.
-/

import TestOutline.Syntax.Grammar.Function

namespace TestOutline.Syntax.Grammar

open TestOutline.Syntax.Parser

variable (rules : Rules)

/-- Whether the next token shows that the word before it was the name of a member. -/
def endsMemberName : Parser Bool := do
  return match (← next).head? with
    | none => true
    | some char => ['(', '=', ';', ':', '?', '!', '\x7d', '<', ','].contains char

/-- A word in front of a member, not its name. -/
def memberModifier : Parser (List Node) := do
  let marks ← (do return [← keywordNode .asyncKeyword "async"]) <|> (do
    keyword "static" <|> keyword "public" <|> keyword "private" <|> keyword "protected" <|>
      keyword "readonly" <|> keyword "abstract" <|> keyword "override" <|> keyword "declare" <|>
      keyword "accessor" <|> keyword "get" <|> keyword "set"
    return [])
  require (!(← endsMemberName))
  return marks

/-- A method with its body, or its signature alone. -/
def methodRest : Parser (List Node) := do
  let signature ← callSignature rules
  (do return signature ++ [← functionBody rules]) <|> (do
    typed
    let _ ← optional (endStatement false)
    return signature)

def classMember : Parser (List Node) :=
  (do symbol ";"; return []) <|>
  (do keyword "static"; return [← rules .block]) <|>
  (do
    -- an index signature
    typed
    let _ ← many (keyword "static" <|> keyword "readonly")
    char '['
    let _ ← name
    annotatedType rules
    char ']'
    annotatedType rules
    endStatement false
    return []) <|>
  (do
    let decorators ← many (decorator rules)
    let member ← node .other do
      let marks ← many memberModifier
      let _ ← optional (symbol "*")
      let key ← memberKey rules
      let _ ← optional (do typed; (char '?' <|> char '!'))
      let rest ← methodRest rules <|> (do
        let _ ← optional (annotatedType rules)
        let value ← fallback rules
        endStatement true
        return value)
      return marks.flatten ++ key ++ rest
    return decorators ++ [member])

def classBody : Parser Node := node .other do
  char '\x7b'
  let members ← many (classMember rules)
  char '\x7d'
  return members.flatten

/-- What follows the name of a class: its parameters, what it extends and implements, and its
members. -/
def classRest : Parser (List Node) := do
  let _ ← optional (typeParameters rules)
  let extended ← optionalNodes do
    keyword "extends"
    let parent ← rules .operand
    let _ ← optional (typeArguments rules)
    return [parent]
  let _ ← optional (do
    typed
    keyword "implements"
    separated (symbol ",") (aType rules))
  return extended ++ [← classBody rules]

/-- The name of a class, which is no word that continues its head. -/
def className : Parser Node := do
  require (!(← atWord "extends") && !(← atWord "implements"))
  return (← leaf .typeIdentifier name).as .name

/-- A class as a value. -/
def classExpression : Parser Node := node .other do
  let decorators ← many (decorator rules)
  keyword "class"
  let name ← optionalNodes (return [← className])
  return decorators ++ name ++ (← classRest rules)

end TestOutline.Syntax.Grammar
