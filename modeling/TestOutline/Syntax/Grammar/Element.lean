/-
**Elements.** Markup in expressions: tags with attributes, text, and expressions in braces. Text
between tags is read as it stands, so nothing in it is a comment.
-/

import TestOutline.Syntax.Grammar.Function

namespace TestOutline.Syntax.Grammar

open TestOutline.Syntax.Parser

variable (rules : Rules)

/-- The length of a part of a tag's name, which may hold hyphens. -/
def tagWord (chars : List Char) : Nat :=
  match Lexeme.name chars with
  | 0 => 0
  | size =>
    let more := (chars.drop size).takeWhile fun char => isNameChar char || char == '-'
    size + more.length

/-- The name of a tag or an attribute, with dots or colons. -/
def tagName : Parser (List (List Char)) := do
  let first ← lexeme tagWord
  let rest ← many (do (char '.' <|> char ':'); lexeme tagWord)
  return first :: rest

/-- Braces around an expression, a spread, or nothing. -/
def braced : Parser (List Node) := do
  char '\x7b'
  let inner ← optionalNodes do
    let _ ← optional (symbol "...")
    return [← rules .expression]
  return inner

def closingBrace : Parser Unit := char '\x7d'

/-- An attribute of a tag. -/
def tagAttribute : Parser (List Node) :=
  (do
    let inner ← braced rules
    closingBrace
    return inner) <|>
  (do
    let _ ← tagName
    optionalNodes do
      char '='
      (do let _ ← lexeme Lexeme.tagString; return []) <|>
        (do let inner ← braced rules; closingBrace; return inner) <|>
        (do return [← rules .element]))

/-- Text between tags, up to the next tag or brace. -/
def elementText : Parser Unit := do
  let text := (← get).gap.takeWhile fun char => char != '<' && char != '\x7b'
  require (!text.isEmpty)
  resume text.length

/-- A part of an element between its tags. What follows a closing brace or a tag is text again. -/
def elementPart : Parser (List Node) :=
  (do elementText; return []) <|>
  (do
    let inner ← node .other do
      let inner ← braced rules
      closingBrace
      return inner
    return [inner]) <|>
  (do return [← rules .element])

/-- An element: a tag that closes itself, or an opening and a closing tag with the same name. -/
def element : Parser Node := node .other do
  char '<'
  let name ← optional tagName
  let _ ← optional (typeArguments rules)
  let attributes ← many (tagAttribute rules)
  (do
    require name.isSome
    char '/'
    char '>'
    return attributes.flatten) <|> (do
    char '>'
    let parts ← many (elementPart rules)
    char '<'
    char '/'
    let closing ← optional tagName
    require (closing == name)
    char '>'
    return attributes.flatten ++ parts.flatten)

end TestOutline.Syntax.Grammar
