/-
**Parsers.** A parser reads part of a source from a cursor, in a language, and may refuse.

The rules of the grammar refer to one another through goals: a rule is given a parser for every goal
and may use it for the parts of what it reads. `Parser.many` and its kin repeat a parser as often as
characters are left.
-/

import TestOutline.Syntax.Cursor
import TestOutline.Syntax.Lexeme
import TestOutline.Syntax.Node

namespace TestOutline.Syntax

/-- A parser of a part of a source. -/
abbrev Parser := ReaderT Language (StateT Cursor Option)

/-- The kinds of parts that may stand inside one another. -/
inductive Goal where
  /-- Expressions with commas between them. -/
  | expression
  /-- One expression; between a question mark and its colon an arrow function may not name its
  result type. -/
  | assignment (typedArrows : Bool)
  /-- An operand of a binary operator. -/
  | operand
  /-- An operand that nothing takes apart. -/
  | primary
  | statement
  | block
  /-- What a value is bound to: a name, or a pattern of names. -/
  | pattern
  | element
  | type

/-- A parser for every goal. -/
abbrev Rules := Goal → Parser Node

namespace Parser

variable {α β : Type}

/-- The text from the next token on. -/
def next : Parser (List Char) := return (← get).next

/-- Refuses unless a condition holds. -/
def require (condition : Bool) : Parser Unit := if condition then pure () else failure

/-- Consumes a lexeme of the length that a scanner finds. -/
def lexeme (scan : List Char → Nat) : Parser (List Char) := do
  let chars ← next
  let size := scan chars
  require (size != 0)
  modify (·.advance size)
  return chars.take size

/-- Consumes a lexeme right after the last token. -/
def resume (size : Nat) : Parser Unit := modify (·.resume size)

def char (wanted : Char) : Parser Unit := do
  require ((← next).head? == some wanted)
  modify (·.advance 1)

def symbol (wanted : String) : Parser Unit := do
  require (Lexeme.punctuator (← next) == wanted.toList)
  modify (·.advance wanted.length)

/-- The next word, a name or a keyword, without consuming it. -/
def peekWord : Parser (List Char) := do
  let chars ← next
  return chars.take (Lexeme.name chars)

/-- Whether the next word is the given one. -/
def atWord (wanted : String) : Parser Bool := return (← peekWord) == wanted.toList

def keyword (wanted : String) : Parser Unit := do
  require (← atWord wanted)
  modify (·.advance wanted.length)

/-- Whether the next token starts with a character. -/
def atChar (wanted : Char) : Parser Bool := return (← next).head? == some wanted

/-- Whether a parser accepts what comes next; nothing is consumed. -/
def isAhead (parser : Parser α) : Parser Bool := fun language cursor =>
  some ((parser language cursor).isSome, cursor)

/-- Whether the next token stands on the line of the last one. -/
def sameLine : Parser Bool := return !(← get).startsLine

/-- Consumes the end of a statement. -/
def endStatement (afterExpression : Bool) : Parser Unit := fun language cursor =>
  (cursor.endStatement? language afterExpression).map (((), ·))

/-- Takes in the comments up to an implied semicolon, if there is one. -/
def optionalEnd : Parser Unit := fun language cursor =>
  some ((), match cursor.impliedSemicolon? language true with
    | some count => cursor.skipComments count
    | none => cursor)

/-- Repeats a parser until it refuses, at most as often as there is fuel. -/
def manyWithFuel (parser : Parser α) : Nat → Parser (List α)
  | 0 => pure []
  | fuel + 1 => do
    match ← optional parser with
    | none => pure []
    | some first => return first :: (← manyWithFuel parser fuel)

/-- Repeats a parser until it refuses. -/
def many (parser : Parser α) : Parser (List α) := do manyWithFuel parser ((← next).length + 1)

/-- At least one item, with separators between neighbours. -/
def separated (separator : Parser Unit) (item : Parser α) : Parser (List α) := do
  let first ← item
  return first :: (← many (do separator; item))

/-- Any number of items with commas between neighbours and possibly one at the end. -/
def commaList (item : Parser α) : Parser (List α) := do
  match ← optional (separated (symbol ",") item) with
  | none => pure []
  | some items => do
    let _ ← optional (symbol ",")
    return items

/-- Builds a node around what a parser reads. -/
def node (kind : NodeKind) (children : Parser (List Node)) : Parser Node := do
  let start := (← get).offset
  let children ← children
  return .mk ⟨kind, none, true, false, start, (← get).lastStop⟩ children

/-- Builds a node that starts with one already read. -/
def nodeFrom (kind : NodeKind) (first : Node) (children : List Node) : Parser Node := do
  return .mk ⟨kind, none, true, false, first.start, (← get).lastStop⟩ children

/-- A node without children. -/
def leaf (kind : NodeKind) (parser : Parser α) : Parser Node :=
  node kind (do let _ ← parser; return [])

/-- A keyword that the tree keeps. -/
def keywordNode (kind : NodeKind) (word : String) : Parser Node := do
  let .mk head children ← leaf kind (keyword word)
  return .mk { head with isNamed := false } children

/-- What a parser reads, or nothing. -/
def optionalNodes (parser : Parser (List Node)) : Parser (List Node) :=
  return (← optional parser).getD []

/-- The words that name nothing. -/
def reservedWords : List String :=
  ["break", "case", "catch", "class", "const", "continue", "debugger", "default", "delete", "do",
    "else", "enum", "export", "extends", "false", "finally", "for", "function", "if", "import",
    "in", "instanceof", "new", "null", "return", "super", "switch", "this", "throw", "true", "try",
    "typeof", "var", "void", "while", "with"]

/-- A name that is no reserved word. -/
def name : Parser (List Char) := do
  let word ← peekWord
  require (!word.isEmpty && !reservedWords.any fun reserved => reserved.toList == word)
  modify (·.advance word.length)
  return word

/-- A name as a node. -/
def identifier : Parser Node := leaf .identifier name

/-- Any word, reserved or not. -/
def word : Parser (List Char) := lexeme Lexeme.name

/-- A string literal. -/
def string : Parser Node := leaf .string (lexeme Lexeme.string)

/-- Whether types are part of the language. -/
def typed : Parser Unit := do require (← read).hasTypes

end Parser

end TestOutline.Syntax
