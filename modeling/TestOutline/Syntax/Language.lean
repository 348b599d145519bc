/-
**Languages.** The three grammars, the names they go by and the file extensions they are known from.

* `Language.ofName?` — names are compared without surrounding blanks and without regard to case.
* `Language.resolve` — a name that is given wins over the extension of a path.
-/

import TestOutline.Files.Path
import TestOutline.Text.Blank
import TestOutline.Text.Lower

namespace TestOutline

/-- A grammar for sources. -/
inductive Language where
  | typescript
  | tsx
  | javascript
  deriving DecidableEq, Repr

/-- Why no language could be found. -/
inductive LanguageFault where
  | unknownName (name : Text)
  | unknownExtension (extension : Text)
  | nothingGiven
  deriving DecidableEq, Repr

def LanguageFault.message : LanguageFault → Text
  | .unknownName name =>
    "Unsupported language '" ++ name ++ "'. Supported: ['javascript', 'tsx', 'typescript']"
  | .unknownExtension extension => "Unsupported file extension: " ++ extension
  | .nothingGiven => "Language must be provided when no file path is available."

namespace Language

def name : Language → String
  | .typescript => "typescript"
  | .tsx => "tsx"
  | .javascript => "javascript"

/-- Whether sources may carry type annotations. -/
def hasTypes : Language → Bool
  | .javascript => false
  | _ => true

/-- Whether sources may hold markup elements. -/
def hasElements : Language → Bool
  | .typescript => false
  | _ => true

/-- The names that languages go by. -/
def names : List (String × Language) := [
  ("javascript", .javascript), ("js", .javascript), ("jsx", .javascript), ("node", .javascript),
  ("ts", .typescript), ("tsx", .tsx), ("typescript", .typescript)]

/-- The file extensions that languages are known from. -/
def extensions : List (String × Language) := [
  (".cjs", .javascript), (".cts", .typescript), (".js", .javascript), (".jsx", .javascript),
  (".mjs", .javascript), (".mts", .typescript), (".ts", .typescript), (".tsx", .tsx)]

/-- The language paired with a text in a table. -/
def lookUp (table : List (String × Language)) (key : Text) : Option Language :=
  (table.find? fun entry => Text.ofString entry.1 == key).map (·.2)

def ofName? (name : Text) : Except LanguageFault Language :=
  match lookUp names (Text.lower (Text.strip name)) with
  | some language => .ok language
  | none => .error (.unknownName name)

/-- The language of a file, by its extension. -/
def ofPath? (path : Path) : Except LanguageFault Language :=
  let extension := Text.lower path.extension
  match lookUp extensions extension with
  | some language => .ok language
  | none => .error (.unknownExtension extension)

/-- The language of a name if one is given, else of a path if one is given. -/
def resolve (name : Option Text) (path : Option Path) : Except LanguageFault Language :=
  match name, path with
  | some (point :: rest), _ => ofName? (point :: rest)
  | _, some path => ofPath? path
  | _, none => .error .nothingGiven

end Language

end TestOutline
