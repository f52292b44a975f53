import RenderTemplate.Text.WordChar

namespace RenderTemplate

/-- Words that the host language keeps for itself. -/
def reservedWords : List String := [
  "break", "case", "catch", "class", "const", "continue", "debugger", "default", "delete", "do",
    "else",
  "enum", "export", "extends", "false", "finally", "for", "function", "if", "import", "in",
  "instanceof", "new", "null", "return", "super", "switch", "this", "throw", "true", "try",
  "typeof", "var", "void", "while", "with", "yield", "let", "static", "implements", "interface",
  "package", "private", "protected", "public", "await"]

/-- A character that can start a name. -/
def isNameStart (c : Char) : Bool :=
  c.isAlpha || c == '_' || c == '$'

/-- A character that can continue a name. -/
def isNameChar (c : Char) : Bool :=
  Text.isWordChar c || c == '$'

/-- Whether the text has the form of a name. -/
def isNameForm : List Char → Bool
  | [] => false
  | c :: rest => isNameStart c && rest.all isNameChar

/-- A name that is no reserved word. -/
def isIdentifier (name : String) : Bool :=
  isNameForm name.toList && !reservedWords.contains name

/-- Whether the text is names joined by dots; `started` says that the current name has begun. -/
def isPathFrom (started : Bool) : List Char → Bool
  | [] => started
  | c :: rest =>
    if started then
      if c = '.' then isPathFrom false rest else isNameChar c && isPathFrom true rest
    else isNameStart c && isPathFrom true rest

/-- One or more names joined by dots. Reserved words may stand in it. -/
def isMemberPath (name : String) : Bool :=
  isPathFrom false name.toList

/-- Code of word characters, dollar signs and dots only, which is the same inside and outside of
parentheses. -/
def isSimpleCode (code : String) : Bool :=
  !code.isEmpty && code.toList.all fun c => isNameChar c || c == '.'

end RenderTemplate
