namespace RenderTemplate.Host

/-- What a token is. -/
inductive TokenKind where
  /-- An identifier or keyword. -/
  | word
  /-- A name after a number sign. -/
  | privateName
  | punctuator
  | number
  | string
  | regex
  /-- A template literal without substitutions. -/
  | template
  /-- A template literal up to its first substitution. -/
  | templateHead
  /-- A template literal between two substitutions. -/
  | templateMiddle
  /-- A template literal after its last substitution. -/
  | templateTail
  /-- Text between the tags of an element. -/
  | elementText
  /-- A piece that is no token at all. -/
  | malformed
  /-- The end of the input. -/
  | finish
deriving DecidableEq, Repr

/-- A token and where it stands, counted in characters. -/
structure Token where
  kind : TokenKind
  text : String := ""
  start : Nat
  stop : Nat
  /-- A line ends between the token before and this one. -/
  afterLineEnd : Bool := false
  /-- Written with escapes, which a keyword may not be. -/
  escaped : Bool := false
  /-- Whether the escapes in a template literal are in order. -/
  cooked : Bool := true
deriving DecidableEq, Repr

/-- Words that are never identifiers. -/
def keywords : List String := [
  "break", "case", "catch", "class", "const", "continue", "debugger", "default", "delete", "do",
    "else",
  "enum", "export", "extends", "false", "finally", "for", "function", "if", "import", "in",
  "instanceof", "new", "null", "return", "super", "switch", "this", "throw", "true", "try",
  "typeof", "var", "void", "while", "with"]

namespace Token

/-- Whether a token is a given punctuator. -/
def isPunctuator (token : Token) (text : String) : Bool :=
  token.kind == .punctuator && token.text == text

/-- Whether a token is a given word. -/
def isWord (token : Token) (text : String) : Bool :=
  token.kind == .word && token.text == text

/-- A word that is no keyword. -/
def isName (token : Token) : Bool :=
  token.kind == .word && !keywords.contains token.text

end Token

end RenderTemplate.Host
