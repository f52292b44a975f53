import RenderTemplate.Text.WordChar

namespace RenderTemplate.Host

/-- A character that ends a line. -/
def isLineEnd (c : Char) : Bool :=
  c == '\n' || c == '\r' || c.toNat == 0x2028 || c.toNat == 0x2029

/-- A blank that ends no line. -/
def isSpace (c : Char) : Bool :=
  let code := c.toNat
  code == 0x20 || code == 9 || code == 11 || code == 12 || code == 0x85 || code == 0xA0 || code ==
    0xFEFF ||
    code == 0x1680 || (0x2000 ≤ code && code ≤ 0x200B) || code == 0x202F || code == 0x205F ||
      code == 0x3000

/-- Characters that start identifiers although they are no letters. -/
def extraStartRanges : List (Nat × Nat) := [
  (0x1885, 0x1886), (0x2118, 0x2118), (0x212E, 0x212E), (0x309B, 0x309C)]

/-- Characters that continue identifiers although they are no letters, marks, digits or
connectors. -/
def extraContinueRanges : List (Nat × Nat) := [
  (0xB7, 0xB7), (0x387, 0x387), (0x1369, 0x1371), (0x19DA, 0x19DA), (0x200C, 0x200D),
    (0x30FB, 0x30FB),
  (0xFF65, 0xFF65)]

/-- A character that starts an identifier. -/
def isIdentifierStart (c : Char) : Bool :=
  if c.toNat < 0x80 then c.isAlpha || c == '_' || c == '$'
  else (Text.isLetter c && c.toNat != 0x2E2F) || Text.inRanges extraStartRanges c

/-- A character that continues an identifier. -/
def isIdentifierPart (c : Char) : Bool :=
  if c.toNat < 0x80 then c.isAlphanum || c == '_' || c == '$'
  else isIdentifierStart c || Text.isJoiningMark c || Text.isDecimalDigit c ||
    Text.inRanges Text.connectorRanges c || Text.inRanges extraContinueRanges c

end RenderTemplate.Host
