namespace RenderTemplate

namespace Entity

/-- The characters that have a name. -/
def named : List (String × Char) := [
  ("nbsp", '\u00a0'), ("amp", '&'), ("lt", '<'), ("gt", '>'), ("quot", '"'), ("apos", '\''),
  ("copy", '\u00a9'), ("reg", '\u00ae'), ("trade", '\u2122'), ("hellip", '\u2026'),
  ("mdash", '\u2014'), ("ndash", '\u2013'), ("lsquo", '\u2018'), ("rsquo", '\u2019'),
  ("ldquo", '\u201c'), ("rdquo", '\u201d'), ("laquo", '\u00ab'), ("raquo", '\u00bb'),
  ("middot", '\u00b7'), ("bull", '\u2022'), ("times", '\u00d7'), ("divide", '\u00f7'),
  ("deg", '\u00b0'), ("plusmn", '\u00b1'), ("sect", '\u00a7'), ("para", '\u00b6'),
  ("cent", '\u00a2'), ("pound", '\u00a3'), ("euro", '\u20ac'), ("yen", '\u00a5'), ("shy", '\u00ad')]

/-- The value of a hexadecimal digit of either case. -/
def hexValue (c : Char) : Nat :=
  if c.isDigit then c.toNat - 48 else if c.toNat < 97 then c.toNat - 55 else c.toNat - 87

/-- Whether a character is a hexadecimal digit. -/
def isHexDigit (c : Char) : Bool :=
  c.isDigit || ('a' ≤ c && c ≤ 'f') || ('A' ≤ c && c ≤ 'F')

/-- The number that digits of a base write. -/
def number (base : Nat) (digits : List Char) : Nat :=
  digits.foldl (fun value c => value * base + hexValue c) 0

/-- A number with one more digit, as long as it fits into 32 bits. -/
def extend? (base value : Nat) (digit : Char) : Option Nat :=
  let next := value * base + hexValue digit
  if next < 0x100000000 then some next else none

/-- The number that digits of a base write, if it fits into 32 bits. -/
def word? (base : Nat) (digits : List Char) : Option Nat :=
  digits.foldlM (extend? base) 0

/-- The character with a number, if there is one. -/
def character? (value : Nat) : Option Char :=
  if value.isValidChar then some (Char.ofNat value) else none

theorem character?_toNat (c : Char) : character? c.toNat = some c := by
  rw [character?, if_pos (show c.toNat.isValidChar from c.valid), Char.ofNat_toNat]

/-- Whether the text between `&` and `;` has the form of a reference. -/
def isReference : List Char → Bool
  | '#' :: 'x' :: digits => !digits.isEmpty && digits.all isHexDigit
  | '#' :: 'X' :: digits => !digits.isEmpty && digits.all isHexDigit
  | '#' :: digits => !digits.isEmpty && digits.all Char.isDigit
  | c :: rest => c.isAlpha && rest.all Char.isAlphanum
  | [] => false

/-- The character that the text between `&` and `;` refers to. -/
def meaning? (body : List Char) : Option Char :=
  if isReference body then
    match body with
    | '#' :: 'x' :: digits => (word? 16 digits).bind character?
    | '#' :: 'X' :: digits => (word? 16 digits).bind character?
    | '#' :: digits => (word? 10 digits).bind character?
    | name => named.lookup (String.ofList name)
  else none

/-- Characters of which references are made. -/
def isBodyChar (c : Char) : Bool :=
  c.isAlphanum || c == '#'

/-- Reads a reference after its `&`: the character and how many characters the reference takes after
the `&`. -/
def read? (chars : List Char) : Option (Char × Nat) :=
  let body := chars.takeWhile isBodyChar
  match chars.drop body.length with
  | ';' :: _ => (meaning? body).map fun c => (c, body.length + 1)
  | _ => none

/-- The text with its references replaced by the characters they stand for. What refers to no
character stays as it is. -/
def decodeList : List Char → List Char
  | [] => []
  | c :: rest =>
    if c = '&' then
      match read? rest with
      | some (meaning, count) => meaning :: decodeList (rest.drop count)
      | none => c :: decodeList rest
    else c :: decodeList rest
termination_by chars => chars.length
decreasing_by
  · simp only [List.length_drop, List.length_cons]; omega
  · simp
  · simp

theorem decodeList_nil : decodeList [] = [] := by rw [decodeList]

theorem decodeList_cons_other {c : Char} (other : c ≠ '&') (rest : List Char) :
    decodeList (c :: rest) = c :: decodeList rest := by
  rw [decodeList, if_neg other]

/-- A reference is decoded as a whole, and decoding goes on behind it. -/
theorem decodeList_cons_found {rest : List Char} {meaning : Char} {count : Nat}
    (found : read? rest = some (meaning, count)) :
    decodeList ('&' :: rest) = meaning :: decodeList (rest.drop count) := by
  rw [decodeList, if_pos rfl, found]

theorem decodeList_cons_none {rest : List Char} (none : read? rest = none) :
    decodeList ('&' :: rest) = '&' :: decodeList rest := by
  rw [decodeList, if_pos rfl, none]

end Entity

/-- The text with its references replaced by the characters they stand for. -/
def decodeEntities (text : String) : String :=
  String.ofList (Entity.decodeList text.toList)

end RenderTemplate
