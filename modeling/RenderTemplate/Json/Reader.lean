import RenderTemplate.Entity
import RenderTemplate.Json
import RenderTemplate.Text.Search

namespace RenderTemplate.Json

/-- White space between tokens. -/
def isSpace (c : Char) : Bool :=
  c == ' ' || c == '\n' || c == '\t' || c == '\r'

/-- The input from its next token on. -/
def skip (chars : List Char) : List Char :=
  chars.dropWhile isSpace

/-- A unit of a text: a character, or half of a surrogate pair. -/
inductive CodeUnit where
  | character (c : Char)
  | high (value : Nat)
  | low (value : Nat)

/-- The unit with a number of four hexadecimal digits. -/
def unitOf (value : Nat) : CodeUnit :=
  if 0xD800 ≤ value ∧ value < 0xDC00 then .high value
  else if 0xDC00 ≤ value ∧ value < 0xE000 then .low value
  else .character (Char.ofNat value)

/-- The unit that an escape stands for, and the input after it. -/
def escape? : List Char → Option (CodeUnit × List Char)
  | '"' :: rest => some (.character '"', rest)
  | '\\' :: rest => some (.character '\\', rest)
  | '/' :: rest => some (.character '/', rest)
  | 'b' :: rest => some (.character '\x08', rest)
  | 'f' :: rest => some (.character '\x0c', rest)
  | 'n' :: rest => some (.character '\n', rest)
  | 'r' :: rest => some (.character '\r', rest)
  | 't' :: rest => some (.character '\t', rest)
  | 'u' :: a :: b :: c :: d :: rest =>
    if [a, b, c, d].all Entity.isHexDigit then some (unitOf (Entity.number 16 [a, b, c, d]), rest)
    else none
  | _ => none

/-- The units of a text after its opening quote, and the input after its closing one. -/
def units? : Nat → List Char → Option (List CodeUnit × List Char)
  | 0, _ => none
  | _ + 1, [] => none
  | _ + 1, '"' :: rest => some ([], rest)
  | fuel + 1, '\\' :: rest => do
    let (unit, rest) ← escape? rest
    let (units, rest) ← units? fuel rest
    return (unit :: units, rest)
  | fuel + 1, c :: rest => do
    if c.toNat < 0x20 then none
    else
      let (units, rest) ← units? fuel rest
      return (.character c :: units, rest)

/-- The characters of a text, if both halves of every surrogate pair stand together. -/
def characters? : List CodeUnit → Option (List Char)
  | [] => some []
  | .character c :: rest => (characters? rest).map (c :: ·)
  | .high first :: .low second :: rest =>
    (characters? rest).map (Char.ofNat (0x10000 + (first - 0xD800) * 0x400 + (second - 0xDC00)) ::
      ·)
  | _ => none

/-- A text after its opening quote, and the input after it. -/
def string? (chars : List Char) : Option (Option String × List Char) := do
  let (units, rest) ← units? (chars.length + 1) chars
  return ((characters? units).map String.ofList, rest)

/-- At least one digit. -/
def digits? (chars : List Char) : Option (List Char × List Char) :=
  let digits := chars.takeWhile Char.isDigit
  if digits.isEmpty then none else some (digits, chars.drop digits.length)

/-- A whole number, which has no zero before other digits. -/
def whole? : List Char → Option (List Char × List Char)
  | '0' :: c :: rest => if c.isDigit then none else some (['0'], c :: rest)
  | chars => digits? chars

/-- A fraction, if there is one. -/
def fraction? : List Char → Option (List Char × List Char)
  | '.' :: rest => (digits? rest).map fun (digits, rest) => ('.' :: digits, rest)
  | rest => some ([], rest)

/-- An exponent, if there is one. -/
def exponent? : List Char → Option (List Char × List Char)
  | c :: rest =>
    if c = 'e' ∨ c = 'E' then
      match rest with
      | '+' :: rest => (digits? rest).map fun (digits, rest) => (c :: '+' :: digits, rest)
      | '-' :: rest => (digits? rest).map fun (digits, rest) => (c :: '-' :: digits, rest)
      | rest => (digits? rest).map fun (digits, rest) => (c :: digits, rest)
    else some ([], c :: rest)
  | [] => some ([], [])

/-- A number, and the input after it. -/
def number? (chars : List Char) : Option (Json × List Char) := do
  let (sign, rest) := match chars with
    | '-' :: rest => (['-'], rest)
    | rest => ([], rest)
  let (whole, rest) ← whole? rest
  let (fraction, rest) ← fraction? rest
  let (exponent, rest) ← exponent? rest
  return (.number (String.ofList (sign ++ whole ++ fraction ++ exponent)), rest)

/-- A value that is a word, and the input after it. -/
def word? (chars : List Char) : Option (Json × List Char) :=
  match Text.after? "null".toList chars, Text.after? "true".toList chars,
    Text.after? "false".toList chars with
  | some rest, _, _ => some (.null, rest)
  | _, some rest, _ => some (.bool true, rest)
  | _, _, some rest => some (.bool false, rest)
  | none, none, none => none

mutual

/-- A value, and the input after it. -/
def value? : Nat → List Char → Option (Json × List Char)
  | 0, _ => none
  | fuel + 1, chars =>
    match skip chars with
    | '"' :: rest => (string? rest).map fun (text, rest) => (.string text, rest)
    | '[' :: rest =>
      match skip rest with
      | ']' :: rest => some (.array [], rest)
      | rest => (elements? fuel rest).map fun (elements, rest) => (.array elements, rest)
    | '{' :: rest =>
      match skip rest with
      | '}' :: rest => some (.object [], rest)
      | rest => (members? fuel rest).map fun (members, rest) => (.object members, rest)
    | c :: rest => if c = '-' ∨ c.isDigit then number? (c :: rest) else word? (c :: rest)
    | [] => none

/-- The elements of an array up to its closing bracket. -/
def elements? : Nat → List Char → Option (List Json × List Char)
  | 0, _ => none
  | fuel + 1, chars => do
    let (element, rest) ← value? fuel chars
    match skip rest with
    | ',' :: rest =>
      let (elements, rest) ← elements? fuel rest
      return (element :: elements, rest)
    | ']' :: rest => return ([element], rest)
    | _ => none

/-- The members of an object up to its closing brace. -/
def members? : Nat → List Char → Option (List (Option String × Json) × List Char)
  | 0, _ => none
  | fuel + 1, chars =>
    match skip chars with
    | '"' :: rest => do
      let (name, rest) ← string? rest
      match skip rest with
      | ':' :: rest =>
        let (value, rest) ← value? fuel rest
        match skip rest with
        | ',' :: rest =>
          let (members, rest) ← members? fuel rest
          return ((name, value) :: members, rest)
        | '}' :: rest => return ([(name, value)], rest)
        | _ => none
      | _ => none
    | _ => none

end

/-- The value that a text writes. Each token takes a character, which bounds the steps. -/
def ofString? (text : String) : Option Json := do
  let (value, rest) ← value? (text.toList.length + 1) text.toList
  match skip rest with
  | [] => return value
  | _ => none

end RenderTemplate.Json
