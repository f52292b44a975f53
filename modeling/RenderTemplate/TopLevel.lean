namespace RenderTemplate

namespace TopLevel

/-- Where a scan stands: inside a string literal, perhaps just after a backslash, or at a depth
of open brackets. Closing brackets without a partner take the depth below zero. The depth is any
integer: a text would need more than 2 ^ 31 brackets to leave the 32 bits that are kept for it. -/
structure Scan where
  depth : Int := 0
  quote : Option Char := none
  escaped : Bool := false
deriving DecidableEq, Repr

namespace Scan

/-- The scan after one more character. -/
def step (scan : Scan) (c : Char) : Scan :=
  match scan.quote with
  | some quote =>
    if scan.escaped then { scan with escaped := false }
    else if c = '\\' then { scan with escaped := true }
    else if c = quote then { scan with quote := none }
    else scan
  | none =>
    if c = '"' ∨ c = '\'' ∨ c = '`' then { scan with quote := some c }
    else if c = '(' ∨ c = '[' ∨ c = '{' then { scan with depth := scan.depth + 1 }
    else if c = ')' ∨ c = ']' ∨ c = '}' then { scan with depth := scan.depth - 1 }
    else scan

/-- Whether a character separates two pieces here. Quotes and brackets never do. -/
def separates (scan : Scan) (separator c : Char) : Bool :=
  scan.quote.isNone && scan.depth == 0 && c == separator && scan.step c == scan

end Scan

/-- The pieces between separators at the top level. -/
def pieces (separator : Char) (scan : Scan) : List Char → List (List Char)
  | [] => [[]]
  | c :: rest =>
    if scan.separates separator c then [] :: pieces separator scan rest
    else
      match pieces separator (scan.step c) rest with
      | piece :: more => (c :: piece) :: more
      | [] => [[c]]

/-- The pieces of a text between separators at the top level. -/
def split (separator : Char) (text : String) : List String :=
  (pieces separator {} text.toList).map String.ofList

end TopLevel

end RenderTemplate
