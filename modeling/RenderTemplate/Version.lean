import RenderTemplate.Text.Blank
import RenderTemplate.Text.Search

namespace RenderTemplate

/-- A version. -/
structure Version where
  major : UInt32
  minor : UInt32 := 0
  patch : UInt32 := 0
deriving DecidableEq, Repr

namespace Version

/-- A number below two to the power of 32, in decimal digits. -/
def number? (digits : List Char) : Option UInt32 :=
  if digits.isEmpty || !digits.all Char.isDigit then none
  else
    let value := digits.foldl (fun value c => value * 10 + (c.toNat - 48)) 0
    if value < UInt32.size then some (UInt32.ofNat value) else none

/-- The text of a version without blanks, leading letters `v`, and what follows a hyphen or a plus
sign. -/
def coreText (text : String) : List Char :=
  ((Text.trimList text.toList).dropWhile (· == 'v')).takeWhile fun c => c != '-' && c != '+'

/-- Reads a version: up to three numbers between points, of which those that are missing are
zero. -/
def ofText? (text : String) : Option Version :=
  match Text.splitOnChar '.' (coreText text) with
  | [major] => do return ⟨← number? major, 0, 0⟩
  | [major, minor] => do return ⟨← number? major, ← number? minor, 0⟩
  | [major, minor, patch] => do return ⟨← number? major, ← number? minor, ← number? patch⟩
  | _ => none

/-- What is said about a text that is no version. -/
def invalidMessage (text : String) : String :=
  "invalid version '" ++ text ++ "'"

/-- The three numbers of a version. -/
def display (version : Version) : String :=
  toString version.major.toNat ++ "." ++ toString version.minor.toNat ++ "." ++
    toString version.patch.toNat

/-- Versions are compared by their numbers in order. -/
def compare (first second : Version) : Ordering :=
  (Ord.compare first.major.toNat second.major.toNat).then
    ((Ord.compare first.minor.toNat second.minor.toNat).then
      (Ord.compare first.patch.toNat second.patch.toNat))

/-- Whether a version comes before another. -/
def isBefore (first second : Version) : Bool :=
  first.compare second == .lt

end Version

/-- The versions from one on and before another; a missing bound is none. -/
structure VersionRange where
  start : Option Version := none
  stop : Option Version := none
deriving DecidableEq, Repr

namespace VersionRange

/-- Whether a version is in a range. -/
def contains (range : VersionRange) (version : Version) : Bool :=
  range.start.all (fun start => !version.isBefore start) &&
    range.stop.all (fun stop => version.isBefore stop)

end VersionRange

end RenderTemplate
