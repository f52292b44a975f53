import RenderTemplate.Directive
import RenderTemplate.RenderTree

namespace RenderTemplate

namespace ScopeClause

/-- Splits off the last word of a text that is not blank. -/
def lastWord (chars : List Char) : List Char × List Char :=
  let reversed := (Text.trimRight chars).reverse
  let isInWord := fun c => !Text.isBlankChar c
  ((reversed.dropWhile isInWord).reverse, (reversed.takeWhile isInWord).reverse)

/-- The value and the name of an entry, as they are written. There are blanks on both sides of the
word `as`, and something before those in front of it. -/
def entry? (piece : List Char) : Option (List Char × List Char) :=
  let (front, name) := lastWord piece
  if isNameForm name then
    match (Text.trimRight front).reverse with
    | 's' :: 'a' :: c :: d :: rest =>
      if Text.isBlankChar c && front.length != (Text.trimRight front).length then
        some (Text.trimList (d :: rest).reverse, name)
      else none
    | _ => none
  else none

/-- Reads one entry after those that are known. -/
def readEntry (host : HostLanguage) (place : Location) (known : List ScopeAlias) (piece : String) :
    Except CompileError (List ScopeAlias) :=
  if Text.isBlank piece then .ok known
  else
    match entry? piece.toList with
    | none => .error ((Fault.invalidScopeEntry (Text.trim piece)).error place)
    | some (code, word) => do
      let name := String.ofList word
      if !isIdentifier name then .error ((Fault.invalidScopeAlias name).error place)
      if known.any (·.name == name) then .error ((Fault.repeatedScopeAlias name).error place)
      let value := String.ofList code
      host.validate value place
      return known ++ [⟨name, value⟩]

/-- Reads the entries of a scope, of which there has to be one. -/
def read (host : HostLanguage) (directive : DirectiveValue) :
    Except CompileError (List ScopeAlias) := do
  let aliases ← (TopLevel.split ';' directive.value).foldlM (readEntry host directive.location) []
  if aliases.isEmpty then .error (Fault.emptyScope.error directive.location) else return aliases

end ScopeClause

end RenderTemplate
