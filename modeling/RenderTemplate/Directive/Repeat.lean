import RenderTemplate.Directive
import RenderTemplate.Identifier

namespace RenderTemplate

/-- A loop over the values of a collection, with a name for the value and one for its index. -/
structure RepeatClause where
  item : String
  index : String
  collection : String
deriving DecidableEq, Repr

namespace RepeatClause

/-- Splits off the name at the front of a text. -/
def name? (chars : List Char) : Option (List Char × List Char) :=
  let name := chars.takeWhile isNameChar
  if isNameForm name then some (name, chars.dropWhile isNameChar) else none

/-- Splits off a comma and the name of the index after it, if they are there. -/
def indexName? (chars : List Char) : Option (List Char × List Char) :=
  match Text.trimLeft chars with
  | ',' :: rest => name? (Text.trimLeft rest)
  | _ => none

/-- The text after blanks, of which there has to be one. -/
def afterBlanks? : List Char → Option (List Char)
  | [] => none
  | c :: rest => if Text.isBlankChar c then some (Text.trimLeft rest) else none

/-- The collection after the word `in` between blanks. Blanks alone are an empty collection if there
is more than one of them. -/
def collection? (chars : List Char) : Option (List Char) := do
  let rest ← Text.after? ['i', 'n'] (← afterBlanks? chars)
  let code ← afterBlanks? rest
  if code.isEmpty && rest.length < 2 then none else some (Text.trimRight code)

/-- The names and the collection of a loop, as they are written: item, index if there is one,
collection. -/
def pieces? (value : List Char) : Option (List Char × Option (List Char) × List Char) := do
  let (item, rest) ← name? (Text.trimLeft value)
  match indexName? rest with
  | some (index, rest) => return (item, some index, ← collection? rest)
  | none => return (item, none, ← collection? rest)

/-- Why a loop with these names is refused. -/
def nameFault? (value item index : String) : Option Fault :=
  match [item, index].find? fun name => !isIdentifier name with
  | some name => some (.invalidRepeat value ("'" ++ name ++ "' is not a valid variable name"))
  | none =>
    if item = index then some (.invalidRepeat value "item and index must have different names")
    else none

/-- Reads a loop. Its index has the name of the item with `Index` after it, unless it has one of its
own. -/
def read (host : HostLanguage) (directive : DirectiveValue) : Except CompileError RepeatClause :=
  let value := Text.trim directive.value
  match pieces? directive.value.toList with
  | none =>
    .error ((Fault.invalidRepeat value "expected 'item in collection'").error directive.location)
  | some (itemName, indexName, code) => do
    let item := String.ofList itemName
    let index := (indexName.map String.ofList).getD (item ++ "Index")
    if let some fault := nameFault? value item index then .error (fault.error directive.location)
    let collection := String.ofList code
    host.validate collection directive.location
    return ⟨item, index, collection⟩

end RepeatClause

end RenderTemplate
