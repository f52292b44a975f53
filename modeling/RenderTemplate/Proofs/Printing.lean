import Mathlib.Data.List.Infix
import RenderTemplate.Markup.Lexeme

namespace RenderTemplate

namespace Text

/-- A character by its number. -/
def reference (c : Char) : List Char :=
  '&' :: '#' :: (Nat.toDigits 10 c.toNat ++ [';'])

/-- A character of a text. Those that start markup, references and expressions are written by their
numbers. -/
def escapeChar (c : Char) : List Char :=
  if c = '<' ∨ c = '&' ∨ c = '{' then reference c else [c]

end Text

namespace Part

/-- An expression with its braces. -/
def braced (code : String) : List Char :=
  '{' :: (code.toList ++ ['}'])

/-- A part of a text as source. -/
def print : Part → List Char
  | literal text => text.toList.flatMap Text.escapeChar
  | expression code => braced code

/-- A part as it stands in an element with plain text only. -/
def verbatim : Part → List Char
  | literal text => text.toList
  | expression code => braced code

def isLiteral : Part → Bool
  | literal _ => true
  | expression _ => false

/-- A literal that is not empty, or an expression whose braces are closed by its own last one. -/
def IsCanonical : Part → Prop
  | literal text => text ≠ ""
  | expression code => Braces.length? (braced code) = some (braced code).length

instance : DecidablePred IsCanonical
  | literal text => inferInstanceAs (Decidable (text ≠ ""))
  | expression code =>
    inferInstanceAs (Decidable (Braces.length? (braced code) = some (braced code).length))

end Part

namespace Markup

namespace Attribute

/-- An attribute as source: its name, and its value in double quotes. -/
def print (found : Attribute) : List Char :=
  found.name.toList ++
    match found.value with
    | none => []
    | some value => '=' :: '"' :: (value.toList ++ ['"'])

/-- The attribute at no place in particular. -/
def unplaced (found : Attribute) : Attribute :=
  { found with location := {} }

/-- The name can be read, and the value can stand in double quotes: they are in its expressions
only. -/
structure IsCanonical (found : Attribute) : Prop where
  named : found.name ≠ ""
  readable : found.name.toList.all isAttributeChar
  quotable : ∀ value ∈ found.value, ∃ parts, Part.split value.toList = .ok parts ∧
    ∀ text, Part.literal text ∈ parts → '"' ∉ text.toList

end Attribute

/-- Attributes as source, each after a space. -/
def printAttributes (attributes : List Attribute) : List Char :=
  attributes.flatMap fun found => ' ' :: found.print

/-- A tag starts with a letter, an underscore or a dollar sign. -/
def isTagName : List Char → Bool
  | [] => false
  | c :: rest => (c.isAlpha || c == '_' || c == '$') && rest.all isTagChar

namespace StartTag

/-- The end of an opening tag. -/
def ending (selfClosing : Bool) : List Char :=
  if selfClosing then ['/', '>'] else ['>']

/-- An opening tag as source. -/
def print (start : StartTag) : List Char :=
  '<' :: (start.name.toList ++ (printAttributes start.attributes ++ ending start.selfClosing))

/-- The closing tag as source. -/
def printClosing (start : StartTag) : List Char :=
  '<' :: '/' :: (start.name.toList ++ ['>'])

/-- Whether the element ends with its opening tag. -/
def isLeaf (start : StartTag) : Bool :=
  start.selfClosing || isVoidTag start.name

/-- The tag at no place in particular. -/
def unplaced (start : StartTag) : StartTag :=
  { start with attributes := start.attributes.map (·.unplaced), location := {} }

structure IsCanonical (start : StartTag) : Prop where
  tag : isTagName start.name.toList
  attributes : ∀ found ∈ start.attributes, found.IsCanonical
  distinct : (start.attributes.map (·.name)).Nodup

end StartTag

namespace Node

def isText : Node → Bool
  | text .. => true
  | _ => false

/-- A node as it stands in an element with plain text only. -/
def verbatim : Node → List Char
  | text parts _ => parts.flatMap Part.verbatim
  | _ => []

end Node

mutual

/-- A node as source. -/
def Node.print : Node → List Char
  | .element start children =>
    start.print ++
      if start.isLeaf then []
      else if isRawTag start.name then children.flatMap Node.verbatim ++ start.printClosing
      else printAll children ++ start.printClosing
  | .text parts _ => parts.flatMap Part.print
  | .comment value _ => '<' :: '!' :: '-' :: '-' :: (value.toList ++ ['-', '-', '>'])

/-- A forest as source. -/
def printAll : List Node → List Char
  | [] => []
  | node :: rest => node.print ++ printAll rest

end

mutual

/-- The node at no place in particular. -/
def Node.unplaced : Node → Node
  | .element start children => .element start.unplaced (unplacedAll children)
  | .text parts _ => .text parts {}
  | .comment value _ => .comment value {}

/-- The forest at no place in particular. -/
def unplacedAll : List Node → List Node
  | [] => []
  | node :: rest => node.unplaced :: unplacedAll rest

end

/-- No text stands next to another one. -/
def TextsApart (nodes : List Node) : Prop :=
  nodes.IsChain fun node next => ¬(node.isText ∧ next.isText)

/-- A node that its source determines. -/
inductive Node.IsCanonical : Node → Prop
  | leaf {start : StartTag} (tag : start.IsCanonical) (leaf : start.isLeaf) :
      IsCanonical (.element start [])
  | empty {start : StartTag} (tag : start.IsCanonical) (continues : ¬start.isLeaf)
      (raw : isRawTag start.name) :
      IsCanonical (.element start [])
  | raw {start : StartTag} {content : String} {location : Location} (tag : start.IsCanonical)
      (continues : ¬start.isLeaf)
      (raw : isRawTag start.name) (nonempty : content ≠ "")
      (unclosed : ¬ ('<' :: '/' :: start.name.toList) <:+: content.toList) :
      IsCanonical (.element start [.text [.literal content] location])
  | element {start : StartTag} {children : List Node} (tag : start.IsCanonical)
      (continues : ¬start.isLeaf)
      (parsed : ¬isRawTag start.name) (each : ∀ child ∈ children, IsCanonical child)
        (apart : TextsApart children) :
      IsCanonical (.element start children)
  | text {parts : List Part} {location : Location} (nonempty : parts ≠ [])
      (each : ∀ part ∈ parts, part.IsCanonical)
      (apart : parts.IsChain fun part next => ¬(part.isLiteral ∧ next.isLiteral)) :
        IsCanonical (.text parts location)
  | comment {value : String} {location : Location}
      (unclosed : ¬ ['-', '-', '>'] <:+: value.toList) :
      IsCanonical (.comment value location)

/-- A forest that its source determines. Nothing that it holds could be written only in another way,
or would be read as something else. -/
structure IsCanonical (forest : List Node) : Prop where
  each : ∀ node ∈ forest, node.IsCanonical
  apart : TextsApart forest

end Markup

end RenderTemplate
