import RenderTemplate.Compile

namespace RenderTemplate

namespace Embedded

/-- What stands before a template. -/
def opening : List Char := "<template>".toList

/-- What stands after a template. -/
def closing : List Char := "</template>".toList

/-- A template of a script, with the text before its opening tag. -/
structure Piece where
  gap : List Char
  template : List Char
deriving DecidableEq, Repr

/-- The first template of a text, and what follows its closing tag. -/
def first? (chars : List Char) : Option (Piece × List Char) := do
  let (gap, rest) ← Text.splitAt? opening chars
  let (template, rest) ← Text.splitAt? closing rest
  return (⟨gap, template⟩, rest)

/-- Where the first template of a text stands. -/
theorem eq_append_of_first? {chars rest : List Char} {piece : Piece}
    (found : first? chars = some (piece, rest)) :
    chars = piece.gap ++ (opening ++ (piece.template ++ (closing ++ rest))) := by
  simp only [first?, Option.bind_eq_bind, Option.bind_eq_some_iff, Prod.exists] at found
  obtain ⟨gap, inner, atOpening, template, outer, atClosing, same⟩ := found
  simp only [Option.pure_def, Option.some.injEq, Prod.mk.injEq] at same
  obtain ⟨rfl, rfl⟩ := same
  rw [Text.eq_append_of_splitAt? atOpening, Text.eq_append_of_splitAt? atClosing]

/-- Each template of a script takes some of it, so that looking for the next one comes to an end. -/
theorem length_of_first? {chars rest : List Char} {piece : Piece}
    (found : first? chars = some (piece, rest)) :
    rest.length < chars.length := by
  have long : opening.length = 10 := by decide
  rw [eq_append_of_first? found]
  simp only [List.length_append]
  omega

/-- The templates of a script in order, and the text after the last one. -/
def split (chars : List Char) : List Piece × List Char :=
  match found : first? chars with
  | none => ([], chars)
  | some (piece, rest) =>
    have : rest.length < chars.length := length_of_first? found
    let (pieces, tail) := split rest
    (piece :: pieces, tail)
termination_by chars.length

/-- The bytes of a template, and those with its tags. -/
structure Region where
  start : Nat
  stop : Nat
  outerStart : Nat
  outerStop : Nat
deriving DecidableEq, Repr

/-- The bytes of a piece that starts at an offset. -/
def Piece.region (piece : Piece) (offset : Nat) : Region :=
  let outerStart := offset + Text.byteLength piece.gap
  let start := outerStart + Text.byteLength opening
  let stop := start + Text.byteLength piece.template
  ⟨start, stop, outerStart, stop + Text.byteLength closing⟩

/-- The bytes of pieces that follow each other. -/
def regionsFrom (offset : Nat) : List Piece → List Region
  | [] => []
  | piece :: rest => piece.region offset :: regionsFrom (piece.region offset).outerStop rest

/-- The bytes of the templates of a script. -/
def regions (source : String) : List Region :=
  regionsFrom 0 (split source.toList).1

/-- How many characters stand before the first interpolation of a string of the script: a dollar
sign before a brace, outside of comments and expressions. What comes after an expression or a
comment that is never closed is not looked at. -/
def interpolation? : List Char → Option Nat
  | [] => none
  | c :: rest =>
    if c = '$' ∧ rest.head? = some '{' then some 0
    else if c = '{' then
      match Braces.length? (c :: rest) with
      | none => none
      | some count => (interpolation? (rest.drop (count - 1))).map (· + count)
    else if (Text.after? "!--".toList rest).isSome ∧ c = '<' then
      match Text.splitAt? "-->".toList rest with
      | none => none
      | some (comment, _) =>
        (interpolation? (rest.drop (comment.length + 3))).map (· + (comment.length + 4))
    else (interpolation? rest).map (· + 1)
termination_by chars => chars.length
decreasing_by all_goals simp only [List.length_drop, List.length_cons]; omega

/-- The options for templates inside of scripts. -/
def embeddedOptions (options : Options) : Options :=
  { options with format := .jsrt, name := none }

/-- Compiles one template that starts at `base`. -/
def compilePiece (host : HostLanguage) (options : Options) (base : Location)
    (template : List Char) :
    CompileResult :=
  match interpolation? template with
  | some index => .error (Fault.runtimeInterpolation.error (base.advance (template.take index)))
  | none =>
    CompileResult.shifted (compileWith host (embeddedOptions options) (String.ofList template)) base

/-- Compiles templates that follow each other, the first of them at `place`. -/
def compilePieces (host : HostLanguage) (options : Options) (place : Location) :
    List Piece → Except CompileError (List Output)
  | [] => .ok []
  | piece :: rest => do
    let base := place.advance (piece.gap ++ opening)
    let output ← compilePiece host options base piece.template
    return output :: (← compilePieces host options (base.advance (piece.template ++ closing)) rest)

/-- The text of a script with each template replaced. -/
def splice : List Piece → List Output → List Char → String
  | piece :: pieces, output :: outputs, tail =>
    String.ofList piece.gap ++ output.code ++ splice pieces outputs tail
  | _, _, tail => String.ofList tail

/-- Compiles a script with the expressions of some language. -/
def compileWith (host : HostLanguage) (options : Options) (source : String) : CompileResult := do
  let (pieces, tail) := split source.toList
  let outputs ← compilePieces host options {} pieces
  return ⟨splice pieces outputs tail, outputs.flatMap (·.warnings)⟩

end Embedded

/-- Compiles the templates of a script in a file, with the expressions of some language. -/
def compileEmbeddedWith (host : HostLanguage) (options : Options) (file : Option String)
    (source : String) :
    CompileResult :=
  CompileResult.inFile (Embedded.compileWith host options source) file

/-- Compiles the templates of a script. -/
def compileEmbedded (options : Options) (file : Option String) (source : String) : CompileResult :=
  compileEmbeddedWith .standard options file source

end RenderTemplate
