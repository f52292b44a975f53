import RenderTemplate.Braces

namespace RenderTemplate

/-- A piece of text: literal, or an expression without its braces. -/
inductive Part where
  | literal (text : String)
  | expression (code : String)
deriving DecidableEq, Repr

namespace Part

/-- A literal character in front of a list of parts: it joins the literal that comes first, if one
does. -/
def consChar (c : Char) : List Part → List Part
  | literal text :: parts => literal (String.ofList (c :: text.toList)) :: parts
  | parts => literal (String.ofList [c]) :: parts

/-- The parts of a text. A brace that is never closed is an error, which tells how many characters
stand before that brace. -/
def split : List Char → Except Nat (List Part)
  | [] => .ok []
  | c :: rest =>
    if c = '{' then
      match Braces.length? (c :: rest) with
      | none => .error 0
      | some count =>
        match split (rest.drop (count - 1)) with
        | .ok parts => .ok (expression (String.ofList (rest.take (count - 2))) :: parts)
        | .error index => .error (count + index)
    else
      match split rest with
      | .ok parts => .ok (consChar c parts)
      | .error index => .error (index + 1)
termination_by chars => chars.length
decreasing_by
  · simp only [List.length_drop, List.length_cons]; omega
  · simp

end Part

end RenderTemplate
