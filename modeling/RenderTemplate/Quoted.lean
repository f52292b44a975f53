namespace RenderTemplate

/-- The digit of a value below sixteen. -/
def hexDigit (value : Nat) : Char :=
  Char.ofNat (if value < 10 then 48 + value else 87 + value)

/-- The last `count` hexadecimal digits of a number. -/
def hexDigits : Nat → Nat → List Char
  | 0, _ => []
  | count + 1, value => hexDigits count (value / 16) ++ [hexDigit (value % 16)]

theorem hexDigit_of_mem {count value : Nat} {c : Char} (member : c ∈ hexDigits count value) :
    ∃ digit < 16, c = hexDigit digit := by
  induction count generalizing value with
  | zero => cases member
  | succ count ih =>
    rcases List.mem_append.mp member with front | last
    · exact ih front
    · exact ⟨value % 16, Nat.mod_lt _ (by decide), List.mem_singleton.mp last⟩

namespace Quoted

/-- How a character is written inside a string literal: with a backslash if it would end the literal
or the line, or by its number if it is a control character or a special space. -/
def escape (c : Char) : List Char :=
  if c = '"' then ['\\', '"']
  else if c = '\\' then ['\\', '\\']
  else if c = '\n' then ['\\', 'n']
  else if c = '\r' then ['\\', 'r']
  else if c = '\t' then ['\\', 't']
  else if c.toNat < 0x20 ∨ c.toNat = 0xA0 ∨ c.toNat = 0x2028 ∨ c.toNat = 0x2029 then
    '\\' :: 'u' :: hexDigits 4 c.toNat
  else [c]

/-- The characters of a string literal. -/
def encode (chars : List Char) : List Char :=
  '"' :: (chars.flatMap escape ++ ['"'])

end Quoted

/-- A text as a string literal. -/
def quote (text : String) : String :=
  String.ofList (Quoted.encode text.toList)

end RenderTemplate
