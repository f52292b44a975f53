import RenderTemplate.Concatenation
import RenderTemplate.Proofs.Quoting
import RenderTemplate.Text.Search

namespace RenderTemplate

/-- The numbers of the host language, of which nothing matters but that they can be added up and
written. -/
structure Arithmetic where
  Number : Type
  zero : Number
  one : Number
  nan : Number
  add : Number → Number → Number
  text : Number → List UInt16

/-- The units in which the host language has a character of a text. -/
def Text.utf16 (c : Char) : List UInt16 :=
  if c.toNat < 0x10000 then [UInt16.ofNat c.toNat]
  else
    let rest := c.toNat - 0x10000
    [UInt16.ofNat (0xD800 + rest / 0x400), UInt16.ofNat (0xDC00 + rest % 0x400)]

/-- A primitive value of the host language. Its texts are units of any kind, also such as are no
characters. -/
inductive Primitive (arithmetic : Arithmetic) where
  | undefined
  | null
  | boolean (value : Bool)
  | number (value : arithmetic.Number)
  | integer (value : Int)
  | text (units : List UInt16)
  | symbol (description : List UInt16)

namespace Primitive

variable {arithmetic : Arithmetic}

/-- The text of a character sequence. -/
def ofChars (chars : List Char) : Primitive arithmetic :=
  text (chars.flatMap Text.utf16)

/-- A value as text. Symbols cannot be made into text. -/
def text? : Primitive arithmetic → Option (List UInt16)
  | undefined => some ("undefined".toList.flatMap Text.utf16)
  | null => some ("null".toList.flatMap Text.utf16)
  | boolean value => some ((toString value).toList.flatMap Text.utf16)
  | number value => some (arithmetic.text value)
  | integer value => some ((toString value).toList.flatMap Text.utf16)
  | text units => some units
  | symbol _ => none

/-- A value other than a text as a number, or as an integer of any size. -/
def numeric? : Primitive arithmetic → Option (arithmetic.Number ⊕ Int)
  | undefined => some (.inl arithmetic.nan)
  | null => some (.inl arithmetic.zero)
  | boolean value => some (.inl (if value then arithmetic.one else arithmetic.zero))
  | number value => some (.inl value)
  | integer value => some (.inr value)
  | text _ => none
  | symbol _ => none

/-- The sum of two values, if there is one: a text as soon as one of them is a text, and else a
number. -/
def add? : Primitive arithmetic → Primitive arithmetic → Option (Primitive arithmetic)
  | text units, second => second.text?.map fun more => text (units ++ more)
  | first, text more => first.text?.map fun units => text (units ++ more)
  | first, second =>
    match first.numeric?, second.numeric? with
    | some (.inl value), some (.inl other) => some (number (arithmetic.add value other))
    | some (.inr value), some (.inr other) => some (integer (value + other))
    | _, _ => none

/-- The sum of several values, added up from the left. It starts as a sum of numbers and becomes a
text with the first text in it, and from there on every value is added as it is written. -/
def sum? : List (Primitive arithmetic) → Option (Primitive arithmetic)
  | [] => none
  | first :: rest => rest.foldlM add? first

/-- The texts of values, one after the other. -/
def texts? : List (Primitive arithmetic) → Option (List UInt16)
  | [] => some []
  | first :: rest => first.text?.bind fun units => (texts? rest).map (units ++ ·)

theorem add?_text (units : List UInt16) (second : Primitive arithmetic) :
    add? (text units) second = second.text?.map fun more => text (units ++ more) := rfl

theorem add?_text_right (first : Primitive arithmetic) (more : List UInt16) :
    add? first (text more) = first.text?.map fun units => text (units ++ more) := by
  cases first <;> rfl

/-- What is added to a text is added as text. -/
theorem foldlM_add?_text (units : List UInt16) (values : List (Primitive arithmetic)) :
    values.foldlM add? (text units) = (texts? values).map fun more => text (units ++ more) := by
  induction values generalizing units with
  | nil => simp [texts?]
  | cons first rest ih =>
    rw [List.foldlM_cons, add?_text, texts?]
    cases first.text? with
    | none => rfl
    | some own =>
      simp only [Option.map_some, Option.bind_eq_bind, Option.bind_some, ih, Option.map_map]
      congr 1
      funext more
      simp

/-- A sum with a text in front is a text. -/
theorem sum?_text (units : List UInt16) (values : List (Primitive arithmetic)) :
    sum? (text units :: values) = (texts? (text units :: values)).map text := by
  rw [sum?, foldlM_add?_text, texts?, text?, Option.bind_some, Option.map_map]
  rfl

/-- So is a sum with a text in the second place. -/
theorem sum?_text_second (first : Primitive arithmetic) (more : List UInt16)
    (values : List (Primitive arithmetic)) :
    sum? (first :: text more :: values) = (texts? (first :: text more :: values)).map text := by
  rw [sum?, List.foldlM_cons, add?_text_right, texts?]
  cases first.text? with
  | none => rfl
  | some units =>
    rw [Option.map_some, Option.bind_eq_bind, Option.bind_some, foldlM_add?_text, Option.bind_some,
      texts?, text?, Option.bind_some, Option.map_map, Option.map_map]
    congr 1
    funext rest
    simp

/-- An empty text in front changes no text. -/
theorem texts?_empty (values : List (Primitive arithmetic)) :
    texts? (text [] :: values) = texts? values := by
  rw [texts?, text?, Option.bind_some]
  simp

end Primitive

namespace Part

variable {arithmetic : Arithmetic}

/-- The expression that an operand is: a name or several with dots, or any code in parentheses. -/
def operandCode? (operand : String) : Option String :=
  if isSimpleCode operand then some operand
  else (Text.unwrap? '(' ')' operand.toList).map String.ofList

/-- What operands are worth, from left to right: a literal is the text that it means, and the value
of an expression depends on its code and on how many expressions were evaluated before. -/
def operandValues? (value : Nat → String → Primitive arithmetic) :
    Nat → List String → Option (List (Primitive arithmetic))
  | _, [] => some []
  | count, operand :: rest =>
    match Quoted.read operand.toList with
    | some (chars, []) => (operandValues? value count rest).map (Primitive.ofChars chars :: ·)
    | some (_, _ :: _) => none
    | none => (operandCode? operand).bind fun code =>
      (operandValues? value (count + 1) rest).map (value count code :: ·)

/-- What parts are worth: a literal is a text, and an expression has its value. -/
def values (value : Nat → String → Primitive arithmetic) :
    Nat → List Part → List (Primitive arithmetic)
  | _, [] => []
  | count, literal text :: rest => Primitive.ofChars text.toList :: values value count rest
  | count, expression code :: rest => value count (Text.trim code) :: values value (count + 1) rest

theorem read_quote (text : String) : Quoted.read (quote text).toList = some (text.toList, []) := by
  have read := Quoted.read_encode text.toList []
  rwa [List.append_nil, ← String.toList_ofList (l := Quoted.encode text.toList)] at read

/-- An expression as an operand does not start with a quote. -/
theorem head?_parenthesize (code : String) : (parenthesize code).toList.head? ≠ some '"' := by
  unfold parenthesize
  dsimp only
  split
  · next simple =>
    rw [isSimpleCode, Bool.and_eq_true] at simple
    exact fun quoted =>
      absurd (List.all_eq_true.mp simple.2 '"' (List.mem_of_head? quoted)) (by decide)
  · simp

/-- An expression is never taken for a literal. -/
theorem read_parenthesize (code : String) : Quoted.read (parenthesize code).toList = none := by
  have unquoted := head?_parenthesize code
  cases chars : (parenthesize code).toList with
  | nil => rfl
  | cons c rest =>
    rw [chars, List.head?_cons, ne_eq, Option.some.injEq] at unquoted
    rw [Quoted.read, if_neg unquoted]

/-- The code of an operand can be told, with or without parentheses around it. -/
theorem operandCode?_parenthesize (code : String) :
    operandCode? (parenthesize code) = some (Text.trim code) := by
  unfold parenthesize
  dsimp only
  split
  · next simple => rw [operandCode?, if_pos simple]
  · have chars : ("(" ++ Text.trim code ++ ")").toList =
        '(' :: ((Text.trim code).toList ++ [')']) := by
      rw [String.toList_append, String.toList_append]
      rfl
    have bracketed : isSimpleCode ("(" ++ Text.trim code ++ ")") = false := by
      have opened : (isNameChar '(' || '(' == '.') = false := by decide
      rw [isSimpleCode, chars, List.all_cons, opened, Bool.false_and, Bool.and_false]
    rw [operandCode?, bracketed, if_neg Bool.false_ne_true, chars, Text.unwrap?]
    simp

/-- The operands of parts are worth what the parts are worth. -/
theorem operandValues?_map (value : Nat → String → Primitive arithmetic) (count : Nat)
    (parts : List Part) :
    operandValues? value count (parts.map operand) = some (values value count parts) := by
  induction parts generalizing count with
  | nil => rfl
  | cons part rest ih =>
    rw [List.map_cons, operandValues?]
    cases part with
    | literal text =>
      rw [operand, read_quote]
      dsimp only
      rw [ih, Option.map_some, values]
    | expression code =>
      rw [operand, read_parenthesize]
      dsimp only
      rw [operandCode?_parenthesize, Option.bind_some, ih, Option.map_some, values]

/-- An empty literal in front is an empty text in front. -/
theorem operandValues?_empty (value : Nat → String → Primitive arithmetic) (parts : List Part) :
    operandValues? value 0 ("\"\"" :: parts.map operand) =
      some (.text [] :: values value 0 parts) :=
  operandValues?_map value 0 (literal "" :: parts)

theorem exists_two {parts : List Part} (several : 2 ≤ parts.length) :
    ∃ first second rest, parts = first :: second :: rest := by
  obtain ⟨first, more, rfl⟩ :=
    List.exists_cons_of_length_pos (Nat.lt_of_lt_of_le (by decide) several)
  rw [List.length_cons] at several
  obtain ⟨second, rest, rfl⟩ := List.exists_cons_of_length_pos (Nat.le_of_succ_le_succ several)
  exact ⟨first, second, rest, rfl⟩

theorem concatenate_eq {parts : List Part} (several : 2 ≤ parts.length) :
    concatenate parts = " + ".intercalate (operands parts) := by
  obtain ⟨first, second, rest, rfl⟩ := exists_two several
  cases first <;> rfl

end Part

/-- Code for several parts is a sum of operands, and whatever values its expressions have, this sum
is the text in which the literals and the values, written as texts, stand one after the other. There
is no sum only if one of the values is a symbol, which has no text either. -/
theorem concatenate_sums_texts (arithmetic : Arithmetic)
    (value : Nat → String → Primitive arithmetic) (parts : List Part) (several : 2 ≤ parts.length) :
    Part.concatenate parts = " + ".intercalate (Part.operands parts) ∧
    (Part.operandValues? value 0 (Part.operands parts)).bind Primitive.sum? =
      (Primitive.texts? (Part.values value 0 parts)).map Primitive.text := by
  refine ⟨Part.concatenate_eq several, ?_⟩
  obtain ⟨first, second, rest, rfl⟩ := Part.exists_two several
  -- the first operand is a text, or the second one, or an empty text is put in front
  cases first with
  | literal text =>
    have plain : Part.operands (.literal text :: second :: rest) =
        (.literal text :: second :: rest : List Part).map Part.operand := rfl
    rw [plain, Part.operandValues?_map, Option.bind_some]
    exact Primitive.sum?_text _ _
  | expression code =>
    cases second with
    | literal text =>
      have plain : Part.operands (.expression code :: .literal text :: rest) =
          (.expression code :: .literal text :: rest : List Part).map Part.operand := rfl
      rw [plain, Part.operandValues?_map, Option.bind_some]
      exact Primitive.sum?_text_second _ _ _
    | expression other =>
      have guarded : Part.operands (.expression code :: .expression other :: rest) =
          "\"\"" :: (.expression code :: .expression other :: rest : List Part).map Part.operand :=
        rfl
      rw [guarded, Part.operandValues?_empty, Option.bind_some, Primitive.sum?_text,
        Primitive.texts?_empty]

/-- Whole numbers, written as usual. -/
def Arithmetic.whole : Arithmetic where
  Number := Option Int
  zero := some 0
  one := some 1
  nan := none
  add first second := first.bind fun value => second.map (value + ·)
  text number := ((number.map toString).getD "NaN").toList.flatMap Text.utf16

/-- One for the first expression, two for the second, and so on. -/
def ordinal (count : Nat) (_ : String) : Primitive .whole :=
  .number (some (Int.ofNat (count + 1)))

/-- Two numbers side by side, that would be added up to a number without a text before them. -/
theorem adjacentNumbers_text :
    Part.concatenate [.expression "a", .expression "b ? c : d", .literal "px"] =
      "\"\" + a + (b ? c : d) + \"px\"" ∧
    (Part.operandValues? ordinal 0
      (Part.operands [.expression "a", .expression "b ? c : d", .literal "px"])).bind
      Primitive.sum? = some (Primitive.ofChars "12px".toList) := by
  have sums :=
    concatenate_sums_texts .whole ordinal [.expression "a", .expression "b ? c : d", .literal "px"]
    (by decide)
  have texts :
      Primitive.texts?
      (Part.values ordinal 0 [.expression "a", .expression "b ? c : d", .literal "px"]) =
      some ("12px".toList.flatMap Text.utf16) := by decide
  rw [texts] at sums
  exact ⟨by decide, sums.2⟩

end RenderTemplate
