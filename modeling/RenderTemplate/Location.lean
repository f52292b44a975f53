namespace RenderTemplate

namespace Text

/-- The number of bytes that a text takes. -/
def byteLength : List Char → Nat
  | [] => 0
  | c :: rest => c.utf8Size + byteLength rest

@[simp] theorem byteLength_nil : byteLength [] = 0 := rfl

@[simp] theorem byteLength_cons (c : Char) (rest : List Char) :
    byteLength (c :: rest) = c.utf8Size + byteLength rest := rfl

@[simp] theorem byteLength_append (front rest : List Char) :
    byteLength (front ++ rest) = byteLength front + byteLength rest := by
  induction front with
  | nil => simp
  | cons c front ih => simp [ih, Nat.add_assoc]

/-- The text from the first character that starts at or after the byte offset `offset`. -/
def dropBytes (offset : Nat) : List Char → List Char
  | [] => []
  | c :: rest => if offset = 0 then c :: rest else dropBytes (offset - c.utf8Size) rest

end Text

/-- A place in a source text: line and column count from one, the offset counts bytes. They are
natural numbers, without the limit of 32 bits that line and column have in a report. -/
structure Location where
  line : Nat := 1
  column : Nat := 1
  offset : Nat := 0
deriving DecidableEq, Repr, Inhabited

namespace Location

/-- The place after one more character. Only a line feed starts a line. -/
def step (place : Location) (c : Char) : Location :=
  if c = '\n' then ⟨place.line + 1, 1, place.offset + c.utf8Size⟩
  else ⟨place.line, place.column + 1, place.offset + c.utf8Size⟩

/-- The place after a piece of text. -/
def advance (place : Location) (chars : List Char) : Location :=
  chars.foldl step place

/-- The characters that start before a byte offset. -/
def before (offset : Nat) : List Char → List Char
  | [] => []
  | c :: rest => if offset = 0 then [] else c :: before (offset - c.utf8Size) rest

/-- The line and column of a byte offset, together with the offset as it was given: past the end of
the source the line and column are those of the end. -/
def ofOffset (source : String) (offset : Nat) : Location :=
  { advance {} (before offset source.toList) with offset := offset }

@[simp] theorem advance_nil (place : Location) : place.advance [] = place := rfl

@[simp] theorem advance_cons (place : Location) (c : Char) (rest : List Char) :
    place.advance (c :: rest) = (place.step c).advance rest := rfl

/-- Places are counted through one text and then through the next. -/
theorem advance_append (place : Location) (front rest : List Char) :
    place.advance (front ++ rest) = (place.advance front).advance rest :=
  List.foldl_append

end Location

end RenderTemplate
