import RenderTemplate.Location

namespace RenderTemplate.Markup

/-- What is left of a source, and where it starts. -/
structure Cursor where
  rest : List Char
  place : Location := {}

namespace Cursor

/-- The cursor after so many characters. -/
def advance (cursor : Cursor) (count : Nat) : Cursor :=
  ⟨cursor.rest.drop count, cursor.place.advance (cursor.rest.take count)⟩

/-- How many characters at the cursor satisfy a test. -/
def run (cursor : Cursor) (test : Char → Bool) : Nat :=
  (cursor.rest.takeWhile test).length

@[simp] theorem rest_advance (cursor : Cursor) (count : Nat) :
    (cursor.advance count).rest = cursor.rest.drop count := rfl

@[simp] theorem place_advance (cursor : Cursor) (count : Nat) :
    (cursor.advance count).place = cursor.place.advance (cursor.rest.take count) := rfl

theorem advance_advance (cursor : Cursor) (first second : Nat) :
    (cursor.advance first).advance second = cursor.advance (first + second) := by
  simp only [advance, List.drop_drop, List.take_add, Location.advance_append]

end Cursor

end RenderTemplate.Markup
