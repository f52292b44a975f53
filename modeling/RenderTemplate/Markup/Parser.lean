import RenderTemplate.Markup.Lexeme

namespace RenderTemplate.Markup

theorem readClosing_pos {cursor : Cursor} {name : String} {count : Nat}
    (read : readClosing cursor = .ok (name, count)) : 0 < count := by
  unfold readClosing at read
  grind

theorem readOpening_pos {cursor : Cursor} {lexeme : Lexeme} {count : Nat}
    (read : readOpening cursor = .ok (lexeme, count)) : 0 < count := by
  unfold readOpening at read
  grind

theorem shift_pos {count found : Nat} {result : Except (Option Nat) Nat}
    (shifted : shift count result = .ok found) (positive : 0 < count) : 0 < found := by
  unfold shift at shifted
  grind

/-- A text takes its first character, whatever it is. -/
theorem textLength_pos {c : Char} {rest : List Char} {count : Nat}
    (found : textLength true (c :: rest) = .ok count) : 0 < count := by
  rw [textLength] at found
  split at found
  · split at found
    · contradiction
    · next closed => exact shift_pos found (Braces.Scan.close?_pos closed)
  · exact shift_pos (by simpa using found) (by decide)

theorem readText_pos {cursor : Cursor} {lexeme : Lexeme} {count : Nat} {c : Char} {rest : List Char}
    (nonempty : cursor.rest = c :: rest) (read : readText cursor = .ok (lexeme, count)) :
    0 < count := by
  unfold readText at read
  rw [nonempty] at read
  split at read
  · contradiction
  · next found =>
    split at read
    · contradiction
    · cases read
      exact textLength_pos found

/-- Every lexeme takes at least one character. -/
theorem Lexeme.read_pos {cursor : Cursor} {lexeme : Lexeme} {count : Nat} {c : Char}
    {rest : List Char} (nonempty : cursor.rest = c :: rest)
    (read : Lexeme.read cursor = .ok (lexeme, count)) : 0 < count := by
  unfold Lexeme.read at read
  split at read
  · split at read
    · cases read
      omega
    · contradiction
  · split at read
    · next closed =>
      cases read
      exact readClosing_pos closed
    · contradiction
  · split at read
    · split at read
      · split at read
        · cases read
          omega
        · contradiction
      · exact readOpening_pos read
    · exact readText_pos nonempty read

/-- The lexemes from a cursor on, up to the end or to an error. -/
def lexemes (cursor : Cursor) : List Lexeme × Option CompileError :=
  match nonempty : cursor.rest with
  | [] => ([], none)
  | c :: rest =>
    match read : Lexeme.read cursor with
    | .error error => ([], some error)
    | .ok (lexeme, count) =>
      have shorter : (cursor.advance count).rest.length < cursor.rest.length := by
        have positive := Lexeme.read_pos nonempty read
        simp only [nonempty, Cursor.rest_advance, List.length_drop, List.length_cons]
        omega
      let (more, failure) := lexemes (cursor.advance count)
      (lexeme :: more, failure)
termination_by cursor.rest.length
decreasing_by exact shorter

/-- An element that is still open, and the nodes before it, the last one first. -/
structure Frame where
  start : StartTag
  before : List Node

/-- Puts lexemes together. `frames` are the open elements, the innermost first, and `done` the nodes
in the innermost one, the last first. The lexemes may end in an error, which counts where
they end. -/
def assemble (failure : Option CompileError) (frames : List Frame) (done : List Node) :
    List Lexeme → Except CompileError (List Node)
  | [] =>
    match failure, frames with
    | some error, _ => .error error
    | none, [] => .ok done.reverse
    | none, frame :: _ =>
      .error ((Fault.unclosedElement frame.start.name).error frame.start.location)
  | .comment value location :: rest =>
    assemble failure frames (.comment value location :: done) rest
  | .declaration :: rest => assemble failure frames done rest
  | .text parts location :: rest => assemble failure frames (.text parts location :: done) rest
  | .leaf start :: rest => assemble failure frames (.element start [] :: done) rest
  | .raw start content location :: rest =>
    let children := if content.isEmpty then [] else [Node.text [.literal content] location]
    assemble failure frames (.element start children :: done) rest
  | .opening start :: rest => assemble failure (⟨start, done⟩ :: frames) [] rest
  | .closing name location :: rest =>
    match frames with
    | frame :: outer =>
      if frame.start.name = name then
        assemble failure outer (.element frame.start done.reverse :: frame.before) rest
      else if isVoidTag name then assemble failure frames done rest
      else .error ((Fault.mismatchedClose frame.start.name name).error location)
    | [] =>
      if isVoidTag name then assemble failure frames done rest
      else .error ((Fault.unexpectedClose name).error location)

section

variable {cursor : Cursor}

theorem lexemes_end (ended : cursor.rest = []) : lexemes cursor = ([], none) := by
  rw [lexemes]
  split
  · rfl
  · next parts =>
    rw [ended] at parts
    cases parts

theorem lexemes_error {c : Char} {tail : List Char} (parts : cursor.rest = c :: tail)
    {error : CompileError} (read : Lexeme.read cursor = .error error) :
    lexemes cursor = ([], some error) := by
  rw [lexemes]
  split
  · next ended =>
    rw [ended] at parts
    cases parts
  · split
    · next failed =>
      rw [read] at failed
      cases failed
      rfl
    · next found =>
      rw [read] at found
      cases found

/-- The lexemes at a cursor are the one that is read there and those behind it. -/
theorem lexemes_ok {c : Char} {tail : List Char} (parts : cursor.rest = c :: tail) {lexeme : Lexeme}
    {count : Nat} (read : Lexeme.read cursor = .ok (lexeme, count)) :
    lexemes cursor =
      (lexeme :: (lexemes (cursor.advance count)).1, (lexemes (cursor.advance count)).2) := by
  rw [lexemes]
  split
  · next ended =>
    rw [ended] at parts
    cases parts
  · split
    · next failed =>
      rw [read] at failed
      cases failed
    · next found =>
      rw [read] at found
      cases found
      rfl

end

/-- The forest that is read from a cursor on, inside of the open elements and after the nodes that
are done. -/
def resume (frames : List Frame) (done : List Node) (cursor : Cursor) :
    Except CompileError (List Node) :=
  assemble (lexemes cursor).2 frames done (lexemes cursor).1

/-- The forest that a source writes. -/
def parse (source : String) : Except CompileError (List Node) :=
  resume [] [] ⟨source.toList, {}⟩

/-- The forest that a file writes, with an error in that file if there is one. -/
def parseFile (file : Option String) (source : String) : Except CompileError (List Node) :=
  (parse source).mapError (·.inFile file)

end RenderTemplate.Markup
