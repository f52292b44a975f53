import RenderTemplate.Markup.Parser
import RenderTemplate.Proofs.Slices

namespace RenderTemplate

/-- Whether a diagnostic has the line and the column of a place. -/
def Diagnostic.IsAt (diagnostic : Diagnostic) (place : Location) : Prop :=
  diagnostic.line = place.line ∧ diagnostic.column = place.column

/-- Whether a diagnostic is at one of the places that are known. -/
def Diagnostic.IsPlaced (known : Location → Prop) (diagnostic : Diagnostic) : Prop :=
  ∃ place, known place ∧ diagnostic.IsAt place

/-- A computation that gives what holds, or fails at a place that is known. -/
inductive Placed {α : Type} (known : Location → Prop) (holds : α → Prop) :
    Except CompileError α → Prop where
  | ok {value : α} (fine : holds value) : Placed known holds (.ok value)
  | error {error : CompileError} (placed : error.diagnostic.IsPlaced known) :
      Placed known holds (.error error)

/-- Anything at all. -/
def Anything {α : Type} (_ : α) : Prop :=
  True

namespace Placed

variable {α : Type} {known : Location → Prop} {holds : α → Prop} {work : Except CompileError α}

theorem fault {place : Location} (here : known place) (fault : Fault) :
    Placed known holds (.error (fault.error place)) :=
  .error ⟨place, here, rfl, rfl⟩

theorem of_ok {value : α} (placed : Placed known holds work) (run : work = .ok value) :
    holds value := by
  subst run
  cases placed with
  | ok fine => exact fine

theorem of_error {error : CompileError} (placed : Placed known holds work)
    (run : work = .error error) :
    error.diagnostic.IsPlaced known := by
  subst run
  cases placed with
  | error placed => exact placed

theorem imp {weaker : α → Prop} (placed : Placed known holds work)
    (implies : ∀ value, holds value → weaker value) :
    Placed known weaker work := by
  cases placed with
  | ok fine => exact .ok (implies _ fine)
  | error placed => exact .error placed

end Placed

namespace Markup

/-- Something that stands at a place, with what the source starts with there. -/
structure Mark where
  lead : List Char
  location : Location
deriving DecidableEq, Repr

def Attribute.mark (found : Attribute) : Mark :=
  ⟨found.name.toList, found.location⟩

def StartTag.marks (start : StartTag) : List Mark :=
  ⟨'<' :: start.name.toList, start.location⟩ :: start.attributes.map (·.mark)

mutual

/-- All that stands in a node in the order of the document: an element, its attributes, its
children. -/
def Node.marks : Node → List Mark
  | .element start children => start.marks ++ marksAll children
  | .text _ location => [⟨[], location⟩]
  | .comment _ location => [⟨['<', '!', '-', '-'], location⟩]

def marksAll : List Node → List Mark
  | [] => []
  | node :: rest => node.marks ++ marksAll rest

end

theorem marksAll_append (nodes more : List Node) :
    marksAll (nodes ++ more) = marksAll nodes ++ marksAll more := by
  induction nodes with
  | nil => rfl
  | cons node nodes ih => rw [List.cons_append, marksAll, marksAll, ih, List.append_assoc]

theorem marksAll_concat (nodes : List Node) (node : Node) :
    marksAll (node :: nodes).reverse = marksAll nodes.reverse ++ node.marks := by
  rw [List.reverse_cons, marksAll_append, marksAll, marksAll, List.append_nil]

/-- Whether all places from a cursor on are known. -/
def Cursor.Within (known : Location → Prop) (cursor : Cursor) : Prop :=
  ∀ index, known (cursor.advance index).place

theorem Cursor.Within.here {known : Location → Prop} {cursor : Cursor}
    (within : cursor.Within known) :
    known cursor.place := by
  simpa using within 0

theorem Cursor.Within.advance {known : Location → Prop} {cursor : Cursor}
    (within : cursor.Within known) (count : Nat) :
    (cursor.advance count).Within known := by
  intro index
  rw [Cursor.advance_advance]
  exact within (count + index)

/-- Whether something stands so many characters after a cursor. The places that the reader gives are
counted in characters from one cursor, and only at the end in bytes, lines and columns. -/
structure Mark.StandsAt (mark : Mark) (base : Cursor) (index : Nat) : Prop where
  inside : index < base.rest.length
  location : mark.location = (base.advance index).place
  lead : mark.lead <+: (base.advance index).rest

/-- Marks that stand one after another, from `low` characters after a cursor on and before
`high`. -/
def Spread (base : Cursor) (low high : Nat) : List Mark → Prop
  | [] => low ≤ high
  | mark :: rest =>
    ∃ index, low ≤ index ∧ mark.StandsAt base index ∧ Spread base (index + 1) high rest

namespace Spread

variable {base : Cursor} {low middle high : Nat} {marks more : List Mark}

theorem from_le {lower : Nat} (spread : Spread base low high marks) (bound : lower ≤ low) :
    Spread base lower high marks := by
  cases marks with
  | nil => exact Nat.le_trans bound spread
  | cons mark rest =>
    obtain ⟨index, above, stands, later⟩ := spread
    exact ⟨index, Nat.le_trans bound above, stands, later⟩

/-- Marks of one stretch are followed by those of the next one. -/
theorem append (first : Spread base low middle marks) (second : Spread base middle high more) :
    Spread base low high (marks ++ more) := by
  induction marks generalizing low with
  | nil => exact second.from_le first
  | cons mark rest ih =>
    obtain ⟨index, above, stands, later⟩ := first
    exact ⟨index, above, stands, ih later⟩

theorem single {mark : Mark} (stands : mark.StandsAt base low) (bound : low < high) :
    Spread base low high [mark] :=
  ⟨low, Nat.le_refl low, stands, bound⟩

theorem of_advance {count : Nat} (spread : Spread (base.advance count) low high marks) :
    Spread base (count + low) (count + high) marks := by
  induction marks generalizing low with
  | nil => exact Nat.add_le_add_left spread count
  | cons mark rest ih =>
    obtain ⟨index, above, stands, later⟩ := spread
    have inside := stands.inside
    rw [Cursor.rest_advance, List.length_drop] at inside
    refine ⟨count + index, by omega, ⟨by omega, ?_, ?_⟩, ih later⟩
    · rw [stands.location, Cursor.advance_advance]
    · rw [← Cursor.advance_advance]
      exact stands.lead

end Spread

section

variable {known : Location → Prop} {cursor : Cursor} (within : cursor.Within known)

include within

theorem readValue_placed (name : String) : Placed known Anything (readValue name cursor) := by
  unfold readValue
  split
  · exact .ok trivial
  · split
    · split
      · exact .ok trivial
      · exact .fault (within _) _
      · exact .fault within.here _
    · split
      · split
        · exact .ok trivial
        · exact .fault within.here _
      · exact .ok trivial

/-- An attribute is at its name. -/
theorem readAttribute_placed (tag : String) :
    Placed known (fun result => result.1.mark.StandsAt cursor 0) (readAttribute tag cursor) := by
  have long : cursor.run isAttributeChar ≤ cursor.rest.length := (List.takeWhile_prefix _).length_le
  have stands (value : Option String) (named : cursor.run isAttributeChar ≠ 0) :
      (Attribute.mark ⟨cursor.slice (cursor.run isAttributeChar), value, cursor.place⟩).StandsAt
        cursor 0 := by
    refine ⟨by omega, by simp [Attribute.mark], ?_⟩
    simp [Attribute.mark, Cursor.slice, List.take_prefix]
  unfold readAttribute
  dsimp only
  split
  · exact .fault within.here _
  · next named =>
    split
    · split
      · exact .ok (stands _ named)
      · next failed =>
        exact .error
          ((readValue_placed (((within.advance _).advance _).advance _) _).of_error failed)
    · exact .ok (stands _ named)

/-- Attributes stand one after another, behind those that were found already. -/
theorem readAttributes_placed {location : Location} (here : known location) (tag : String)
    (found : List Attribute) :
    Placed known
      (fun result => ∃ more, result.1 = found.reverse ++ more ∧
        Spread cursor 0 result.2.2 (more.map (·.mark)))
      (readAttributes tag location cursor found) := by
  fun_induction readAttributes tag location cursor found
  case case1 => exact .fault here _
  case case2 | case3 => exact .ok ⟨[], by simp, Nat.zero_le _⟩
  case case4 read => exact .error ((readAttribute_placed (within.advance _) tag).of_error read)
  case case5 read _ =>
    have stands := (readAttribute_placed (within.advance _) tag).of_ok read
    have place : known _ := stands.location ▸ within.advance _ 0
    exact .fault place _
  case case6 here _ _ _ _ _ next size first _ _ _ _ more later ih =>
    obtain ⟨following, rfl, spread⟩ := (ih ((within.advance _).advance _)).of_ok later
    have positive := readAttribute_pos first
    have stands := (readAttribute_placed (within.advance _) tag).of_ok first
    have whole : Spread here 0 (size + more) ((next :: following).map (·.mark)) :=
      ⟨0, Nat.le_refl 0, stands, spread.of_advance.from_le positive⟩
    refine .ok ⟨next :: following, by simp, ?_⟩
    rw [Nat.add_assoc]
    exact whole.of_advance.from_le (Nat.zero_le _)
  case case7 later ih => exact .error ((ih ((within.advance _).advance _)).of_error later)

theorem readClosing_placed : Placed known Anything (readClosing cursor) := by
  unfold readClosing
  dsimp only
  split
  · exact .ok trivial
  · exact .fault within.here _

/-- The text of an element with plain text only, if there is some, is at the cursor. -/
theorem readRaw_placed {location : Location} (here : known location) (tag : String) :
    Placed known (fun result => result.1 ≠ "" → Spread cursor 0 result.2 [⟨[], cursor.place⟩])
      (readRaw tag location cursor) := by
  unfold readRaw
  split
  · exact .fault here _
  · next content after found =>
    split
    · refine .ok fun filled => ?_
      have nonempty : 0 < content.length := by
        simpa [List.length_pos_iff] using filled
      have inside : content.length ≤ cursor.rest.length := by
        rw [Text.eq_append_of_splitAt? found, List.length_append]
        omega
      exact .single ⟨by omega, by simp, List.nil_prefix⟩ (by simp only; omega)
    · next failed => exact .error ((readClosing_placed (within.advance _)).of_error failed)

end

namespace Lexeme

/-- What stands in a lexeme. A closing tag and a declaration leave nothing in the forest. -/
def marks : Lexeme → List Mark
  | .comment _ location => [⟨['<', '!', '-', '-'], location⟩]
  | .declaration => []
  | .closing .. => []
  | .opening start => start.marks
  | .leaf start => start.marks
  | .raw start content location => start.marks ++ if content.isEmpty then [] else [⟨[], location⟩]
  | .text _ location => [⟨[], location⟩]

/-- Whether an error that names the tag of a lexeme is at a place that is known. -/
def Located (known : Location → Prop) : Lexeme → Prop
  | .closing _ location => known location
  | .opening start => known start.location
  | _ => True

end Lexeme

/-- A lexeme of so many characters at a cursor, with all that stands in it. -/
structure Stands (known : Location → Prop) (cursor : Cursor) (found : Lexeme × Nat) : Prop where
  located : found.1.Located known
  spread : Spread cursor 0 found.2 found.1.marks

theorem startsMarkup_eq_true {chars : List Char} (starts : startsMarkup chars) :
    ∃ rest, chars = '<' :: rest := by
  unfold startsMarkup at starts
  split at starts
  · exact ⟨_, rfl⟩
  · cases starts

section

variable {known : Location → Prop} {cursor : Cursor} (within : cursor.Within known)

include within

/-- A start tag stands where it is read, and its attributes behind it in their order. -/
theorem readOpening_placed {rest : List Char} (front : cursor.rest = '<' :: rest) :
    Placed known (Stands known cursor) (readOpening cursor) := by
  unfold readOpening
  dsimp only
  have attributesPlaced :=
    readAttributes_placed (within.advance (1 + (cursor.advance 1).run isTagChar)) within.here
    ((cursor.advance 1).slice ((cursor.advance 1).run isTagChar)) []
  generalize (cursor.advance 1).run isTagChar = length at attributesPlaced ⊢
  split
  · next failed => exact .error (attributesPlaced.of_error failed)
  · next attributes selfClosing size found =>
    obtain ⟨_, rfl, spread⟩ := attributesPlaced.of_ok found
    have tag : Spread cursor 0 (1 + length + size)
        (StartTag.marks ⟨(cursor.advance 1).slice length, attributes, selfClosing,
          cursor.place⟩) := by
      refine ⟨0, Nat.le_refl 0,
        ⟨by simp [front], by simp, by simp [front, Cursor.slice, List.take_prefix]⟩, ?_⟩
      exact spread.of_advance.from_le (by omega)
    split
    · exact .ok ⟨trivial, tag⟩
    · split
      · have rawPlaced := readRaw_placed (within.advance (1 + length + size)) within.here
          ((cursor.advance 1).slice length)
        split
        · next text more read =>
          refine .ok ⟨trivial, tag.append ?_⟩
          split
          · exact Nat.le_add_right _ _
          · next filled => exact (rawPlaced.of_ok read (by simpa using filled)).of_advance
        · next failed => exact .error (rawPlaced.of_error failed)
      · exact .ok ⟨within.here, tag⟩

theorem readText_placed {c : Char} {rest : List Char} (front : cursor.rest = c :: rest) :
    Placed known (Stands known cursor) (readText cursor) := by
  unfold readText
  split
  · exact .fault (within _) _
  · next found =>
    rw [front] at found
    split
    · exact .fault (within _) _
    · exact .ok
        ⟨trivial, .single ⟨by simp [front], by simp, List.nil_prefix⟩ (textLength_pos found)⟩

theorem Lexeme.read_placed {c : Char} {rest : List Char} (front : cursor.rest = c :: rest) :
    Placed known (Stands known cursor) (Lexeme.read cursor) := by
  unfold Lexeme.read
  split
  · next comment =>
    split
    · exact .ok ⟨trivial, .single ⟨by simp [front], by simp, by simp [comment]⟩ (Nat.succ_pos _)⟩
    · exact .fault within.here _
  · split
    · exact .ok ⟨within.here, Nat.zero_le _⟩
    · next failed => exact .error ((readClosing_placed within).of_error failed)
  · split
    · next starts =>
      split
      · split
        · exact .ok ⟨trivial, Nat.zero_le _⟩
        · exact .fault within.here _
      · obtain ⟨rest, front⟩ := startsMarkup_eq_true starts
        exact readOpening_placed within front
    · exact readText_placed within front

end

/-- The lexemes of a source one after another, up to its end or to an error. -/
structure Lexed (known : Location → Prop) (cursor : Cursor)
    (found : List Lexeme × Option CompileError) : Prop where
  located : ∀ piece ∈ found.1, piece.Located known
  spread : ∃ high, Spread cursor 0 high (found.1.flatMap (·.marks))
  failure : ∀ error ∈ found.2, error.diagnostic.IsPlaced known

/-- The lexemes of a source stand one behind the other. The induction is on what is left to read. -/
theorem lexemes_lexed {known : Location → Prop} {cursor : Cursor} (within : cursor.Within known) :
    Lexed known cursor (lexemes cursor) := by
  fun_induction lexemes cursor
  case case1 => exact ⟨by simp, ⟨0, Nat.le_refl 0⟩, by simp⟩
  case case2 front error read =>
    refine ⟨by simp, ⟨0, Nat.le_refl 0⟩, ?_⟩
    rintro _ ⟨⟩
    exact (Lexeme.read_placed within front).of_error read
  case case3 front lexeme count read _ more failure same ih =>
    rw [same] at ih
    obtain ⟨located, ⟨high, spread⟩, failed⟩ := ih (within.advance count)
    have first := (Lexeme.read_placed within front).of_ok read
    refine ⟨List.forall_mem_cons.mpr ⟨first.located, located⟩, ⟨count + high, ?_⟩, failed⟩
    exact first.spread.append spread.of_advance

/-- What stands in the elements that are still open, the outermost first. -/
def openMarks : List Frame → List Mark
  | [] => []
  | frame :: outer => openMarks outer ++ marksAll frame.before.reverse ++ frame.start.marks

/-- Putting lexemes together loses nothing that stands in them and keeps their order. -/
theorem assemble_placed {known : Location → Prop} {failure : Option CompileError}
    {frames : List Frame} {done : List Node} {pieces : List Lexeme}
    (failed : ∀ error ∈ failure, error.diagnostic.IsPlaced known)
    (opened : ∀ frame ∈ frames, known frame.start.location)
    (located : ∀ piece ∈ pieces, piece.Located known) :
    Placed known
      (fun forest => marksAll forest = openMarks frames ++ marksAll done.reverse ++
        pieces.flatMap (·.marks))
      (assemble failure frames done pieces) := by
  induction pieces generalizing frames done with
  | nil =>
    unfold assemble
    split
    · exact .error (failed _ rfl)
    · exact .ok (by simp [openMarks])
    · exact .fault (opened _ List.mem_cons_self) _
  | cons piece pieces ih =>
    obtain ⟨here, later⟩ := List.forall_mem_cons.mp located
    cases piece with
    | comment value location | text parts location | leaf start =>
      refine (ih opened later).imp fun forest same => ?_
      rw [same, marksAll_concat]
      simp [Lexeme.marks, Node.marks, marksAll]
    | raw start content location =>
      refine (ih opened later).imp fun forest same => ?_
      rw [same, marksAll_concat]
      by_cases empty : content = "" <;> simp [empty, Lexeme.marks, Node.marks, marksAll]
    | declaration =>
      exact (ih opened later).imp fun forest same => by simpa [Lexeme.marks] using same
    | opening start =>
      have opened : ∀ frame ∈ ⟨start, done⟩ :: frames, known frame.start.location :=
        List.forall_mem_cons.mpr ⟨here, opened⟩
      refine (ih opened later).imp fun forest same => ?_
      rw [same]
      simp [openMarks, Lexeme.marks, marksAll]
    | closing name location =>
      unfold assemble
      split
      · split
        · refine (ih (List.forall_mem_cons.mp opened).2 later).imp fun forest same => ?_
          rw [same, marksAll_concat]
          simp [openMarks, Lexeme.marks, Node.marks]
        · split
          · exact (ih opened later).imp fun forest same => by simpa [Lexeme.marks] using same
          · exact .fault here _
      · split
        · exact (ih opened later).imp fun forest same => by simpa [Lexeme.marks] using same
        · exact .fault here _

/-- The cursor at the start of a source. -/
def Cursor.start (source : String) : Cursor :=
  ⟨source.toList, {}⟩

/-- Whether a place is so many characters further on than the start of a source. -/
def Reaches (source : String) (place : Location) : Prop :=
  ∃ index, place = ((Cursor.start source).advance index).place

/-- The marks of a forest are spread over its source in order. -/
theorem parse_placed (source : String) :
    Placed (Reaches source) (fun forest => ∃ high, Spread (.start source) 0 high (marksAll forest))
      (parse source) := by
  have within : (Cursor.start source).Within (Reaches source) := fun index => ⟨index, rfl⟩
  obtain ⟨located, ⟨high, spread⟩, failed⟩ := lexemes_lexed within
  refine (assemble_placed failed (by simp) located).imp fun forest same => ⟨high, ?_⟩
  rw [openMarks, List.reverse_nil, marksAll, List.append_nil, List.nil_append] at same
  rw [same]
  exact spread

/-- Whether something stands at its place in a source: a character starts at its offset, its line
and column are those of that offset, and the source goes on with its lead there. -/
structure Mark.IsExact (source : String) (mark : Mark) : Prop where
  boundary : Text.IsBoundary source.toList mark.location.offset
  place : Location.ofOffset source mark.location.offset = mark.location
  lead : mark.lead <+: Text.dropBytes mark.location.offset source.toList

/-- A place that is reached in a source is that of a byte offset where a character starts. -/
theorem Reaches.boundary {source : String} {place : Location} (reaches : Reaches source place) :
    Text.IsBoundary source.toList place.offset ∧ Location.ofOffset source place.offset = place := by
  obtain ⟨index, rfl⟩ := reaches
  have parts : source.toList = source.toList.take index ++ source.toList.drop index :=
    (List.take_append_drop ..).symm
  have offset : ((Cursor.start source).advance index).place.offset =
      Text.byteLength (source.toList.take index) := by
    simp [Cursor.start]
  rw [offset]
  exact ⟨⟨_, _, parts, rfl⟩, Location.ofOffset_append parts⟩

/-- A mark that stands somewhere in the source has the line, the column and the offset of its
place. -/
theorem Mark.StandsAt.isExact {source : String} {mark : Mark} {index : Nat}
    (stands : mark.StandsAt (.start source) index) : mark.IsExact source := by
  obtain ⟨boundary, place⟩ := Reaches.boundary ⟨index, stands.location⟩
  refine ⟨boundary, place, ?_⟩
  have offset : mark.location.offset = Text.byteLength (source.toList.take index) := by
    simp [stands.location, Cursor.start]
  have dropped := Text.dropBytes_append (source.toList.take index) (source.toList.drop index)
  rw [List.take_append_drop] at dropped
  rw [offset, dropped]
  exact stands.lead

/-- Further on there are more bytes before a place. -/
theorem Cursor.offset_advance_lt {cursor : Cursor} {index later : Nat} (order : index < later)
    (inside : index < cursor.rest.length) :
    (cursor.advance index).place.offset < (cursor.advance later).place.offset := by
  obtain ⟨more, rfl⟩ : ∃ more, later = index + (more + 1) := ⟨later - index - 1, by omega⟩
  rw [← Cursor.advance_advance]
  have rest : (cursor.advance index).rest = cursor.rest[index] :: cursor.rest.drop (index + 1) :=
    List.drop_eq_getElem_cons inside
  have positive := (cursor.rest[index]).utf8Size_pos
  rw [Cursor.place_advance _ (more + 1), Location.offset_advance, rest, List.take_succ_cons,
    Text.byteLength_cons]
  omega

theorem Spread.stands {base : Cursor} {low high : Nat} {marks : List Mark}
    (spread : Spread base low high marks) :
    ∀ mark ∈ marks, ∃ index, low ≤ index ∧ mark.StandsAt base index := by
  induction marks generalizing low with
  | nil => simp
  | cons mark rest ih =>
    obtain ⟨index, above, stands, later⟩ := spread
    refine List.forall_mem_cons.mpr ⟨⟨index, above, stands⟩, fun other member => ?_⟩
    obtain ⟨further, beyond, standsToo⟩ := ih later other member
    exact ⟨further, by omega, standsToo⟩

theorem Spread.ordered {base : Cursor} {low high : Nat} {marks : List Mark}
    (spread : Spread base low high marks) :
    marks.Pairwise fun mark other => mark.location.offset < other.location.offset := by
  induction marks generalizing low with
  | nil => exact .nil
  | cons mark rest ih =>
    obtain ⟨index, _, stands, later⟩ := spread
    refine List.pairwise_cons.mpr ⟨fun other member => ?_, ih later⟩
    obtain ⟨further, beyond, standsToo⟩ := later.stands other member
    rw [stands.location, standsToo.location]
    exact Cursor.offset_advance_lt beyond stands.inside

theorem parse_of_parseFile_ok {file : Option String} {source : String} {forest : List Node}
    (parsed : parseFile file source = .ok forest) : parse source = .ok forest := by
  unfold parseFile at parsed
  cases result : parse source with
  | ok nodes =>
    rw [result] at parsed
    cases parsed
    rfl
  | error error =>
    rw [result] at parsed
    cases parsed

theorem parse_of_parseFile_error {file : Option String} {source : String} {error : CompileError}
    (failed : parseFile file source = .error error) :
    ∃ inner, parse source = .error inner ∧ error = inner.inFile file := by
  unfold parseFile at failed
  cases result : parse source with
  | ok nodes =>
    rw [result] at failed
    cases failed
  | error inner =>
    rw [result] at failed
    cases failed
    exact ⟨inner, rfl, rfl⟩

/-- The places that reading a file gives are exact. All that stands in the forest stands at a
character of the source, in the line and column of its offset, where the source goes on with a tag,
the name of an attribute or the start of a comment, and in the order of the document one offset is
before the next. An error has the line and column of a character of the source, or of its end. -/
theorem parseFile_positions (file : Option String) (source : String) :
    (∀ forest, parseFile file source = .ok forest →
      (∀ mark ∈ marksAll forest, mark.IsExact source) ∧
        (marksAll forest).Pairwise fun mark other => mark.location.offset < other.location.offset) ∧
    (∀ error, parseFile file source = .error error →
      ∃ offset, Text.IsBoundary source.toList offset ∧ offset ≤ Text.byteLength source.toList ∧
        error.diagnostic.IsAt (Location.ofOffset source offset)) := by
  constructor
  · intro forest parsed
    obtain ⟨high, spread⟩ := (parse_placed source).of_ok (parse_of_parseFile_ok parsed)
    refine ⟨fun mark member => ?_, spread.ordered⟩
    obtain ⟨index, _, stands⟩ := spread.stands mark member
    exact stands.isExact
  · intro error failed
    obtain ⟨inner, unparsed, rfl⟩ := parse_of_parseFile_error failed
    obtain ⟨place, reaches, isAt⟩ := (parse_placed source).of_error unparsed
    obtain ⟨boundary, same⟩ := reaches.boundary
    refine ⟨place.offset, boundary, boundary.le, ?_⟩
    rw [same]
    exact isAt

/-- A source with characters of two bytes, a second line and something of each kind. -/
def markedPage : String :=
  "<p\n é='1' b>ü\x7bx\x7d<!-- ! --><br></p>"

theorem markedPage_positions :
    (∃ forest, parseFile none markedPage = .ok forest ∧
      marksAll forest =
        [⟨['<', 'p'], ⟨1, 1, 0⟩⟩, ⟨['é'], ⟨2, 2, 4⟩⟩, ⟨['b'], ⟨2, 8, 11⟩⟩, ⟨[], ⟨2, 10, 13⟩⟩,
          ⟨['<', '!', '-', '-'], ⟨2, 14, 18⟩⟩, ⟨['<', 'b', 'r'], ⟨2, 24, 28⟩⟩] ∧
      (⟨['b'], ⟨2, 8, 11⟩⟩ : Mark).IsExact markedPage ∧
      (marksAll forest).Pairwise fun mark other => mark.location.offset < other.location.offset) ∧
    ∃ error, parseFile none "<a>\n</b>" = .error error ∧
      ∃ offset, Text.IsBoundary "<a>\n</b>".toList offset ∧
      offset ≤ 8 ∧ error.diagnostic.IsAt (Location.ofOffset "<a>\n</b>" offset) := by
  have seen : (parseFile none markedPage).toOption.map marksAll = some
      [⟨['<', 'p'], ⟨1, 1, 0⟩⟩, ⟨['é'], ⟨2, 2, 4⟩⟩, ⟨['b'], ⟨2, 8, 11⟩⟩, ⟨[], ⟨2, 10, 13⟩⟩,
        ⟨['<', '!', '-', '-'], ⟨2, 14, 18⟩⟩, ⟨['<', 'b', 'r'], ⟨2, 24, 28⟩⟩] := by
    decide +kernel
  have unseen : (parseFile none "<a>\n</b>").toOption.map marksAll = none := by
    decide +kernel
  obtain ⟨succeeds, _⟩ := parseFile_positions none markedPage
  obtain ⟨_, fails⟩ := parseFile_positions none "<a>\n</b>"
  constructor
  · cases run : parseFile none markedPage with
    | error error =>
      rw [run] at seen
      cases seen
    | ok forest =>
      rw [run] at seen
      have marks := Option.some.inj seen
      obtain ⟨isExact, ordered⟩ := succeeds forest run
      refine ⟨forest, rfl, marks, isExact _ ?_, ordered⟩
      rw [marks]
      decide
  · cases run : parseFile none "<a>\n</b>" with
    | error error => exact ⟨error, rfl, fails error run⟩
    | ok forest =>
      rw [run] at unseen
      cases unseen

end Markup

end RenderTemplate
