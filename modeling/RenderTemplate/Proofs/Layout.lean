import RenderTemplate.Proofs.Groups
import RenderTemplate.Proofs.Positions
import RenderTemplate.Proofs.Reading

namespace RenderTemplate

namespace Markup

/-- What is read as a whole, with the byte offset where it starts. -/
inductive Enclosure where
  | expression (offset : Nat)
  | comment (offset : Nat)
deriving DecidableEq, Repr

def Enclosure.offset : Enclosure → Nat
  | expression offset => offset
  | comment offset => offset

@[simp] theorem Enclosure.offset_expression (offset : Nat) :
    (expression offset).offset = offset := rfl

@[simp] theorem Enclosure.offset_comment (offset : Nat) : (comment offset).offset = offset := rfl

/-- A comment as source. -/
def commentText (value : List Char) : List Char :=
  '<' :: '!' :: '-' :: '-' :: (value ++ ['-', '-', '>'])

/-- Whether a piece of source is such a thing. -/
def Enclosure.IsPiece : Enclosure → List Char → Prop
  | expression _, piece => ∃ code, (Part.expression code).IsCanonical ∧ piece = Part.braced code
  | comment _, piece => ∃ value, piece = commentText value

/-- A text from a byte offset on, with the expressions and comments in it. All other characters are
read one by one. A source that can be read is laid out with just the expressions and comments of its
forest, one behind the other. -/
inductive Layout : Nat → List Char → List Enclosure → Prop where
  | nil (offset : Nat) : Layout offset [] []
  | plain {offset : Nat} {c : Char} {rest : List Char} {enclosures : List Enclosure}
      (later : Layout (offset + c.utf8Size) rest enclosures) : Layout offset (c :: rest) enclosures
  | expression {offset : Nat} {code : String} {rest : List Char} {enclosures : List Enclosure}
      (canonical : (Part.expression code).IsCanonical)
      (later : Layout (offset + Text.byteLength (Part.braced code)) rest enclosures) :
      Layout offset (Part.braced code ++ rest) (.expression offset :: enclosures)
  | comment {offset : Nat} {value rest : List Char} {enclosures : List Enclosure}
      (later : Layout (offset + Text.byteLength (commentText value)) rest enclosures) :
      Layout offset (commentText value ++ rest) (.comment offset :: enclosures)

namespace Layout

variable {offset : Nat} {chars : List Char} {enclosures : List Enclosure}

theorem append {more : List Char} {others : List Enclosure} (first : Layout offset chars enclosures)
    (second : Layout (offset + Text.byteLength chars) more others) :
    Layout offset (chars ++ more) (enclosures ++ others) := by
  induction first with
  | nil => simpa using second
  | plain later ih => exact .plain (ih (by simpa [Nat.add_assoc] using second))
  | expression canonical later ih =>
    rw [List.append_assoc]
    exact .expression canonical (ih (by simpa [Nat.add_assoc] using second))
  | comment later ih =>
    rw [List.append_assoc]
    exact .comment (ih (by simpa [Nat.add_assoc] using second))

theorem plains (offset : Nat) (chars : List Char) : Layout offset chars [] := by
  induction chars generalizing offset with
  | nil => exact .nil offset
  | cons c rest ih => exact .plain (ih _)

theorem le_offset (layout : Layout offset chars enclosures) :
    ∀ found ∈ enclosures, offset ≤ found.offset := by
  induction layout with
  | nil => simp
  | plain later ih => exact fun found held => Nat.le_of_add_right_le (ih found held)
  | expression canonical later ih | comment later ih =>
    refine List.forall_mem_cons.mpr ⟨Nat.le_refl _, fun found held =>
      Nat.le_of_add_right_le (ih found held)⟩

/-- Whether a piece of a text starts at an offset, and all that is read as a whole is before it or
behind it. -/
structure Holds (offset : Nat) (chars : List Char) (enclosures : List Enclosure) (start : Nat)
    (piece : List Char) :
    Prop where
  stands : ∃ front rest, chars = front ++ (piece ++ rest) ∧ start = offset + Text.byteLength front
  apart : ∀ other ∈ enclosures, other.offset ≤ start ∨ start + Text.byteLength piece ≤ other.offset

/-- A piece that a text holds is held there also with other text in front. -/
theorem Holds.behind (front : List Char) (earlier : List Enclosure) {start : Nat}
    {piece : List Char}
    (holds : Holds (offset + Text.byteLength front) chars enclosures start piece)
    (before : ∀ other ∈ earlier, other.offset ≤ offset) :
    Holds offset (front ++ chars) (earlier ++ enclosures) start piece := by
  obtain ⟨⟨between, rest, rfl, rfl⟩, apart⟩ := holds
  refine ⟨⟨front ++ between, rest, by simp, by simp [Nat.add_assoc]⟩,
    List.forall_mem_append.mpr ⟨?_, apart⟩⟩
  intro other held
  have bound := before other held
  omega

/-- An enclosure at the start of a text holds its piece, for all others are behind it. -/
theorem holds_first {piece rest : List Char} {first : Enclosure} (same : first.offset = offset)
    (later : Layout (offset + Text.byteLength piece) rest enclosures) :
    Holds offset (piece ++ rest) (first :: enclosures) offset piece := by
  refine ⟨⟨[], rest, rfl, rfl⟩,
    List.forall_mem_cons.mpr ⟨.inl (Nat.le_of_eq same), fun other held => ?_⟩⟩
  exact .inr (later.le_offset other held)

/-- Each enclosure of a layout has its piece of the text at its offset. -/
theorem holds_of_mem (layout : Layout offset chars enclosures) {found : Enclosure}
    (held : found ∈ enclosures) :
    ∃ piece, found.IsPiece piece ∧ Holds offset chars enclosures found.offset piece := by
  induction layout with
  | nil => cases held
  | @plain offset c rest enclosures later ih =>
    obtain ⟨piece, isPiece, holds⟩ := ih held
    exact ⟨piece, isPiece, Holds.behind [c] [] (by simpa using holds) (by simp)⟩
  | @expression offset code rest enclosures canonical later ih =>
    rcases List.mem_cons.mp held with rfl | held
    · exact ⟨Part.braced code, ⟨code, canonical, rfl⟩, holds_first rfl later⟩
    · obtain ⟨piece, isPiece, holds⟩ := ih held
      exact ⟨piece, isPiece, holds.behind _ [.expression offset] (by simp)⟩
  | @comment offset value rest enclosures later ih =>
    rcases List.mem_cons.mp held with rfl | held
    · exact ⟨commentText value, ⟨value, rfl⟩, holds_first rfl later⟩
    · obtain ⟨piece, isPiece, holds⟩ := ih held
      exact ⟨piece, isPiece, holds.behind _ [.comment offset] (by simp)⟩

end Layout

/-- The expressions among the parts of a text that starts at an offset. -/
def partEnclosures (offset : Nat) : List Part → List Enclosure
  | [] => []
  | .literal text :: rest => partEnclosures (offset + Text.byteLength text.toList) rest
  | .expression code :: rest =>
    .expression offset :: partEnclosures (offset + Text.byteLength (Part.braced code)) rest

theorem partEnclosures_consChar (offset : Nat) (c : Char) (parts : List Part) :
    partEnclosures offset (Part.consChar c parts) = partEnclosures (offset + c.utf8Size) parts := by
  cases parts with
  | nil => simp [Part.consChar, partEnclosures]
  | cons part parts => cases part <;> simp [Part.consChar, partEnclosures, Nat.add_assoc]

/-- The expressions of a text that starts at an offset, if it can be split. -/
def valueEnclosures (offset : Nat) (text : List Char) : List Enclosure :=
  match Part.split text with
  | .ok parts => partEnclosures offset parts
  | .error _ => []

theorem Layout.parts {offset : Nat} {text : List Char} {parts : List Part}
    (read : Part.split text = .ok parts) :
    Layout offset text (partEnclosures offset parts) := by
  fun_induction Part.split text generalizing offset parts
  case case1 =>
    cases read
    exact .nil offset
  case case2 => contradiction
  case case3 rest count inner readRest closed ih =>
    cases read
    obtain ⟨code, after, rfl, rfl, canonical⟩ := Part.exists_braced_of_length? closed
    rw [Part.drop_braced] at readRest ih
    have taken : (code.toList ++ '}' :: after).take (code.toList.length + 2 - 2) = code.toList := by
      simp
    rw [← Part.braced_append, taken, String.ofList_toList]
    exact .expression canonical (ih readRest)
  case case4 => contradiction
  case case5 c rest plain inner readRest ih =>
    cases read
    rw [partEnclosures_consChar]
    exact .plain (ih readRest)
  case case6 => contradiction

theorem Layout.value (offset : Nat) (text : List Char) :
    Layout offset text (valueEnclosures offset text) := by
  unfold valueEnclosures
  split
  · next read => exact .parts read
  · exact .plains offset text

namespace Cursor

/-- Whether a cursor is somewhere in a source. -/
def IsIn (source : List Char) (cursor : Cursor) : Prop :=
  ∃ front, source = front ++ cursor.rest ∧ cursor.place.offset = Text.byteLength front

section

variable {source : List Char} {cursor : Cursor} (inside : cursor.IsIn source)

include inside

theorem IsIn.advance (count : Nat) : (cursor.advance count).IsIn source := by
  obtain ⟨front, parts, offset⟩ := inside
  refine ⟨front ++ cursor.rest.take count, ?_, ?_⟩
  · rw [rest_advance, List.append_assoc, List.take_append_drop, parts]
  · rw [place_advance, Location.offset_advance, offset, Text.byteLength_append]

theorem IsIn.dropBytes_eq : Text.dropBytes cursor.place.offset source = cursor.rest := by
  obtain ⟨front, rfl, offset⟩ := inside
  rw [offset, Text.dropBytes_append]

theorem IsIn.offset_eq :
    cursor.place.offset = Text.byteLength source - Text.byteLength cursor.rest := by
  obtain ⟨front, rfl, offset⟩ := inside
  rw [offset, Text.byteLength_append]
  omega

end

/-- Whether so many characters at a cursor have these expressions and comments. -/
def Lays (cursor : Cursor) (count : Nat) (enclosures : List Enclosure) : Prop :=
  Layout cursor.place.offset (cursor.rest.take count) enclosures

theorem lays_plain (cursor : Cursor) (count : Nat) : cursor.Lays count [] :=
  .plains _ _

theorem Lays.append {cursor : Cursor} {count more : Nat} {enclosures others : List Enclosure}
    (first : cursor.Lays count enclosures) (second : (cursor.advance count).Lays more others) :
    cursor.Lays (count + more) (enclosures ++ others) := by
  unfold Lays at first second ⊢
  rw [place_advance, Location.offset_advance] at second
  rw [List.take_add]
  exact Layout.append first second

theorem Lays.behind {cursor : Cursor} (count : Nat) {more : Nat} {enclosures : List Enclosure}
    (second : (cursor.advance count).Lays more enclosures) :
    cursor.Lays (count + more) enclosures :=
  (cursor.lays_plain count).append second

theorem Lays.followed {cursor : Cursor} {count : Nat} {enclosures : List Enclosure}
    (first : cursor.Lays count enclosures) (more : Nat) :
    cursor.Lays (count + more) enclosures := by
  simpa using first.append ((cursor.advance count).lays_plain more)

end Cursor

/-- How many characters stand before the text of a value: its quote, if it has one. -/
def quoteLength : List Char → Nat
  | c :: _ => if c = '"' ∨ c = '\'' then 1 else 0
  | [] => 0

/-- A value without quotes is a front of what is read for it. -/
theorem trimmed_append (value : List Char) :
    ∃ slashes, value = (value.reverse.dropWhile (· == '/')).reverse ++ slashes ∧
      (value.getLast? = some '/' → slashes ≠ []) := by
  refine ⟨(value.reverse.takeWhile (· == '/')).reverse, ?_, fun last empty => ?_⟩
  · rw [← List.reverse_append, List.takeWhile_append_dropWhile, List.reverse_reverse]
  · rw [← List.head?_reverse] at last
    obtain ⟨more, front⟩ := List.head?_eq_some_iff.mp last
    simp [front] at empty

theorem Cursor.lays_text (cursor : Cursor) (count : Nat) :
    cursor.Lays count (valueEnclosures cursor.place.offset (cursor.slice count).toList) := by
  have layout := Layout.value cursor.place.offset (cursor.rest.take count)
  simpa [Lays, slice] using layout

theorem readValue_lays {name value : String} {cursor : Cursor} {count : Nat}
    (read : readValue name cursor = .ok (value, count)) :
    cursor.Lays count
      (valueEnclosures (cursor.advance (quoteLength cursor.rest)).place.offset value.toList) := by
  unfold readValue at read
  split at read
  · next empty =>
    cases read
    simpa [Cursor.Lays, empty, quoteLength] using Layout.value cursor.place.offset []
  · next c rest front =>
    split at read
    · next quoted =>
      split at read
      · next size found =>
        cases read
        have one : quoteLength cursor.rest = 1 := by rw [front, quoteLength, if_pos quoted]
        have whole := (((cursor.advance 1).lays_text size).followed 1).behind 1
        rwa [one, show size + 2 = 1 + (size + 1) by omega]
      · cases read
      · cases read
    · next bare =>
      have none : quoteLength cursor.rest = 0 := by rw [front, quoteLength, if_neg bare]
      rw [none, Cursor.advance_zero]
      split at read
      · split at read
        · cases read
          exact cursor.lays_text count
        · cases read
      · obtain ⟨rfl, rfl⟩ := Prod.mk.inj (Except.ok.inj read)
        obtain ⟨slashes, parts, filled⟩ := trimmed_append ((c :: rest).takeWhile isValueChar)
        have whole : cursor.rest = (c :: rest).takeWhile isValueChar ++
            (c :: rest).dropWhile isValueChar := by
          rw [List.takeWhile_append_dropWhile, front]
        generalize (c :: rest).takeWhile isValueChar = value at *
        generalize (value.reverse.dropWhile (· == '/')).reverse = trimmed at *
        have text : cursor.slice trimmed.length = String.ofList trimmed := by
          rw [Cursor.slice, whole, parts, List.append_assoc, List.take_left]
        have long : value.length = trimmed.length + slashes.length := by
          rw [parts, List.length_append]
        rw [← text]
        -- A slash that closes the tag is one of those that are not in the value.
        split
        · next closes =>
          simp only [Bool.and_eq_true, beq_iff_eq] at closes
          have positive := List.length_pos_iff.mpr (filled closes.1)
          rw [show value.length - 1 = trimmed.length + (slashes.length - 1) by omega]
          exact (cursor.lays_text trimmed.length).followed _
        · rw [long]
          exact (cursor.lays_text trimmed.length).followed _

/-- The text from the value of an attribute on, with its quote. -/
def valueOnward (rest : List Char) : List Char :=
  (((rest.dropWhile isAttributeChar).dropWhile Text.isBlankChar).drop 1).dropWhile Text.isBlankChar

/-- The text from the value of an attribute on, without its quote. -/
def valueText (rest : List Char) : List Char :=
  (valueOnward rest).drop (quoteLength (valueOnward rest))

/-- The expressions in the value of an attribute of a source. -/
def Attribute.enclosures (source : List Char) (attr : Attribute) : List Enclosure :=
  match attr.value with
  | none => []
  | some value =>
    valueEnclosures
      (Text.byteLength source -
      Text.byteLength (valueText (Text.dropBytes attr.location.offset source)))
      value.toList

/-- Whether an attribute is what is read at its place. -/
def Attribute.IsRead (source : List Char) (attr : Attribute) : Prop :=
  ∃ tag count, readAttribute tag ⟨Text.dropBytes attr.location.offset source, attr.location⟩ =
    .ok (attr, count)

theorem Cursor.rest_valueOnward (cursor : Cursor) :
    let afterName := cursor.advance (cursor.run isAttributeChar)
    let afterSign := afterName.advance (afterName.run Text.isBlankChar + 1)
    (afterSign.advance (afterSign.run Text.isBlankChar)).rest = valueOnward cursor.rest := by
  intro afterName afterSign
  have signed : afterSign.rest =
      (afterName.advance (afterName.run Text.isBlankChar)).rest.drop 1 := by
    simp [afterSign, List.drop_drop]
  rw [rest_advance_run, signed, rest_advance_run, rest_advance_run]
  rfl

/-- What is read of an attribute: its name alone, or also a value behind an equals sign. -/
theorem readAttribute_cases {tag : String} {cursor : Cursor} {attr : Attribute} {count : Nat}
    (read : readAttribute tag cursor = .ok (attr, count)) :
    attr.location = cursor.place ∧
      ((attr.value = none ∧ count = cursor.run isAttributeChar) ∨
        ∃ value lead size, attr.value = some value ∧ count = lead + size ∧
          readValue attr.name (cursor.advance lead) = .ok (value, size) ∧
          (cursor.advance lead).rest = valueOnward cursor.rest) := by
  unfold readAttribute at read
  dsimp only at read
  split at read
  · cases read
  · split at read
    · split at read
      · next size found =>
        cases read
        have onward := cursor.rest_valueOnward
        dsimp only at onward
        generalize Cursor.run (Cursor.advance _ (_ + 1)) Text.isBlankChar = space at found onward ⊢
        generalize Cursor.run _ Text.isBlankChar = gap at found onward ⊢
        generalize cursor.run isAttributeChar = length at found onward ⊢
        rw [Cursor.advance_advance, Cursor.advance_advance] at found onward
        exact ⟨rfl, .inr ⟨_, _, size, rfl, by omega, found, onward⟩⟩
      · cases read
    · cases read
      exact ⟨rfl, .inl ⟨rfl, rfl⟩⟩

/-- An attribute encloses what its value does. The value is found again in the source, from the
place of the attribute. -/
theorem readAttribute_lays {source : List Char} {tag : String} {cursor : Cursor} {attr : Attribute}
    {count : Nat} (inside : cursor.IsIn source)
    (read : readAttribute tag cursor = .ok (attr, count)) :
    cursor.Lays count (attr.enclosures source) ∧ attr.IsRead source := by
  have rest := inside.dropBytes_eq
  obtain ⟨place, without | ⟨value, lead, size, valued, rfl, found, onward⟩⟩ :=
    readAttribute_cases read
  · refine ⟨?_, tag, count, by rw [place, rest]; exact read⟩
    rw [Attribute.enclosures, without.1]
    exact cursor.lays_plain count
  · refine ⟨?_, tag, lead + size, by rw [place, rest]; exact read⟩
    have text := (inside.advance lead).advance (quoteLength (cursor.advance lead).rest)
    have start := text.offset_eq
    have laid := (readValue_lays found).behind lead
    rw [start, Cursor.rest_advance _ (quoteLength _), onward] at laid
    rw [Attribute.enclosures, valued, place, rest]
    exact laid

/-- The attributes of a tag are laid out in their order. The induction is on the recursion of the
reader. -/
theorem readAttributes_lays {source : List Char} {tag : String} {location : Location}
    {cursor : Cursor} {found attributes : List Attribute} {selfClosing : Bool} {count : Nat}
    (inside : cursor.IsIn source)
    (read : readAttributes tag location cursor found = .ok (attributes, selfClosing, count)) :
    ∃ more, attributes = found.reverse ++ more ∧
      cursor.Lays count (more.flatMap (·.enclosures source)) ∧
      ∀ attr ∈ more, attr.IsRead source := by
  fun_induction readAttributes tag location cursor found generalizing attributes selfClosing count
  case case1 | case4 | case5 | case7 => contradiction
  case case2 | case3 =>
    cases read
    exact ⟨[], by simp, Cursor.lays_plain _ _, by simp⟩
  case case6 first _ _ rest closes more later ih =>
    cases read
    obtain ⟨following, rfl, laid, each⟩ := ih ((inside.advance _).advance _) later
    obtain ⟨here, isRead⟩ := readAttribute_lays (inside.advance _) first
    refine ⟨_ :: following, by simp, ?_, List.forall_mem_cons.mpr ⟨isRead, each⟩⟩
    rw [List.flatMap_cons, Nat.add_assoc]
    exact (here.append laid).behind _

/-- What is to be gathered, by the tag or the place where it is found, and from which elements the
children count. -/
structure Gathering (α : Type) where
  tag : StartTag → List α
  enters : StartTag → Bool
  text : Location → List α
  comment : Location → List α

section

variable {α : Type} (wanted : Gathering α)

mutual

def Node.gather : Node → List α
  | .element start children =>
    wanted.tag start ++ if wanted.enters start then gatherAll children else []
  | .text _ location => wanted.text location
  | .comment _ location => wanted.comment location

def gatherAll : List Node → List α
  | [] => []
  | node :: rest => node.gather ++ gatherAll rest

end

def Lexeme.gather : Lexeme → List α
  | .comment _ location => wanted.comment location
  | .text _ location => wanted.text location
  | .opening start => wanted.tag start
  | .leaf start => wanted.tag start
  | .raw start _ _ => wanted.tag start
  | .declaration => []
  | .closing .. => []

/-- Whether the children of an element count if they are lexemes of their own, and only then. -/
def Lexeme.IsFit : Lexeme → Prop
  | .opening start => wanted.enters start
  | .raw start _ location => wanted.enters start = false ∨ wanted.text location = []
  | _ => True

/-- What is gathered from the elements that are still open, the outermost first. -/
def gatherOpen : List Frame → List α
  | [] => []
  | frame :: outer =>
    gatherOpen outer ++ gatherAll wanted frame.before.reverse ++ wanted.tag frame.start

variable {wanted}

theorem gatherAll_append (nodes more : List Node) :
    gatherAll wanted (nodes ++ more) = gatherAll wanted nodes ++ gatherAll wanted more := by
  induction nodes with
  | nil => rfl
  | cons node nodes ih => rw [List.cons_append, gatherAll, gatherAll, ih, List.append_assoc]

theorem gatherAll_concat (nodes : List Node) (node : Node) :
    gatherAll wanted (node :: nodes).reverse =
      gatherAll wanted nodes.reverse ++ node.gather wanted := by
  rw [List.reverse_cons, gatherAll_append, gatherAll, gatherAll, List.append_nil]

/-- What is gathered from a forest was gathered from its lexemes, in their order, since an element
is put where its tag stands. -/
theorem gatherAll_assemble {failure : Option CompileError} {frames : List Frame}
    {done forest : List Node} {pieces : List Lexeme}
    (assembled : assemble failure frames done pieces = .ok forest)
    (entered : ∀ frame ∈ frames, wanted.enters frame.start)
    (fit : ∀ piece ∈ pieces, piece.IsFit wanted) :
    failure = none ∧ gatherAll wanted forest =
      gatherOpen wanted frames ++ gatherAll wanted done.reverse ++
        pieces.flatMap (·.gather wanted) := by
  induction pieces generalizing frames done with
  | nil =>
    unfold assemble at assembled
    split at assembled
    · cases assembled
    · cases assembled
      exact ⟨rfl, by simp [gatherOpen]⟩
    · cases assembled
  | cons piece pieces ih =>
    obtain ⟨here, later⟩ := List.forall_mem_cons.mp fit
    cases piece with
    | comment value location | text parts location | leaf start =>
      obtain ⟨complete, same⟩ := ih assembled entered later
      refine ⟨complete, ?_⟩
      rw [same, gatherAll_concat]
      simp [Lexeme.gather, Node.gather, gatherAll]
    | raw start content location =>
      obtain ⟨complete, same⟩ := ih assembled entered later
      refine ⟨complete, ?_⟩
      rw [same, gatherAll_concat]
      rcases here with outside | empty
      · simp [Lexeme.gather, Node.gather, outside]
      · by_cases blank : content = "" <;> simp [Lexeme.gather, Node.gather, gatherAll, blank, empty]
    | declaration =>
      obtain ⟨complete, same⟩ := ih assembled entered later
      exact ⟨complete, by simpa [Lexeme.gather] using same⟩
    | opening start =>
      have both : ∀ frame ∈ ⟨start, done⟩ :: frames, wanted.enters frame.start :=
        List.forall_mem_cons.mpr ⟨here, entered⟩
      obtain ⟨complete, same⟩ := ih assembled both later
      exact ⟨complete, by simpa [gatherOpen, Lexeme.gather, gatherAll] using same⟩
    | closing name location =>
      unfold assemble at assembled
      split at assembled
      · next frame outer =>
        obtain ⟨first, others⟩ := List.forall_mem_cons.mp entered
        split at assembled
        · obtain ⟨complete, same⟩ := ih assembled others later
          refine ⟨complete, ?_⟩
          rw [same, gatherAll_concat]
          simp [gatherOpen, Lexeme.gather, Node.gather, first]
        · split at assembled
          · obtain ⟨complete, same⟩ := ih assembled entered later
            exact ⟨complete, by simpa [Lexeme.gather] using same⟩
          · cases assembled
      · split at assembled
        · obtain ⟨complete, same⟩ := ih assembled entered later
          exact ⟨complete, by simpa [Lexeme.gather] using same⟩
        · cases assembled

end

/-- The attributes of a forest. -/
def attributed : Gathering Attribute where
  tag start := start.attributes
  enters _ := true
  text _ := []
  comment _ := []

/-- The expressions of a text at a place of a source. -/
def textEnclosures (source : List Char) (location : Location) : List Enclosure :=
  let rest := Text.dropBytes location.offset source
  match textLength true rest with
  | .ok count => valueEnclosures location.offset (rest.take count)
  | .error _ => []

/-- The expressions and comments of a forest that was read from a source. The text of an element
with plain text only has none. -/
def enclosed (source : List Char) : Gathering Enclosure where
  tag start := start.attributes.flatMap (·.enclosures source)
  enters start := !isRawTag start.name
  text location := textEnclosures source location
  comment location := [.comment location.offset]

/-- A lexeme of so many characters at a cursor, with what its forest will have of it. -/
structure Reads (source : List Char) (cursor : Cursor) (found : Lexeme × Nat) : Prop where
  lays : cursor.Lays found.2 (found.1.gather (enclosed source))
  attributes : ∀ attr ∈ found.1.gather attributed, attr.IsRead source
  fit : found.1.IsFit (enclosed source)

section

variable {source : List Char} {cursor : Cursor} (inside : cursor.IsIn source)

include inside

theorem readOpening_reads {found : Lexeme × Nat} (read : readOpening cursor = .ok found) :
    Reads source cursor found := by
  unfold readOpening at read
  dsimp only at read
  split at read
  · cases read
  · next attributes selfClosing count readAll =>
    obtain ⟨more, rfl, laid, each⟩ := readAttributes_lays (inside.advance _) readAll
    have whole := laid.behind
    split at read
    · cases read
      exact ⟨whole, each, trivial⟩
    · split at read
      · next raw =>
        split at read
        · cases read
          exact ⟨whole.followed _, each, .inl (by simpa [enclosed] using raw)⟩
        · cases read
      · next parsed =>
        cases read
        exact ⟨whole, each, by simpa [Lexeme.IsFit, enclosed] using parsed⟩

theorem readText_reads {found : Lexeme × Nat} (read : readText cursor = .ok found) :
    Reads source cursor found := by
  unfold readText at read
  split at read
  · cases read
  · next count length =>
    split at read
    · cases read
    · cases read
      refine ⟨?_, by simp [Lexeme.gather, attributed], trivial⟩
      have laid :
          cursor.Lays count (valueEnclosures cursor.place.offset (cursor.rest.take count)) :=
          Layout.value _ _
      simpa only [Lexeme.gather, enclosed, textEnclosures, inside.dropBytes_eq, length] using laid

theorem Lexeme.read_reads {found : Lexeme × Nat} (read : Lexeme.read cursor = .ok found) :
    Reads source cursor found := by
  unfold Lexeme.read at read
  split at read
  · next rest front =>
    split at read
    · next value after parts =>
      cases read
      refine ⟨?_, by simp [Lexeme.gather, attributed], trivial⟩
      have text : cursor.rest.take (value.length + 7) = commentText value := by
        rw [front, Text.eq_append_of_splitAt? parts]
        simp [commentText, List.take_append]
      have laid :
          Layout cursor.place.offset (commentText value ++ []) [.comment cursor.place.offset] :=
          .comment (.nil _)
      rw [List.append_nil, ← text] at laid
      exact laid
    · cases read
  · split at read
    · cases read
      exact ⟨cursor.lays_plain _, by simp [Lexeme.gather], trivial⟩
    · cases read
  · split at read
    · split at read
      · split at read
        · cases read
          exact ⟨cursor.lays_plain _, by simp [Lexeme.gather], trivial⟩
        · cases read
      · exact readOpening_reads inside read
    · exact readText_reads inside read

theorem lexemes_lays {pieces : List Lexeme} (read : lexemes cursor = (pieces, none)) :
    Layout cursor.place.offset cursor.rest (pieces.flatMap (·.gather (enclosed source))) ∧
      ∀ piece ∈ pieces, piece.IsFit (enclosed source) ∧
        ∀ attr ∈ piece.gather attributed, attr.IsRead source := by
  fun_induction lexemes cursor generalizing pieces
  case case1 empty =>
    cases read
    rw [empty]
    exact ⟨.nil _, by simp⟩
  case case2 => cases read
  case case3 count first _ more failure same ih =>
    cases read
    obtain ⟨laid, each⟩ := ih (inside.advance count) same
    obtain ⟨here, attributes, fit⟩ := Lexeme.read_reads inside first
    refine ⟨?_, List.forall_mem_cons.mpr ⟨⟨fit, attributes⟩, each⟩⟩
    rw [Cursor.place_advance, Location.offset_advance, Cursor.rest_advance] at laid
    have whole := Layout.append here laid
    rwa [List.take_append_drop] at whole

end

/-- The enclosures of a forest lay out the source it was read from. -/
theorem parse_lays {source : String} {forest : List Node} (parsed : parse source = .ok forest) :
    Layout 0 source.toList (gatherAll (enclosed source.toList) forest) ∧
      ∀ attr ∈ gatherAll attributed forest, attr.IsRead source.toList := by
  have inside : (Cursor.start source).IsIn source.toList := ⟨[], rfl, rfl⟩
  unfold parse resume at parsed
  generalize read : lexemes ⟨source.toList, {}⟩ = found at parsed
  obtain ⟨pieces, failure⟩ := found
  have plain : ∀ piece ∈ pieces, piece.IsFit attributed := by
    intro piece _
    cases piece with
    | opening => rfl
    | raw => exact .inr rfl
    | _ => trivial
  obtain ⟨rfl, attributes⟩ := gatherAll_assemble parsed (by simp) plain
  obtain ⟨laid, each⟩ := lexemes_lays inside read
  obtain ⟨_, enclosures⟩ := gatherAll_assemble parsed (by simp) fun piece held =>
    (each piece held).1
  constructor
  · rw [enclosures]
    exact laid
  · rw [attributes]
    intro attr held
    obtain ⟨piece, among, held⟩ := List.mem_flatMap.mp held
    exact (each piece among).2 attr held

end Markup

end RenderTemplate
