import RenderTemplate.Extraction
import RenderTemplate.Proofs.Layout

namespace RenderTemplate

namespace Markup

theorem Cursor.toList_slice_run (cursor : Cursor) (test : Char → Bool) :
    (cursor.slice (cursor.run test)).toList = cursor.rest.takeWhile test := by
  have parts : cursor.rest.takeWhile test ++ cursor.rest.dropWhile test = cursor.rest :=
    List.takeWhile_append_dropWhile
  rw [slice, String.toList_ofList, run]
  nth_rewrite 2 [← parts]
  exact List.take_left

/-- An opening tag at a cursor, of so many characters. -/
structure StartTag.IsReadAt (start : StartTag) (cursor : Cursor) (size : Nat) : Prop where
  opens : ∃ c rest, cursor.rest = '<' :: c :: rest ∧ (c.isAlpha ∨ c = '_' ∨ c = '$')
  name : start.name = (cursor.advance 1).slice ((cursor.advance 1).run isTagChar)
  location : start.location = cursor.place
  attributes : ∃ count, size = 1 + (cursor.advance 1).run isTagChar + count ∧
    readAttributes start.name start.location (cursor.advance (1 + (cursor.advance 1).run isTagChar))
      [] =
      .ok (start.attributes, start.selfClosing, count)

/-- A lexeme of so many characters at a cursor, with what its reader has found. All facts about what
a forest was read from go back to this. -/
inductive Lexeme.Found (cursor : Cursor) : Lexeme → Nat → Prop where
  | comment {rest value after : List Char} (front : cursor.rest = '<' :: '!' :: '-' :: '-' :: rest)
      (ends : Text.splitAt? ['-', '-', '>'] rest = some (value, after)) :
      Found cursor (.comment (String.ofList value) cursor.place) (value.length + 7)
  | declaration {before after : List Char}
      (ends : Text.splitAt? ['>'] cursor.rest = some (before, after)) :
      Found cursor .declaration (before.length + 1)
  | closing {name : String} {count : Nat} (read : readClosing cursor = .ok (name, count)) :
      Found cursor (.closing name cursor.place) count
  | leaf {start : StartTag} {size : Nat} (read : start.IsReadAt cursor size) (leaf : start.isLeaf) :
      Found cursor (.leaf start) size
  | raw {start : StartTag} {size count : Nat} {content : String} (read : start.IsReadAt cursor size)
      (continues : ¬ start.isLeaf) (raw : isRawTag start.name)
      (inner : readRaw start.name start.location (cursor.advance size) = .ok (content, count)) :
      Found cursor (.raw start content (cursor.advance size).place) (size + count)
  | opening {start : StartTag} {size : Nat} (read : start.IsReadAt cursor size)
      (continues : ¬ start.isLeaf)
      (parsed : ¬ isRawTag start.name) : Found cursor (.opening start) size
  | text {parts : List Part} {count : Nat} (length : textLength true cursor.rest = .ok count)
      (split : Part.split (cursor.rest.take count) = .ok parts) :
      Found cursor (.text (parts.map decodePart) cursor.place) count

/-- Markup that is neither a closing tag nor a comment or a declaration is an opening tag. -/
theorem opens_of_startsMarkup {chars : List Char} (starts : startsMarkup chars)
    (closing : ∀ rest, chars ≠ '<' :: '/' :: rest)
    (declared : ¬ (chars[1]? = some '!' ∨ chars[1]? = some '?')) :
    ∃ c rest, chars = '<' :: c :: rest ∧ (c.isAlpha ∨ c = '_' ∨ c = '$') := by
  unfold startsMarkup at starts
  split at starts
  · next c rest =>
    refine ⟨c, rest, rfl, ?_⟩
    have slash : c ≠ '/' := fun same => closing rest (by rw [same])
    rw [not_or] at declared
    simpa [slash, show c ≠ '!' by simpa using declared.1, show c ≠ '?' by simpa using declared.2,
      or_assoc] using starts
  · cases starts

/-- A start tag is found with its name and attributes, and with its content if that is raw. -/
theorem Lexeme.found_of_readOpening {cursor : Cursor} {lexeme : Lexeme} {count : Nat}
    (opens : ∃ c rest, cursor.rest = '<' :: c :: rest ∧ (c.isAlpha ∨ c = '_' ∨ c = '$'))
    (read : readOpening cursor = .ok (lexeme, count)) : Found cursor lexeme count := by
  unfold readOpening at read
  dsimp only at read
  split at read
  · cases read
  · next attributes selfClosing size found =>
    have isRead : StartTag.IsReadAt ⟨_, attributes, selfClosing, cursor.place⟩ cursor _ :=
      ⟨opens, rfl, rfl, size, rfl, found⟩
    split at read
    · next leaf =>
      cases read
      exact .leaf isRead leaf
    · next continues =>
      split at read
      · next raw =>
        split at read
        · next inner =>
          cases read
          exact .raw isRead continues raw inner
        · cases read
      · next parsed =>
        cases read
        exact .opening isRead continues parsed

theorem Lexeme.found_of_read {cursor : Cursor} {lexeme : Lexeme} {count : Nat}
    (read : Lexeme.read cursor = .ok (lexeme, count)) : Found cursor lexeme count := by
  unfold Lexeme.read at read
  split at read
  · next front =>
    split at read
    · next ends =>
      cases read
      exact .comment front ends
    · cases read
  · split at read
    · next closed =>
      cases read
      exact .closing closed
    · cases read
  · next closing =>
    split at read
    · next starts =>
      split at read
      · split at read
        · next ends =>
          cases read
          exact .declaration ends
        · cases read
      · next declared =>
          exact found_of_readOpening (opens_of_startsMarkup starts closing declared) read
    · unfold readText at read
      split at read
      · cases read
      · next length =>
        split at read
        · cases read
        · next split =>
          cases read
          exact .text length split

/-- Whether a lexeme is read somewhere in a source. -/
def Lexeme.IsRead (source : List Char) (lexeme : Lexeme) : Prop :=
  ∃ cursor count, cursor.IsIn source ∧ cursor.rest ≠ [] ∧ Lexeme.read cursor = .ok (lexeme, count)

theorem lexemes_isRead {source : List Char} {cursor : Cursor} (inside : cursor.IsIn source) :
    ∀ piece ∈ (lexemes cursor).1, piece.IsRead source := by
  fun_induction lexemes cursor
  case case1 => simp
  case case2 => simp
  case case3 nonempty lexeme count read _ more failure same ih =>
    rw [same] at ih
    refine List.forall_mem_cons.mpr ⟨⟨_, count, inside, ?_, read⟩, ih (inside.advance count)⟩
    rw [nonempty]
    exact List.cons_ne_nil _ _

mutual

/-- A node and all nodes inside of it, in the order of the document. -/
def Node.inside : Node → List Node
  | .element start children => .element start children :: insideAll children
  | .text parts location => [.text parts location]
  | .comment value location => [.comment value location]

/-- The nodes of a forest at every depth. -/
def insideAll : List Node → List Node
  | [] => []
  | node :: rest => node.inside ++ insideAll rest

end

theorem mem_insideAll {node : Node} {nodes : List Node} :
    node ∈ insideAll nodes ↔ ∃ top ∈ nodes, node ∈ top.inside := by
  induction nodes with
  | nil => simp [insideAll]
  | cons first rest ih => simp [insideAll, ih]

/-- The opening tags of a forest at every depth. -/
def startsAll (forest : List Node) : List StartTag :=
  ((insideAll forest).filterMap Node.element?).map (·.1)

/-- The start tags of a forest are those of its elements, to any depth. -/
theorem mem_startsAll {forest : List Node} {start : StartTag} :
    start ∈ startsAll forest ↔ ∃ children, .element start children ∈ insideAll forest := by
  simp only [startsAll, List.mem_map, List.mem_filterMap]
  constructor
  · rintro ⟨found, ⟨node, held, same⟩, rfl⟩
    cases node with
    | element start children =>
      cases same
      exact ⟨children, held⟩
    | text parts location => cases same
    | comment value location => cases same
  · rintro ⟨children, held⟩
    exact ⟨(start, children), ⟨_, held, rfl⟩, rfl⟩

/-- The children of an element with plain text only: none, or its text. -/
def rawChildren (content : String) (location : Location) : List Node :=
  if content.isEmpty then [] else [.text [.literal content] location]

/-- Whether a node is made of a lexeme. The children of an opening tag are made of others. -/
inductive Node.IsMadeOf : Node → Lexeme → Prop where
  | comment (value : String) (location : Location) :
      IsMadeOf (.comment value location) (.comment value location)
  | text (parts : List Part) (location : Location) :
      IsMadeOf (.text parts location) (.text parts location)
  | leaf (start : StartTag) : IsMadeOf (.element start []) (.leaf start)
  | raw (start : StartTag) (content : String) (location : Location) :
      IsMadeOf (.element start (rawChildren content location)) (.raw start content location)
  | content (start : StartTag) {content : String} (location : Location) (filled : content ≠ "") :
      IsMadeOf (.text [.literal content] location) (.raw start content location)
  | opening (start : StartTag) (children : List Node) :
      IsMadeOf (.element start children) (.opening start)

section

variable {motive : Node → Prop}

/-- What holds of the node of a lexeme and of those that are done already holds of all. -/
theorem forall_insideAll_cons {node : Node} {done : List Node}
    (first : ∀ found ∈ node.inside, motive found) (known : ∀ found ∈ insideAll done, motive found) :
    ∀ found ∈ insideAll (node :: done), motive found :=
  List.forall_mem_append.mpr ⟨first, known⟩

theorem forall_insideAll_reverse {nodes : List Node}
    (known : ∀ found ∈ insideAll nodes, motive found) :
    ∀ found ∈ insideAll nodes.reverse, motive found := by
  intro found held
  obtain ⟨top, member, within⟩ := mem_insideAll.mp held
  exact known found (mem_insideAll.mpr ⟨top, List.mem_reverse.mp member, within⟩)

/-- What holds of all that lexemes make holds of the forest that is put together of them. -/
theorem forall_insideAll_assemble {failure : Option CompileError} {frames : List Frame}
    {done forest : List Node} {pieces : List Lexeme}
    (assembled : assemble failure frames done pieces = .ok forest)
    (opened : ∀ frame ∈ frames, (∀ children, motive (.element frame.start children)) ∧
      ∀ found ∈ insideAll frame.before, motive found)
    (known : ∀ found ∈ insideAll done, motive found)
    (made : ∀ piece ∈ pieces, ∀ node : Node, node.IsMadeOf piece → motive node) :
    ∀ found ∈ insideAll forest, motive found := by
  induction pieces generalizing frames done with
  | nil =>
    unfold assemble at assembled
    split at assembled
    · cases assembled
    · cases assembled
      exact forall_insideAll_reverse known
    · cases assembled
  | cons piece pieces ih =>
    obtain ⟨here, later⟩ := List.forall_mem_cons.mp made
    cases piece with
    | comment value location =>
      exact ih assembled opened
        (forall_insideAll_cons (by simpa [Node.inside] using here _ (.comment value location))
        known)
        later
    | text parts location =>
      exact ih assembled opened
        (forall_insideAll_cons (by simpa [Node.inside] using here _ (.text parts location)) known)
        later
    | leaf start =>
      exact ih assembled opened
        (forall_insideAll_cons (by simpa [Node.inside, insideAll] using here _ (.leaf start)) known)
          later
    | raw start content location =>
      refine ih assembled opened (forall_insideAll_cons ?_ known) later
      refine List.forall_mem_cons.mpr ⟨here _ (.raw start content location), ?_⟩
      by_cases empty : content = ""
      · simp [empty, insideAll]
      · simpa [empty, insideAll, Node.inside] using here _ (.content start location empty)
    | declaration => exact ih assembled opened known later
    | opening start =>
      exact ih assembled
        (List.forall_mem_cons.mpr ⟨⟨fun children => here _ (.opening start children), known⟩,
        opened⟩)
        (by simp [insideAll]) later
    | closing name location =>
      unfold assemble at assembled
      split at assembled
      · next frame outer =>
        obtain ⟨⟨whole, before⟩, others⟩ := List.forall_mem_cons.mp opened
        split at assembled
        · refine ih assembled others (forall_insideAll_cons ?_ before) later
          exact List.forall_mem_cons.mpr ⟨whole _, forall_insideAll_reverse known⟩
        · split at assembled
          · exact ih assembled opened known later
          · cases assembled
      · split at assembled
        · exact ih assembled opened known later
        · cases assembled

end

/-- Each node of a forest, at whatever depth, is made of a lexeme that is read in the source. -/
theorem exists_isRead_of_parse {source : String} {forest : List Node}
    (parsed : parse source = .ok forest) {node : Node} (held : node ∈ insideAll forest) :
    ∃ lexeme, node.IsMadeOf lexeme ∧ lexeme.IsRead source.toList := by
  have inside : (Cursor.start source).IsIn source.toList := ⟨[], rfl, rfl⟩
  refine forall_insideAll_assemble (motive := fun node => ∃ lexeme, node.IsMadeOf lexeme ∧
    lexeme.IsRead source.toList) parsed
    (by simp) (by simp [insideAll]) ?_ node held
  exact fun piece member node made => ⟨piece, made, lexemes_isRead inside piece member⟩

/-- The start tag of an element was read at a place of the source. -/
theorem exists_isReadAt_of_parse {source : String} {forest children : List Node} {start : StartTag}
    (parsed : parse source = .ok forest) (held : .element start children ∈ insideAll forest) :
    ∃ cursor size, cursor.IsIn source.toList ∧ start.IsReadAt cursor size := by
  obtain ⟨lexeme, made, cursor, count, inside, _, read⟩ := exists_isRead_of_parse parsed held
  have found := Lexeme.found_of_read read
  cases made with
  | leaf =>
    cases found with
    | leaf opens => exact ⟨cursor, _, inside, opens⟩
  | raw =>
    cases found with
    | raw opens => exact ⟨cursor, _, inside, opens⟩
  | opening =>
    cases found with
    | opening opens => exact ⟨cursor, _, inside, opens⟩

end Markup

end RenderTemplate
