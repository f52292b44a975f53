import RenderTemplate.Markup.Parser
import RenderTemplate.Proofs.Reading

namespace RenderTemplate.Markup

/-- One lexeme is put together with those after it. -/
theorem resume_append {text rest : List Char} {place : Location} {lexeme : Lexeme}
    (nonempty : text ≠ []) (read : Lexeme.read ⟨text ++ rest, place⟩ = .ok (lexeme, text.length))
    (frames : List Frame) (done : List Node) :
    resume frames done ⟨text ++ rest, place⟩ =
      assemble (lexemes ⟨rest, place.advance text⟩).2 frames done
        (lexeme :: (lexemes ⟨rest, place.advance text⟩).1) := by
  obtain ⟨c, tail, rfl⟩ := List.exists_cons_of_ne_nil nonempty
  rw [resume, lexemes_ok List.cons_append read, Cursor.advance_append]

theorem resume_closing {frame : Frame} {start : StartTag} (tag : isTagName start.name.toList)
    (same : frame.start.name = start.name) (frames : List Frame) (done : List Node)
    (rest : List Char) (place : Location) :
    resume (frame :: frames) done ⟨start.printClosing ++ rest, place⟩ =
      resume frames (.element frame.start done.reverse :: frame.before)
        ⟨rest, place.advance start.printClosing⟩ := by
  rw [resume_append (by simp [StartTag.printClosing]) (Lexeme.read_closing tag rest place),
    assemble, if_pos same]
  rfl

/-- The source of a node brings the reader past it, with the node done. For an element this is so
because it is for its children. -/
def Node.ReadsBack (node : Node) : Prop :=
  ∀ (frames : List Frame) (done : List Node) (rest : List Char) (place : Location),
    (node.isText → EndsText rest) →
    ∃ placed : Node, placed.unplaced = node.unplaced ∧
      resume frames done ⟨node.print ++ rest, place⟩ =
        resume frames (placed :: done) ⟨rest, place.advance node.print⟩

theorem startsMarkup_print {node : Node} (canonical : node.IsCanonical) (other : ¬ node.isText)
    (rest : List Char) :
    startsMarkup (node.print ++ rest) := by
  have tagged {start : StartTag} (tag : start.IsCanonical) (children : List Node) :
      startsMarkup ((Node.element start children).print ++ rest) := by
    obtain ⟨c, more, front, first⟩ := tag.exists_cons
    rw [Node.print, front]
    exact startsMarkup_opening first _
  cases canonical with
  | leaf tag => exact tagged tag _
  | empty tag => exact tagged tag _
  | raw tag => exact tagged tag _
  | element tag => exact tagged tag _
  | text => exact absurd rfl other
  | comment => rfl

/-- The source of a forest brings the reader past it, if that of each node does. -/
theorem resume_printAll {nodes : List Node}
    (each : ∀ node ∈ nodes, node.IsCanonical ∧ node.ReadsBack) (apart : TextsApart nodes)
    {rest : List Char} (ends : EndsText rest) (frames : List Frame) (done : List Node)
    (place : Location) :
    ∃ placed, unplacedAll placed = unplacedAll nodes ∧
      resume frames done ⟨printAll nodes ++ rest, place⟩ =
        resume frames (placed.reverse ++ done) ⟨rest, place.advance (printAll nodes)⟩ := by
  induction nodes generalizing done place with
  | nil => exact ⟨[], rfl, rfl⟩
  | cons node more ih =>
    have following : node.isText → EndsText (printAll more ++ rest) := by
      intro text
      cases more with
      | nil => exact ends
      | cons second others =>
        have other : ¬ second.isText := fun also => (List.isChain_cons_cons.mp apart).1 ⟨text, also⟩
        rw [printAll, List.append_assoc]
        exact .inr (startsMarkup_print (each second (by simp)).1 other _)
    obtain ⟨first, sameFirst, read⟩ :=
      (each node List.mem_cons_self).2 frames done (printAll more ++ rest) place following
    obtain ⟨placed, same, readMore⟩ :=
      ih (fun other held => each other (List.mem_cons_of_mem node held)) apart.tail
      (first :: done) (place.advance node.print)
    refine ⟨first :: placed, by simp only [unplacedAll, sameFirst, same], ?_⟩
    rw [printAll, List.append_assoc, read, readMore, Location.advance_append, List.reverse_cons,
      List.append_assoc, List.singleton_append]

theorem readsBack_leaf {start : StartTag} (tag : start.IsCanonical) (leaf : start.isLeaf) :
    (Node.element start []).ReadsBack := by
  intro frames done rest place _
  have source : (Node.element start []).print = start.print := by simp [Node.print, leaf]
  obtain ⟨placed, same, read⟩ := readOpening_print tag rest place
  rw [← Lexeme.read_print tag, if_pos leaf] at read
  refine ⟨.element placed [], by simp only [Node.unplaced, same], ?_⟩
  rw [source, resume_append (by simp [StartTag.print]) read]
  rfl

/-- An element with plain text only is one lexeme. -/
theorem resume_raw {start : StartTag} {content : String} (tag : start.IsCanonical)
    (continues : ¬ start.isLeaf) (raw : isRawTag start.name)
    (unclosed : ¬ ('<' :: '/' :: start.name.toList) <:+: content.toList) (frames : List Frame)
    (done : List Node) (rest : List Char) (place : Location) :
    ∃ placed : StartTag, placed.unplaced = start.unplaced ∧
      resume frames done ⟨start.print ++ (content.toList ++ start.printClosing) ++ rest, place⟩ =
        resume frames
          (.element placed
            (if content.isEmpty then [] else [.text [.literal content] (place.advance start.print)])
              :: done)
          ⟨rest, place.advance (start.print ++ (content.toList ++ start.printClosing))⟩ := by
  obtain ⟨placed, same, read⟩ :=
    readOpening_print tag (content.toList ++ (start.printClosing ++ rest)) place
  rw [← Lexeme.read_print tag, if_neg continues, if_pos raw, readRaw_print tag.tag raw unclosed]
    at read
  dsimp only at read
  rw [← List.length_append, ← List.append_assoc content.toList, ← List.append_assoc start.print]
    at read
  refine ⟨placed, same, ?_⟩
  rw [resume_append (by simp [StartTag.print]) read]
  rfl

theorem readsBack_element {start : StartTag} {children : List Node} (tag : start.IsCanonical)
    (continues : ¬ start.isLeaf) (parsed : ¬ isRawTag start.name)
    (each : ∀ child ∈ children, child.IsCanonical ∧ child.ReadsBack) (apart : TextsApart children) :
    (Node.element start children).ReadsBack := by
  intro frames done rest place _
  have source : (Node.element start children).print =
      start.print ++ (printAll children ++ start.printClosing) := by
    simp [Node.print, continues, parsed]
  let following := printAll children ++ (start.printClosing ++ rest)
  obtain ⟨placed, same, read⟩ := readOpening_print tag following place
  rw [← Lexeme.read_print tag, if_neg continues, if_neg parsed] at read
  have ends : EndsText (start.printClosing ++ rest) := .inr rfl
  obtain ⟨inner, sameInner, readInner⟩ :=
    resume_printAll each apart ends (⟨placed, done⟩ :: frames) [] (place.advance start.print)
  have name : placed.unplaced.name = start.unplaced.name := by rw [same]
  refine ⟨.element placed inner, by simp only [Node.unplaced, same, sameInner], ?_⟩
  rw [source, List.append_assoc, List.append_assoc, resume_append (by simp [StartTag.print]) read]
  refine Eq.trans readInner ?_
  rw [resume_closing tag.tag name]
  simp [Location.advance_append]

/-- Each canonical node reads back. The induction is over the node. -/
theorem readsBack {node : Node} (canonical : node.IsCanonical) : node.ReadsBack := by
  induction canonical with
  | leaf tag leaf => exact readsBack_leaf tag leaf
  | @empty start tag continues raw =>
    intro frames done rest place _
    have unclosed : ¬ ('<' :: '/' :: start.name.toList) <:+: "".toList := by simp
    have source : (Node.element start []).print =
        start.print ++ ("".toList ++ start.printClosing) := by
      simp [Node.print, continues, raw]
    obtain ⟨placed, same, read⟩ := resume_raw tag continues raw unclosed frames done rest place
    rw [if_pos (by decide)] at read
    exact ⟨_, by simp only [Node.unplaced, same], source ▸ read⟩
  | @raw start content location tag continues raw nonempty unclosed =>
    intro frames done rest place _
    have source : (Node.element start [.text [.literal content] location]).print =
        start.print ++ (content.toList ++ start.printClosing) := by
      simp [Node.print, continues, raw, Node.verbatim, Part.verbatim]
    obtain ⟨placed, same, read⟩ := resume_raw tag continues raw unclosed frames done rest place
    rw [if_neg (by simpa using nonempty)] at read
    exact ⟨_, by simp only [Node.unplaced, unplacedAll, same], source ▸ read⟩
  | element tag continues parsed each apart ih =>
    exact readsBack_element tag continues parsed (fun child held =>
      ⟨each child held, ih child held⟩) apart
  | @text parts location nonempty each apart =>
    intro frames done rest place ends
    have read := Lexeme.read_text nonempty each apart (ends rfl) place
    obtain ⟨c, more, front, _⟩ := head_print nonempty each
    refine ⟨.text parts place, rfl, ?_⟩
    rw [Node.print, resume_append (by simp [front]) read]
    rfl
  | @comment value location unclosed =>
    intro frames done rest place _
    have read := Lexeme.read_comment unclosed location rest place
    refine ⟨.comment value place, rfl, ?_⟩
    rw [resume_append (by simp [Node.print]) read]
    rfl

theorem resume_end (done : List Node) (place : Location) :
    resume [] done ⟨[], place⟩ = .ok done.reverse := by
  rw [resume, lexemes]
  rfl

/-- Reading a printed forest gives the forest, but for the places of its nodes. -/
theorem parseFile_printAll {forest : List Node} (canonical : IsCanonical forest)
    (file : Option String) :
    (parseFile file (String.ofList (printAll forest))).map unplacedAll =
      .ok (unplacedAll forest) := by
  have each : ∀ node ∈ forest, node.IsCanonical ∧ node.ReadsBack := fun node held =>
    ⟨canonical.each node held, readsBack (canonical.each node held)⟩
  obtain ⟨placed, same, read⟩ := resume_printAll each canonical.apart (.inl rfl) [] [] {}
  rw [List.append_nil, List.append_nil, resume_end, List.reverse_reverse] at read
  have whole : parse (String.ofList (printAll forest)) = .ok placed := by
    rw [parse, String.toList_ofList]
    exact read
  rw [parseFile, whole]
  exact congrArg Except.ok same

/-- A forest with a node of each kind: quotes and braces in a value, characters that are escaped, a
brace in a string of an expression, and ends of a comment and of an element that are not quite
there. -/
def mixedForest : List Node := [
  .element ⟨"my-list", [⟨"title", some "\x7bf(\"\x7d\")\x7d!", {}⟩, ⟨"open", none, {}⟩], false, {}⟩
    [
    .text [.literal "1 < 2 & \x7b", .expression "g('\x7d')"] {},
    .element ⟨"br", [], false, {}⟩ [],
    .text [.expression "x"] {},
    .comment "a-" {},
    .element ⟨"style", [], false, {}⟩ [.text [.literal "p > a \x7b </sty"] {}],
    .element ⟨"script", [], true, {}⟩ []],
  .element ⟨"script", [⟨"src", some "", {}⟩], false, {}⟩ []]

example : String.ofList (printAll mixedForest) =
    "<my-list title=\"\x7bf(\"\x7d\")\x7d!\" open>1 &#60; 2 &#38; &#123;\x7bg('\x7d')\x7d<br>\x7bx\x7d<!--a--->" ++
      "<style>p > a \x7b </sty</style><script/></my-list><script src=\"\"></script>" := by
  decide +kernel

theorem mixedForest_isCanonical : IsCanonical mixedForest := by
  have plain {name : String} {selfClosing : Bool} (tag : isTagName name.toList) :
      (⟨name, [], selfClosing, {}⟩ : StartTag).IsCanonical := ⟨tag, by simp, by simp⟩
  have title : (⟨"title", some "\x7bf(\"\x7d\")\x7d!", {}⟩ : Attribute).IsCanonical := by
    refine ⟨by decide, by decide, ?_⟩
    rintro _ ⟨⟩
    exact ⟨[.expression "f(\"\x7d\")", .literal "!"], by decide +kernel, by simp⟩
  have source : (⟨"src", some "", {}⟩ : Attribute).IsCanonical := by
    refine ⟨by decide, by decide, ?_⟩
    rintro _ ⟨⟩
    exact ⟨[], by simp [Part.split], by simp⟩
  have bare : (⟨"open", none, {}⟩ : Attribute).IsCanonical := ⟨by decide, by decide, by simp⟩
  refine ⟨?_, by simp [TextsApart, mixedForest, Node.isText]⟩
  simp only [mixedForest, List.forall_mem_cons, List.not_mem_nil, false_imp_iff, implies_true,
    and_true]
  constructor
  · refine .element ⟨by decide, by simp [title, bare], by decide⟩ (by decide) (by decide) ?_
      (by simp [TextsApart, Node.isText])
    simp only [List.forall_mem_cons, List.not_mem_nil, false_imp_iff, implies_true, and_true]
    exact ⟨.text (by decide) (by decide) (by decide), .leaf (plain (by decide)) (by decide),
      .text (by decide) (by decide) (by decide), .comment (by decide),
      .raw (plain (by decide)) (by decide) (by decide) (by decide) (by decide),
      .leaf (plain (by decide)) (by decide)⟩
  · exact .empty ⟨by decide, by simp [source], by decide⟩ (by decide) (by decide)

theorem mixedForest_readBack : IsCanonical mixedForest ∧
    (parseFile none (String.ofList (printAll mixedForest))).map unplacedAll =
      .ok (unplacedAll mixedForest) :=
  ⟨mixedForest_isCanonical, parseFile_printAll mixedForest_isCanonical none⟩

end RenderTemplate.Markup
