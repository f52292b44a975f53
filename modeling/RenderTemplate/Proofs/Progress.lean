import RenderTemplate.Proofs.OffsetReaders

namespace RenderTemplate.Markup

/-- The forest that follows when the innermost open element ends before a cursor. -/
def leave (cursor : Cursor) (done : List Node) : List Frame → Except CompileError (List Node)
  | [] => .ok done.reverse
  | frame :: outer => resume outer (.element frame.start done.reverse :: frame.before) cursor

namespace ByOffset

/-- What a round of the loop over nodes has to do with the forest that follows. A round, with all
that it reads of children, does to the offset what the lexemes from there do to the open
elements. -/
inductive RoundFollows (source : String) (cursor : Cursor) (frames : List Frame)
    (done : List Node) :
    Except Halt NodeRound → Prop where
  | failed {error : CompileError} (same : resume frames done cursor = .error error) :
      RoundFollows source cursor frames done (.error (.error error))
  | left {after : Cursor} (inside : after.IsOf source)
      (later : cursor.place.offset ≤ after.place.offset)
      (same : resume frames done cursor = leave after done frames) :
      RoundFollows source cursor frames done (.ok (.left after.place.offset))
  | read {nodes : List Node} {after : Cursor} (inside : after.IsOf source)
      (later : cursor.place.offset < after.place.offset)
      (same : resume frames done cursor = resume frames (nodes.reverse ++ done) after) :
      RoundFollows source cursor frames done (.ok (.read nodes after.place.offset))

/-- What the loop over nodes has to do with the forest that follows. -/
inductive NodesFollow (source : String) (cursor : Cursor) (frames : List Frame) (done : List Node) :
    Except Halt (List Node × Nat) → Prop where
  | failed {error : CompileError} (same : resume frames done cursor = .error error) :
      NodesFollow source cursor frames done (.error (.error error))
  | read {nodes : List Node} {after : Cursor} (inside : after.IsOf source)
      (later : cursor.place.offset ≤ after.place.offset)
      (same : resume frames done cursor = leave after (nodes.reverse ++ done) frames) :
      NodesFollow source cursor frames done (.ok (nodes, after.place.offset))

section

variable {source : String} {cursor : Cursor} (inside : cursor.IsOf source) {rounds : Nat}

include inside

/-- At the end of the source nothing is read, and a frame that is still open is reported. -/
theorem nodeRound_end (ended : cursor.rest = [])
    (descend : StartTag → Nat → Except Halt (List Node × Nat)) (frames : List Frame)
    (done : List Node) :
    RoundFollows source cursor frames done
      (nodeRound source rounds descend (frames.head?.map (·.start)) cursor.place.offset) := by
  have same : resume frames done cursor = assemble none frames done [] := by
    rw [resume, lexemes_end ended]
  unfold nodeRound
  rw [if_pos (Nat.le_of_eq (offset_of_end inside ended).symm)]
  cases frames with
  | nil => exact .left inside (Nat.le_refl _) same
  | cons frame outer => exact .failed same

omit inside in
/-- A closing tag ends the element that it names. One of an element that never has children is
passed over. -/
theorem closing_follows {next : Cursor} (isOf : next.IsOf source)
    (later : cursor.place.offset < next.place.offset) {frames : List Frame} {done : List Node}
    {name : String} {location : Location}
    (same : resume frames done cursor =
      assemble (lexemes next).2 frames done (.closing name location :: (lexemes next).1)) :
    RoundFollows source cursor frames done
      (closeRound (frames.head?.map (·.start)) name location next.place.offset) := by
  unfold assemble at same
  unfold closeRound
  cases frames with
  | nil =>
    dsimp only at same
    rw [List.head?_nil, Option.map_none, Option.any_none, if_neg Bool.false_ne_true]
    split at same
    · next void =>
      rw [if_pos void]
      exact .read isOf later same
    · next other =>
      rw [if_neg other]
      exact .failed same
  | cons frame outer =>
    dsimp only at same
    rw [List.head?_cons, Option.map_some, Option.any_some]
    split at same
    · next own =>
      rw [if_pos (beq_iff_eq.mpr own)]
      exact .left isOf (Nat.le_of_lt later) same
    · next foreign =>
      rw [if_neg (mt beq_iff_eq.mp foreign)]
      split at same
      · next void =>
        rw [if_pos void]
        exact .read isOf later same
      · next other =>
        rw [if_neg other]
        exact .failed same

/-- A round of the loop over nodes does what the next lexeme does to the open frames. -/
theorem nodeRound_follows (enough : Text.byteLength cursor.rest < rounds)
    (descend : StartTag → Nat → Except Halt (List Node × Nat)) (frames : List Frame)
    (done : List Node)
    (descends : ∀ (start : StartTag) (inner : Cursor), inner.IsOf source →
      cursor.place.offset < inner.place.offset →
      NodesFollow source inner (⟨start, done⟩ :: frames) [] (descend start inner.place.offset)) :
    RoundFollows source cursor frames done
      (nodeRound source rounds descend (frames.head?.map (·.start)) cursor.place.offset) := by
  cases parts : cursor.rest with
  | nil => exact nodeRound_end inside parts descend frames done
  | cons c tail =>
    unfold nodeRound
    rw [if_neg (Nat.not_le_of_lt (offset_lt inside parts)), readLexeme_eq inside enough]
    cases read : Lexeme.read cursor with
    | error error =>
      have same : resume frames done cursor = .error error := by
        rw [resume, lexemes_error parts read, assemble]
      exact .failed same
    | ok found =>
      obtain ⟨lexeme, count⟩ := found
      have later := Cursor.offset_lt_advance parts (Lexeme.read_pos parts read)
      have next := inside.advance count
      have same : resume frames done cursor =
          assemble (lexemes (cursor.advance count)).2 frames done
            (lexeme :: (lexemes (cursor.advance count)).1) := by
        rw [resume, lexemes_ok parts read]
      rw [follow, ok_bind]
      cases lexeme with
      | comment value location | text words location | leaf start | raw start content location =>
        exact .read next later same
      | declaration => exact .read next later same
      | opening start =>
        have inner := descends start (cursor.advance count) next later
        have opened : resume frames done cursor =
            resume (⟨start, done⟩ :: frames) [] (cursor.advance count) := same
        dsimp only
        generalize descend start (cursor.advance count).place.offset = result at inner ⊢
        cases inner with
        | failed failed => exact .failed (opened.trans failed)
        | read isOf behind closed =>
          refine .read isOf (Nat.lt_of_lt_of_le later behind) (opened.trans ?_)
          rw [closed, leave, List.append_nil, List.reverse_reverse]
          rfl
      | closing name location => exact closing_follows next later same

/-- The loop over nodes follows the assembly of the lexemes. The induction is on the rounds. -/
theorem readNodes_follow (enough : Text.byteLength cursor.rest < rounds) (frames : List Frame)
    (done : List Node) :
    NodesFollow source cursor frames done
      (readNodes source rounds (frames.head?.map (·.start)) cursor.place.offset) := by
  induction rounds generalizing cursor frames done with
  | zero => omega
  | succ rounds ih =>
    have whole := inside.offset_add_rest
    have fewer {next : Cursor} (isOf : next.IsOf source)
        (later : cursor.place.offset < next.place.offset) :
        Text.byteLength next.rest < rounds := by
      have parts := isOf.offset_add_rest
      omega
    have round :=
      nodeRound_follows inside enough (fun start next => readNodes source rounds (some start) next)
      frames done
      fun start inner isOf later => ih isOf (fewer isOf later) (⟨start, done⟩ :: frames) []
    rw [readNodes]
    generalize nodeRound source (rounds + 1) _ (frames.head?.map (·.start)) cursor.place.offset =
      result at round ⊢
    cases round with
    | failed same => exact .failed same
    | left isOf later same => exact .read isOf later same
    | @read nodes after isOf later same =>
      have rest := ih isOf (fewer isOf later) frames (nodes.reverse ++ done)
      rw [ok_bind]
      dsimp only
      generalize readNodes source rounds (frames.head?.map (·.start)) after.place.offset =
        result at rest ⊢
      cases rest with
      | failed failed => exact .failed (same.trans failed)
      | read ended behind closed =>
        refine .read ended (by omega) (same.trans (closed.trans ?_))
        rw [List.reverse_append, List.append_assoc]

end

/-- A later offset at which a character of the source starts, or the source ends. -/
structure Advances (source : String) (pos next : Nat) : Prop where
  later : pos < next
  inside : next ≤ Text.byteLength source.toList
  boundary : Text.IsBoundary source.toList next

/-- Work that gives what holds, or an error. It does not fail at a slice, nor for want of rounds. -/
inductive Proceeds {α : Type} (holds : α → Prop) : Except Halt α → Prop where
  | ok {value : α} (fine : holds value) : Proceeds holds (.ok value)
  | error (error : CompileError) : Proceeds holds (.error (.error error))

/-- Whether a round goes on at a later offset. The last round may have nothing to read. -/
def NodeRound.Moves (source : String) (pos : Nat) : NodeRound → Prop
  | left next => next = pos ∨ Advances source pos next
  | read _ next => Advances source pos next

theorem exists_cursor {source : String} {pos : Nat} (boundary : Text.IsBoundary source.toList pos) :
    ∃ cursor : Cursor, cursor.IsOf source ∧ cursor.place.offset = pos := by
  obtain ⟨front, rest, parts, rfl⟩ := boundary
  refine ⟨(Cursor.start source).advance front.length, ⟨front.length, rfl⟩, ?_⟩
  have offset :=
    Cursor.offset_advance_append (show (Cursor.start source).rest = front ++ rest from parts)
  exact offset.symm.trans (Nat.zero_add _)

theorem advances {source : String} {pos : Nat} {after : Cursor} (isOf : after.IsOf source)
    (later : pos < after.place.offset) :
    Advances source pos after.place.offset :=
  ⟨later, isOf.isBoundary.le, isOf.isBoundary⟩

section

variable {source : String} {cursor : Cursor} (inside : cursor.IsOf source) {rounds : Nat}

include inside

/-- A round of the loop over attributes halts or takes a byte at least. -/
theorem tagRound_proceeds (enough : Text.byteLength cursor.rest < rounds) (tag : String)
    (location : Location) (found : List Attribute) :
    Proceeds (fun round => Advances source cursor.place.offset round.next)
      (tagRound source rounds tag location found cursor.place.offset) := by
  have round := tagRound_follows inside enough tag location found
  generalize tagRound source rounds tag location found cursor.place.offset = result at round ⊢
  cases round with
  | failed => exact .error _
  | ended later | more later => exact .ok (advances (inside.advance _) later)

theorem nodeRound_proceeds (enough : Text.byteLength cursor.rest < rounds + 1)
    (parent : Option StartTag) :
    Proceeds (NodeRound.Moves source cursor.place.offset)
      (nodeRound source (rounds + 1) (fun start next => readNodes source rounds (some start) next)
        parent cursor.place.offset) := by
  obtain ⟨frames, rfl⟩ : ∃ frames : List Frame, parent = frames.head?.map (·.start) := by
    cases parent with
    | none => exact ⟨[], rfl⟩
    | some start => exact ⟨[⟨start, []⟩], rfl⟩
  have whole := inside.offset_add_rest
  have round :=
    nodeRound_follows inside enough (fun start next => readNodes source rounds (some start) next)
    frames []
    fun start inner isOf later => by
      have parts := isOf.offset_add_rest
      exact readNodes_follow isOf (by omega) (⟨start, []⟩ :: frames) []
  generalize nodeRound source (rounds + 1) _ (frames.head?.map (·.start)) cursor.place.offset =
    result at round ⊢
  cases round with
  | failed => exact .error _
  | left isOf later => exact .ok ((Nat.eq_or_lt_of_le later).imp Eq.symm (advances isOf))
  | read isOf later => exact .ok (advances isOf later)

end

theorem parseFile_eq (source : String) (file : Option String) {rounds : Nat}
    (enough : Text.byteLength source.toList < rounds) :
    parseFile source rounds file = (Markup.parseFile file source).mapError .error := by
  have inside : (Cursor.start source).IsOf source := ⟨0, (Cursor.advance_zero _).symm⟩
  have nodes : NodesFollow source (.start source) [] [] (readNodes source rounds none 0) :=
    readNodes_follow inside enough [] []
  have same : parse source = resume [] [] (.start source) := rfl
  rw [parseFile, Markup.parseFile, same]
  generalize readNodes source rounds none 0 = result at nodes ⊢
  cases nodes with
  | failed failed =>
    rw [failed]
    rfl
  | read isOf later ended =>
    rw [ended, leave, List.append_nil, List.reverse_reverse]
    rfl

/-- Reading comes to an end. At each offset where a character of the source starts or the source
ends, a round of the loop over the attributes of a tag gives an error or goes on at a later one of
these offsets, and so does a round of the loop over nodes, unless it is the last one and has nothing
to read. No slice fails. With one round more than the source has bytes the loops have all that they
need, and the result is that of the reader at cursors. -/
theorem reading_progresses (source : String) :
    (∀ pos rounds : Nat, Text.IsBoundary source.toList pos →
      Text.byteLength source.toList ≤ pos + rounds →
      (∀ (tag : String) (location : Location) (found : List Attribute),
        Proceeds (fun round => Advances source pos round.next)
          (tagRound source (rounds + 1) tag location found pos)) ∧
      ∀ parent : Option StartTag, Proceeds (NodeRound.Moves source pos)
        (nodeRound source (rounds + 1) (fun start next => readNodes source rounds (some start) next)
          parent pos)) ∧
    ∀ (file : Option String) (rounds : Nat), Text.byteLength source.toList < rounds →
      parseFile source rounds file = (Markup.parseFile file source).mapError .error := by
  refine ⟨fun pos rounds boundary enough => ?_, fun file rounds enough =>
    parseFile_eq source file enough⟩
  obtain ⟨cursor, inside, rfl⟩ := exists_cursor boundary
  have whole := inside.offset_add_rest
  exact ⟨fun tag location found => tagRound_proceeds inside (by omega) tag location found,
    fun parent => nodeRound_proceeds inside (by omega) parent⟩

/-- A source with a slash that is put back, blanks that are given back, and characters of two
bytes. -/
def slashedPage : String :=
  "<p é=ü/><b c >ß\x7bx\x7d</b>"

theorem slashedPage_progresses :
    tagRound slashedPage 30 "p" {} [] 2 = .ok (.more ⟨"é", some "ü", ⟨1, 4, 3⟩⟩ 8) ∧
      Advances slashedPage 2 8 ∧
      tagRound slashedPage 30 "b" {} [] 12 = .ok (.more ⟨"c", none, ⟨1, 12, 13⟩⟩ 14) ∧
        Advances slashedPage 12 14 ∧
      ∃ forest, forest.length = 2 ∧ Markup.parseFile none slashedPage = .ok forest := by
  obtain ⟨proceeds, parses⟩ := reading_progresses slashedPage
  have slash : tagRound slashedPage 30 "p" {} [] 2 = .ok (.more ⟨"é", some "ü", ⟨1, 4, 3⟩⟩ 8) := rfl
  have blank : tagRound slashedPage 30 "b" {} [] 12 = .ok (.more ⟨"c", none, ⟨1, 12, 13⟩⟩ 14) := rfl
  have first := (proceeds 2 29 (by decide) (by decide)).1 "p" {} []
  have second := (proceeds 12 29 (by decide) (by decide)).1 "b" {} []
  have size : (parseFile slashedPage 30 none).toOption.map (·.length) = some 2 := by decide +kernel
  rw [slash] at first
  rw [blank] at second
  rw [parses none 30 (by decide)] at size
  refine ⟨slash, ?_, blank, ?_, ?_⟩
  · cases first with
    | ok fine => exact fine
  · cases second with
    | ok fine => exact fine
  · cases parsed : Markup.parseFile none slashedPage with
    | error error =>
      rw [parsed] at size
      cases size
    | ok forest =>
      rw [parsed] at size
      exact ⟨forest, Option.some.inj size, rfl⟩

end ByOffset

end RenderTemplate.Markup
