import Mathlib.Data.List.Infix
import RenderTemplate.Proofs.Gaps
import RenderTemplate.Proofs.Origins
import RenderTemplate.Proofs.Runs

namespace RenderTemplate

namespace Markup

/-- What a closing tag starts with. -/
def closingFront (name : List Char) : List Char :=
  '<' :: '/' :: name

/-- A closing tag as source, with blanks behind its name. -/
def closingTag (name : List Char) (gap : Text.Gap) : List Char :=
  closingFront name ++ (gap.chars ++ ['>'])

/-- A closing tag has the longest name that can be read, and nothing but blanks behind it. -/
theorem readClosing_eq_ok {cursor : Cursor} {name : String} {count : Nat} {rest : List Char}
    (front : cursor.rest = '<' :: '/' :: rest) (read : readClosing cursor = .ok (name, count)) :
    ∃ gap after, cursor.rest = closingTag (rest.takeWhile isTagChar) gap ++ after ∧
      count = (closingTag (rest.takeWhile isTagChar) gap).length := by
  have behind : (cursor.advance 2).rest = rest := by rw [Cursor.rest_advance, front]; rfl
  have name : (cursor.advance 2).run isTagChar = (rest.takeWhile isTagChar).length := by
    rw [Cursor.run, behind]
  have blanks :
      ((cursor.advance 2).advance ((cursor.advance 2).run isTagChar)).run Text.isBlankChar =
      (Text.Gap.leading (rest.dropWhile isTagChar)).chars.length := by
    rw [Cursor.run, Cursor.rest_advance_run, behind]
    rfl
  have named : rest = rest.takeWhile isTagChar ++ rest.dropWhile isTagChar :=
    List.takeWhile_append_dropWhile.symm
  have blank := Text.Gap.leading_append (rest.dropWhile isTagChar)
  unfold readClosing at read
  dsimp only at read
  rw [← Cursor.advance_advance, Cursor.rest_advance_run, Cursor.rest_advance_run, behind, blanks,
    name] at read
  split at read
  · next after ends =>
    cases read
    refine ⟨Text.Gap.leading (rest.dropWhile isTagChar), after, ?_, ?_⟩
    · rw [Text.trimLeft, ends] at blank
      rw [front]
      nth_rewrite 1 [named]
      nth_rewrite 1 [blank]
      simp [closingTag, closingFront]
    · simp only [closingTag, closingFront, List.length_append, List.length_cons, List.length_nil]
      omega
  · cases read

theorem not_isBlankChar_of_isTagChar {c : Char} (inTag : isTagChar c) :
    Text.isBlankChar c = false :=
  not_isBlankChar_of_all (motive := isTagChar) (by decide) inTag

/-- Behind the name of a closing tag come blanks, if there are some, and its end. -/
theorem stops_gap (gap : Text.Gap) (rest : List Char) :
    Text.Stops isTagChar (gap.chars ++ '>' :: rest) := by
  by_cases empty : gap.chars = []
  · rw [empty, List.nil_append]
    exact .cons (by decide) rest
  · exact gap.stops_append (fun c => not_isBlankChar_of_isTagChar) empty _

/-- The text of an element ends where its closing tag first seems to start. -/
theorem readRaw_eq_ok {tag content : String} {location : Location} {cursor : Cursor} {count : Nat}
    (tagged : tag.toList.all isTagChar)
    (read : readRaw tag location cursor = .ok (content, count)) :
    ∃ tail gap after, Text.splitAt? (closingFront tag.toList) cursor.rest =
      some (content.toList, tail) ∧
      closingFront tag.toList ++ tail = closingTag (tag.toList ++ tail.takeWhile isTagChar) gap ++
        after ∧
      count =
        (content.toList ++ closingTag (tag.toList ++ tail.takeWhile isTagChar) gap).length := by
  unfold readRaw at read
  split at read
  · cases read
  · next found tail here =>
    split at read
    · next size closed =>
      cases read
      have whole := Text.eq_append_of_splitAt? here
      have behind : (cursor.advance found.length).rest = '<' :: '/' :: (tag.toList ++ tail) := by
        rw [Cursor.rest_advance, whole, List.drop_left]
        rfl
      obtain ⟨gap, after, parts, rfl⟩ := readClosing_eq_ok behind closed
      rw [List.takeWhile_append_of_pos (List.all_eq_true.mp tagged)] at parts ⊢
      refine ⟨tail, gap, after, by rw [String.toList_ofList]; exact here, ?_, by simp⟩
      rw [← parts, behind]
      rfl
    · cases read

/-- Whether what is consumed behind an opening tag is a text with the closing tag of its element,
and none of these tags stands earlier. -/
structure ClosesOwn (tag content consumed : List Char) : Prop where
  ends : ∃ gap, consumed = content ++ closingTag tag gap
  first : ∀ front gap rest, consumed = front ++ (closingTag tag gap ++ rest) →
    content.length ≤ front.length

/-- Where an element with plain text only stands in a source: its opening tag, and behind it what is
consumed for its text and for the tag that closes it. -/
structure StartTag.Consumes (start : StartTag) (source content opening consumed after : List Char) :
    Prop where
  stands : ∃ before, source = before ++ (opening ++ (consumed ++ after)) ∧
    start.location.offset = Text.byteLength before
  opens : start.IsReadAt ⟨opening ++ (consumed ++ after), start.location⟩ opening.length
  read : Lexeme.read ⟨opening ++ (consumed ++ after), start.location⟩ =
    .ok (.raw start (String.ofList content) (start.location.advance opening),
      (opening ++ consumed).length)

/-- A raw element consumes its tags and what is between them. -/
theorem exists_consumes_of_read {source : List Char} {cursor : Cursor} {start : StartTag}
    {content : String} {size more : Nat} (inside : cursor.IsIn source)
    (opens : start.IsReadAt cursor size)
    (inner : readRaw start.name start.location (cursor.advance size) = .ok (content, more))
    (read : Lexeme.read cursor =
      .ok (.raw start content (cursor.advance size).place, size + more)) :
    ∃ opening consumed after tail gap, start.Consumes source content.toList opening consumed after ∧
      (cursor.advance size).place = start.location.advance opening ∧
      Text.splitAt? (closingFront start.name.toList) (consumed ++ after) =
        some (content.toList, tail) ∧
      consumed =
        content.toList ++ closingTag (start.name.toList ++ tail.takeWhile isTagChar) gap := by
  obtain ⟨before, whole, offset⟩ := inside
  have tagged : start.name.toList.all isTagChar := by
    rw [opens.name, Cursor.toList_slice_run]
    exact List.all_takeWhile
  obtain ⟨tail, gap, after, first, closing, rfl⟩ := readRaw_eq_ok tagged inner
  have rest : cursor.rest.drop size =
      content.toList ++ closingTag (start.name.toList ++ tail.takeWhile isTagChar) gap ++
        after := by
    rw [List.append_assoc, ← closing]
    exact Text.eq_append_of_splitAt? first
  rw [Cursor.rest_advance, rest] at first
  have long : size ≤ cursor.rest.length := by
    by_contra short
    rw [List.drop_eq_nil_of_le (by omega)] at rest
    simp [closingTag, closingFront] at rest
  have length : (cursor.rest.take size).length = size := List.length_take_of_le long
  have parts : cursor.rest.take size ++
      (content.toList ++ closingTag (start.name.toList ++ tail.takeWhile isTagChar) gap ++ after) =
        cursor.rest := by
    rw [← rest, List.take_append_drop]
  have place : (cursor.advance size).place = start.location.advance (cursor.rest.take size) := by
    rw [Cursor.place_advance, opens.location]
  refine ⟨_, _, after, tail, gap,
    ⟨⟨before, by rw [parts]; exact whole, by rw [opens.location]; exact offset⟩, ?_, ?_⟩, place,
    first, rfl⟩
  · rw [parts, opens.location, length]
    exact opens
  · rw [parts, List.length_append, length, String.ofList_toList, ← place, opens.location]
    exact read

theorem isVoidTag_of_isRawTag {tag : String} (raw : isRawTag tag) : isVoidTag tag = false := by
  simp only [isRawTag, Bool.or_eq_true, beq_iff_eq] at raw
  rcases raw with rfl | rfl <;> decide

/-- An element with plain text only takes all up to the end of the closing tag that is read where
its text ends. -/
theorem exists_consumes {source : String} {forest children : List Node} {start : StartTag}
    (parsed : parse source = .ok forest) (held : .element start children ∈ insideAll forest)
    (raw : isRawTag start.name) (continues : start.selfClosing = false) :
    ∃ content opening consumed after tail gap,
      start.Consumes source.toList content opening consumed after ∧
      children = rawChildren (String.ofList content) (start.location.advance opening) ∧
      Text.splitAt? (closingFront start.name.toList) (consumed ++ after) = some (content, tail) ∧
      consumed = content ++ closingTag (start.name.toList ++ tail.takeWhile isTagChar) gap := by
  obtain ⟨lexeme, made, cursor, count, inside, _, read⟩ := exists_isRead_of_parse parsed held
  have found := Lexeme.found_of_read read
  cases made with
  | leaf =>
    cases found with
    | leaf _ leaf => simp [StartTag.isLeaf, continues, isVoidTag_of_isRawTag raw] at leaf
  | opening =>
    cases found with
    | opening _ _ parsed => exact absurd raw parsed
  | raw _ content =>
    cases found with
    | raw opens _ _ inner =>
      obtain ⟨opening, consumed, after, tail, gap, consumes, place, first, closing⟩ :=
        exists_consumes_of_read inside opens inner read
      refine ⟨_, opening, consumed, after, tail, gap, consumes, ?_, first, closing⟩
      rw [String.ofList_toList, place]

/-- A closing tag is that of an element if its name does not go on behind that of the element. -/
theorem closesOwn_iff {tag content consumed after tail : List Char} {gap : Text.Gap}
    (first : Text.splitAt? (closingFront tag) (consumed ++ after) = some (content, tail))
    (closing : consumed = content ++ closingTag (tag ++ tail.takeWhile isTagChar) gap) :
    ClosesOwn tag content consumed ↔ Text.Stops isTagChar tail := by
  constructor
  · rintro ⟨⟨blanks, whole⟩, _⟩
    rw [closing, List.append_cancel_left_eq] at whole
    have names : tail.takeWhile isTagChar ++ (gap.chars ++ ['>']) =
        [] ++ (blanks.chars ++ ['>']) := by
      simpa [closingTag, closingFront] using whole
    obtain ⟨nothing, _⟩ :=
      Text.append_inj_of_stops List.all_takeWhile (stops_gap gap []) rfl (stops_gap blanks []) names
    exact Text.takeWhile_eq_nil_iff.mp nothing
  · intro stops
    rw [Text.takeWhile_eq_nil_iff.mpr stops, List.append_nil] at closing
    refine ⟨⟨gap, closing⟩, fun front other rest earlier => ?_⟩
    have stands : consumed ++ after =
        front ++ (closingFront tag ++ (other.chars ++ ['>'] ++ rest ++ after)) := by
      rw [earlier]
      simp [closingTag]
    exact Text.le_length_of_splitAt? first stands

/-- An element with plain text only takes all up to the end of a closing tag, and has what is before
this tag as its text. The tag is read at the first place behind the opening tag where the closing
tag of the element seems to start. It is the tag of the element, and the first one, exactly if the
name of the element is followed there by a character that no tag has. -/
theorem rawElement_closes_iff {file : Option String} {source : String} {forest children : List Node}
    {start : StartTag} (parsed : parseFile file source = .ok forest)
    (held : .element start children ∈ insideAll forest) (raw : isRawTag start.name)
    (continues : start.selfClosing = false) :
    ∃ content opening consumed after tail,
      start.Consumes source.toList content opening consumed after ∧
      children = rawChildren (String.ofList content) (start.location.advance opening) ∧
      consumed ++ after = content ++ (closingFront start.name.toList ++ tail) ∧
      (∀ front rest, consumed ++ after = front ++ (closingFront start.name.toList ++ rest) →
        content.length ≤ front.length) ∧
      (∃ gap, consumed =
        content ++ closingTag (start.name.toList ++ tail.takeWhile isTagChar) gap) ∧
      (ClosesOwn start.name.toList content consumed ↔ Text.Stops isTagChar tail) := by
  obtain ⟨content, opening, consumed, after, tail, gap, consumes, text, first, closing⟩ :=
    exists_consumes (parse_of_parseFile_ok parsed) held raw continues
  exact ⟨content, opening, consumed, after, tail, consumes, text, Text.eq_append_of_splitAt? first,
    fun front rest => Text.le_length_of_splitAt? first, ⟨gap, closing⟩, closesOwn_iff first closing⟩

/-- What holds behind every piece of a source holds behind the closing tag of an element. -/
theorem StartTag.Consumes.holds_behind {start : StartTag}
    {source content opening consumed after piece tail : List Char} {kind : List Char → Bool}
    (consumes : start.Consumes source content opening consumed after)
    (parts : consumed ++ after = content ++ (piece ++ tail))
    (everywhere : source.tails.all fun rest => (Text.after? piece rest).all kind) : kind tail := by
  obtain ⟨before, whole, _⟩ := consumes.stands
  have suffix : piece ++ tail <:+ source :=
    ⟨before ++ (opening ++ content), by rw [whole, parts]; simp⟩
  have found := List.all_eq_true.mp everywhere _ ((List.mem_tails _ _).mpr suffix)
  rw [Text.after?_eq_some_iff.mpr rfl] at found
  exact found

/-- A script with a string that looks like the closing tag of another element. -/
def scriptedPage : String :=
  "<script a>b = '</p>' </script ><p></p>"

theorem scriptedPage_closes :
    ∃ forest start children content opening consumed after,
      parseFile none scriptedPage = .ok forest ∧
      .element start children ∈ insideAll forest ∧ isRawTag start.name ∧ start.selfClosing = false ∧
      start.Consumes scriptedPage.toList content opening consumed after ∧
      children = rawChildren (String.ofList content) (start.location.advance opening) ∧
      ClosesOwn start.name.toList content consumed := by
  have read : (parseFile none scriptedPage).toOption.map (fun forest => (startsAll forest).head?) =
      some (some ⟨"script", [⟨"a", none, ⟨1, 9, 8⟩⟩], false, ⟨1, 1, 0⟩⟩) := by
    decide +kernel
  have stops : scriptedPage.toList.tails.all fun rest =>
      (Text.after? (closingFront "script".toList) rest).all fun tail =>
        (tail.takeWhile isTagChar).isEmpty := by
    decide +kernel
  obtain ⟨forest, parsed, starts⟩ := exists_ok_of_toOption read
  obtain ⟨children, held⟩ := mem_startsAll.mp (List.mem_of_head? starts)
  obtain ⟨content, opening, consumed, after, tail, consumes, text, parts, _, _, closes⟩ :=
    rawElement_closes_iff parsed held rfl rfl
  have ends := consumes.holds_behind parts stops
  exact ⟨forest, _, children, content, opening, consumed, after, parsed, held, rfl, rfl, consumes,
    text, closes.mpr (Text.takeWhile_eq_nil_iff.mp (List.isEmpty_iff.mp ends))⟩

/-- A script that is closed by the tag of another element. -/
def longerName : String :=
  "<script>a</scripts>"

/-- The name of the closing tag goes on behind that of the element, and the source is parsed. -/
theorem longerName_closes :
    ∃ forest start children content opening consumed after, parseFile none longerName = .ok forest ∧
      .element start children ∈ insideAll forest ∧ isRawTag start.name ∧ start.selfClosing = false ∧
      start.Consumes longerName.toList content opening consumed after ∧
      children = rawChildren (String.ofList content) (start.location.advance opening) ∧
      ¬ ClosesOwn start.name.toList content consumed := by
  have read : (parseFile none longerName).toOption.map (fun forest => (startsAll forest).head?) =
      some (some ⟨"script", [], false, ⟨1, 1, 0⟩⟩) := by
    decide +kernel
  have goesOn : longerName.toList.tails.all fun rest =>
      (Text.after? (closingFront "script".toList) rest).all fun tail =>
        !(tail.takeWhile isTagChar).isEmpty := by
    decide +kernel
  obtain ⟨forest, parsed, starts⟩ := exists_ok_of_toOption read
  obtain ⟨children, held⟩ := mem_startsAll.mp (List.mem_of_head? starts)
  obtain ⟨content, opening, consumed, after, tail, gap, consumes, text, first, closing⟩ :=
    exists_consumes (parse_of_parseFile_ok parsed) held rfl rfl
  have longer := consumes.holds_behind (Text.eq_append_of_splitAt? first) goesOn
  refine ⟨forest, _, children, content, opening, consumed, after, parsed, held, rfl, rfl, consumes,
    text, fun own => ?_⟩
  rw [Text.takeWhile_eq_nil_iff.mpr ((closesOwn_iff first closing).mp own)] at longer
  cases longer

end Markup

end RenderTemplate
