import Mathlib.Data.List.Nodup
import RenderTemplate.Proofs.Scanning

namespace RenderTemplate.Markup

namespace Cursor

theorem advance_append (front rest : List Char) (place : Location) :
    (⟨front ++ rest, place⟩ : Cursor).advance front.length = ⟨rest, place.advance front⟩ := by
  simp [advance]

theorem slice_append (front rest : List Char) (place : Location) :
    (⟨front ++ rest, place⟩ : Cursor).slice front.length = String.ofList front := by
  simp [slice]

theorem advance_cons (c : Char) (rest : List Char) (place : Location) :
    (⟨c :: rest, place⟩ : Cursor).advance 1 = ⟨rest, place.step c⟩ := by
  simp [advance]

theorem advance_cons_add (c : Char) (rest : List Char) (place : Location) (count : Nat) :
    (⟨c :: rest, place⟩ : Cursor).advance (1 + count) =
      (⟨rest, place.step c⟩ : Cursor).advance count := by
  rw [← advance_advance, advance_cons]

theorem advance_zero (cursor : Cursor) : cursor.advance 0 = cursor := by
  simp [advance]

theorem run_cons {test : Char → Bool} {c : Char} (stop : test c = false) (rest : List Char)
    (place : Location) :
    (⟨c :: rest, place⟩ : Cursor).run test = 0 := by
  simp [run, stop]

theorem run_eq_zero {test : Char → Bool} {chars : List Char}
    (stop : ∀ c ∈ chars.head?, test c = false) (place : Location) :
    (⟨chars, place⟩ : Cursor).run test = 0 := by
  cases chars with
  | nil => rfl
  | cons c rest => exact run_cons (stop c rfl) rest place

/-- A word is run over up to the first character that does not belong to it. -/
theorem run_append {test : Char → Bool} {word tail : List Char} (inner : ∀ c ∈ word, test c)
    (stop : ∀ c ∈ tail.head?, test c = false) (place : Location) :
    (⟨word ++ tail, place⟩ : Cursor).run test = word.length := by
  have nothing := run_eq_zero stop place
  simp only [run] at nothing ⊢
  rw [List.takeWhile_append_of_pos inner, List.length_append, nothing, Nat.add_zero]

theorem rest_advance_run (cursor : Cursor) (test : Char → Bool) :
    (cursor.advance (cursor.run test)).rest = cursor.rest.dropWhile test := by
  have parts : cursor.rest.takeWhile test ++ cursor.rest.dropWhile test = cursor.rest :=
    List.takeWhile_append_dropWhile
  calc (cursor.advance (cursor.run test)).rest
      = (cursor.rest.takeWhile test ++ cursor.rest.dropWhile test).drop (cursor.run test) := by
        rw [parts, rest_advance]
    _ = cursor.rest.dropWhile test := List.drop_left

end Cursor

/-- What ends an attribute: nothing that could be more of its name, or the sign before its value. -/
structure EndsAttribute (tail : List Char) : Prop where
  name : ∀ c ∈ tail.head?, isAttributeChar c = false
  sign : (tail.dropWhile Text.isBlankChar).head? ≠ some '='

/-- A value is read between quotes, if the quotes in it are in braces only. -/
theorem readValue_quoted {value : String} {parts : List Part}
    (read : Part.split value.toList = .ok parts)
    (unquoted : ∀ text, Part.literal text ∈ parts → '"' ∉ text.toList) (name : String)
    (tail : List Char) (place : Location) :
    readValue name ⟨'"' :: (value.toList ++ '"' :: tail), place⟩ =
      .ok (value, value.toList.length + 2) := by
  have found := quotedLength_append read unquoted (by decide) tail
  simp only [readValue, found, Cursor.advance_cons, Cursor.slice_append, String.ofList_toList]
  rfl

theorem readAttribute_print {found : Attribute} (canonical : found.IsCanonical) {tail : List Char}
    (ends : EndsAttribute tail) (tag : String) (place : Location) :
    readAttribute tag ⟨found.print ++ tail, place⟩ =
      .ok ({ found with location := place }, found.print.length) := by
  obtain ⟨name, value, location⟩ := found
  have nonempty : name.toList.length ≠ 0 := by
    simpa using canonical.named
  cases value with
  | none =>
    have word := Cursor.run_append (List.all_eq_true.mp canonical.readable) ends.name place
    simp only [Attribute.print, List.append_nil, readAttribute, word, if_neg nonempty,
      Cursor.slice_append, Cursor.advance_append, String.ofList_toList, Cursor.rest_advance_run]
    split
    · next rest signed => exact absurd (by rw [signed]; rfl) ends.sign
    · rfl
  | some value =>
    obtain ⟨parts, read, unquoted⟩ := canonical.quotable value rfl
    have signed : ∀ c ∈ ('=' :: '"' :: (value.toList ++ '"' :: tail)).head?, isAttributeChar c =
        false := by
      rintro _ ⟨⟩
      decide
    have word := Cursor.run_append (List.all_eq_true.mp canonical.readable) signed place
    have gap :=
      Cursor.run_cons (show Text.isBlankChar '=' = false by decide)
      ('"' :: (value.toList ++ '"' :: tail))
    have space :=
      Cursor.run_cons (show Text.isBlankChar '"' = false by decide) (value.toList ++ '"' :: tail)
    simp only [Attribute.print, List.append_assoc, List.cons_append, List.nil_append, readAttribute,
      word, if_neg nonempty, Cursor.slice_append, Cursor.advance_append, String.ofList_toList, gap,
      Nat.zero_add, Cursor.advance_cons, Cursor.advance_zero, space, readValue_quoted read unquoted]
    simp only [List.length_append, List.length_cons, List.length_nil]
    congr 2
    omega

theorem EndsAttribute.of_ending (selfClosing : Bool) (rest : List Char) :
    EndsAttribute (StartTag.ending selfClosing ++ rest) := by
  cases selfClosing with
  | false => exact ⟨by rintro _ ⟨⟩; decide, by simp [StartTag.ending, Text.isBlankChar]⟩
  | true => exact ⟨by rintro _ ⟨⟩; decide, by simp [StartTag.ending, Text.isBlankChar]⟩

theorem Attribute.IsCanonical.exists_cons {found : Attribute} (canonical : found.IsCanonical) :
    ∃ c rest, found.print = c :: rest ∧ isAttributeChar c := by
  obtain ⟨c, rest, front⟩ :=
    List.exists_cons_of_ne_nil fun empty => canonical.named (String.toList_eq_nil_iff.mp empty)
  refine ⟨c, _, by rw [Attribute.print, front, List.cons_append],
    List.all_eq_true.mp canonical.readable c ?_⟩
  rw [front]
  exact List.mem_cons_self

theorem EndsAttribute.of_attribute {found : Attribute} (canonical : found.IsCanonical)
    (rest : List Char) :
    EndsAttribute (' ' :: (found.print ++ rest)) := by
  obtain ⟨c, more, front, first⟩ := canonical.exists_cons
  simp only [isAttributeChar, Bool.and_eq_true, Bool.not_eq_true', bne_iff_ne] at first
  refine ⟨by rintro _ ⟨⟩; decide, ?_⟩
  rw [front, List.dropWhile_cons_of_pos (by decide)]
  simp [first]

/-- An attribute ends where the next one or the end of the tag starts. -/
theorem endsAttribute_printAttributes {attributes : List Attribute}
    (each : ∀ found ∈ attributes, found.IsCanonical) (selfClosing : Bool) (rest : List Char) :
    EndsAttribute (printAttributes attributes ++ (StartTag.ending selfClosing ++ rest)) := by
  cases attributes with
  | nil => exact .of_ending selfClosing rest
  | cons found more =>
    simp only [printAttributes, List.flatMap_cons, List.cons_append, List.append_assoc]
    exact .of_attribute (each found List.mem_cons_self) _

theorem readAttributes_ending (tag : String) (location : Location) (found : List Attribute)
    (selfClosing : Bool) (rest : List Char) (place : Location) :
    readAttributes tag location ⟨StartTag.ending selfClosing ++ rest, place⟩ found =
      .ok (found.reverse, selfClosing, (StartTag.ending selfClosing).length) := by
  have gap : (⟨StartTag.ending selfClosing ++ rest, place⟩ : Cursor).run Text.isBlankChar = 0 := by
    refine Cursor.run_eq_zero ?_ place
    cases selfClosing <;> (rintro _ ⟨⟩; decide)
  rw [readAttributes]
  dsimp only
  split
  · next empty =>
    rw [gap, Cursor.advance_zero] at empty
    cases selfClosing <;> cases empty
  · next c more front =>
    rw [gap, Cursor.advance_zero] at front
    rw [gap]
    cases selfClosing <;> cases front <;> simp [StartTag.ending]

/-- An attribute is read in front of the others, and its name must be new. -/
theorem readAttributes_cons {tag : String} {found : List Attribute} {cursor : Cursor} {c : Char}
    {rest : List Char} {next : Attribute} {count : Nat} {read : List Attribute × Bool × Nat}
    (front : cursor.rest = ' ' :: c :: rest) (first : isAttributeChar c)
    (here : readAttribute tag (cursor.advance 1) = .ok (next, count))
    (fresh : next.name ∉ found.map (·.name)) (location : Location)
    (later : readAttributes tag location (cursor.advance (1 + count)) (next :: found) = .ok read) :
    readAttributes tag location cursor found = .ok (read.1, read.2.1, 1 + count + read.2.2) := by
  simp only [isAttributeChar, Bool.and_eq_true, Bool.not_eq_true', bne_iff_ne] at first
  have gap : cursor.run Text.isBlankChar = 1 := by
    rw [Cursor.run, front, List.takeWhile_cons_of_pos (by decide),
      List.takeWhile_cons_of_neg (by simp [first])]
    rfl
  rw [readAttributes]
  dsimp only
  split
  · next empty => simp [gap, front] at empty
  · next d more split =>
    rw [gap, Cursor.rest_advance, front] at split
    cases split
    rw [if_neg (by simp [first]), if_neg (by simp [first])]
    split
    · next failed =>
      rw [gap, here] at failed
      contradiction
    · next other size known =>
      rw [gap, here] at known
      cases known
      have distinct : ¬ found.any (·.name == next.name) := by
        simpa [List.any_eq_true] using fresh
      rw [if_neg distinct, gap, Cursor.advance_advance, later]

/-- The attributes of a printed tag are read back, at the places where they stand now. -/
theorem readAttributes_print {attributes : List Attribute}
    (each : ∀ found ∈ attributes, found.IsCanonical) {found : List Attribute}
    (distinct : ((found ++ attributes).map (·.name)).Nodup) (tag : String) (location : Location)
    (selfClosing : Bool) (rest : List Char) (place : Location) :
    ∃ placed, placed.map (·.unplaced) = attributes.map (·.unplaced) ∧
      readAttributes tag location ⟨printAttributes attributes ++
        (StartTag.ending selfClosing ++ rest), place⟩ found =
        .ok (found.reverse ++ placed, selfClosing,
          (printAttributes attributes ++ StartTag.ending selfClosing).length) := by
  induction attributes generalizing found place with
  | nil =>
    have read := readAttributes_ending tag location found selfClosing rest place
    exact ⟨[], rfl, by simpa [printAttributes] using read⟩
  | cons next more ih =>
    have canonical := each next List.mem_cons_self
    have others : ∀ found ∈ more, found.IsCanonical :=
      fun found held => each found (List.mem_cons_of_mem next held)
    have ends := endsAttribute_printAttributes others selfClosing rest
    let here : Attribute := { next with location := place.step ' ' }
    have unique : (here.name :: (found.map (·.name) ++ more.map (·.name))).Nodup :=
      List.nodup_middle.mp (by simpa using distinct)
    have fresh : here.name ∉ found.map (·.name) := fun held =>
      (List.nodup_cons.mp unique).1 (List.mem_append_left _ held)
    have distinctLater : ((here :: found ++ more).map (·.name)).Nodup := by simpa using unique
    obtain ⟨placed, same, later⟩ := ih others distinctLater ((place.step ' ').advance next.print)
    obtain ⟨c, word, front, first⟩ := canonical.exists_cons
    let following := printAttributes more ++ (StartTag.ending selfClosing ++ rest)
    have read : readAttribute tag ((⟨' ' :: (next.print ++ following), place⟩ : Cursor).advance 1) =
        .ok (here, next.print.length) := by
      rw [Cursor.advance_cons]
      exact readAttribute_print canonical ends tag _
    have beyond :
        (⟨' ' :: (next.print ++ following), place⟩ : Cursor).advance (1 + next.print.length) =
        ⟨following, (place.step ' ').advance next.print⟩ := by
      rw [← Cursor.advance_advance, Cursor.advance_cons, Cursor.advance_append]
    have source : printAttributes (next :: more) ++ (StartTag.ending selfClosing ++ rest) =
        ' ' :: (next.print ++ following) := by
      simp [printAttributes, following]
    have whole :=
      readAttributes_cons (by rw [front]; rfl) first read fresh location (beyond ▸ later)
    refine ⟨here :: placed, by simpa [here, Attribute.unplaced] using same, ?_⟩
    rw [source, whole]
    simp [printAttributes]
    omega

/-- What the name of a tag starts with. -/
theorem exists_cons_of_isTagName {name : List Char} (tag : isTagName name) :
    ∃ c rest, name = c :: rest ∧ (c.isAlpha ∨ c = '_' ∨ c = '$') := by
  match name, tag with
  | c :: rest, tag => exact ⟨c, rest, rfl, by simp_all [isTagName, or_assoc]⟩

theorem isTagChar_of_isTagName {name : List Char} (tag : isTagName name) :
    ∀ c ∈ name, isTagChar c := by
  match name, tag with
  | first :: rest, tag =>
    simp only [isTagName, Bool.and_eq_true, List.all_eq_true] at tag
    intro c held
    rcases List.mem_cons.mp held with rfl | later
    · have start := tag.1
      simp only [Bool.or_eq_true, beq_iff_eq] at start
      rcases start with (letter | rfl) | rfl
      · simp [isTagChar, Char.isAlphanum, letter]
      · decide
      · decide
    · exact tag.2 c later

theorem readClosing_print {start : StartTag} (tag : isTagName start.name.toList) (rest : List Char)
    (place : Location) :
    readClosing ⟨start.printClosing ++ rest, place⟩ =
      .ok (start.name, start.printClosing.length) := by
  have stop : ∀ c ∈ ('>' :: rest).head?, isTagChar c = false := by
    rintro _ ⟨⟩
    decide
  have word := Cursor.run_append (isTagChar_of_isTagName tag) stop
  have gap := Cursor.run_cons (show Text.isBlankChar '>' = false by decide) rest
  have opened : (⟨start.printClosing ++ rest, place⟩ : Cursor).advance 2 =
      ⟨start.name.toList ++ '>' :: rest, (place.step '<').step '/'⟩ := by
    simp [StartTag.printClosing, Cursor.advance]
  simp only [readClosing, ← Cursor.advance_advance, opened, word, Cursor.slice_append,
    Cursor.advance_append, gap, Cursor.advance_zero, String.ofList_toList]
  simp [StartTag.printClosing]
  omega

/-- Raw content is read up to its end tag, which must not occur in it. -/
theorem readRaw_print {start : StartTag} {content : String} (tag : isTagName start.name.toList)
    (raw : isRawTag start.name) (unclosed : ¬ ('<' :: '/' :: start.name.toList) <:+: content.toList)
    (location : Location) (rest : List Char) (place : Location) :
    readRaw start.name location ⟨content.toList ++ (start.printClosing ++ rest), place⟩ =
      .ok (content, (content.toList ++ start.printClosing).length) := by
  have unbordered : Text.Unbordered ('<' :: '/' :: start.name.toList) := by
    simp only [isRawTag, Bool.or_eq_true, beq_iff_eq] at raw
    rcases raw with same | same <;> rw [same] <;> decide
  have found := Text.splitAt?_append unbordered unclosed ('>' :: rest)
  have source : start.printClosing ++ rest = ('<' :: '/' :: start.name.toList) ++ '>' :: rest := by
    simp [StartTag.printClosing]
  have closing := readClosing_print tag rest (place.advance content.toList)
  simp only [readRaw, source, found]
  rw [← source, Cursor.advance_append, closing]
  simp

theorem isTagChar_head (attributes : List Attribute) (selfClosing : Bool) (rest : List Char) :
    ∀ c ∈ (printAttributes attributes ++ (StartTag.ending selfClosing ++ rest)).head?, isTagChar c =
      false := by
  cases attributes <;> cases selfClosing <;> (rintro _ ⟨⟩; decide)

/-- A printed start tag is read back, and what follows depends on its kind only. -/
theorem readOpening_print {start : StartTag} (canonical : start.IsCanonical) (rest : List Char)
    (place : Location) :
    ∃ placed : StartTag, placed.unplaced = start.unplaced ∧
      readOpening ⟨start.print ++ rest, place⟩ =
        if start.isLeaf then .ok (.leaf placed, start.print.length)
        else if isRawTag start.name then
          match readRaw start.name place ⟨rest, place.advance start.print⟩ with
          | .ok (text, more) =>
            .ok (.raw placed text (place.advance start.print), start.print.length + more)
          | .error error => .error error
        else .ok (.opening placed, start.print.length) := by
  have word := Cursor.run_append (isTagChar_of_isTagName canonical.tag)
    (isTagChar_head start.attributes start.selfClosing rest)
  have source : start.print ++ rest =
      '<' ::
        (start.name.toList ++
        (printAttributes start.attributes ++ (StartTag.ending start.selfClosing ++ rest))) := by
    simp [StartTag.print]
  have length : start.print.length =
      1 + start.name.toList.length +
        (printAttributes start.attributes ++ StartTag.ending start.selfClosing).length := by
    simp [StartTag.print]
    omega
  have distinct : (([] ++ start.attributes : List Attribute).map (·.name)).Nodup :=
    canonical.distinct
  obtain ⟨placed, same, read⟩ :=
    readAttributes_print canonical.attributes distinct start.name place start.selfClosing
    rest ((place.step '<').advance start.name.toList)
  refine ⟨⟨start.name, placed, start.selfClosing, place⟩, by simp [StartTag.unplaced, same], ?_⟩
  have beyond := Cursor.advance_append start.print rest place
  rw [length] at beyond ⊢
  rw [source] at beyond ⊢
  simp only [readOpening, Cursor.advance_cons, Cursor.advance_cons_add, word, Cursor.slice_append,
    Cursor.advance_append, String.ofList_toList, read, List.reverse_nil, List.nil_append, beyond]
  rfl

theorem startsMarkup_opening {c : Char} (first : c.isAlpha ∨ c = '_' ∨ c = '$') (rest : List Char) :
    startsMarkup ('<' :: c :: rest) := by
  rcases first with letter | rfl | rfl
  · simp [startsMarkup, letter]
  · rfl
  · rfl

theorem Lexeme.read_opening {c : Char} (first : c.isAlpha ∨ c = '_' ∨ c = '$') (rest : List Char)
    (place : Location) :
    Lexeme.read ⟨'<' :: c :: rest, place⟩ = readOpening ⟨'<' :: c :: rest, place⟩ := by
  have plain : c ≠ '!' ∧ c ≠ '/' ∧ c ≠ '?' := by
    refine ⟨?_, ?_, ?_⟩ <;> (rintro rfl; revert first; decide)
  unfold Lexeme.read
  split
  · next comment => simp_all
  · next closing => simp_all
  · rw [if_pos (startsMarkup_opening first rest), if_neg (by simp [plain])]

/-- A printed opening tag starts like one. -/
theorem StartTag.IsCanonical.exists_cons {start : StartTag} (canonical : start.IsCanonical) :
    ∃ c rest, start.print = '<' :: c :: rest ∧ (c.isAlpha ∨ c = '_' ∨ c = '$') := by
  obtain ⟨c, rest, front, first⟩ := exists_cons_of_isTagName canonical.tag
  exact ⟨c, _, by rw [StartTag.print, front, List.cons_append], first⟩

theorem Lexeme.read_print {start : StartTag} (canonical : start.IsCanonical) (rest : List Char)
    (place : Location) :
    Lexeme.read ⟨start.print ++ rest, place⟩ = readOpening ⟨start.print ++ rest, place⟩ := by
  obtain ⟨c, more, front, first⟩ := canonical.exists_cons
  rw [front]
  exact read_opening first (more ++ rest) place

theorem Lexeme.read_closing {start : StartTag} (tag : isTagName start.name.toList)
    (rest : List Char) (place : Location) :
    Lexeme.read ⟨start.printClosing ++ rest, place⟩ =
      .ok (.closing start.name place, start.printClosing.length) := by
  have read := readClosing_print tag rest place
  unfold Lexeme.read
  split
  · next comment => simp [StartTag.printClosing] at comment
  · rw [read]
  · next other => exact absurd rfl (other _)

/-- A comment is read back if it does not contain its own end. -/
theorem Lexeme.read_comment {value : String} (unclosed : ¬ ['-', '-', '>'] <:+: value.toList)
    (location : Location) (rest : List Char) (place : Location) :
    Lexeme.read ⟨(Node.comment value location).print ++ rest, place⟩ =
      .ok (.comment value place, (Node.comment value location).print.length) := by
  have found := Text.splitAt?_append (by decide) unclosed rest
  simp only [List.cons_append, List.nil_append] at found
  simp only [Node.print, Lexeme.read, List.cons_append, List.append_assoc, List.nil_append, found]
  simp

/-- The first character of a printed text. -/
theorem head_print {parts : List Part} (nonempty : parts ≠ [])
    (each : ∀ part ∈ parts, part.IsCanonical) :
    ∃ c rest, parts.flatMap Part.print = c :: rest ∧ c ≠ '<' := by
  obtain ⟨part, more, rfl⟩ := List.exists_cons_of_ne_nil nonempty
  obtain ⟨c, rest, front⟩ :=
    List.exists_cons_of_ne_nil (Part.print_ne_nil (each part List.mem_cons_self))
  refine ⟨c, _, by rw [List.flatMap_cons, front, List.cons_append], ?_⟩
  rintro rfl
  cases part with
  | literal text =>
    rw [Part.print] at front
    exact (Text.escape_harmless text.toList).2 (front ▸ List.mem_cons_self)
  | expression code => cases front

theorem Lexeme.read_text {parts : List Part} (nonempty : parts ≠ [])
    (each : ∀ part ∈ parts, part.IsCanonical)
    (apart : parts.IsChain fun part next => ¬(part.isLiteral ∧ next.isLiteral)) {rest : List Char}
    (ends : EndsText rest) (place : Location) :
    Lexeme.read ⟨parts.flatMap Part.print ++ rest, place⟩ =
      .ok (.text parts place, (parts.flatMap Part.print).length) := by
  obtain ⟨c, more, front, other⟩ := head_print nonempty each
  have quiet := startsMarkup_of_ne other (more ++ rest)
  have length := textLength_parts each ends
  rw [← textLength_first (by rw [front]; simpa using other)] at length
  have parsed : readText ⟨parts.flatMap Part.print ++ rest, place⟩ =
      .ok (.text parts place, (parts.flatMap Part.print).length) := by
    simp [readText, length, Part.split_print each apart, Function.comp_def, decodePart_escaped]
  rw [front] at parsed ⊢
  unfold Lexeme.read
  split
  · next comment => simp_all
  · next closing => simp_all
  · rw [← parsed, List.cons_append, if_neg (by simp [quiet])]

end RenderTemplate.Markup
