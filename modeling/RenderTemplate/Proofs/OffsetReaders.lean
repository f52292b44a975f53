import RenderTemplate.Proofs.ByteScans

namespace RenderTemplate.Markup

namespace ByOffset

/-- Whether the text before a cursor does not end in a slash. -/
def NoSlashBefore (source : String) (cursor : Cursor) : Prop :=
  ∀ front, source.toList = front ++ cursor.rest → front.getLast? ≠ some '/'

section

variable {source : String} {cursor : Cursor} (inside : cursor.IsOf source)

include inside

/-- There is something to read where the cursor has a character. -/
theorem offset_lt {c : Char} {tail : List Char} (parts : cursor.rest = c :: tail) :
    cursor.place.offset < Text.byteLength source.toList := by
  have positive := c.utf8Size_pos
  rw [← inside.offset_add_rest, parts, Text.byteLength_cons]
  omega

/-- A quoted value is read the same from the offset as from the cursor. -/
theorem readQuoted_eq {quote : Char} {tail : List Char} (parts : cursor.rest = quote :: tail)
    (quoted : quote = '"' ∨ quote = '\'') (name : String) {rounds : Nat}
    (enough : Text.byteLength tail < rounds) :
    readQuoted source rounds quote name cursor.place.offset =
      follow cursor (Markup.readValue name cursor) := by
  have short : quote.toNat ≤ 127 := by
    rcases quoted with rfl | rfl <;> decide
  have behind := Cursor.rest_advance_one parts
  rw [readQuoted, Cursor.offset_add_one parts short, inside.advanceTo_eq, ok_bind,
    scan_quoted (inside.advance 1) short behind enough, Markup.readValue, parts]
  dsimp only
  rw [if_pos quoted]
  rcases found : quotedLength quote tail with (_ | count) | count
  · rw [followScan, ok_bind, if_neg (Nat.lt_irrefl _), fail, inside.ofOffset_eq]
    rfl
  · rw [followScan, error_bind, Cursor.advance_advance, Nat.add_comm 1]
    rfl
  · obtain ⟨rest, around⟩ := drop_quotedLength found
    have closes : ((cursor.advance 1).advance count).rest = quote :: rest := by
      rw [Cursor.rest_advance, behind, around]
    have next := Cursor.offset_add_one closes short
    rw [Cursor.advance_advance _ count] at next
    rw [followScan, ok_bind, if_pos (offset_lt ((inside.advance 1).advance count) closes),
      (inside.advance 1).between_eq, ok_bind, next, (inside.advance 1).advanceTo_eq, ok_bind,
      Cursor.advance_advance, Nat.add_comm 1, Nat.add_assoc]
    rfl

/-- A slash that ends a tag is put back, and it is found by looking at the bytes before and behind
the offset. -/
theorem putBack_eq (before : NoSlashBefore source cursor) (count : Nat) :
    putBack source (cursor.advance count).place.offset =
      .ok (if (cursor.rest.take count).getLast? = some '/' ∧
        (cursor.advance count).rest.head? = some '>' then
        (cursor.advance (count - 1)).place.offset else (cursor.advance count).place.offset) := by
  obtain ⟨front, whole, offset⟩ := inside.isIn
  have last : (front ++ cursor.rest.take count).getLast? = some '/' ↔
      (cursor.rest.take count).getLast? = some '/' := by
    rw [List.getLast?_append]
    cases (cursor.rest.take count).getLast? with
    | none => simpa using before front whole
    | some c => simp
  have text : between source 0 (cursor.advance count).place.offset =
      .ok (front ++ cursor.rest.take count) := by
    have parts : source.toList = front ++ cursor.rest.take count ++ (cursor.rest.drop count) := by
      rw [List.append_assoc, List.take_append_drop, whole]
    have bytes : (cursor.advance count).place.offset =
        Text.byteLength (front ++ cursor.rest.take count) := by
      rw [Cursor.place_advance, Location.offset_advance, Text.byteLength_append, offset]
    rw [bytes]
    exact between_start parts
  rw [putBack, text, ok_bind, (inside.advance count).onward_eq, ok_bind]
  simp only [last]
  split
  · next both =>
    rw [← Cursor.offset_advance_pred both.1 (by decide) both.2, Nat.add_sub_cancel]
    rfl
  · rfl

/-- A value in braces or quotes does not end in a slash. -/
theorem putBack_closed (before : NoSlashBefore source cursor) {count : Nat} {c : Char}
    (last : (cursor.rest.take count).getLast? = some c) (other : c ≠ '/') :
    putBack source (cursor.advance count).place.offset =
      .ok (cursor.advance count).place.offset := by
  rw [putBack_eq inside before, last, if_neg fun both => other (Option.some.inj both.1)]

theorem readValue_quoted_eq (before : NoSlashBefore source cursor) {quote : Char} {tail : List Char}
    (parts : cursor.rest = quote :: tail) (quoted : quote = '"' ∨ quote = '\'') (name : String)
    {rounds : Nat} (enough : Text.byteLength tail < rounds) :
    readValue source rounds name cursor.place.offset =
      follow cursor (Markup.readValue name cursor) := by
  have found : valueAt source rounds name cursor.place.offset =
      follow cursor (Markup.readValue name cursor) := by
    rw [valueAt, inside.onward_eq, ok_bind, parts, List.head?_cons]
    dsimp only
    rw [if_pos quoted, readQuoted_eq inside parts quoted name enough]
  rw [readValue, found]
  cases read : Markup.readValue name cursor with
  | error error => rfl
  | ok result =>
    obtain ⟨value, count⟩ := result
    have last := getLast?_quoted parts quoted read
    rw [follow, ok_bind,
      putBack_closed inside before last (by rcases quoted with rfl | rfl <;> decide), ok_bind]
    rfl

theorem readValue_eq (before : NoSlashBefore source cursor) (name : String)
    {rounds : Nat} (enough : Text.byteLength cursor.rest < rounds) :
    readValue source rounds name cursor.place.offset =
      follow cursor (Markup.readValue name cursor) := by
  cases parts : cursor.rest with
  | nil =>
    have nothing := putBack_eq inside before 0
    rw [Cursor.advance_zero, parts, if_neg fun both => nomatch both.1] at nothing
    have found : valueAt source rounds name cursor.place.offset =
        .ok ("", cursor.place.offset) := by
      rw [valueAt, inside.onward_eq, ok_bind, parts]
      rfl
    rw [readValue, found, ok_bind, nothing, ok_bind, Markup.readValue, parts]
    dsimp only
    rw [follow, Cursor.advance_zero]
    rfl
  | cons c rest =>
    rw [parts, Text.byteLength_cons] at enough
    by_cases quoted : c = '"' ∨ c = '\''
    · exact readValue_quoted_eq inside before parts quoted name (by omega)
    rw [readValue, valueAt, inside.onward_eq, ok_bind, parts, Markup.readValue, parts,
      List.head?_cons]
    dsimp only
    rw [if_neg quoted, if_neg quoted]
    by_cases brace : c = '{'
    · subst brace
      rw [if_pos rfl, if_pos rfl, endAt?_offset inside, parts]
      cases closed : Braces.length? ('{' :: rest) with
      | none =>
        rw [Option.map_none, fail, inside.ofOffset_eq]
        rfl
      | some count =>
        have last : (cursor.rest.take count).getLast? = some '}' := by
          obtain ⟨body, after, group, rfl, _⟩ := Braces.Scan.exists_group_of_close? closed
          rw [parts, group, List.getLast?_take, if_neg (Nat.succ_ne_zero _), Nat.add_sub_cancel,
            ← List.head?_drop, List.drop_left]
          rfl
        rw [Option.map_some]
        dsimp only
        rw [inside.advanceTo_eq, ok_bind, inside.between_eq, ok_bind, pure_eq, ok_bind,
          putBack_closed inside before last (by decide)]
        rfl
    · have taken : cursor.rest.take (cursor.run isValueChar) =
          (c :: rest).takeWhile isValueChar := by
        rw [← parts, ← Cursor.toList_slice_run, Cursor.slice, String.toList_ofList]
      have size : ((c :: rest).takeWhile isValueChar).length = cursor.run isValueChar := by
        rw [← parts, Cursor.run]
      rw [if_neg brace, if_neg brace, inside.word_eq, ok_bind, pure_eq, ok_bind,
        putBack_eq inside before, ok_bind, Cursor.toList_slice_run, taken, size, parts, follow,
        pure_eq]
      by_cases closes : ((c :: rest).takeWhile isValueChar).getLast? = some '/' ∧
          (cursor.advance (cursor.run isValueChar)).rest.head? = some '>'
      · rw [if_pos closes, if_pos (by simpa using closes)]
      · rw [if_neg closes, if_neg (by simpa using closes)]

/-- What stands before a value is an equals sign or a blank. -/
theorem noSlashBefore_value {tail : List Char} (parts : cursor.rest = '=' :: tail) :
    NoSlashBefore source
      ((cursor.advance 1).advance ((cursor.advance 1).run Text.isBlankChar)) := by
  intro front whole
  obtain ⟨earlier, begins, _⟩ := inside.isIn
  rw [Cursor.rest_advance_run, Cursor.rest_advance_one parts] at whole
  have same : front = earlier ++ '=' :: tail.takeWhile Text.isBlankChar := by
    rw [← List.append_left_inj (tail.dropWhile Text.isBlankChar), ← whole, begins, parts,
      List.append_assoc, List.cons_append, List.takeWhile_append_dropWhile]
  intro last
  have member : '/' ∈ '=' :: tail.takeWhile Text.isBlankChar := by
    rw [same, List.getLast?_append, List.getLast?_eq_some_getLast (List.cons_ne_nil _ _),
      Option.some_or, Option.some.injEq] at last
    rw [← last]
    exact List.getLast_mem _
  rcases List.mem_cons.mp member with sign | blank
  · cases sign
  · exact absurd (List.all_eq_true.mp List.all_takeWhile _ blank) (by decide)

theorem readAttribute_eq (tag : String) {rounds : Nat}
    (enough : Text.byteLength cursor.rest < rounds) :
    readAttribute source rounds tag cursor.place.offset =
      follow cursor (Markup.readAttribute tag cursor) := by
  rw [readAttribute, inside.word_eq, ok_bind, Markup.readAttribute]
  dsimp only
  have unnamed : (cursor.slice (cursor.run isAttributeChar)).isEmpty = true ↔
      cursor.run isAttributeChar = 0 := by
    rw [String.isEmpty_iff, ← String.toList_eq_nil_iff, Cursor.toList_slice_run, Cursor.run,
      List.length_eq_zero_iff]
  by_cases empty : cursor.run isAttributeChar = 0
  · rw [if_pos (unnamed.mpr empty), if_pos empty, fail, inside.ofOffset_eq]
    rfl
  rw [if_neg (mt unnamed.mp empty), if_neg empty, inside.ofOffset_eq]
  generalize cursor.run isAttributeChar = length
  have afterName := inside.advance length
  rw [afterName.skip_eq, ok_bind]
  generalize (cursor.advance length).run Text.isBlankChar = gap
  rw [(afterName.advance gap).onward_eq, ok_bind]
  split
  · next sign =>
    obtain ⟨tail, parts⟩ := List.head?_eq_some_iff.mp sign
    have before := noSlashBefore_value (afterName.advance gap) parts
    rw [Cursor.offset_add_one parts (by decide), (afterName.advance gap).advanceTo_eq, ok_bind,
      parts]
    rw [Cursor.advance_advance _ gap] at before ⊢
    have afterSign := afterName.advance (gap + 1)
    rw [afterSign.skip_eq, ok_bind]
    generalize ((cursor.advance length).advance (gap + 1)).run Text.isBlankChar = space at before ⊢
    have fewer : Text.byteLength (((cursor.advance length).advance (gap + 1)).advance space).rest ≤
        Text.byteLength cursor.rest := by
      rw [Cursor.advance_advance, Cursor.advance_advance]
      exact cursor.byteLength_rest_advance _
    rw [readValue_eq (afterSign.advance space) before _ (by omega)]
    cases Markup.readValue (cursor.slice length)
      (((cursor.advance length).advance (gap + 1)).advance space) with
    | error error => rfl
    | ok found =>
      rw [follow, ok_bind, Cursor.advance_advance, Cursor.advance_advance, Cursor.advance_advance,
        ← Nat.add_assoc (gap + 1)]
      rfl
  · next unsigned =>
    split
    · next signed => exact absurd (by rw [signed]; rfl) unsigned
    · rfl

theorem readClosing_eq {tail : List Char} (parts : cursor.rest = '<' :: '/' :: tail) :
    readClosing source cursor.place.offset = follow cursor (Markup.readClosing cursor) := by
  have start : cursor.place.offset + 2 = (cursor.advance 2).place.offset :=
    Cursor.offset_advance_append (show cursor.rest = ['<', '/'] ++ tail from parts)
  rw [readClosing, start, inside.advanceTo_eq, ok_bind, (inside.advance 2).word_eq, ok_bind,
    Markup.readClosing]
  dsimp only
  generalize (cursor.advance 2).run isTagChar = length
  rw [Cursor.advance_advance]
  have afterName := inside.advance (2 + length)
  rw [afterName.skip_eq, ok_bind]
  generalize (cursor.advance (2 + length)).run Text.isBlankChar = gap
  rw [(afterName.advance gap).onward_eq, ok_bind]
  split
  · next ends =>
    obtain ⟨rest, closes⟩ := List.head?_eq_some_iff.mp ends
    rw [Cursor.offset_add_one closes (by decide), (afterName.advance gap).advanceTo_eq, ok_bind,
      closes, Cursor.advance_advance, Cursor.advance_advance]
    rfl
  · next unclosed =>
    rw [fail, inside.ofOffset_eq]
    split
    · next closes => exact absurd (by rw [closes]; rfl) unclosed
    · rfl

theorem readRaw_eq (tag : String) (location : Location) :
    readRaw source tag location cursor.place.offset =
      follow cursor (Markup.readRaw tag location cursor) := by
  rw [readRaw, inside.onward_eq, ok_bind, Markup.readRaw]
  cases found : Text.splitAt? ('<' :: '/' :: tag.toList) cursor.rest with
  | none => rfl
  | some parts =>
    obtain ⟨content, after⟩ := parts
    have whole := Text.eq_append_of_splitAt? found
    have closes : (cursor.advance content.length).rest = '<' :: '/' :: (tag.toList ++ after) :=
      Cursor.rest_advance_append whole
    dsimp only
    rw [Cursor.offset_advance_append whole, inside.advanceTo_eq, ok_bind,
      readClosing_eq (inside.advance _) closes]
    cases Markup.readClosing (cursor.advance content.length) with
    | error error => rfl
    | ok closed =>
      rw [follow, ok_bind, Cursor.advance_advance]
      rfl

theorem readText_eq {rounds : Nat} (enough : Text.byteLength cursor.rest < rounds) :
    readText source rounds cursor.place.offset = follow cursor (Markup.readText cursor) := by
  rw [readText, scan_text inside rfl (Nat.le_refl _) (decide_eq_true rfl).symm enough,
    Markup.readText]
  rcases found : textLength true cursor.rest with (_ | count) | count
  · exact absurd found textLength_ne
  · rfl
  · obtain ⟨parts, read, _⟩ := split_textLength found
    rw [followScan, ok_bind, inside.between_eq, ok_bind, inside.advanceTo_eq, inside.ofOffset_eq]
    dsimp only
    rw [read]
    rfl

theorem readComment_eq {tail : List Char} (parts : cursor.rest = '<' :: '!' :: '-' :: '-' :: tail) :
    readComment source cursor.place.offset = follow cursor (Lexeme.read cursor) := by
  have start : cursor.place.offset + 4 = (cursor.advance 4).place.offset :=
    Cursor.offset_advance_append (show cursor.rest = ['<', '!', '-', '-'] ++ tail from parts)
  have behind : (cursor.advance 4).rest = tail :=
    Cursor.rest_advance_append (show cursor.rest = ['<', '!', '-', '-'] ++ tail from parts)
  unfold Lexeme.read
  split
  · next rest front =>
    obtain rfl : tail = rest := by simpa [parts] using front
    rw [readComment, start, (inside.advance 4).onward_eq, ok_bind, behind]
    cases found : Text.splitAt? ['-', '-', '>'] tail with
    | none =>
      rw [fail, inside.ofOffset_eq]
      rfl
    | some pieces =>
      obtain ⟨value, after⟩ := pieces
      have whole := behind.trans (Text.eq_append_of_splitAt? found)
      have ends := Cursor.rest_advance_append whole
      have next : ((cursor.advance 4).advance value.length).place.offset + 3 =
          (cursor.advance (value.length + 7)).place.offset := by
        refine (Cursor.offset_advance_append ends).trans ?_
        rw [Cursor.advance_advance, Cursor.advance_advance]
        congr 3
        simp only [List.length_cons, List.length_nil]
        omega
      dsimp only
      rw [Cursor.offset_advance_append whole, (inside.advance 4).between_eq, ok_bind, next,
        inside.advanceTo_eq, ok_bind, inside.ofOffset_eq, whole, List.take_left]
      rfl
  · next other => simp [parts] at other
  · next other _ => exact absurd parts (other tail)

theorem readDeclaration_eq {c : Char} {tail : List Char} (parts : cursor.rest = '<' :: c :: tail)
    (declares : c = '!' ∨ c = '?') (plain : ¬ ['<', '!', '-', '-'] <+: cursor.rest) :
    readDeclaration source cursor.place.offset = follow cursor (Lexeme.read cursor) := by
  unfold Lexeme.read
  split
  · next rest front => exact absurd ⟨rest, front.symm⟩ plain
  · next rest front =>
    rw [parts] at front
    cases front
    rcases declares with same | same <;> cases same
  · have starts : startsMarkup cursor.rest := by
      rw [parts]
      rcases declares with rfl | rfl <;> rfl
    have second : cursor.rest[1]? = some '!' ∨ cursor.rest[1]? = some '?' := by
      rw [parts]
      exact declares.imp (congrArg some) (congrArg some)
    rw [if_pos starts, if_pos second, readDeclaration, inside.onward_eq, ok_bind]
    cases found : Text.splitAt? ['>'] cursor.rest with
    | none =>
      rw [fail, inside.ofOffset_eq]
      rfl
    | some pieces =>
      obtain ⟨before, after⟩ := pieces
      have whole := Text.eq_append_of_splitAt? found
      have ends : (cursor.advance before.length).rest = '>' :: after :=
        Cursor.rest_advance_append whole
      dsimp only
      rw [Cursor.offset_advance_append whole, Cursor.offset_add_one ends (by decide),
        Cursor.advance_advance, inside.advanceTo_eq, ok_bind]
      rfl

end

/-- What is no comment, closing tag or declaration is an opening tag or text. -/
theorem read_of_not {cursor : Cursor} (plain : ¬ ['<', '!', '-', '-'] <+: cursor.rest)
    (opens : ¬ ['<', '/'] <+: cursor.rest)
    (tagged : ¬ (['<', '!'] <+: cursor.rest ∨ ['<', '?'] <+: cursor.rest)) :
    Lexeme.read cursor = if startsMarkup cursor.rest then Markup.readOpening cursor
      else Markup.readText cursor := by
  unfold Lexeme.read
  split
  · next front => exact absurd ⟨_, front.symm⟩ plain
  · next front => exact absurd ⟨_, front.symm⟩ opens
  · split
    · next starts =>
      rw [if_neg ?_]
      rw [not_or] at tagged
      obtain ⟨tail, parts⟩ := startsMarkup_eq_true starts
      rw [parts, List.getElem?_cons_succ, ← List.head?_eq_getElem?]
      rintro (second | second)
      · obtain ⟨rest, rfl⟩ := List.head?_eq_some_iff.mp second
        exact tagged.1 ⟨rest, parts.symm⟩
      · obtain ⟨rest, rfl⟩ := List.head?_eq_some_iff.mp second
        exact tagged.2 ⟨rest, parts.symm⟩
    · rfl

/-- More characters before the attributes and the end of a tag. -/
def shiftTag (count : Nat) :
    Except CompileError (List Attribute × Bool × Nat) →
      Except CompileError (List Attribute × Bool × Nat)
  | .ok found => .ok (found.1, found.2.1, count + found.2.2)
  | .error error => .error error

/-- What a round of the loop has to do with all that is read of a tag: the loop fails, ends, or goes
on further behind. -/
inductive TagFollows (tag : String) (location : Location) (cursor : Cursor) (found : List Attribute)
    (whole : Except CompileError (List Attribute × Bool × Nat)) : Except Halt TagRound → Prop where
  | failed {error : CompileError} (same : whole = .error error) :
    TagFollows tag location cursor found whole (.error (.error error))
  | ended {selfClosing : Bool} {count : Nat}
      (later : cursor.place.offset < (cursor.advance count).place.offset)
      (same : whole = .ok (found.reverse, selfClosing, count)) :
      TagFollows tag location cursor found whole
        (.ok (.ended selfClosing (cursor.advance count).place.offset))
  | more {attr : Attribute} {count : Nat}
      (later : cursor.place.offset < (cursor.advance count).place.offset)
      (same : whole =
        shiftTag count
        (Markup.readAttributes tag location (cursor.advance count) (attr :: found))) :
      TagFollows tag location cursor found whole
        (.ok (.more attr (cursor.advance count).place.offset))

/-- A round of the loop over attributes ends the tag, fails or goes on as the recursion does. -/
theorem tagRound_follows {source : String} {cursor : Cursor} (inside : cursor.IsOf source)
    {rounds : Nat} (enough : Text.byteLength cursor.rest < rounds) (tag : String)
    (location : Location) (found : List Attribute) :
    TagFollows tag location cursor found (Markup.readAttributes tag location cursor found)
      (tagRound source rounds tag location found cursor.place.offset) := by
  generalize read : Markup.readAttributes tag location cursor found = whole
  rw [Markup.readAttributes] at read
  dsimp only at read
  rw [tagRound, inside.skip_eq, ok_bind]
  have here := inside.advance (cursor.run Text.isBlankChar)
  generalize cursor.run Text.isBlankChar = gap at *
  rw [here.onward_eq, ok_bind]
  split at read
  · next empty =>
    rw [empty]
    exact .failed read.symm
  · next c rest parts =>
    have later {count : Nat} (positive : 0 < count) :
        cursor.place.offset < (cursor.advance (gap + count)).place.offset := by
      rw [← Cursor.advance_advance]
      exact Nat.lt_of_le_of_lt (cursor.offset_le_advance gap)
        (Cursor.offset_lt_advance parts positive)
    rw [parts]
    dsimp only
    split at read
    · next ends =>
      subst ends
      rw [if_pos rfl, Cursor.offset_add_one parts (by decide), here.advanceTo_eq, ok_bind,
        Cursor.advance_advance]
      exact .ended (later Nat.one_pos) read.symm
    · next inner =>
      rw [if_neg inner]
      split at read
      · next closes =>
        obtain ⟨rfl, second⟩ := closes
        obtain ⟨tail, rfl⟩ := List.head?_eq_some_iff.mp second
        have next : (cursor.advance gap).place.offset + 2 =
            ((cursor.advance gap).advance 2).place.offset :=
          Cursor.offset_advance_append (show (cursor.advance gap).rest =
            ['/', '>'] ++ tail from parts)
        rw [if_pos ⟨rfl, second⟩, next, here.advanceTo_eq, ok_bind, Cursor.advance_advance]
        exact .ended (later Nat.two_pos) read.symm
      · next goes =>
        have fewer := cursor.byteLength_rest_advance gap
        rw [if_neg goes, readAttribute_eq here tag (by omega)]
        split at read
        · next failed =>
          rw [failed]
          exact .failed read.symm
        · next attr count first =>
          rw [first, follow, ok_bind]
          dsimp only
          split at read
          · next twice =>
            rw [if_pos twice]
            exact .failed read.symm
          · next fresh =>
            rw [Cursor.advance_advance] at read
            rw [if_neg fresh, Cursor.advance_advance]
            refine .more (later (readAttribute_pos first)) ?_
            rw [← read]
            cases Markup.readAttributes tag location (cursor.advance (gap + count)) (attr :: found)
              <;> rfl

/-- All that is read of a tag, with the offset behind it. -/
def followTag (cursor : Cursor) :
    Except CompileError (List Attribute × Bool × Nat) → Except Halt (List Attribute × Bool × Nat)
  | .ok found => .ok (found.1, found.2.1, (cursor.advance found.2.2).place.offset)
  | .error error => .error (.error error)

theorem followTag_shiftTag (cursor : Cursor) (count : Nat)
    (result : Except CompileError (List Attribute × Bool × Nat)) :
    followTag cursor (shiftTag count result) = followTag (cursor.advance count) result := by
  cases result with
  | error error => rfl
  | ok found => rw [shiftTag, followTag, followTag, Cursor.advance_advance]

section

variable {source : String} {cursor : Cursor} (inside : cursor.IsOf source) {rounds : Nat}

include inside

/-- The loop over attributes reads what the recursion does. The induction is on the rounds, each of
which takes a byte at least. -/
theorem readAttributes_eq (enough : Text.byteLength cursor.rest < rounds) (tag : String)
    (location : Location) (found : List Attribute) :
    readAttributes source tag location rounds found cursor.place.offset =
      followTag cursor (Markup.readAttributes tag location cursor found) := by
  induction rounds generalizing cursor found with
  | zero => omega
  | succ rounds ih =>
    have round := tagRound_follows inside enough tag location found
    rw [readAttributes]
    generalize tagRound source (rounds + 1) tag location found cursor.place.offset =
      result at round ⊢
    cases round with
    | failed same =>
      rw [same]
      rfl
    | ended later same =>
      rw [same]
      rfl
    | @more attr count later same =>
      have whole := inside.offset_add_rest
      have parts := (inside.advance count).offset_add_rest
      rw [same, followTag_shiftTag, ok_bind]
      exact ih (inside.advance count) (by omega) (attr :: found)

theorem readOpening_eq {tail : List Char} (parts : cursor.rest = '<' :: tail)
    (enough : Text.byteLength cursor.rest < rounds) :
    readOpening source rounds cursor.place.offset = follow cursor (Markup.readOpening cursor) := by
  rw [readOpening, Cursor.offset_add_one parts (by decide), inside.advanceTo_eq, ok_bind,
    (inside.advance 1).word_eq, ok_bind, inside.ofOffset_eq, Markup.readOpening]
  dsimp only
  generalize (cursor.advance 1).run isTagChar = length
  have fewer := cursor.byteLength_rest_advance (1 + length)
  rw [Cursor.advance_advance, readAttributes_eq (inside.advance (1 + length)) (by omega)]
  cases Markup.readAttributes ((cursor.advance 1).slice length) cursor.place
    (cursor.advance (1 + length)) [] with
  | error error => rfl
  | ok found =>
    obtain ⟨attributes, selfClosing, count⟩ := found
    rw [followTag, ok_bind]
    dsimp only
    rw [Cursor.advance_advance]
    split
    · rfl
    · split
      · rw [readRaw_eq (inside.advance (1 + length + count)),
          (inside.advance (1 + length + count)).ofOffset_eq]
        cases Markup.readRaw ((cursor.advance 1).slice length) cursor.place
          (cursor.advance (1 + length + count)) with
        | error error => rfl
        | ok content =>
          rw [follow, ok_bind, Cursor.advance_advance]
          rfl
      · rfl

/-- Each lexeme is read the same from the offset as from the cursor. -/
theorem readLexeme_eq (enough : Text.byteLength cursor.rest < rounds) :
    readLexeme source rounds cursor.place.offset = follow cursor (Lexeme.read cursor) := by
  rw [readLexeme, inside.onward_eq, ok_bind]
  split
  · next commented =>
    obtain ⟨tail, parts⟩ := commented
    exact readComment_eq inside parts.symm
  · next plain =>
    split
    · next closes =>
      obtain ⟨tail, parts⟩ := closes
      rw [readClosing_eq inside parts.symm, inside.ofOffset_eq]
      unfold Lexeme.read
      split
      · next front => exact absurd ⟨_, front.symm⟩ plain
      · cases Markup.readClosing cursor <;> rfl
      · next other => exact absurd parts.symm (other tail)
    · next opens =>
      split
      · next declares =>
        obtain ⟨tail, parts⟩ | ⟨tail, parts⟩ := declares
        · exact readDeclaration_eq inside parts.symm (.inl rfl) plain
        · exact readDeclaration_eq inside parts.symm (.inr rfl) plain
      · next tagged =>
        rw [read_of_not plain opens tagged]
        split
        · next starts =>
          obtain ⟨tail, parts⟩ := startsMarkup_eq_true starts
          exact readOpening_eq inside parts enough
        · exact readText_eq inside enough

end

end ByOffset

end RenderTemplate.Markup
