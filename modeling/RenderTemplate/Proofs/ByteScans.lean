import RenderTemplate.Proofs.ByOffset
import RenderTemplate.Proofs.Positions

namespace RenderTemplate

theorem ok_bind {ε α β : Type} (value : α) (next : α → Except ε β) :
    (Except.ok value >>= next) = next value := rfl

theorem error_bind {ε α β : Type} (error : ε) (next : α → Except ε β) :
    (Except.error error >>= next) = .error error := rfl

theorem pure_eq {ε α : Type} (value : α) : (pure value : Except ε α) = .ok value := rfl

theorem Text.byteLength_drop_le (count : Nat) (chars : List Char) :
    byteLength (chars.drop count) ≤ byteLength chars := by
  have whole := congrArg byteLength (List.take_append_drop count chars)
  rw [byteLength_append] at whole
  omega

namespace Markup

/-- Whether a cursor is so many characters behind the start of a source. -/
def Cursor.IsOf (source : String) (cursor : Cursor) : Prop :=
  ∃ index, cursor = (Cursor.start source).advance index

/-- What is found at a cursor, with the offset behind it. -/
def follow {α : Type} (cursor : Cursor) : Except CompileError (α × Nat) → Except Halt (α × Nat)
  | .ok found => .ok (found.1, (cursor.advance found.2).place.offset)
  | .error error => .error (.error error)

namespace Cursor

theorem offset_advance_append {cursor : Cursor} {front tail : List Char}
    (parts : cursor.rest = front ++ tail) :
    cursor.place.offset + Text.byteLength front = (cursor.advance front.length).place.offset := by
  rw [place_advance, Location.offset_advance, parts, List.take_left]

theorem rest_advance_append {cursor : Cursor} {front tail : List Char}
    (parts : cursor.rest = front ++ tail) :
    (cursor.advance front.length).rest = tail := by
  rw [rest_advance, parts, List.drop_left]

theorem rest_advance_one {cursor : Cursor} {c : Char} {tail : List Char}
    (parts : cursor.rest = c :: tail) :
    (cursor.advance 1).rest = tail :=
  rest_advance_append (show cursor.rest = [c] ++ tail from parts)

theorem byteLength_rest_advance (cursor : Cursor) (count : Nat) :
    Text.byteLength (cursor.advance count).rest ≤ Text.byteLength cursor.rest :=
  Text.byteLength_drop_le count cursor.rest

theorem offset_advance_one {cursor : Cursor} {c : Char} {tail : List Char}
    (parts : cursor.rest = c :: tail) :
    (cursor.advance 1).place.offset = cursor.place.offset + c.utf8Size := by
  have offset := offset_advance_append (show cursor.rest = [c] ++ tail from parts)
  exact offset.symm

/-- A short character is one byte, so that the next offset is that of the next cursor. -/
theorem offset_add_one {cursor : Cursor} {c : Char} {tail : List Char}
    (parts : cursor.rest = c :: tail) (short : c.toNat ≤ 127) :
    cursor.place.offset + 1 = (cursor.advance 1).place.offset := by
  rw [offset_advance_one parts, Text.utf8Size_short short]

/-- Before a character of one byte there is one byte less. -/
theorem offset_advance_pred {cursor : Cursor} {c next : Char} {count : Nat}
    (last : (cursor.rest.take count).getLast? = some c) (short : c.toNat ≤ 127)
    (follows : (cursor.advance count).rest.head? = some next) :
    (cursor.advance (count - 1)).place.offset + 1 = (cursor.advance count).place.offset := by
  have long : count < cursor.rest.length := by
    by_contra beyond
    rw [rest_advance, List.drop_eq_nil_of_le (by omega)] at follows
    cases follows
  have positive : count ≠ 0 := by
    rintro rfl
    cases last
  rw [List.getLast?_take, if_neg positive, List.getElem?_eq_getElem (by omega), Option.some_or,
    Option.some.injEq] at last
  have parts : (cursor.advance (count - 1)).rest = c :: cursor.rest.drop (count - 1 + 1) := by
    rw [rest_advance, List.drop_eq_getElem_cons (by omega), last]
  rw [offset_add_one parts short, advance_advance,
    Nat.sub_add_cancel (Nat.one_le_iff_ne_zero.mpr positive)]

theorem offset_le_advance (cursor : Cursor) (count : Nat) :
    cursor.place.offset ≤ (cursor.advance count).place.offset := by
  rw [place_advance, Location.offset_advance]
  exact Nat.le_add_right ..

theorem offset_lt_advance {cursor : Cursor} {c : Char} {tail : List Char}
    (parts : cursor.rest = c :: tail) {count : Nat} (positive : 0 < count) :
    cursor.place.offset < (cursor.advance count).place.offset := by
  have later :=
    offset_advance_lt positive (show 0 < cursor.rest.length by rw [parts, List.length_cons]; omega)
  rwa [advance_zero] at later

theorem offset_advance_run (cursor : Cursor) (test : Char → Bool) :
    cursor.place.offset + Text.byteLength (cursor.rest.takeWhile test) =
      (cursor.advance (cursor.run test)).place.offset := by
  rw [place_advance, Location.offset_advance, ← toList_slice_run, slice, String.toList_ofList]

end Cursor

namespace Cursor.IsOf

variable {source : String} {cursor : Cursor} (inside : cursor.IsOf source)

include inside

theorem advance (count : Nat) : (cursor.advance count).IsOf source := by
  obtain ⟨index, rfl⟩ := inside
  exact ⟨index + count, Cursor.advance_advance ..⟩

theorem isIn : cursor.IsIn source.toList := by
  obtain ⟨index, rfl⟩ := inside
  have start : (Cursor.start source).IsIn source.toList := ⟨[], rfl, rfl⟩
  exact start.advance index

/-- The offset of a cursor is at the boundary of a character, so slices from there do not fail. -/
theorem isBoundary : Text.IsBoundary source.toList cursor.place.offset := by
  obtain ⟨front, parts, offset⟩ := inside.isIn
  exact ⟨front, cursor.rest, parts, offset.symm⟩

theorem ofOffset_eq : Location.ofOffset source cursor.place.offset = cursor.place := by
  obtain ⟨index, rfl⟩ := inside
  exact (Reaches.boundary ⟨index, rfl⟩).2

theorem offset_add_rest :
    cursor.place.offset + Text.byteLength cursor.rest = Text.byteLength source.toList := by
  obtain ⟨front, parts, offset⟩ := inside.isIn
  rw [parts, Text.byteLength_append, offset]

theorem onward_eq : ByOffset.onward source cursor.place.offset = .ok cursor.rest := by
  rw [ByOffset.onward, if_pos inside.isBoundary, inside.isIn.dropBytes_eq]

/-- The slice between the offsets of two cursors is what stands between them. -/
theorem between_eq (count : Nat) :
    ByOffset.between source cursor.place.offset (cursor.advance count).place.offset =
      .ok (cursor.rest.take count) := by
  obtain ⟨front, parts, offset⟩ := inside.isIn
  have piece := Text.slice_append front (cursor.rest.take count) (cursor.rest.drop count)
  rw [List.take_append_drop, ← parts, Text.byteLength_append, ← offset] at piece
  rw [ByOffset.between,
    if_pos ⟨inside.isBoundary, (inside.advance count).isBoundary, cursor.offset_le_advance count⟩,
    place_advance, Location.offset_advance, piece]

theorem advanceTo_eq (count : Nat) :
    ByOffset.advanceTo source cursor.place.offset (cursor.advance count).place.offset =
      .ok (cursor.advance count).place.offset := by
  rw [ByOffset.advanceTo, inside.between_eq, ok_bind]
  rfl

theorem skip_eq :
    ByOffset.skip source cursor.place.offset =
      .ok (cursor.advance (cursor.run Text.isBlankChar)).place.offset := by
  rw [ByOffset.skip, inside.onward_eq, ok_bind, cursor.offset_advance_run, inside.advanceTo_eq]

theorem word_eq (test : Char → Bool) :
    ByOffset.word source test cursor.place.offset =
      .ok (cursor.slice (cursor.run test), (cursor.advance (cursor.run test)).place.offset) := by
  rw [ByOffset.word, inside.onward_eq, ok_bind, cursor.offset_advance_run, inside.advanceTo_eq,
    ok_bind, inside.between_eq]
  rfl

end Cursor.IsOf

namespace ByOffset

theorem between_start {source : String} {front rest : List Char}
    (whole : source.toList = front ++ rest) :
    between source 0 (Text.byteLength front) = .ok front := by
  have first : Text.IsBoundary source.toList 0 := ⟨[], _, rfl, rfl⟩
  have last : Text.IsBoundary source.toList (Text.byteLength front) := ⟨front, rest, whole, rfl⟩
  rw [between, if_pos ⟨first, last, Nat.zero_le _⟩, whole]
  exact congrArg _ (Text.slice_append [] front rest)

section

variable {source : String} {stops : Nat → Char → Except Halt Bool} {fault : Fault}

/-- Bytes of longer characters are passed one after another. -/
theorem scan_long (passes : ∀ pos byte, 127 < byte.toNat → stops pos byte = .ok false)
    (rounds : Nat) {front bytes tail : List Char}
    (parts : Text.units source.toList = front ++ (bytes ++ tail))
    (long : ∀ byte ∈ bytes, 127 < byte.toNat) :
    scan source stops fault (rounds + bytes.length) front.length =
      scan source stops fault rounds (front.length + bytes.length) := by
  induction bytes generalizing front with
  | nil => rfl
  | cons byte bytes ih =>
    rw [List.forall_mem_cons] at long
    have here : (Text.units source.toList)[front.length]? = some byte := by
      rw [parts, List.cons_append, List.getElem?_append_right (Nat.le_refl _), Nat.sub_self]
      rfl
    have plain : byte ≠ '{' := by
      rintro rfl
      exact absurd long.1 (by decide)
    have parted : Text.units source.toList = (front ++ [byte]) ++ (bytes ++ tail) := by
      rw [parts, List.append_assoc]
      rfl
    have later := ih parted long.2
    rw [List.length_append, List.length_singleton] at later
    rw [List.length_cons, ← Nat.add_assoc, scan, here]
    dsimp only
    rw [if_neg plain, passes _ _ long.1, ok_bind, if_neg Bool.false_ne_true, later]
    congr 1
    omega

variable {cursor : Cursor} (inside : cursor.IsOf source)

include inside

/-- The byte at the offset of a cursor is the first byte of the character there. -/
theorem getElem?_units :
    (Text.units source.toList)[cursor.place.offset]? = (Text.units cursor.rest).head? := by
  obtain ⟨front, parts, offset⟩ := inside.isIn
  rw [← List.head?_drop, parts, offset, Text.drop_units_append]

/-- A group of bytes ends where the group of characters does. -/
theorem endAt?_offset :
    Braces.endAt? source.toList cursor.place.offset =
      (Braces.length? cursor.rest).map fun count => (cursor.advance count).place.offset := by
  obtain ⟨front, parts, offset⟩ := inside.isIn
  rw [parts, offset, Braces.endAt?_append]
  simp [offset]

variable {rounds : Nat}

theorem scan_end (ended : cursor.rest = []) (allowed : 0 < rounds) :
    scan source stops fault rounds cursor.place.offset = .ok cursor.place.offset := by
  obtain ⟨rounds, rfl⟩ := Nat.exists_eq_add_of_lt allowed
  have none : (Text.units source.toList)[cursor.place.offset]? = none := by
    rw [getElem?_units inside, ended]
    rfl
  rw [scan, none]

section

variable {tail : List Char} (parts : cursor.rest = '{' :: tail)

include parts

/-- At a brace a scan goes on behind its group, or gives the fault if it has no end. -/
theorem scan_brace (allowed : 0 < rounds) :
    scan source stops fault rounds cursor.place.offset =
      ((Braces.length? cursor.rest).map fun count =>
        scan source stops fault (rounds - 1) (cursor.advance count).place.offset).getD
          (.error (.error (fault.error cursor.place))) := by
  obtain ⟨rounds, rfl⟩ := Nat.exists_eq_add_of_lt allowed
  have brace : (Text.units source.toList)[cursor.place.offset]? = some '{' := by
    rw [getElem?_units inside, parts, Text.units_short_cons (by decide)]
    rfl
  rw [scan, brace]
  dsimp only
  rw [if_pos rfl, endAt?_offset inside]
  cases Braces.length? cursor.rest with
  | none =>
    rw [Option.map_none, fail, inside.ofOffset_eq]
    rfl
  | some count => rfl

theorem scan_unclosed (unclosed : Braces.length? ('{' :: tail) = none) (allowed : 0 < rounds) :
    scan source stops fault rounds cursor.place.offset =
      .error (.error (fault.error cursor.place)) := by
  rw [scan_brace inside parts allowed, parts, unclosed]
  rfl

/-- A group is passed in one round. -/
theorem scan_group {count : Nat} (closed : Braces.length? ('{' :: tail) = some count)
    (enough : Text.byteLength ('{' :: tail) < rounds) :
    ∃ fewer, scan source stops fault rounds cursor.place.offset =
      scan source stops fault fewer (cursor.advance count).place.offset ∧
      (cursor.advance count).rest = tail.drop (count - 1) ∧
        Text.byteLength (tail.drop (count - 1)) < fewer := by
  have positive := Char.utf8Size_pos '{'
  have fewer := Text.byteLength_drop_le (count - 1) tail
  rw [Text.byteLength_cons] at enough
  refine ⟨rounds - 1, ?_, ?_, by omega⟩
  · rw [scan_brace inside parts (by omega), parts, closed]
    rfl
  · obtain ⟨less, rfl⟩ := Nat.exists_eq_add_of_lt (Braces.Scan.close?_pos closed)
    rw [Cursor.rest_advance, parts, Nat.zero_add, List.drop_succ_cons, Nat.add_sub_cancel]

end

theorem scan_short {c : Char} {tail : List Char} (parts : cursor.rest = c :: tail)
    (short : c.toNat ≤ 127) (plain : c ≠ '{') {stop : Bool}
    (decided : stops cursor.place.offset c = .ok stop) (rounds : Nat) :
    scan source stops fault (rounds + 1) cursor.place.offset =
      if stop then .ok cursor.place.offset
      else scan source stops fault rounds (cursor.advance 1).place.offset := by
  have here : (Text.units source.toList)[cursor.place.offset]? = some c := by
    rw [getElem?_units inside, parts, Text.units_short_cons short]
    rfl
  rw [scan, here]
  dsimp only
  rw [if_neg plain, decided, ok_bind, Cursor.offset_add_one parts short]
  rfl

theorem scan_stop {c : Char} {tail : List Char} (parts : cursor.rest = c :: tail)
    (short : c.toNat ≤ 127) (plain : c ≠ '{') (stopped : stops cursor.place.offset c = .ok true)
    (allowed : 0 < rounds) :
    scan source stops fault rounds cursor.place.offset = .ok cursor.place.offset := by
  obtain ⟨rounds, rfl⟩ := Nat.exists_eq_add_of_lt allowed
  rw [scan_short inside parts short plain stopped, if_pos rfl]

/-- A character that does not stop a scan is passed in as many rounds as it has bytes. -/
theorem scan_pass (passes : ∀ pos byte, 127 < byte.toNat → stops pos byte = .ok false) {c : Char}
    {tail : List Char} (parts : cursor.rest = c :: tail) (plain : c ≠ '{')
    (goes : c.toNat ≤ 127 → stops cursor.place.offset c = .ok false)
    (enough : Text.byteLength (c :: tail) < rounds) :
    ∃ fewer, scan source stops fault rounds cursor.place.offset =
      scan source stops fault fewer (cursor.advance 1).place.offset ∧
      Text.byteLength tail < fewer := by
  rw [Text.byteLength_cons] at enough
  obtain ⟨fewer, rfl⟩ : ∃ fewer, rounds = fewer + c.utf8Size := ⟨rounds - c.utf8Size, by omega⟩
  refine ⟨fewer, ?_, by omega⟩
  by_cases short : c.toNat ≤ 127
  · rw [Text.utf8Size_short short, scan_short inside parts short plain (goes short),
      if_neg Bool.false_ne_true]
  · obtain ⟨front, whole, offset⟩ := inside.isIn
    have size : (Text.units [c]).length = c.utf8Size := by simp
    have next : (cursor.advance 1).place.offset =
        (Text.units front).length + (Text.units [c]).length := by
      rw [Cursor.offset_advance_one parts, size, Text.length_units, offset]
    have bytes : Text.units source.toList =
        Text.units front ++ (Text.units [c] ++ Text.units tail) := by
      rw [whole, parts, Text.units_append, Text.units_cons]
    rw [next, ← size, offset, ← Text.length_units front]
    exact scan_long passes fewer bytes fun byte => Text.units_long (by omega)

end

theorem drop_quotedLength {quote : Char} {chars : List Char} {count : Nat}
    (found : quotedLength quote chars = .ok count) :
    ∃ rest, chars.drop count = quote :: rest := by
  obtain ⟨_, rest, around⟩ := split_quotedLength found
  refine ⟨rest, ?_⟩
  rw [← List.append_cancel_left_eq (chars.take count), List.take_append_drop]
  exact around

theorem getLast?_quoted {cursor : Cursor} {quote : Char} {tail : List Char}
    (parts : cursor.rest = quote :: tail) (quoted : quote = '"' ∨ quote = '\'')
    {name value : String} {count : Nat} (read : Markup.readValue name cursor = .ok (value, count)) :
    (cursor.rest.take count).getLast? = some quote := by
  rw [Markup.readValue, parts] at read
  dsimp only at read
  rw [if_pos quoted] at read
  split at read
  · next size found =>
    cases read
    obtain ⟨rest, behind⟩ := drop_quotedLength found
    rw [parts, List.getLast?_take, if_neg (Nat.succ_ne_zero _), Nat.add_succ_sub_one,
      List.getElem?_cons_succ, ← List.head?_drop, behind]
    rfl
  · cases read
  · cases read

theorem eq_of_shift {count : Nat} {result : Except (Option Nat) Nat}
    (failed : shift count result = .error none) :
    result = .error none := by
  rcases result with (_ | found) | found
  · rfl
  · cases failed
  · cases failed

theorem textLength_ne {first : Bool} {chars : List Char} :
    textLength first chars ≠ .error none := by
  fun_induction textLength first chars
  case case1 | case2 | case4 => simp
  case case3 ih | case5 ih =>
    intro failed
    exact ih (eq_of_shift failed)

/-- Where a scan of characters from a cursor on ends. One that finds no end is at the end of the
source. A scan of bytes looks at each byte of a character of several bytes, but stops only at a byte
that is a character. So it stops at the offset of a cursor, and where the scan of characters
does. -/
def followScan (source : String) (fault : Fault) (cursor : Cursor) :
    Except (Option Nat) Nat → Except Halt Nat
  | .ok count => .ok (cursor.advance count).place.offset
  | .error (some count) => .error (.error (fault.error (cursor.advance count).place))
  | .error none => .ok (Text.byteLength source.toList)

theorem followScan_shift (source : String) (fault : Fault) (cursor : Cursor) (count : Nat)
    (result : Except (Option Nat) Nat) :
    followScan source fault cursor (shift count result) =
      followScan source fault (cursor.advance count) result := by
  rcases result with (_ | found) | found
  · rfl
  · rw [shift, followScan, followScan, Cursor.advance_advance]
  · rw [shift, followScan, followScan, Cursor.advance_advance]

section

variable {source : String} {cursor : Cursor} (inside : cursor.IsOf source)

include inside

theorem offset_of_end (ended : cursor.rest = []) :
    cursor.place.offset = Text.byteLength source.toList := by
  rw [← inside.offset_add_rest, ended, Text.byteLength_nil, Nat.add_zero]

/-- The scan for the quote that ends a value comes to what the reader at a cursor counts. -/
theorem scan_quoted {fault : Fault} {quote : Char} (short : quote.toNat ≤ 127) {chars : List Char}
    (parts : cursor.rest = chars) {rounds : Nat} (enough : Text.byteLength chars < rounds) :
    scan source (fun _ byte => .ok (byte == quote)) fault rounds cursor.place.offset =
      followScan source fault cursor (quotedLength quote chars) := by
  have passes (pos : Nat) (byte : Char) (long : 127 < byte.toNat) :
      (Except.ok (byte == quote) : Except Halt Bool) = .ok false := by
    have other : byte ≠ quote := by
      rintro rfl
      omega
    rw [beq_false_of_ne other]
  fun_induction quotedLength quote chars generalizing cursor rounds
  case case1 => rw [scan_end inside parts (by omega), followScan, offset_of_end inside parts]
  case case2 unclosed =>
    rw [scan_unclosed inside parts unclosed (by omega), followScan, Cursor.advance_zero]
  case case3 rest count closed ih =>
    obtain ⟨fewer, goes, behind, enough⟩ := scan_group inside parts closed enough
    rw [goes, followScan_shift]
    exact ih (inside.advance count) behind enough
  case case4 rest plain =>
    rw [scan_stop inside parts short plain (by rw [beq_self_eq_true]) (by omega), followScan,
      Cursor.advance_zero]
  case case5 c rest plain other ih =>
    obtain ⟨fewer, goes, enough⟩ :=
      scan_pass inside passes parts plain (fun _ => by rw [beq_false_of_ne other]) enough
    rw [goes, followScan_shift]
    exact ih (inside.advance 1) (Cursor.rest_advance_one parts) enough

/-- The scan for the end of a text comes to what the reader at a cursor counts. Markup ends no text
at its first byte. -/
theorem scan_text {fault : Fault} {start : Nat} {first : Bool} {chars : List Char}
    (parts : cursor.rest = chars) (before : start ≤ cursor.place.offset)
    (same : first = decide (start = cursor.place.offset)) {rounds : Nat}
    (enough : Text.byteLength chars < rounds) :
    scan source (stopsText source start) fault rounds cursor.place.offset =
      followScan source fault cursor (textLength first chars) := by
  have passes (pos : Nat) (byte : Char) (long : 127 < byte.toNat) :
      stopsText source start pos byte = .ok false := by
    have other : byte ≠ '<' := by
      rintro rfl
      exact absurd long (by decide)
    rw [stopsText, if_neg fun both => other both.1]
  fun_induction textLength first chars generalizing cursor rounds
  case case1 => rw [scan_end inside parts (by omega), followScan, Cursor.advance_zero]
  case case2 unclosed =>
    rw [scan_unclosed inside parts unclosed (by omega), followScan, Cursor.advance_zero]
  case case3 rest count closed ih =>
    have later := Cursor.offset_lt_advance parts (Braces.Scan.close?_pos closed)
    obtain ⟨fewer, goes, behind, enough⟩ := scan_group inside parts closed enough
    rw [goes, followScan_shift]
    exact ih (inside.advance count) behind (by omega) (decide_eq_false (by omega)).symm enough
  case case4 c rest plain ends =>
    rw [Bool.and_eq_true, Bool.not_eq_true', same, decide_eq_false_iff_not] at ends
    obtain ⟨_, opens⟩ := startsMarkup_eq_true ends.2
    obtain ⟨rfl, rfl⟩ := List.cons.inj opens
    have stopped : stopsText source start cursor.place.offset '<' = .ok true := by
      rw [stopsText, if_pos ⟨rfl, by omega⟩, inside.onward_eq, ok_bind, parts, ends.2]
      rfl
    rw [scan_stop inside parts (by decide) plain stopped (by omega), followScan,
      Cursor.advance_zero]
  case case5 c rest plain goes ih =>
    have passed : stopsText source start cursor.place.offset c = .ok false := by
      rw [stopsText]
      split
      · next both =>
        have markup : startsMarkup (c :: rest) = false := by
          simpa [same, Nat.ne_of_lt both.2] using goes
        rw [inside.onward_eq, ok_bind, parts, markup]
        rfl
      · rfl
    have later := Cursor.offset_lt_advance parts Nat.one_pos
    obtain ⟨fewer, goes, enough⟩ := scan_pass inside passes parts plain (fun _ => passed) enough
    rw [goes, followScan_shift]
    exact ih (inside.advance 1) (Cursor.rest_advance_one parts) (by omega)
      (decide_eq_false (by omega)).symm enough

end

end ByOffset

end Markup

end RenderTemplate
