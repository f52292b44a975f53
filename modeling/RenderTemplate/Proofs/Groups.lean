import RenderTemplate.Proofs.Scanning
import RenderTemplate.Proofs.Slices

namespace RenderTemplate

namespace Text

/-- The bytes of a text, each as the character with its number. -/
def units (chars : List Char) : List Char :=
  chars.flatMap fun c => (String.utf8EncodeChar c).map fun byte => Char.ofNat byte.toNat

theorem units_append (front rest : List Char) : units (front ++ rest) = units front ++ units rest :=
  List.flatMap_append

theorem units_cons (c : Char) (rest : List Char) : units (c :: rest) = units [c] ++ units rest :=
  units_append [c] rest

@[simp] theorem length_units (chars : List Char) : (units chars).length = byteLength chars := by
  induction chars with
  | nil => rfl
  | cons c rest ih =>
    rw [units_cons, List.length_append, ih]
    simp [units]

/-- The bytes of a text are behind those of what comes before it. -/
theorem drop_units_append (front rest : List Char) :
    (units (front ++ rest)).drop (byteLength front) = units rest := by
  rw [units_append, ← length_units, List.drop_left]

theorem units_short {c : Char} (short : c.toNat ≤ 127) : units [c] = [c] := by
  have bytes : String.utf8EncodeChar c = [UInt8.ofNat c.toNat] := by
    simp [String.utf8EncodeChar, short]
  have same : (UInt8.ofNat c.toNat).toNat = c.toNat := by
    simp only [UInt8.toNat_ofNat']
    omega
  simp [units, bytes, same]

theorem units_short_cons {c : Char} (short : c.toNat ≤ 127) (rest : List Char) :
    units (c :: rest) = c :: units rest := by
  rw [units_cons, units_short short]
  rfl

theorem utf8Size_short {c : Char} (short : c.toNat ≤ 127) : c.utf8Size = 1 := by
  simpa using (length_units [c]).symm.trans (congrArg List.length (units_short short))

/-- Where a character takes several bytes, none of them is a character of one byte. -/
theorem units_long {c d : Char} (long : 127 < c.toNat) (held : d ∈ units [c]) : 127 < d.toNat := by
  simp only [units, List.flatMap_cons, List.flatMap_nil, List.append_nil, List.mem_map] at held
  obtain ⟨byte, inside, rfl⟩ := held
  have high : 127 < byte.toNat := by
    have big : ¬ c.val.toNat ≤ 127 := by simpa using long
    simp only [String.utf8EncodeChar, if_neg big] at inside
    split at inside
    · simp only [List.mem_cons, List.not_mem_nil, or_false] at inside
      rcases inside with rfl | rfl <;> simp only [UInt8.toNat_ofNat'] <;> omega
    · split at inside <;> simp only [List.mem_cons, List.not_mem_nil, or_false] at inside
      · rcases inside with rfl | rfl | rfl <;> simp only [UInt8.toNat_ofNat'] <;> omega
      · rcases inside with rfl | rfl | rfl | rfl <;> simp only [UInt8.toNat_ofNat'] <;> omega
  have valid : byte.toNat.isValidChar := .inl (by have := byte.toNat_lt; omega)
  have same : Char.ofNat byte.toNat = Char.ofNatAux byte.toNat valid := dif_pos valid
  rw [same]
  exact high

/-- The first byte of a character is the character itself or no character of one byte, and the
others are none either. -/
theorem exists_units_eq_cons (c : Char) :
    ∃ first more, units [c] = first :: more ∧ (first = c ∨ 127 < first.toNat) ∧
      ∀ d ∈ more, 127 < d.toNat := by
  by_cases short : c.toNat ≤ 127
  · exact ⟨c, [], units_short short, .inl rfl, by simp⟩
  · have filled : units [c] ≠ [] := by
      rw [← List.length_pos_iff, length_units]
      simp [Char.utf8Size_pos]
    obtain ⟨first, more, front⟩ := List.exists_cons_of_ne_nil filled
    have long (d : Char) (held : d ∈ first :: more) : 127 < d.toNat :=
      units_long (by omega) (front ▸ held)
    exact ⟨first, more, front, .inr (long first List.mem_cons_self), fun d held =>
      long d (List.mem_cons_of_mem _ held)⟩

theorem head?_units {chars : List Char} {c : Char} (short : c.toNat ≤ 127)
    (front : (units chars).head? = some c) :
    chars.head? = some c := by
  cases chars with
  | nil => cases front
  | cons d rest =>
    obtain ⟨first, more, bytes, same, _⟩ := exists_units_eq_cons d
    rw [units_cons, bytes, List.cons_append, List.head?_cons, Option.some.injEq] at front
    subst front
    rcases same with rfl | long
    · rfl
    · omega

end Text

namespace Braces

/-- Whether a scan looks for characters of one byte only. -/
def Mode.IsShort : Mode → Prop
  | .string quote => quote.toNat ≤ 127
  | _ => True

theorem Mode.IsShort.settled {mode : Mode} (short : mode.IsShort) : mode.settled.IsShort := by
  cases mode with
  | code => trivial
  | string quote => exact short
  | template substitutions dollar => trivial

namespace Scan

variable {scan : Scan}

/-- A scan comes to an end at a brace only, and in code that has no other group open. -/
theorem step_eq_close_iff {c : Char} :
    scan.step c = .close ↔ c = '}' ∧ scan = ⟨.code, 1, false⟩ := by
  obtain ⟨mode, depth, escaped⟩ := scan
  constructor
  · intro closes
    unfold step at closes
    grind
  · rintro ⟨rfl, same⟩
    cases same
    rfl

/-- A group is closed by its own last character, and it is the same group without all that
follows. -/
theorem exists_group_of_close? {count : Nat} {chars : List Char}
    (closed : scan.close? chars = some count) :
    ∃ body rest, chars = body ++ '}' :: rest ∧ count = body.length + 1 ∧
      scan.close? (body ++ ['}']) = some count := by
  induction chars generalizing scan count with
  | nil => cases closed
  | cons c rest ih =>
    rcases close?_cons_eq_some_iff.mp closed with ⟨closes, rfl⟩ | ⟨next, inner, moves, later, rfl⟩
    · obtain ⟨rfl, _⟩ := step_eq_close_iff.mp closes
      exact ⟨[], rest, rfl, rfl, close?_cons_eq_some_iff.mpr (.inl ⟨closes, rfl⟩)⟩
    · obtain ⟨body, after, rfl, rfl, again⟩ := ih later
      exact ⟨c :: body, after, rfl, rfl,
        close?_cons_eq_some_iff.mpr (.inr ⟨next, _, moves, again, rfl⟩)⟩

/-- A scan that looks for characters of one byte goes on to do so, for all quotes are such
characters. -/
theorem isShort_of_step (short : scan.mode.IsShort) {c : Char} {next : Scan}
    (moves : scan.step c = .on next) :
    next.mode.IsShort := by
  obtain ⟨mode, depth, escaped⟩ := scan
  unfold step at moves
  split at moves
  · cases moves
    exact short.settled
  split at moves
  · cases moves
    exact short.settled
  cases mode with
  | string quote =>
    cases moves
    dsimp only
    split
    · trivial
    · exact short
  | template substitutions dollar =>
    dsimp only at moves
    repeat' split at moves
    all_goals
      cases moves
      trivial
  | code =>
    dsimp only at moves
    split at moves
    · next quoted =>
      cases moves
      rcases quoted with rfl | rfl
      · exact (by decide : '"'.toNat ≤ 127)
      · exact (by decide : '\''.toNat ≤ 127)
    repeat' split at moves
    all_goals cases moves <;> trivial

/-- A character of several bytes has no meaning, but the last one is no dollar sign any more. -/
theorem step_long (short : scan.mode.IsShort) {c : Char} (long : 127 < c.toNat) :
    scan.step c = .on ⟨scan.mode.settled, scan.depth, false⟩ := by
  have other {d : Char} (low : d.toNat ≤ 127) : c ≠ d := by
    rintro rfl
    omega
  have distinct : c ≠ '\\' ∧ c ≠ '{' ∧ c ≠ '}' ∧ c ≠ '$' ∧ c ≠ '`' ∧ c ≠ '"' ∧ c ≠ '\'' := by
    refine ⟨?_, ?_, ?_, ?_, ?_, ?_, ?_⟩ <;> exact other (by decide)
  obtain ⟨mode, depth, escaped⟩ := scan
  unfold step
  cases mode with
  | code => simp [distinct, Mode.settled]
  | string quote => simp [distinct, other short, Mode.settled]
  | template substitutions dollar => simp [distinct, Mode.settled]

/-- The bytes of a long character are passed over one by one. -/
theorem close?_long {mode : Mode} (short : mode.IsShort) {front : List Char}
    (long : ∀ d ∈ front, 127 < d.toNat) (depth : Nat) (rest : List Char) :
    Scan.close? ⟨mode.settled, depth, false⟩ (front ++ rest) =
      (Scan.close? ⟨mode.settled, depth, false⟩ rest).map (· + front.length) := by
  have same : mode.settled.settled = mode.settled := by cases mode <;> rfl
  induction front with
  | nil => simp
  | cons d front ih =>
    rw [List.forall_mem_cons] at long
    rw [List.cons_append, close?, step_long short.settled long.1]
    dsimp only
    rw [same, ih long.2, Option.map_map]
    rfl

/-- A scan of the bytes of a text ends where a scan of its characters does. -/
theorem close?_units (short : scan.mode.IsShort) (chars : List Char) :
    scan.close? (Text.units chars) = (scan.close? chars).map fun count =>
      Text.byteLength (chars.take count) := by
  induction chars generalizing scan with
  | nil => rfl
  | cons c rest ih =>
    by_cases long : 127 < c.toNat
    · obtain ⟨first, more, bytes, same, high⟩ := Text.exists_units_eq_cons c
      have firstLong : 127 < first.toNat := same.elim (fun here => here ▸ long) id
      have size : more.length + 1 = c.utf8Size := by
        have sizes := Text.length_units [c]
        rw [bytes] at sizes
        simpa using sizes
      rw [Text.units_cons, bytes, List.cons_append, close?, close?, step_long short firstLong,
        step_long short long]
      dsimp only
      rw [close?_long short high, ih short.settled, Option.map_map, Option.map_map, Option.map_map]
      congr 1
      funext count
      simp only [Function.comp_apply, List.take_succ_cons, Text.byteLength_cons]
      omega
    · have low := Nat.le_of_not_lt long
      rw [Text.units_short_cons low, close?, close?]
      cases moves : scan.step c with
      | on next =>
        dsimp only
        rw [ih (isShort_of_step short moves), Option.map_map, Option.map_map]
        congr 1
        funext count
        simp only [Function.comp_apply, List.take_succ_cons, Text.byteLength_cons,
          Text.utf8Size_short low]
        omega
      | close => simp [Text.utf8Size_short low]
      | stop => rfl

end Scan

/-- The byte offset behind the group that starts at a byte offset of a text, from a scan of its
bytes. It ends where a scan of characters does, and looks at nothing behind that end. -/
def endAt? (chars : List Char) (start : Nat) : Option Nat :=
  (length? ((Text.units chars).drop start)).map (start + ·)

/-- Offsets count from the start of a text, whatever stands before a group. -/
theorem endAt?_append (front rest : List Char) :
    endAt? (front ++ rest) (Text.byteLength front) =
      (length? rest).map fun count =>
        Text.byteLength front + Text.byteLength (rest.take count) := by
  have bytes : length? (Text.units rest) = (length? rest).map fun count =>
      Text.byteLength (rest.take count) :=
    Scan.close?_units (show Mode.code.IsShort from trivial) rest
  rw [endAt?, Text.drop_units_append, bytes, Option.map_map]
  rfl

/-- A group ends behind a piece of text in bytes exactly if it does in characters. -/
theorem endAt?_eq_byteLength_iff (front rest : List Char) :
    endAt? (front ++ rest) 0 = some (Text.byteLength front) ↔ length? (front ++ rest) =
      some front.length := by
  have bytes := endAt?_append [] (front ++ rest)
  simp only [Text.byteLength_nil, List.nil_append, Nat.zero_add] at bytes
  rw [bytes]
  constructor
  · intro found
    obtain ⟨count, closed, size⟩ := Option.map_eq_some_iff.mp found
    have inside := (Scan.close?_append closed []).2
    have same : (front ++ rest).take count = front := by
      have cut : (front ++ rest).take count <+: front ++ rest := List.take_prefix _ _
      rcases List.prefix_or_prefix_of_prefix cut (List.prefix_append front rest) with ⟨more, whole⟩
        | ⟨more, whole⟩
      all_goals
        have sizes := congrArg Text.byteLength whole
        rw [Text.byteLength_append] at sizes
        obtain rfl := Text.eq_nil_of_byteLength (by omega : Text.byteLength more = 0)
        rw [List.append_nil] at whole
      · exact whole
      · exact whole.symm
    rw [closed, ← same, List.length_take, Nat.min_eq_left inside]
  · intro closed
    rw [closed, Option.map_some, List.take_left]

/-- The group at the front of a text has its two braces, and stays the group at any place of any
text. -/
theorem endAt?_local {chars : List Char} {stop : Nat} (found : endAt? chars 0 = some stop)
    (before after : List Char) :
    ∃ body rest, chars = body ++ '}' :: rest ∧ body ≠ [] ∧ stop = Text.byteLength (body ++ ['}']) ∧
      endAt? (before ++ (body ++ ['}'] ++ after)) (Text.byteLength before) =
        some (Text.byteLength before + stop) := by
  have bytes := endAt?_append [] chars
  simp only [Text.byteLength_nil, List.nil_append, Nat.zero_add] at bytes
  obtain ⟨count, closed, rfl⟩ := Option.map_eq_some_iff.mp (bytes ▸ found)
  obtain ⟨body, rest, rfl, rfl, alone⟩ := Scan.exists_group_of_close? closed
  have taken (tail : List Char) : (body ++ '}' :: tail).take (body.length + 1) = body ++ ['}'] := by
    simp [List.take_append]
  refine ⟨body, rest, rfl, ?_, by rw [taken], ?_⟩
  · rintro rfl
    cases alone
  · have extended : length? (body ++ ['}'] ++ after) = some (body.length + 1) :=
      (Scan.close?_append alone after).1
    rw [endAt?_append, extended, Option.map_some, List.append_assoc, List.singleton_append, taken,
      taken]

end Braces

namespace Part

/-- A group at the front of a text is an expression in braces, whatever follows it. -/
theorem exists_braced_of_length? {rest : List Char} {count : Nat}
    (closed : Braces.length? ('{' :: rest) = some count) :
    ∃ code after, rest = code.toList ++ '}' :: after ∧ count = code.toList.length + 2 ∧
      (expression code).IsCanonical := by
  obtain ⟨body, after, parts, rfl, alone⟩ := Braces.Scan.exists_group_of_close? closed
  cases body with
  | nil => simp at parts
  | cons c code =>
    obtain ⟨rfl, rfl⟩ := List.cons.inj parts
    refine ⟨String.ofList code, after, by simp, by simp, ?_⟩
    simpa [IsCanonical, braced, Braces.length?] using alone

theorem braced_append (code : String) (after : List Char) :
    braced code ++ after = '{' :: (code.toList ++ '}' :: after) := by
  simp [braced]

theorem drop_braced (code : String) (after : List Char) :
    (code.toList ++ '}' :: after).drop (code.toList.length + 2 - 1) = after := by
  simp [List.drop_append]

theorem take_braced (code : String) (after : List Char) (count : Nat) :
    ('{' :: (code.toList ++ '}' :: after)).take (code.toList.length + 2 + count) =
      braced code ++ after.take count := by
  rw [← braced_append, ← length_braced, List.take_length_add_append]

theorem split_cons {c : Char} (plain : c ≠ '{') {rest : List Char} {parts : List Part}
    (read : split rest = .ok parts) :
    split (c :: rest) = .ok (consChar c parts) := by
  rw [split, if_neg plain, read]

/-- A group is one part of a text, and the split goes on behind it. -/
theorem split_braced_ok {code : String} (canonical : (expression code).IsCanonical)
    {tail : List Char} {parts : List Part} (read : split (braced code ++ tail) = .ok parts) :
    ∃ more, split tail = .ok more ∧ parts = expression code :: more := by
  cases later : split tail with
  | ok more =>
    rw [split_braced canonical later, Except.ok.injEq] at read
    exact ⟨more, rfl, read.symm⟩
  | error index =>
    have closed := length?_braced canonical tail
    simp only [braced, List.cons_append] at closed read
    rw [split, if_pos rfl, closed] at read
    simp [later] at read

theorem split_cons_ok {c : Char} (plain : c ≠ '{') {rest : List Char} {parts : List Part}
    (read : split (c :: rest) = .ok parts) : ∃ text more, parts = literal text :: more := by
  rw [split, if_neg plain] at read
  cases later : split rest with
  | error index =>
    rw [later] at read
    cases read
  | ok found =>
    rw [later, Except.ok.injEq] at read
    rw [← read]
    unfold consChar
    split
    · exact ⟨_, _, rfl⟩
    · exact ⟨_, _, rfl⟩

/-- A group is not closed before its end. -/
theorem length?_eq_none {code : String} (canonical : (expression code).IsCanonical)
    {front back : List Char} (cut : braced code = front ++ back) (nonempty : back ≠ []) :
    Braces.length? front = none := by
  cases closed : Braces.length? front with
  | none => rfl
  | some count =>
    obtain ⟨whole, bound⟩ := Braces.Scan.close?_append closed back
    have short : back.length ≠ 0 := fun empty => nonempty (List.length_eq_zero_iff.mp empty)
    have same : count = (front ++ back).length := by
      have known : Braces.length? (front ++ back) = some (front ++ back).length := by
        rw [← cut]
        exact canonical
      exact Option.some.inj (whole.symm.trans known)
    rw [List.length_append] at same
    omega

/-- An expression without its braces, if a part is one. -/
def code? : Part → Option String
  | literal _ => none
  | expression code => some code

/-- The expressions of a text with their braces. -/
def groups (parts : List Part) : List (List Char) :=
  (parts.filterMap code?).map braced

@[simp] theorem groups_nil : groups [] = [] := rfl

@[simp] theorem groups_expression (code : String) (parts : List Part) :
    groups (expression code :: parts) = braced code :: groups parts := rfl

/-- A character more in a literal changes none of the groups. -/
@[simp] theorem groups_consChar (c : Char) (parts : List Part) :
    groups (consChar c parts) = groups parts := by
  cases parts with
  | nil => rfl
  | cons part parts => cases part <;> rfl

end Part

namespace Markup

theorem exists_of_shift {count total : Nat} {found : Except (Option Nat) Nat}
    (shifted : shift count found = .ok total) :
    ∃ inner, found = .ok inner ∧ total = count + inner := by
  cases found with
  | ok inner =>
    cases shifted
    exact ⟨inner, rfl, rfl⟩
  | error position => cases position <;> cases shifted

/-- The groups in braces that a scan for the end of a text passes over. -/
def passedGroups (first : Bool) : List Char → List (List Char)
  | [] => []
  | c :: rest =>
    if c = '{' then
      match Braces.length? (c :: rest) with
      | none => []
      | some count => (c :: rest).take count :: passedGroups false (rest.drop (count - 1))
    else if !first && startsMarkup (c :: rest) then []
    else passedGroups false rest
termination_by chars => chars.length
decreasing_by
  · simp only [List.length_drop, List.length_cons]; omega
  · simp

/-- A text that ends where the scan for its end says can be split, and its expressions are the
groups of that scan. -/
theorem split_textLength {first : Bool} {chars : List Char} {count : Nat}
    (found : textLength first chars = .ok count) :
    ∃ parts, Part.split (chars.take count) = .ok parts ∧
      Part.groups parts = passedGroups first chars ∧
      count ≤ chars.length := by
  fun_induction textLength first chars generalizing count
  case case1 =>
    cases found
    exact ⟨[], by simp [Part.split], by simp [passedGroups], by simp⟩
  case case2 => contradiction
  case case3 closed ih =>
    obtain ⟨inner, later, rfl⟩ := exists_of_shift found
    obtain ⟨parts, read, same, bounded⟩ := ih later
    obtain ⟨code, after, rfl, rfl, canonical⟩ := Part.exists_braced_of_length? closed
    rw [Part.drop_braced] at read same bounded
    refine ⟨.expression code :: parts, ?_, ?_, ?_⟩
    · rw [Part.take_braced]
      exact Part.split_braced canonical read
    · have group := Part.take_braced code after 0
      rw [Nat.add_zero, List.take_zero, List.append_nil] at group
      rw [passedGroups, if_pos rfl, closed, Part.groups_expression, same]
      dsimp only
      rw [Part.drop_braced, group]
    · simp only [List.length_cons, List.length_append]
      omega
  case case4 plain ends =>
    cases found
    exact ⟨[], by simp [Part.split],
      by rw [passedGroups, if_neg plain, if_pos ends, Part.groups_nil], by simp⟩
  case case5 c rest plain goes ih =>
    obtain ⟨inner, later, rfl⟩ := exists_of_shift found
    obtain ⟨parts, read, same, bounded⟩ := ih later
    refine ⟨Part.consChar c parts, ?_, ?_, ?_⟩
    · rw [Nat.add_comm, List.take_succ_cons]
      exact Part.split_cons plain read
    · rw [Part.groups_consChar, same, passedGroups, if_neg plain, if_neg goes]
    · simp only [List.length_cons]
      omega

/-- A value in quotes can be split, and its quote follows it. -/
theorem split_quotedLength {quote : Char} {chars : List Char} {count : Nat}
    (found : quotedLength quote chars = .ok count) :
    (∃ parts, Part.split (chars.take count) = .ok parts) ∧
      ∃ rest, chars = chars.take count ++ quote :: rest := by
  fun_induction quotedLength quote chars generalizing count
  case case1 => contradiction
  case case2 => contradiction
  case case3 closed ih =>
    obtain ⟨inner, later, rfl⟩ := exists_of_shift found
    obtain ⟨⟨parts, read⟩, tail, around⟩ := ih later
    obtain ⟨code, after, rfl, rfl, canonical⟩ := Part.exists_braced_of_length? closed
    rw [Part.drop_braced] at read around
    rw [Part.take_braced]
    refine ⟨⟨.expression code :: parts, Part.split_braced canonical read⟩, tail, ?_⟩
    rw [List.append_assoc, ← around, Part.braced_append]
  case case4 rest _ =>
    cases found
    exact ⟨⟨[], by simp [Part.split]⟩, rest, by simp⟩
  case case5 c rest plain _ ih =>
    obtain ⟨inner, later, rfl⟩ := exists_of_shift found
    obtain ⟨⟨parts, read⟩, tail, around⟩ := ih later
    rw [Nat.add_comm, List.take_succ_cons]
    exact ⟨⟨Part.consChar c parts, Part.split_cons plain read⟩, tail, congrArg (c :: ·) around⟩

end Markup

end RenderTemplate
