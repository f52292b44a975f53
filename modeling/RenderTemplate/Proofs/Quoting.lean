import Mathlib.Algebra.Group.Nat.Defs
import RenderTemplate.Entity
import RenderTemplate.Quoted

namespace RenderTemplate

theorem number_hexDigits (count value : Nat) :
    Entity.number 16 (hexDigits count value) = value % 16 ^ count := by
  induction count generalizing value with
  | zero => simp [hexDigits, Entity.number, Nat.mod_one]
  | succ count ih =>
    have digit : ∀ digit < 16, Entity.hexValue (hexDigit digit) = digit := by decide
    have last : Entity.number 16 (hexDigits count (value / 16) ++ [hexDigit (value % 16)]) =
        Entity.number 16 (hexDigits count (value / 16)) * 16 +
          Entity.hexValue (hexDigit (value % 16)) := by
      rw [Entity.number, List.foldl_append]
      rfl
    rw [hexDigits, last, ih, digit _ (Nat.mod_lt _ (by decide)), Nat.pow_succ', Nat.mod_mul]
    omega

/-- A number of 16 bits has four digits, which are read as this number. -/
theorem exists_hexDigits {value : Nat} (small : value < 0x10000) :
    ∃ first second third fourth, hexDigits 4 value = [first, second, third, fourth] ∧
      [first, second, third, fourth].all Entity.isHexDigit ∧
        Entity.number 16 [first, second, third, fourth] = value := by
  have digits : ∀ digit < 16, Entity.isHexDigit (hexDigit digit) := by decide
  have each : (hexDigits 4 value).all Entity.isHexDigit := by
    rw [List.all_eq_true]
    intro d member
    obtain ⟨digit, bound, rfl⟩ := hexDigit_of_mem member
    exact digits digit bound
  have read : Entity.number 16 (hexDigits 4 value) = value := by
    rw [number_hexDigits]
    exact Nat.mod_eq_of_lt small
  exact ⟨_, _, _, _, rfl, each, read⟩

namespace Quoted

/-- What a letter behind a backslash means. -/
def meaning? (letter : Char) : Option Char :=
  if letter = '"' then some '"'
  else if letter = '\\' then some '\\'
  else if letter = 'n' then some '\n'
  else if letter = 'r' then some '\r'
  else if letter = 't' then some '\t'
  else none

/-- Reads a string literal behind its opening quote: the text that it means, and what follows its
closing quote. A literal ends on the line on which it starts. -/
def readBody : List Char → Option (List Char × List Char)
  | [] => none
  | '\\' :: 'u' :: first :: second :: third :: fourth :: rest =>
    let digits := [first, second, third, fourth]
    if digits.all Entity.isHexDigit then
      (Entity.character? (Entity.number 16 digits)).bind fun c =>
        (readBody rest).map (Prod.map (c :: ·) id)
    else none
  | '\\' :: letter :: rest =>
    (meaning? letter).bind fun c => (readBody rest).map (Prod.map (c :: ·) id)
  | c :: rest =>
    if c = '"' then some ([], rest)
    else if c = '\n' ∨ c = '\r' then none
    else (readBody rest).map (Prod.map (c :: ·) id)

/-- Reads a string literal: the text that it means, and what follows it. -/
def read : List Char → Option (List Char × List Char)
  | [] => none
  | c :: rest => if c = '"' then readBody rest else none

/-- The positions, counted from `start`, of the quotes with no backslash in front that hides
them. -/
def bareQuotes (start : Nat) : List Char → List Nat
  | [] => []
  | '\\' :: _ :: rest => bareQuotes (start + 2) rest
  | c :: rest =>
    if c = '"' then start :: bareQuotes (start + 1) rest else bareQuotes (start + 1) rest

/-- Whether a character is none of those that are written by their numbers, nor a tab or an end of a
line. -/
def isOrdinary (c : Char) : Bool :=
  0x20 ≤ c.toNat && c.toNat != 0xA0 && c.toNat != 0x2028 && c.toNat != 0x2029

/-- A character is written by a letter that means it, by its number, or as it is. -/
theorem escape_cases (c : Char) :
    (∃ letter, escape c = ['\\', letter] ∧ meaning? letter = some c ∧ isOrdinary letter) ∨
    (escape c = '\\' :: 'u' :: hexDigits 4 c.toNat ∧ c.toNat < 0x10000) ∨
    (escape c = [c] ∧ c ≠ '"' ∧ c ≠ '\\' ∧ isOrdinary c) := by
  by_cases quoted : c = '"'
  · exact .inl ⟨'"', by simp [escape, quoted], by simp [meaning?, quoted], by decide⟩
  by_cases backslash : c = '\\'
  · exact .inl ⟨'\\', by simp [escape, backslash], by simp [meaning?, backslash], by decide⟩
  by_cases newline : c = '\n'
  · exact .inl ⟨'n', by simp [escape, newline], by simp [meaning?, newline], by decide⟩
  by_cases carriage : c = '\r'
  · exact .inl ⟨'r', by simp [escape, carriage], by simp [meaning?, carriage], by decide⟩
  by_cases tab : c = '\t'
  · exact .inl ⟨'t', by simp [escape, tab], by simp [meaning?, tab], by decide⟩
  right
  by_cases hidden : c.toNat < 0x20 ∨ c.toNat = 0xA0 ∨ c.toNat = 0x2028 ∨ c.toNat = 0x2029
  · exact .inl
      ⟨by simp only [escape, quoted, backslash, newline, carriage, tab, hidden, if_true, if_false],
      by omega⟩
  · refine .inr ⟨?_, quoted, backslash, ?_⟩
    · simp only [escape, quoted, backslash, newline, carriage, tab, hidden, if_false]
    · simp only [isOrdinary, Bool.and_eq_true, decide_eq_true_eq, bne_iff_ne]
      omega

/-- No character of an escape is one that would have to be written by its number itself. -/
theorem isOrdinary_of_mem_escape {c d : Char} (member : d ∈ escape c) : isOrdinary d := by
  rcases escape_cases c with ⟨letter, same, _, ordinary⟩ | ⟨same, _⟩ | ⟨same, _, _, ordinary⟩
  · rw [same, List.mem_cons, List.mem_singleton] at member
    rcases member with rfl | rfl
    · decide
    · exact ordinary
  · rw [same, List.mem_cons, List.mem_cons] at member
    rcases member with rfl | rfl | inNumber
    · decide
    · decide
    · have checked : ∀ digit < 16, isOrdinary (hexDigit digit) := by decide
      obtain ⟨digit, small, rfl⟩ := hexDigit_of_mem inNumber
      exact checked digit small
  · rw [same, List.mem_singleton] at member
    rwa [member]

theorem bareQuotes_plain {front : List Char} (plain : ∀ c ∈ front, c ≠ '"' ∧ c ≠ '\\') (start : Nat)
    (rest : List Char) :
    bareQuotes start (front ++ rest) = bareQuotes (start + front.length) rest := by
  induction front generalizing start with
  | nil => rfl
  | cons c front ih =>
    rw [List.forall_mem_cons] at plain
    rw [List.cons_append, bareQuotes.eq_3 _ _ _ fun _ _ same =>
      absurd same plain.1.2, if_neg plain.1.1, ih plain.2, List.length_cons, Nat.add_assoc,
        Nat.add_comm 1]

/-- A character that is written has no bare quote. -/
theorem bareQuotes_escape (c : Char) (start : Nat) (rest : List Char) :
    bareQuotes start (escape c ++ rest) = bareQuotes (start + (escape c).length) rest := by
  rcases escape_cases c with ⟨letter, same, _⟩ | ⟨same, _⟩ | ⟨same, quoted, backslash, _⟩
  · rw [same]
    rfl
  · have plain : ∀ d ∈ hexDigits 4 c.toNat, d ≠ '"' ∧ d ≠ '\\' := by
      have checked : ∀ digit < 16, hexDigit digit ≠ '"' ∧ hexDigit digit ≠ '\\' := by decide
      intro d member
      obtain ⟨digit, small, rfl⟩ := hexDigit_of_mem member
      exact checked digit small
    rw [same, List.cons_append, List.cons_append, bareQuotes, bareQuotes_plain plain]
    rfl
  · rw [same]
    exact bareQuotes_plain (by simpa using ⟨quoted, backslash⟩) start rest

theorem bareQuotes_escaped (chars : List Char) (start : Nat) (rest : List Char) :
    bareQuotes start (chars.flatMap escape ++ rest) =
      bareQuotes (start + (chars.flatMap escape).length) rest := by
  induction chars generalizing start with
  | nil => rfl
  | cons c chars ih =>
    rw [List.flatMap_cons, List.append_assoc, bareQuotes_escape, ih, List.length_append,
      Nat.add_assoc]

/-- A character that is escaped by its number is read as that character. -/
theorem readBody_number {c : Char} (small : c.toNat < 0x10000) (rest : List Char) :
    readBody ('\\' :: 'u' :: (hexDigits 4 c.toNat ++ rest)) =
      (readBody rest).map (Prod.map (c :: ·) id) := by
  obtain ⟨first, second, third, fourth, same, each, value⟩ := exists_hexDigits small
  rw [same]
  simp only [List.cons_append, List.nil_append]
  rw [readBody, if_pos each, value, Entity.character?_toNat, Option.bind_some]

/-- A character that is written is read as itself. -/
theorem readBody_escape (c : Char) (rest : List Char) :
    readBody (escape c ++ rest) = (readBody rest).map (Prod.map (c :: ·) id) := by
  rcases escape_cases c with ⟨letter, same, meant, _⟩ | ⟨same, small⟩
    | ⟨same, quoted, backslash, ordinary⟩
  · have other : letter ≠ 'u' := by
      rintro rfl
      cases meant
    rw [same, List.cons_append, List.cons_append, List.nil_append, readBody, meant,
      Option.bind_some]
    exact fun _ _ _ _ _ same => absurd same other
  · rw [same]
    exact readBody_number small rest
  · have ended : ¬ (c = '\n' ∨ c = '\r') := by
      rintro (rfl | rfl) <;> cases ordinary
    rw [same, List.singleton_append, readBody, if_neg quoted, if_neg ended]
    all_goals intros; contradiction

theorem readBody_escaped (chars rest : List Char) :
    readBody (chars.flatMap escape ++ '"' :: rest) = some (chars, rest) := by
  induction chars with
  | nil => simp [readBody]
  | cons c chars ih =>
    rw [List.flatMap_cons, List.append_assoc, readBody_escape, ih]
    rfl

/-- A quoted text is read back as the text, wherever it stands. -/
theorem read_encode (chars rest : List Char) :
    read (encode chars ++ rest) = some (chars, rest) := by
  rw [encode, List.cons_append, List.append_assoc, read, if_pos rfl]
  exact readBody_escaped chars rest

theorem isOrdinary_of_mem_encode {chars : List Char} {c : Char} (member : c ∈ encode chars) :
    isOrdinary c := by
  simp only [encode, List.mem_cons, List.mem_append, List.not_mem_nil, or_false, List.mem_flatMap]
    at member
  rcases member with rfl | ⟨d, _, written⟩ | rfl
  · decide
  · exact isOrdinary_of_mem_escape written
  · decide

/-- The bare quotes of a quoted text are its first and its last character. -/
theorem bareQuotes_encode (chars : List Char) :
    bareQuotes 0 (encode chars) = [0, (encode chars).length - 1] := by
  have last := bareQuotes_escaped chars 1 ['"']
  have opened : bareQuotes 0 (encode chars) =
      0 :: bareQuotes 1 (chars.flatMap escape ++ ['"']) := by
    rw [encode, bareQuotes, if_pos rfl]
    intros
    contradiction
  rw [opened, last, encode, List.length_cons, List.length_append, Nat.add_sub_cancel]
  simp [bareQuotes, Nat.add_comm]

end Quoted

/-- A reader of string literals reads the literal of any text as this text, and leaves what follows
the literal. No control character below the space, no end of a line and none of the special spaces
is in it, and its first and its last character are the only quotes in it that no backslash hides. So
no two texts have one literal. -/
theorem quote_reads_back (text : String) :
    (∀ rest, Quoted.read ((quote text).toList ++ rest) = some (text.toList, rest)) ∧
    (∀ c ∈ (quote text).toList, 0x20 ≤ c.toNat ∧ c.toNat ≠ 0xA0 ∧ c.toNat ≠ 0x2028 ∧
      c.toNat ≠ 0x2029) ∧
    Quoted.bareQuotes 0 (quote text).toList = [0, (quote text).toList.length - 1] ∧
    ∀ other, quote text = quote other → text = other := by
  have chars (text : String) : (quote text).toList = Quoted.encode text.toList := by
    rw [quote, String.toList_ofList]
  refine ⟨fun rest => ?_, fun c member => ?_, ?_, fun other same => ?_⟩
  · rw [chars, Quoted.read_encode]
  · rw [chars] at member
    have ordinary := Quoted.isOrdinary_of_mem_encode member
    simp only [Quoted.isOrdinary, Bool.and_eq_true, decide_eq_true_eq, bne_iff_ne] at ordinary
    omega
  · rw [chars, Quoted.bareQuotes_encode]
  · have first := Quoted.read_encode text.toList []
    have second := Quoted.read_encode other.toList []
    rw [← chars] at first second
    rw [same, second, Option.some.injEq, Prod.mk.injEq, String.toList_inj] at first
    exact first.1.symm

end RenderTemplate
