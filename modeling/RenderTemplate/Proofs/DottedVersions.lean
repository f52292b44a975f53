import RenderTemplate.Proofs.Gaps
import RenderTemplate.Version

namespace RenderTemplate

namespace Text

theorem splitOnChar_eq_splitOn (separator : Char) (chars : List Char) :
    splitOnChar separator chars = chars.splitOn separator := by
  induction chars with
  | nil => simp [splitOnChar]
  | cons c rest ih =>
    rw [splitOnChar, List.splitOn_cons_eq_if_modifyHead, ← ih]
    by_cases here : c = separator
    · rw [if_pos here, if_pos (beq_iff_eq.mpr here)]
    · rw [if_neg here, if_neg (fun same => here (beq_iff_eq.mp same))]
      have some : splitOnChar separator rest ≠ [] := by
        rw [ih]
        exact List.splitOn_ne_nil separator rest
      obtain ⟨piece, more, listed⟩ := List.exists_cons_of_ne_nil some
      rw [listed, List.modifyHead_cons]

theorem stops_append_of_forall {kind : Char → Bool} {front : List Char} (filled : front ≠ [])
    (other : ∀ c ∈ front, kind c = false) (rest : List Char) : Stops kind (front ++ rest) := by
  obtain ⟨c, more, rfl⟩ := List.exists_cons_of_ne_nil filled
  exact Stops.cons (other c List.mem_cons_self) _

theorem trimRight_append_of_solid {front : List Char} (filled : front ≠ [])
    (solid : ∀ c ∈ front, isBlankChar c = false) (rest : List Char) :
    trimRight (front ++ rest) = front ++ trimRight rest := by
  obtain ⟨start, c, rfl⟩ := (List.eq_nil_or_concat' front).resolve_left filled
  rw [List.append_assoc, List.singleton_append, trimRight_append_cons (solid c (by simp)),
    List.append_assoc, List.singleton_append]

end Text

namespace Version

open Text (Gap Stops isBlankChar)

/-- A decimal number below two to the power of 32. There may be zeros in front. -/
structure Numeral where
  digits : List Char
  filled : digits ≠ []
  each : digits.all Char.isDigit
  fits : Nat.ofDigitChars 10 digits 0 < UInt32.size

/-- What a number is worth. -/
def Numeral.value (numeral : Numeral) : UInt32 :=
  UInt32.ofNat (Nat.ofDigitChars 10 numeral.digits 0)

/-- A version as it is written: one to three numbers with points between them, behind letters `v`,
with a suffix perhaps. -/
structure Writing where
  before : Gap
  letters : Nat
  numbers : List Numeral
  suffix : List Char
  after : Gap
  filled : numbers ≠ []
  few : numbers.length ≤ 3
  marked : ∀ c ∈ suffix.head?, c = '-' ∨ c = '+'

namespace Writing

/-- The numbers with points between them. -/
def core (writing : Writing) : List Char :=
  ['.'].intercalate (writing.numbers.map (·.digits))

/-- The version as it is written. -/
def text (writing : Writing) : List Char :=
  writing.before.chars ++
    (List.replicate writing.letters 'v' ++ writing.core ++ (writing.suffix ++ writing.after.chars))

/-- What the number at an index is worth; one that is missing is zero. -/
def component (writing : Writing) (index : Nat) : UInt32 :=
  (writing.numbers[index]?.map (·.value)).getD 0

/-- The version that is written. -/
def version (writing : Writing) : Version :=
  ⟨writing.component 0, writing.component 1, writing.component 2⟩

end Writing

/-- A piece is read as a number if it is a numeral whose value fits. -/
theorem number?_eq_some_iff {digits : List Char} {value : UInt32} :
    number? digits = some value ↔ ∃ numeral : Numeral, numeral.digits = digits ∧
      numeral.value = value := by
  have worth : digits.foldl (fun value c => value * 10 + (c.toNat - 48)) 0 =
      Nat.ofDigitChars 10 digits 0 := by
    rw [Nat.ofDigitChars_eq_foldl]
    congr 1
    funext sofar c
    rw [Nat.mul_comm]
    rfl
  rw [number?, worth]
  constructor
  · intro read
    split at read
    · cases read
    · next form =>
      rw [Bool.or_eq_true, not_or, Bool.not_eq_true', Bool.not_eq_false, List.isEmpty_iff] at form
      dsimp only at read
      split at read
      · next fits => exact ⟨⟨digits, form.1, form.2, fits⟩, rfl, Option.some.inj read⟩
      · cases read
  · rintro ⟨⟨digits, filled, each, fits⟩, rfl, rfl⟩
    have form : (digits.isEmpty || !digits.all Char.isDigit) = false := by simp [filled, each]
    dsimp only
    rw [form, if_neg Bool.false_ne_true, if_pos fits]
    rfl

theorem mapM_number?_eq_some_iff {pieces : List (List Char)} {values : List UInt32} :
    pieces.mapM number? = some values ↔
      ∃ numerals : List Numeral, numerals.map (·.digits) = pieces ∧
        numerals.map (·.value) = values := by
  induction pieces generalizing values with
  | nil =>
    constructor
    · intro none
      exact ⟨[], rfl, Option.some.inj none⟩
    · rintro ⟨numerals, none, rfl⟩
      rw [List.map_eq_nil_iff] at none
      rw [none]
      rfl
  | cons piece pieces ih =>
    rw [List.mapM_cons]
    simp only [Option.bind_eq_bind, Option.bind_eq_some_iff, Option.pure_def, Option.some.injEq]
    constructor
    · rintro ⟨value, here, others, later, rfl⟩
      obtain ⟨numeral, rfl, rfl⟩ := number?_eq_some_iff.mp here
      obtain ⟨numerals, rfl, rfl⟩ := ih.mp later
      exact ⟨numeral :: numerals, rfl, rfl⟩
    · rintro ⟨numerals, pieced, rfl⟩
      obtain ⟨numeral, others, rfl, rfl, rfl⟩ := List.map_eq_cons_iff.mp pieced
      exact ⟨numeral.value, number?_eq_some_iff.mpr ⟨numeral, rfl, rfl⟩, others.map (·.value),
        ih.mpr ⟨others, rfl, rfl⟩, rfl⟩

/-- The version of one to three numbers. -/
def ofNumbers? : List UInt32 → Option Version
  | [major] => some ⟨major, 0, 0⟩
  | [major, minor] => some ⟨major, minor, 0⟩
  | [major, minor, patch] => some ⟨major, minor, patch⟩
  | _ => none

/-- A version is what the pieces between the points of its core say. -/
theorem ofText?_eq (text : String) :
    ofText? text = ((Text.splitOnChar '.' (coreText text)).mapM number?).bind ofNumbers? := by
  unfold ofText?
  rcases Text.splitOnChar '.' (coreText text) with
    _ | ⟨major, _ | ⟨minor, _ | ⟨patch, _ | ⟨build, rest⟩⟩⟩⟩
  · rfl
  · simp [ofNumbers?, Option.bind_assoc]
  · simp [ofNumbers?, Option.bind_assoc]
  · simp [ofNumbers?, Option.bind_assoc]
  · simp [ofNumbers?, Option.bind_assoc]

/-- Of one to three numbers, those that are missing are zero. -/
theorem ofNumbers?_eq_some_iff {numbers : List UInt32} {version : Version} :
    ofNumbers? numbers = some version ↔ numbers ≠ [] ∧ numbers.length ≤ 3 ∧
      version = ⟨numbers[0]?.getD 0, numbers[1]?.getD 0, numbers[2]?.getD 0⟩ := by
  rcases numbers with _ | ⟨major, _ | ⟨minor, _ | ⟨patch, _ | ⟨build, rest⟩⟩⟩⟩
  · simp [ofNumbers?]
  · simpa [ofNumbers?] using eq_comm
  · simpa [ofNumbers?] using eq_comm
  · simpa [ofNumbers?] using eq_comm
  · simp [ofNumbers?]

/-- A character of the numbers and the points between them. -/
def isCoreChar (c : Char) : Bool :=
  c.isDigit || c == '.'

theorem isCoreChar_bounds {c : Char} (inCore : isCoreChar c) : 46 ≤ c.toNat ∧ c.toNat ≤ 57 := by
  rw [isCoreChar, Bool.or_eq_true, beq_iff_eq] at inCore
  rcases inCore with digit | rfl
  · have bounds : 48 ≤ c.toNat ∧ c.toNat ≤ 57 := by
      simpa [Char.isDigit, UInt32.le_iff_toNat_le] using digit
    omega
  · decide

theorem isBlankChar_of_isCoreChar {c : Char} (inCore : isCoreChar c) : isBlankChar c = false := by
  have bounds := isCoreChar_bounds inCore
  simp [isBlankChar]
  omega

theorem ne_of_isCoreChar {c other : Char} (inCore : isCoreChar c)
    (outside : isCoreChar other = false) : c ≠ other := by
  rintro rfl
  rw [inCore] at outside
  cases outside

namespace Writing

variable (writing : Writing)

theorem isCoreChar_of_mem_core : ∀ c ∈ writing.core, isCoreChar c := by
  have digits (numeral : Numeral) : ∀ c ∈ numeral.digits, isCoreChar c := by
    intro c member
    rw [isCoreChar, List.all_eq_true.mp numeral.each c member, Bool.true_or]
  unfold core
  induction writing.numbers with
  | nil => simp
  | cons numeral others ih =>
    cases others with
    | nil => simpa using digits numeral
    | cons next others =>
      intro c member
      rw [List.map_cons, List.map_cons, List.intercalate_cons_cons, List.append_assoc,
        List.mem_append, List.mem_append, List.mem_singleton] at member
      rcases member with here | rfl | later
      · exact digits numeral c here
      · rfl
      · exact ih c later

theorem core_ne_nil : writing.core ≠ [] := by
  obtain ⟨numeral, others, listed⟩ := List.exists_cons_of_ne_nil writing.filled
  obtain ⟨c, digits, first⟩ := List.exists_cons_of_ne_nil numeral.filled
  rw [core, listed, List.map_cons, first]
  cases others <;> simp

/-- Trimming takes no more than the blanks at the ends, and what is blank at the end of the
suffix. -/
theorem trimList_text :
    Text.trimList writing.text = List.replicate writing.letters 'v' ++ writing.core ++
      Text.trimRight writing.suffix := by
  have filled : List.replicate writing.letters 'v' ++ writing.core ≠ [] := by
    intro none
    exact writing.core_ne_nil (List.append_eq_nil_iff.mp none).2
  have solid : ∀ c ∈ List.replicate writing.letters 'v' ++ writing.core, isBlankChar c = false := by
    intro c member
    rcases List.mem_append.mp member with letter | inCore
    · rw [List.eq_of_mem_replicate letter]
      decide
    · exact isBlankChar_of_isCoreChar (writing.isCoreChar_of_mem_core c inCore)
  rw [Text.trimList, text,
    writing.before.trimLeft_append (Text.stops_append_of_forall filled solid _),
    Text.trimRight_append_of_solid filled solid, writing.after.trimRight_append]

theorem coreText_text : coreText (String.ofList writing.text) = writing.core := by
  have apart {other : Char} (outside : isCoreChar other = false) : ∀ c ∈ writing.core, c ≠ other :=
    fun c member => ne_of_isCoreChar (writing.isCoreChar_of_mem_core c member) outside
  have letters : (List.replicate writing.letters 'v').all (· == 'v') := by simp
  have noLetter : ∀ c ∈ writing.core, (c == 'v') = false :=
    fun c member => beq_eq_false_iff_ne.mpr (apart (by decide) c member)
  have inside : writing.core.all fun c => c != '-' && c != '+' := by
    rw [List.all_eq_true]
    intro c member
    rw [Bool.and_eq_true, bne_iff_ne, bne_iff_ne]
    exact ⟨apart (by decide) c member, apart (by decide) c member⟩
  have ends : Stops (fun c => c != '-' && c != '+') (Text.trimRight writing.suffix) := by
    have marked := writing.marked
    cases suffix : writing.suffix with
    | nil => exact fun c none => by cases none
    | cons mark rest =>
      rw [suffix] at marked
      have sign : mark = '-' ∨ mark = '+' := marked mark rfl
      have solid : isBlankChar mark = false := by rcases sign with rfl | rfl <;> decide
      have kept : Text.trimRight (mark :: rest) = mark :: Text.trimRight rest :=
        Text.trimRight_append_cons solid [] rest
      rw [kept]
      refine Stops.cons ?_ _
      rcases sign with rfl | rfl <;> decide
  rw [coreText, String.toList_ofList, writing.trimList_text, List.append_assoc,
    Text.dropWhile_append_of_stops letters
      (Text.stops_append_of_forall writing.core_ne_nil noLetter _),
    Text.takeWhile_append_of_stops inside ends]

/-- No digit is a point, so the numbers of a core are found again. -/
theorem splitOnChar_core : Text.splitOnChar '.' writing.core = writing.numbers.map (·.digits) := by
  rw [Text.splitOnChar_eq_splitOn, core]
  refine List.splitOn_intercalate '.' (fun digits member => ?_) (by simpa using writing.filled)
  obtain ⟨numeral, _, rfl⟩ := List.mem_map.mp member
  intro point
  have digit := List.all_eq_true.mp numeral.each '.' point
  cases digit

theorem version_eq : writing.version =
    ⟨(writing.numbers.map (·.value))[0]?.getD 0, (writing.numbers.map (·.value))[1]?.getD 0,
      (writing.numbers.map (·.value))[2]?.getD 0⟩ := by
  simp [version, component]

theorem ofText?_text : ofText? (String.ofList writing.text) = some writing.version := by
  have read : (writing.numbers.map (·.digits)).mapM number? =
      some (writing.numbers.map (·.value)) :=
    mapM_number?_eq_some_iff.mpr ⟨writing.numbers, rfl, rfl⟩
  rw [ofText?_eq, writing.coreText_text, writing.splitOnChar_core, read, Option.bind_some,
    ofNumbers?_eq_some_iff]
  exact ⟨by simpa using writing.filled, by simpa using writing.few, writing.version_eq⟩

end Writing

/-- A text falls apart at the places where reading it as a version cuts it. -/
theorem exists_parts (text : String) :
    ∃ (before after : Gap) (letters : Nat) (suffix : List Char), (∀ c ∈ suffix.head?, c = '-' ∨
      c = '+') ∧
      text.toList =
        before.chars ++
        (List.replicate letters 'v' ++ coreText text ++ (suffix ++ after.chars)) := by
  obtain ⟨after, back⟩ := Text.exists_gap_trimRight (Text.trimLeft text.toList)
  have front := Gap.leading_append text.toList
  obtain ⟨letters, named⟩ : ∃ letters, (Text.trimList text.toList).takeWhile (· == 'v') =
      List.replicate letters 'v' := by
    refine ⟨_, List.eq_replicate_of_mem fun c member => ?_⟩
    exact beq_iff_eq.mp (List.all_eq_true.mp List.all_takeWhile c member)
  obtain ⟨suffix, marked, numbered⟩ : ∃ suffix, (∀ c ∈ suffix.head?, c = '-' ∨ c = '+') ∧
      coreText text ++ suffix = (Text.trimList text.toList).dropWhile (· == 'v') := by
    refine ⟨_, fun c first => ?_, List.takeWhile_append_dropWhile⟩
    have stopped := Text.stops_dropWhile (fun c => c != '-' && c != '+') _ c first
    rw [Bool.and_eq_false_iff, bne_eq_false_iff_eq, bne_eq_false_iff_eq] at stopped
    exact stopped
  refine ⟨Gap.leading text.toList, after, letters, suffix, marked, ?_⟩
  calc
    text.toList =
      (Gap.leading text.toList).chars ++ (Text.trimList text.toList ++ after.chars) := by
      rw [Text.trimList, ← back]
      exact front
    _ =
      (Gap.leading text.toList).chars ++
      (List.replicate letters 'v' ++ (coreText text ++ suffix) ++ after.chars) := by
      rw [← named, numbered, List.takeWhile_append_dropWhile]
    _ = _ := by simp

/-- A text is read as a version exactly if it is a way to write that version. -/
theorem ofText?_eq_some_iff {text : String} {version : Version} :
    ofText? text = some version ↔ ∃ writing : Writing, text = String.ofList writing.text ∧
      version = writing.version := by
  constructor
  · intro read
    rw [ofText?_eq] at read
    obtain ⟨values, each, made⟩ := Option.bind_eq_some_iff.mp read
    obtain ⟨numbers, pieces, rfl⟩ := mapM_number?_eq_some_iff.mp each
    obtain ⟨filled, few, rfl⟩ := ofNumbers?_eq_some_iff.mp made
    have core : ['.'].intercalate (numbers.map (·.digits)) = coreText text := by
      rw [pieces, Text.splitOnChar_eq_splitOn, List.intercalate_splitOn]
    obtain ⟨before, after, letters, suffix, marked, parts⟩ := exists_parts text
    refine ⟨⟨before, letters, numbers, suffix, after, by simpa using filled, by simpa using few,
      marked⟩, ?_, ?_⟩
    · rw [Writing.text, Writing.core, core, ← parts, String.ofList_toList]
    · rw [Writing.version_eq]
  · rintro ⟨writing, rfl, rfl⟩
    exact writing.ofText?_text

/-- The digits of a number below two to the power of 32. -/
def Numeral.of (value : UInt32) : Numeral where
  digits := Nat.toDigits 10 value.toNat
  filled := Nat.toDigits_ne_nil
  each :=
    List.all_eq_true.mpr fun _ member => Nat.isDigit_of_mem_toDigits (by decide) (by decide) member
  fits := by
    rw [Nat.ofDigitChars_toDigits (by decide) (by decide)]
    exact value.toNat_lt

theorem Numeral.value_of (value : UInt32) : (Numeral.of value).value = value := by
  rw [Numeral.value, Numeral.of, Nat.ofDigitChars_toDigits (by decide) (by decide),
    UInt32.ofNat_toNat]

/-- The text of a version is one of the ways to write it. -/
theorem ofText?_display (version : Version) : ofText? version.display = some version := by
  rw [ofText?_eq_some_iff]
  refine ⟨⟨.empty, 0, [.of version.major, .of version.minor, .of version.patch], [], .empty,
    by simp, by simp, by simp⟩, ?_, ?_⟩
  · rw [← String.toList_inj, String.toList_ofList]
    simp [display, Writing.text, Writing.core, Gap.empty, Numeral.of]
  · simp [Writing.version_eq, Numeral.value_of]

end Version

end RenderTemplate
