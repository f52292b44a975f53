import Mathlib.Data.Nat.Digits.Defs
import RenderTemplate.Proofs.Scanning

namespace RenderTemplate

namespace Entity

/-- What stands between `&` and the digits of a number, with the base of these digits. -/
def radixes : List (List Char × Nat) :=
  [(['#'], 10), (['#', 'x'], 16), (['#', 'X'], 16)]

/-- The digits, in the order of their values. -/
def digitChars : List Char :=
  ['0', '1', '2', '3', '4', '5', '6', '7', '8', '9', 'a', 'b', 'c', 'd', 'e', 'f']

/-- The place of a digit among the digits, for letters of either case. -/
def digitValue (c : Char) : Nat :=
  digitChars.idxOf c.toLower

/-- The reference with a body. -/
def enclose (body : List Char) : List Char :=
  '&' :: (body ++ [';'])

/-- A number in a reference: what it starts with, and digits of its base, of which there is one at
least. -/
structure Numeral where
  mark : List Char
  base : Nat
  digits : List Char
  radix : (mark, base) ∈ radixes
  nonempty : digits ≠ []
  each : digits.all (digitValue · < base)

namespace Numeral

/-- What a number is worth. Its last digit counts as such. -/
def value (numeral : Numeral) : Nat :=
  Nat.ofDigits numeral.base (numeral.digits.map digitValue).reverse

/-- The reference by a number. -/
def text (numeral : Numeral) : List Char :=
  enclose (numeral.mark ++ numeral.digits)

end Numeral

/-- The ways to write a character: as it is, if it is no `&`, by its number, or by its name. No
reference has an `&` inside. So a text can be cut in front of each `&`, and what was decoded before
the cut never becomes a part of a reference behind it. -/
inductive Spells : List Char → Char → Prop where
  | plain {c : Char} (other : c ≠ '&') : Spells [c] c
  | number {c : Char} {numeral : Numeral} (same : numeral.value = c.toNat) : Spells numeral.text c
  | name {c : Char} {name : String} (listed : (name, c) ∈ named) : Spells (enclose name.toList) c

/-- A body ends in front of an `&`. -/
theorem read?_append_ampersand (front rest : List Char) :
    read? (front ++ '&' :: rest) = read? front := by
  have stopped : ('&' :: rest).takeWhile isBodyChar = [] := rfl
  have body : (front ++ '&' :: rest).takeWhile isBodyChar = front.takeWhile isBodyChar := by
    rw [List.takeWhile_append, stopped, List.append_nil]
    split
    · next all => exact ((List.takeWhile_prefix isBodyChar).eq_of_length all).symm
    · rfl
  have within : (front.takeWhile isBodyChar).length ≤ front.length :=
    (List.takeWhile_prefix isBodyChar).length_le
  unfold read?
  dsimp only
  rw [body, List.drop_append_of_le_length within]
  cases front.drop (front.takeWhile isBodyChar).length with
  | nil => rfl
  | cons c after => by_cases ended : c = ';' <;> simp [ended]

theorem count_le_of_read? {chars : List Char} {c : Char} {count : Nat}
    (found : read? chars = some (c, count)) :
    count ≤ chars.length := by
  unfold read? at found
  dsimp only at found
  split at found
  · next after ended =>
    obtain ⟨meant, _, same⟩ := Option.map_eq_some_iff.mp found
    cases same
    have length := congrArg List.length ended
    rw [List.length_drop, List.length_cons] at length
    omega
  · cases found

/-- A text is decoded up to an `&` as if nothing followed. -/
theorem decodeList_append_ampersand (front rest : List Char) :
    decodeList (front ++ '&' :: rest) = decodeList front ++ decodeList ('&' :: rest) := by
  fun_induction decodeList front with
  | case1 => rfl
  | case2 after meaning count found ih =>
    rw [← read?_append_ampersand after rest] at found
    have within : count ≤ after.length :=
      count_le_of_read? (by rwa [read?_append_ampersand] at found)
    rw [List.cons_append, decodeList_cons_found found, List.drop_append_of_le_length within, ih,
      List.cons_append]
  | case3 after none ih =>
    rw [← read?_append_ampersand after rest] at none
    rw [List.cons_append, decodeList_cons_none none, ih, List.cons_append]
  | case4 c after other ih =>
    rw [List.cons_append, decodeList_cons_other other, ih, List.cons_append]

theorem decodeList_append_of_not_mem {front : List Char} (plain : '&' ∉ front) (rest : List Char) :
    decodeList (front ++ rest) = front ++ decodeList rest := by
  induction front with
  | nil => rfl
  | cons c front ih =>
    rw [List.mem_cons, not_or] at plain
    rw [List.cons_append, decodeList_cons_other (Ne.symm plain.1), ih plain.2, List.cons_append]

theorem not_mem_of_all_isBodyChar {body : List Char} (inner : body.all isBodyChar) :
    '&' ∉ body := by
  intro member
  have wrong := List.all_eq_true.mp inner '&' member
  cases wrong

/-- What has the form of a reference and means no character stays as it is. -/
theorem decodeList_meaningless {body : List Char} (inner : body.all isBodyChar)
    (means : meaning? body = none) (tail : List Char) :
    decodeList (enclose body ++ tail) = enclose body ++ decodeList tail := by
  have plain : '&' ∉ body ++ [';'] := by simpa using not_mem_of_all_isBodyChar inner
  have source : enclose body ++ tail = '&' :: (body ++ ';' :: tail) := by simp [enclose]
  have none : read? (body ++ ';' :: tail) = none := by
    rw [read?_append inner, means, Option.map_none]
  have behind := decodeList_append_of_not_mem plain tail
  rw [List.append_assoc, List.singleton_append] at behind
  rw [source, decodeList_cons_none none, behind, enclose, List.cons_append]

theorem decodeList_enclose {body : List Char} (inner : body.all isBodyChar) {c : Char}
    (means : meaning? body = some c) (tail : List Char) :
    decodeList (enclose body ++ tail) = c :: decodeList tail := by
  have source : enclose body ++ tail = '&' :: (body ++ ';' :: tail) := by simp [enclose]
  rw [source, decodeList_meant inner means]

theorem lt_of_digitValue {c : Char} (digit : digitValue c < 16) : c.toNat < 128 := by
  have listed : c.toLower ∈ digitChars := List.idxOf_lt_length_iff.mp digit
  by_cases upper : 65 ≤ c.toNat ∧ c.toNat ≤ 90
  · omega
  · have same : c.toLower = c := dif_neg upper
    rw [same] at listed
    have small : digitChars.all (·.toNat < 128) := by decide
    simpa using List.all_eq_true.mp small c listed

/-- How digits are read: a digit of any base is a hexadecimal digit with the value that is its
place. -/
theorem digit_read {c : Char} (digit : digitValue c < 16) :
    isHexDigit c ∧ isBodyChar c ∧ hexValue c = digitValue c ∧ (digitValue c < 10 → c.isDigit) := by
  have checked : ∀ code < 128, digitValue (Char.ofNat code) < 16 →
      isHexDigit (Char.ofNat code) ∧ isBodyChar (Char.ofNat code) ∧
        hexValue (Char.ofNat code) = digitValue (Char.ofNat code) ∧
        (digitValue (Char.ofNat code) < 10 → (Char.ofNat code).isDigit) := by
    decide +kernel
  have here := checked c.toNat (lt_of_digitValue digit)
  rw [Char.ofNat_toNat] at here
  exact here digit

/-- More digits never make a number smaller. -/
theorem le_foldl_digits {base : Nat} (positive : 0 < base) (value : Nat) (digits : List Char) :
    value ≤ digits.foldl (fun value c => value * base + hexValue c) value := by
  induction digits generalizing value with
  | nil => exact Nat.le_refl value
  | cons c digits ih =>
    calc
      value ≤ value * base := Nat.le_mul_of_pos_right value positive
      _ ≤ value * base + hexValue c := Nat.le_add_right _ _
      _ ≤ _ := ih _

/-- The number that is read digit by digit is lost exactly if the whole number does not fit. -/
theorem foldlM_extend? {base value : Nat} (positive : 0 < base) (fits : value < 0x100000000)
    (digits : List Char) :
    digits.foldlM (extend? base) value =
      if digits.foldl (fun value c => value * base + hexValue c) value < 0x100000000
      then some (digits.foldl (fun value c => value * base + hexValue c) value) else none := by
  induction digits generalizing value with
  | nil => rw [List.foldlM_nil, List.foldl_nil, if_pos fits, Option.pure_def]
  | cons c digits ih =>
    rw [List.foldlM_cons, List.foldl_cons, extend?]
    by_cases still : value * base + hexValue c < 0x100000000
    · rw [if_pos still, Option.bind_eq_bind, Option.bind_some, ih still]
    · have more := le_foldl_digits positive (value * base + hexValue c) digits
      rw [if_neg still, if_neg (by omega), Option.bind_eq_bind, Option.bind_none]

/-- A numeral is read as its number if this fits in 32 bits. -/
theorem word?_eq {base : Nat} (positive : 0 < base) (digits : List Char) :
    word? base digits = if number base digits < 0x100000000 then some (number base digits)
      else none :=
  foldlM_extend? positive (by decide) digits

/-- Decimal numerals stand for the characters of their numbers. -/
theorem meaning?_decimal {digits : List Char} (nonempty : digits ≠ [])
    (each : ∀ c ∈ digits, digitValue c < 10) :
    meaning? ('#' :: digits) = (word? 10 digits).bind character? := by
  have decimal : digits.all Char.isDigit := by
    rw [List.all_eq_true]
    exact fun c member =>
      (digit_read (Nat.lt_trans (each c member) (by decide))).2.2.2 (each c member)
  have filled : digits.isEmpty = false := by simpa using nonempty
  have unmarked : ∀ letter rest, letter.isDigit = false → digits ≠ letter :: rest := by
    rintro letter rest other rfl
    rw [List.all_cons, other, Bool.false_and] at decimal
    cases decimal
  have small : ∀ rest, digits = 'x' :: rest → False := fun rest => unmarked 'x' rest rfl
  have capital : ∀ rest, digits = 'X' :: rest → False := fun rest => unmarked 'X' rest rfl
  have form : isReference ('#' :: digits) := by
    rw [isReference, decimal, filled]
    · rfl
    · exact small
    · exact capital
  rw [meaning?, if_pos form]
  · exact small
  · exact capital

theorem meaning?_hexadecimal {digits : List Char} (nonempty : digits ≠ [])
    (each : ∀ c ∈ digits, digitValue c < 16) {letter : Char} (mark : letter ∈ ['x', 'X']) :
    meaning? ('#' :: letter :: digits) = (word? 16 digits).bind character? := by
  have hexadecimal : digits.all isHexDigit := by
    rw [List.all_eq_true]
    exact fun c member => (digit_read (each c member)).1
  have filled : digits.isEmpty = false := by simpa using nonempty
  rw [List.mem_cons, List.mem_singleton] at mark
  rcases mark with rfl | rfl <;> simp [meaning?, isReference, hexadecimal, filled]

namespace Numeral

variable (numeral : Numeral)

theorem base_bounds : 0 < numeral.base ∧ numeral.base ≤ 16 := by
  have checked : ∀ entry ∈ radixes, 0 < entry.2 ∧ entry.2 ≤ 16 := by decide
  exact checked _ numeral.radix

theorem lt_of_mem {c : Char} (member : c ∈ numeral.digits) : digitValue c < numeral.base := by
  simpa using List.all_eq_true.mp numeral.each c member

theorem small_of_mem {c : Char} (member : c ∈ numeral.digits) : digitValue c < 16 :=
  Nat.lt_of_lt_of_le (numeral.lt_of_mem member) numeral.base_bounds.2

theorem all_isBodyChar : (numeral.mark ++ numeral.digits).all isBodyChar := by
  have checked : ∀ entry ∈ radixes, entry.1.all isBodyChar := by decide
  have front : numeral.mark.all isBodyChar := checked _ numeral.radix
  rw [List.all_append, front, Bool.true_and, List.all_eq_true]
  exact fun c member => (digit_read (numeral.small_of_mem member)).2.1

/-- The digits of a numeral have its value, leading zeros or not. -/
theorem number_eq_value : number numeral.base numeral.digits = numeral.value := by
  have step : ∀ value, ∀ c ∈ numeral.digits,
      value * numeral.base + hexValue c = digitValue c + numeral.base * value := by
    intro value c member
    rw [(digit_read (numeral.small_of_mem member)).2.2.1, Nat.mul_comm, Nat.add_comm]
  rw [number, value, Nat.ofDigits_eq_foldr, List.foldr_reverse, List.foldl_map]
  exact List.foldl_ext _ _ 0 step

theorem meaning?_eq_word? :
    meaning? (numeral.mark ++ numeral.digits) =
      (word? numeral.base numeral.digits).bind character? := by
  obtain ⟨mark, base, digits, radix, nonempty, each⟩ := numeral
  have below : ∀ c ∈ digits, digitValue c < base :=
    fun c member => by simpa using List.all_eq_true.mp each c member
  simp only [radixes, List.mem_cons, List.not_mem_nil, or_false, Prod.mk.injEq] at radix
  rcases radix with ⟨rfl, rfl⟩ | ⟨rfl, rfl⟩ | ⟨rfl, rfl⟩
  · exact meaning?_decimal nonempty below
  · exact meaning?_hexadecimal nonempty below (by simp)
  · exact meaning?_hexadecimal nonempty below (by simp)

/-- A number refers to the character that it is the number of. That it may not fit into 32 bits
makes no difference. -/
theorem meaning?_eq : meaning? (numeral.mark ++ numeral.digits) = character? numeral.value := by
  rw [meaning?_eq_word?, word?_eq numeral.base_bounds.1, number_eq_value]
  split
  · rw [Option.bind_some]
  · next large =>
    -- the numbers of characters are far below the limit
    have invalid : ¬ numeral.value.isValidChar := by
      unfold Nat.isValidChar
      omega
    rw [Option.bind_none, character?, if_neg invalid]

theorem decodeList_of_value {c : Char} (same : numeral.value = c.toNat) (tail : List Char) :
    decodeList (numeral.text ++ tail) = c :: decodeList tail := by
  refine decodeList_enclose numeral.all_isBodyChar ?_ tail
  rw [meaning?_eq, same, character?_toNat]

/-- A numeral that is the number of no character is left as it is written. -/
theorem decodeList_of_invalid (invalid : ¬ numeral.value.isValidChar) (tail : List Char) :
    decodeList (numeral.text ++ tail) = numeral.text ++ decodeList tail := by
  refine decodeList_meaningless numeral.all_isBodyChar ?_ tail
  rw [meaning?_eq, character?, if_neg invalid]

/-- What stands before the reference is decoded by itself. -/
theorem decodeList_append_text (front tail : List Char) :
    decodeList (front ++ (numeral.text ++ tail)) =
      decodeList front ++ decodeList (numeral.text ++ tail) :=
  decodeList_append_ampersand front _

end Numeral

/-- Each name in the table can be written as a reference, and means its character. -/
theorem meaning?_name {name : String} {c : Char} (listed : (name, c) ∈ named) :
    name.toList.all isBodyChar ∧ meaning? name.toList = some c := by
  have checked : named.all fun entry => entry.1.toList.all isBodyChar && meaning? entry.1.toList ==
      some entry.2 := by
    decide +kernel
  simpa using List.all_eq_true.mp checked _ listed

/-- A character that is written in one of its ways is decoded to itself, whatever follows. -/
theorem Spells.decodeList {written : List Char} {c : Char} (spells : Spells written c)
    (tail : List Char) :
    decodeList (written ++ tail) = c :: decodeList tail := by
  cases spells with
  | plain other => exact decodeList_cons_other other tail
  | number same => exact Numeral.decodeList_of_value _ same tail
  | name listed => exact decodeList_enclose (meaning?_name listed).1 (meaning?_name listed).2 tail

/-- Pieces that each spell a character are decoded one after the other. -/
theorem decodeList_flatten {pieces : List (List Char)} {text : List Char}
    (each : List.Forall₂ Spells pieces text) :
    decodeList pieces.flatten = text := by
  induction each with
  | nil => exact decodeList_nil
  | cons first _ ih => rw [List.flatten_cons, first.decodeList, ih]

end Entity

/-- A text that is written with references, or partly so, is decoded to itself: each `&` by a
reference, each other character as it is or by a reference. At any place of any text, a number with
any number of digits is replaced by the character with this number, and a number that is no
character's, as those of surrogates and all that are too large, stays as it is. -/
theorem decodeEntities_spelled (written : String) :
    (∀ (pieces : List (List Char)) (text : String), written.toList = pieces.flatten →
      List.Forall₂ Entity.Spells pieces text.toList → decodeEntities written = text) ∧
    ∀ (front back : String) (numeral : Entity.Numeral), written =
      front ++ String.ofList numeral.text ++ back →
      (∀ c : Char, numeral.value = c.toNat →
        decodeEntities written = decodeEntities front ++ String.singleton c ++
          decodeEntities back) ∧
      (0xD800 ≤ numeral.value ∧ numeral.value ≤ 0xDFFF ∨ 0x10FFFF < numeral.value →
        decodeEntities written = decodeEntities front ++ String.ofList numeral.text ++
          decodeEntities back) := by
  constructor
  · intro pieces text source each
    rw [decodeEntities, source, Entity.decodeList_flatten each, String.ofList_toList]
  · rintro front back numeral rfl
    have source : (front ++ String.ofList numeral.text ++ back).toList =
        front.toList ++ (numeral.text ++ back.toList) := by
      rw [String.toList_append, String.toList_append, String.toList_ofList, List.append_assoc]
    simp only [decodeEntities, source, numeral.decodeList_append_text]
    constructor
    · intro c same
      rw [numeral.decodeList_of_value same, String.ofList_append, String.ofList_cons,
        String.append_assoc]
    · intro outside
      have invalid : ¬ numeral.value.isValidChar := by
        unfold Nat.isValidChar
        omega
      rw [numeral.decodeList_of_invalid invalid, String.ofList_append, String.ofList_append,
        String.append_assoc]

/-- The letter A, with zeros in front. -/
def paddedLetter : Entity.Numeral :=
  ⟨['#', 'x'], 16, ['0', '0', '4', '1'], by decide, by decide, by decide⟩

/-- The number of the letter A and 2 to the power of 32. -/
def wideNumber : Entity.Numeral :=
  ⟨['#'], 10, ['4', '2', '9', '4', '9', '6', '7', '3', '6', '1'], by decide, by decide, by decide⟩

/-- An `&` that was decoded starts no reference, and 33 bits are not cut to 32. -/
theorem mixedReferences_decoded :
    decodeEntities "&#x0041;&amp;#60;" = "A&#60;" ∧
    decodeEntities "&amp&#4294967361;a" = decodeEntities "&amp" ++ "&#4294967361;" ++
      decodeEntities "a" := by
  have letter : paddedLetter.value = 'A'.toNat := by decide
  have wide : 0x10FFFF < wideNumber.value := by decide
  have each : List.Forall₂ Entity.Spells
      [paddedLetter.text, Entity.enclose "amp".toList, ['#'], ['6'], ['0'], [';']]
        "A&#60;".toList := by
    refine .cons (.number letter) (.cons (.name (by decide)) ?_)
    exact .cons (.plain (by decide))
      (.cons (.plain (by decide)) (.cons (.plain (by decide)) (.cons (.plain (by decide)) .nil)))
  refine ⟨(decodeEntities_spelled _).1 _ _ (by decide) each, ?_⟩
  exact ((decodeEntities_spelled _).2 "&amp" "a" wideNumber (by decide)).2 (.inr wide)

end RenderTemplate
