import RenderTemplate.Json.Reader
import RenderTemplate.Proofs.Quoting

namespace RenderTemplate

namespace Json

mutual

/-- A value without spaces between its tokens. -/
def print : Json → List Char
  | .null => ['n', 'u', 'l', 'l']
  | .bool true => ['t', 'r', 'u', 'e']
  | .bool false => ['f', 'a', 'l', 's', 'e']
  | .number literal => literal.toList
  | .string text => Quoted.encode (text.getD "").toList
  | .array elements => '[' :: (printElements elements ++ [']'])
  | .object members => '{' :: (printMembers members ++ ['}'])

def printElements : List Json → List Char
  | [] => []
  | [element] => element.print
  | element :: next :: rest => element.print ++ ',' :: printElements (next :: rest)

def printMembers : List (Option String × Json) → List Char
  | [] => []
  | [member] => printMember member
  | member :: next :: rest => printMember member ++ ',' :: printMembers (next :: rest)

def printMember : Option String × Json → List Char
  | (name, value) => Quoted.encode (name.getD "").toList ++ ':' :: value.print

end

mutual

/-- Whether a value holds no numbers, and each text in it is there. -/
def isPlain : Json → Bool
  | .null => true
  | .bool _ => true
  | .number _ => false
  | .string text => text.isSome
  | .array elements => arePlain elements
  | .object members => haveNames members

def arePlain : List Json → Bool
  | [] => true
  | element :: rest => element.isPlain && arePlain rest

def haveNames : List (Option String × Json) → Bool
  | [] => true
  | member :: rest => hasName member && haveNames rest

def hasName : Option String × Json → Bool
  | (name, value) => name.isSome && value.isPlain

end

theorem escape?_letter {letter c : Char} (meant : Quoted.meaning? letter = some c)
    (rest : List Char) :
    escape? (letter :: rest) = some (.character c, rest) := by
  have listed :
      (letter, c) ∈ [('"', '"'), ('\\', '\\'), ('n', '\n'), ('r', '\r'), ('t', '\t')] := by
    grind [Quoted.meaning?]
  simp only [List.mem_cons, Prod.mk.injEq, List.not_mem_nil, or_false] at listed
  rcases listed with ⟨rfl, rfl⟩ | ⟨rfl, rfl⟩ | ⟨rfl, rfl⟩ | ⟨rfl, rfl⟩ | ⟨rfl, rfl⟩ <;> rfl

/-- Four digits are enough for a character that is escaped by its number. -/
theorem escape?_number {c : Char} (small : c.toNat < 0x10000) (rest : List Char) :
    escape? ('u' :: (hexDigits 4 c.toNat ++ rest)) = some (.character c, rest) := by
  obtain ⟨first, second, third, fourth, same, each, value⟩ := exists_hexDigits small
  have valid : c.toNat < 0xD800 ∨ 0xDFFF < c.toNat ∧ c.toNat < 0x110000 := c.valid
  have unit : unitOf c.toNat = .character c := by
    rw [unitOf, if_neg (by omega), if_neg (by omega), Char.ofNat_toNat]
  rw [same]
  simp only [List.cons_append, List.nil_append]
  rw [escape?, if_pos each, value, unit]

theorem units?_backslash {chars rest : List Char} {unit : CodeUnit}
    (escaped : escape? chars = some (unit, rest)) (fuel : Nat) :
    units? (fuel + 1) ('\\' :: chars) = (units? fuel rest).map fun found =>
      (unit :: found.1, found.2) := by
  rw [units?, escaped, Option.bind_eq_bind, Option.bind_some]
  dsimp only
  cases units? fuel rest <;> rfl

/-- A character that is written is read as itself, in one step. -/
theorem units?_escape (c : Char) (fuel : Nat) (rest : List Char) :
    units? (fuel + 1) (Quoted.escape c ++ rest) =
      (units? fuel rest).map fun found => (.character c :: found.1, found.2) := by
  rcases Quoted.escape_cases c with ⟨letter, same, meant, _⟩ | ⟨same, small⟩
    | ⟨same, quoted, backslash, ordinary⟩
  · rw [same]
    exact units?_backslash (escape?_letter meant rest) fuel
  · rw [same]
    exact units?_backslash (escape?_number small rest) fuel
  · have printed : ¬c.toNat < 0x20 := by
      simp only [Quoted.isOrdinary, Bool.and_eq_true, decide_eq_true_eq] at ordinary
      omega
    rw [same, List.singleton_append, units?, if_neg printed]
    · cases units? fuel rest <;> rfl
    · exact quoted
    · exact backslash

/-- An escaped text is read up to the quote that ends it, a character at a time. -/
theorem units?_escaped (chars : List Char) {fuel : Nat} (enough : chars.length < fuel)
    (rest : List Char) :
    units? fuel (chars.flatMap Quoted.escape ++ '"' :: rest) =
      some (chars.map .character, rest) := by
  induction chars generalizing fuel with
  | nil =>
    obtain ⟨fuel, rfl⟩ : ∃ less, fuel = less + 1 :=
      ⟨fuel - 1, by rw [List.length_nil] at enough; omega⟩
    rfl
  | cons c chars ih =>
    rw [List.length_cons] at enough
    obtain ⟨fuel, rfl⟩ : ∃ less, fuel = less + 1 := ⟨fuel - 1, by omega⟩
    rw [List.flatMap_cons, List.append_assoc, units?_escape, ih (by omega)]
    rfl

theorem characters?_map (chars : List Char) : characters? (chars.map .character) = some chars := by
  induction chars with
  | nil => rfl
  | cons c chars ih => rw [List.map_cons, characters?, ih, Option.map_some]

theorem length_le_length_escaped (chars : List Char) :
    chars.length ≤ (chars.flatMap Quoted.escape).length := by
  induction chars with
  | nil => exact Nat.le_refl 0
  | cons c chars ih =>
    have first : 0 < (Quoted.escape c).length := by
      rcases Quoted.escape_cases c with ⟨letter, same, _⟩ | ⟨same, _⟩ | ⟨same, _⟩ <;> simp [same]
    rw [List.flatMap_cons, List.length_append, List.length_cons]
    omega

theorem string?_escaped (text : String) (rest : List Char) :
    string? (text.toList.flatMap Quoted.escape ++ '"' :: rest) = some (some text, rest) := by
  have enough : text.toList.length < (text.toList.flatMap Quoted.escape ++ '"' :: rest).length +
      1 := by
    have written := length_le_length_escaped text.toList
    rw [List.length_append]
    omega
  rw [string?, units?_escaped text.toList enough, Option.bind_eq_bind, Option.bind_some]
  dsimp only
  rw [characters?_map, Option.map_some, String.ofList_toList, Option.pure_def]

theorem skip_cons {c : Char} (solid : isSpace c = false) (rest : List Char) :
    skip (c :: rest) = c :: rest := by
  rw [skip, List.dropWhile_cons, solid, if_neg Bool.false_ne_true]

/-- A value starts with a character that is neither a space nor the end of an array. -/
theorem exists_print_eq_cons {json : Json} (plain : json.isPlain) :
    ∃ c rest, json.print = c :: rest ∧ isSpace c = false ∧ c ≠ ']' := by
  cases json with
  | null => exact ⟨'n', _, rfl, rfl, by decide⟩
  | bool value =>
    cases value with
    | true => exact ⟨'t', _, rfl, rfl, by decide⟩
    | false => exact ⟨'f', _, rfl, rfl, by decide⟩
  | number literal => cases plain
  | string text => exact ⟨'"', _, rfl, rfl, by decide⟩
  | array elements => exact ⟨'[', _, rfl, rfl, by decide⟩
  | object members => exact ⟨'{', _, rfl, rfl, by decide⟩

theorem value?_quote (fuel : Nat) (rest : List Char) :
    value? (fuel + 1) ('"' :: rest) = (string? rest).map fun found => (.string found.1, found.2) :=
  rfl

/-- An array that is not empty goes on with its first element. -/
theorem value?_bracket {fuel : Nat} {c : Char} {rest : List Char} (solid : isSpace c = false)
    (filled : c ≠ ']') :
    value? (fuel + 1) ('[' :: c :: rest) = (elements? fuel (c :: rest)).map fun found =>
      (.array found.1, found.2) := by
  have opens : isSpace '[' = false := rfl
  simp [value?, skip_cons opens, skip_cons solid, filled]

theorem value?_brace (fuel : Nat) (rest : List Char) :
    value? (fuel + 1) ('{' :: '"' :: rest) = (members? fuel ('"' :: rest)).map fun found =>
      (.object found.1, found.2) :=
  rfl

theorem value?_null (fuel : Nat) (rest : List Char) :
    value? (fuel + 1) ('n' :: 'u' :: 'l' :: 'l' :: rest) = some (.null, rest) :=
  rfl

theorem value?_true (fuel : Nat) (rest : List Char) :
    value? (fuel + 1) ('t' :: 'r' :: 'u' :: 'e' :: rest) = some (.bool true, rest) :=
  rfl

theorem value?_false (fuel : Nat) (rest : List Char) :
    value? (fuel + 1) ('f' :: 'a' :: 'l' :: 's' :: 'e' :: rest) = some (.bool false, rest) :=
  rfl

section

variable {fuel : Nat} {chars rest : List Char} {value : Json}

theorem elements?_last (read : value? fuel chars = some (value, ']' :: rest)) :
    elements? (fuel + 1) chars = some ([value], rest) := by
  have closes : isSpace ']' = false := rfl
  simp [elements?, read, skip_cons closes]

theorem elements?_more (read : value? fuel chars = some (value, ',' :: rest)) :
    elements? (fuel + 1) chars = (elements? fuel rest).map fun found =>
      (value :: found.1, found.2) := by
  have goesOn : isSpace ',' = false := rfl
  simp only [elements?, read, skip_cons goesOn, Option.bind_eq_bind, Option.bind_some]
  cases elements? fuel rest <;> rfl

theorem members?_last (name : String) (read : value? fuel chars = some (value, '}' :: rest)) :
    members? (fuel + 1) (Quoted.encode name.toList ++ ':' :: chars) =
      some ([(some name, value)], rest) := by
  have opens : isSpace '"' = false := rfl
  have sign : isSpace ':' = false := rfl
  have closes : isSpace '}' = false := rfl
  simp [members?, Quoted.encode, skip_cons opens, string?_escaped, skip_cons sign, read,
    skip_cons closes]

theorem members?_more (name : String) (read : value? fuel chars = some (value, ',' :: rest)) :
    members? (fuel + 1) (Quoted.encode name.toList ++ ':' :: chars) =
      (members? fuel rest).map fun found => ((some name, value) :: found.1, found.2) := by
  have opens : isSpace '"' = false := rfl
  have sign : isSpace ':' = false := rfl
  have goesOn : isSpace ',' = false := rfl
  simp only [members?, Quoted.encode, List.cons_append, List.append_assoc, List.nil_append,
    skip_cons opens, string?_escaped, skip_cons sign, read, skip_cons goesOn, Option.bind_eq_bind,
    Option.bind_some]
  cases members? fuel rest <;> rfl

end

theorem exists_printElements_eq_cons {element : Json} (plain : element.isPlain)
    (others : List Json) :
    ∃ c rest, printElements (element :: others) = c :: rest ∧ isSpace c = false ∧ c ≠ ']' := by
  obtain ⟨c, rest, front, solid, filled⟩ := exists_print_eq_cons plain
  cases others with
  | nil => exact ⟨c, rest, front, solid, filled⟩
  | cons next others => exact ⟨c, _, by rw [printElements, front, List.cons_append], solid, filled⟩

theorem exists_printMembers_eq_cons (member : Option String × Json)
    (others : List (Option String × Json)) :
    ∃ rest, printMembers (member :: others) = '"' :: rest := by
  obtain ⟨name, value⟩ := member
  cases others with
  | nil => exact ⟨_, rfl⟩
  | cons next others => exact ⟨_, rfl⟩

mutual

/-- A value is read up to its last character. Each token takes a character, so as many steps as
there are characters are enough. -/
theorem value?_print (json : Json) (plain : json.isPlain) (fuel : Nat)
    (enough : json.print.length ≤ fuel) (rest : List Char) :
    value? fuel (json.print ++ rest) = some (json, rest) := by
  obtain ⟨fuel, rfl⟩ : ∃ less, fuel = less + 1 := by
    obtain ⟨c, more, front, _⟩ := exists_print_eq_cons plain
    rw [front, List.length_cons] at enough
    exact ⟨fuel - 1, by omega⟩
  cases json with
  | null => exact value?_null fuel rest
  | bool value =>
    cases value with
    | true => exact value?_true fuel rest
    | false => exact value?_false fuel rest
  | number literal => cases plain
  | string text =>
    obtain ⟨text, rfl⟩ := Option.isSome_iff_exists.mp plain
    rw [print, Option.getD_some, Quoted.encode, List.cons_append, List.append_assoc,
      List.singleton_append, value?_quote, string?_escaped, Option.map_some]
  | array elements =>
    rw [print, List.length_cons, List.length_append, List.length_singleton] at enough
    rw [print, List.cons_append, List.append_assoc, List.singleton_append]
    cases elements with
    | nil => rfl
    | cons element others =>
      have first : element.isPlain := (Bool.and_eq_true _ _ |>.mp plain).1
      obtain ⟨c, more, front, solid, filled⟩ := exists_printElements_eq_cons first others
      have read :=
        elements?_print (element :: others) (List.cons_ne_nil _ _) plain fuel (by omega) rest
      rw [front] at read ⊢
      rw [List.cons_append, value?_bracket solid filled, ← List.cons_append, read, Option.map_some]
  | object members =>
    rw [print, List.length_cons, List.length_append, List.length_singleton] at enough
    rw [print, List.cons_append, List.append_assoc, List.singleton_append]
    cases members with
    | nil => rfl
    | cons member others =>
      obtain ⟨more, front⟩ := exists_printMembers_eq_cons member others
      have read :=
        members?_print (member :: others) (List.cons_ne_nil _ _) plain fuel (by omega) rest
      rw [front] at read ⊢
      rw [List.cons_append, value?_brace, ← List.cons_append, read, Option.map_some]

theorem elements?_print (elements : List Json) (filled : elements ≠ []) (plain : arePlain elements)
    (fuel : Nat) (enough : (printElements elements).length < fuel) (rest : List Char) :
    elements? fuel (printElements elements ++ ']' :: rest) = some (elements, rest) := by
  obtain ⟨fuel, rfl⟩ : ∃ less, fuel = less + 1 := ⟨fuel - 1, by omega⟩
  cases elements with
  | nil => contradiction
  | cons element others =>
    rw [arePlain, Bool.and_eq_true] at plain
    cases others with
    | nil =>
      rw [printElements] at enough ⊢
      exact elements?_last (value?_print element plain.1 fuel (by omega) _)
    | cons next others =>
      rw [printElements, List.length_append, List.length_cons] at enough
      rw [printElements, List.append_assoc, List.cons_append,
        elements?_more (value?_print element plain.1 fuel (by omega) _),
        elements?_print (next :: others) (List.cons_ne_nil _ _) plain.2 fuel (by omega) rest,
        Option.map_some]

theorem members?_print (members : List (Option String × Json)) (filled : members ≠ [])
    (plain : haveNames members) (fuel : Nat) (enough : (printMembers members).length < fuel)
    (rest : List Char) :
    members? fuel (printMembers members ++ '}' :: rest) = some (members, rest) := by
  obtain ⟨fuel, rfl⟩ : ∃ less, fuel = less + 1 := ⟨fuel - 1, by omega⟩
  cases members with
  | nil => contradiction
  | cons member others =>
    obtain ⟨name, value⟩ := member
    rw [haveNames, hasName, Bool.and_eq_true, Bool.and_eq_true] at plain
    obtain ⟨⟨named, first⟩, later⟩ := plain
    obtain ⟨name, rfl⟩ := Option.isSome_iff_exists.mp named
    cases others with
    | nil =>
      rw [printMembers, printMember, List.length_append, List.length_cons] at enough
      rw [printMembers, printMember, Option.getD_some, List.append_assoc, List.cons_append]
      exact members?_last name (value?_print value first fuel (by omega) _)
    | cons next others =>
      rw [printMembers, printMember, List.length_append, List.length_append, List.length_cons,
        List.length_cons] at enough
      rw [printMembers, printMember, Option.getD_some, List.append_assoc, List.append_assoc,
        List.cons_append, List.cons_append,
        members?_more name (value?_print value first fuel (by omega) _),
        members?_print (next :: others) (List.cons_ne_nil _ _) later fuel (by omega) rest,
        Option.map_some]

end

/-- The text of a value is read as this value. -/
theorem ofString?_print {json : Json} (plain : json.isPlain) :
    ofString? (String.ofList json.print) = some json := by
  have read := value?_print json plain (json.print.length + 1) (Nat.le_succ _) []
  rw [List.append_nil] at read
  rw [ofString?, String.toList_ofList, read]
  rfl

end Json

end RenderTemplate
