import RenderTemplate.Proofs.Groups

namespace RenderTemplate

namespace Part

/-- Whether parts are those of a text: they make it up when expressions stand in their braces, and
no literal could be shorter, longer or an expression. -/
structure IsSplit (text : List Char) (parts : List Part) : Prop where
  whole : parts.flatMap verbatim = text
  literals : ∀ found, literal found ∈ parts → found ≠ "" ∧ '{' ∉ found.toList
  apart : parts.IsChain fun part next => ¬(part.isLiteral ∧ next.isLiteral)
  groups : ∀ code, expression code ∈ parts → Braces.endAt? (braced code) 0 =
    some (Text.byteLength (braced code))

/-- The end of an expression with its braces is the same in bytes as in characters. -/
theorem endAt?_braced_iff (code : String) :
    Braces.endAt? (braced code) 0 = some (Text.byteLength (braced code)) ↔
      (expression code).IsCanonical := by
  have ends := Braces.endAt?_eq_byteLength_iff (braced code) []
  rwa [List.append_nil] at ends

/-- A character in front of the parts is one in front of their text. -/
theorem verbatim_consChar (c : Char) (parts : List Part) :
    (consChar c parts).flatMap verbatim = c :: parts.flatMap verbatim := by
  cases parts with
  | nil => simp [consChar, verbatim]
  | cons part parts => cases part <;> simp [consChar, verbatim]

namespace IsSplit

variable {text rest : List Char} {parts : List Part}

theorem nil : IsSplit [] [] where
  whole := rfl
  literals := by simp
  apart := .nil
  groups := by simp

theorem consExpression {code : String} (canonical : (expression code).IsCanonical)
    (later : IsSplit rest parts) :
    IsSplit (braced code ++ rest) (expression code :: parts) where
  whole := by rw [List.flatMap_cons, later.whole, verbatim]
  literals := by
    intro found member
    rcases List.mem_cons.mp member with same | member
    · cases same
    · exact later.literals found member
  apart := by
    rw [List.isChain_cons]
    exact ⟨fun _ _ both => Bool.false_ne_true both.1, later.apart⟩
  groups := by
    intro other member
    rcases List.mem_cons.mp member with same | member
    · cases same
      exact (endAt?_braced_iff code).mpr canonical
    · exact later.groups other member

/-- A literal starts before an expression and at the end, where none is joined by the character. -/
theorem consLiteral {c : Char} (plain : c ≠ '{')
    (detached : ∀ part ∈ parts.head?, part.isLiteral = false) (later : IsSplit rest parts) :
    IsSplit (c :: rest) (literal (String.ofList [c]) :: parts) where
  whole := by
    rw [List.flatMap_cons, later.whole, verbatim, String.toList_ofList, List.singleton_append]
  literals := by
    intro found member
    rcases List.mem_cons.mp member with same | member
    · cases same
      refine ⟨fun empty => ?_, ?_⟩
      · simpa using congrArg String.toList empty
      · simpa using plain.symm
    · exact later.literals found member
  apart := by
    rw [List.isChain_cons]
    refine ⟨fun part first both => ?_, later.apart⟩
    rw [detached part first] at both
    exact Bool.false_ne_true both.2
  groups := by
    intro code member
    rcases List.mem_cons.mp member with same | member
    · cases same
    · exact later.groups code member

theorem extendLiteral {c : Char} (plain : c ≠ '{') {first : String}
    (later : IsSplit rest (literal first :: parts)) :
    IsSplit (c :: rest) (literal (String.ofList (c :: first.toList)) :: parts) where
  whole := by
    rw [← later.whole]
    exact verbatim_consChar c (literal first :: parts)
  literals := by
    intro found member
    rcases List.mem_cons.mp member with same | member
    · cases same
      refine ⟨fun empty => ?_, ?_⟩
      · simpa using congrArg String.toList empty
      · rw [String.toList_ofList, List.mem_cons, not_or]
        exact ⟨plain.symm, (later.literals first List.mem_cons_self).2⟩
    · exact later.literals found (List.mem_cons_of_mem _ member)
  apart := by
    have before := later.apart
    rw [List.isChain_cons] at before ⊢
    exact before
  groups := by
    intro code member
    rcases List.mem_cons.mp member with same | member
    · cases same
    · exact later.groups code (List.mem_cons_of_mem _ member)

theorem consChar {c : Char} (plain : c ≠ '{') (later : IsSplit rest parts) :
    IsSplit (c :: rest) (Part.consChar c parts) := by
  cases parts with
  | nil => exact later.consLiteral plain (by simp)
  | cons part parts =>
    cases part with
    | literal first => exact later.extendLiteral plain
    | expression code => exact later.consLiteral plain (by simp [isLiteral])

/-- Parts of a text are what the split of the text finds, from the last one on. -/
theorem split_eq (found : IsSplit text parts) : split text = .ok parts := by
  obtain ⟨rfl, literals, apart, groups⟩ := found
  induction parts with
  | nil => rw [List.flatMap_nil, split]
  | cons part rest ih =>
    have read := ih (fun text member => literals text (List.mem_cons_of_mem _ member)) apart.tail
      fun code member => groups code (List.mem_cons_of_mem _ member)
    rw [List.flatMap_cons]
    cases part with
    | expression code =>
      exact split_braced ((endAt?_braced_iff code).mp (groups code List.mem_cons_self)) read
    | literal text =>
      obtain ⟨filled, plain⟩ := literals text List.mem_cons_self
      have nonempty : text.toList ≠ [] := fun empty => filled (String.toList_eq_nil_iff.mp empty)
      have detached : ∀ next ∈ rest.head?, next.isLiteral = false := by
        intro next first
        simpa [isLiteral] using apart.rel_head? first
      rw [verbatim, split_plain plain nonempty detached read, String.ofList_toList]

end IsSplit

/-- What is split is split into parts that make up the text. The induction is on the recursion of
the split. -/
theorem isSplit_of_split {text : List Char} {parts : List Part} (read : split text = .ok parts) :
    IsSplit text parts := by
  fun_induction split text generalizing parts
  case case1 =>
    cases read
    exact .nil
  case case2 => contradiction
  case case3 rest count inner readRest closed ih =>
    cases read
    obtain ⟨code, after, rfl, rfl, canonical⟩ := exists_braced_of_length? closed
    rw [drop_braced] at readRest ih
    have taken : (code.toList ++ '}' :: after).take (code.toList.length + 2 - 2) = code.toList := by
      simp
    rw [← braced_append, taken, String.ofList_toList]
    exact (ih readRest).consExpression canonical
  case case4 => contradiction
  case case5 c rest plain inner readRest ih =>
    cases read
    exact (ih readRest).consChar plain
  case case6 => contradiction

/-- What was split does not matter to what follows it. -/
theorem split_append_error {front rest : List Char} {parts : List Part} {index : Nat}
    (read : split front = .ok parts) (failed : split rest = .error index) :
    split (front ++ rest) = .error (front.length + index) := by
  fun_induction split front generalizing parts
  case case1 => rw [List.nil_append, failed, List.length_nil, Nat.zero_add]
  case case2 => contradiction
  case case3 inside count inner readRest closed ih =>
    obtain ⟨code, after, rfl, rfl, canonical⟩ := exists_braced_of_length? closed
    rw [drop_braced] at readRest ih
    have whole := length?_braced canonical (after ++ rest)
    rw [braced_append] at whole
    rw [List.cons_append, List.append_assoc, List.cons_append, split, if_pos rfl, whole]
    dsimp only
    rw [drop_braced, ih readRest]
    simp only [List.length_cons, List.length_append, Except.error.injEq]
    omega
  case case4 => contradiction
  case case5 c inside plain inner readRest ih =>
    rw [List.cons_append, split, if_neg plain, ih readRest, List.length_cons, Nat.add_right_comm]
  case case6 => contradiction

/-- A text cannot be split where a brace is never closed, in front of which it can. -/
theorem split_eq_error_iff {text : List Char} {index : Nat} :
    split text = .error index ↔
      ∃ front rest, text = front ++ '{' :: rest ∧ front.length = index ∧
        Braces.length? ('{' :: rest) = none ∧
        ∃ parts, split front = .ok parts := by
  constructor
  · intro failed
    fun_induction split text generalizing index
    case case1 => contradiction
    case case2 rest unclosed =>
      cases failed
      exact ⟨[], rest, rfl, rfl, unclosed, [], by rw [split]⟩
    case case3 => contradiction
    case case4 inside count position failedRest closed ih =>
      cases failed
      obtain ⟨code, after, rfl, rfl, canonical⟩ := exists_braced_of_length? closed
      rw [drop_braced] at failedRest ih
      obtain ⟨front, rest, rfl, rfl, unclosed, parts, read⟩ := ih failedRest
      refine ⟨braced code ++ front, rest, ?_, ?_, unclosed, _, split_braced canonical read⟩
      · rw [List.append_assoc, braced_append]
      · rw [List.length_append, length_braced]
    case case5 => contradiction
    case case6 c inside plain position failedRest ih =>
      cases failed
      obtain ⟨front, rest, rfl, rfl, unclosed, parts, read⟩ := ih failedRest
      exact ⟨c :: front, rest, rfl, rfl, unclosed, _, split_cons plain read⟩
  · rintro ⟨front, rest, rfl, rfl, unclosed, parts, read⟩
    have failed : split ('{' :: rest) = .error 0 := by rw [split, if_pos rfl, unclosed]
    exact split_append_error read failed

end Part

/-- The split of a text finds parts exactly if they are those of this text, of which there is one
list only. It fails exactly at a brace that is never closed and up to which the text can be
split. -/
theorem split_lossless (text : List Char) :
    (∀ parts, Part.split text = .ok parts ↔ Part.IsSplit text parts) ∧
    (∀ parts other, Part.IsSplit text parts → Part.IsSplit text other → other = parts) ∧
    ∀ index, Part.split text = .error index ↔
      (Text.units text)[Text.byteLength (text.take index)]? = some '{' ∧
      Braces.endAt? text (Text.byteLength (text.take index)) = none ∧
      ∃ parts, Part.split (Text.slice text 0 (Text.byteLength (text.take index))) = .ok parts := by
  have before (front rest : List Char) : Text.slice (front ++ rest) 0 (Text.byteLength front) =
      front :=
    Text.slice_append [] front rest
  refine ⟨fun parts => ⟨Part.isSplit_of_split, Part.IsSplit.split_eq⟩,
    fun parts other first second => ?_, fun index => ?_⟩
  · exact Except.ok.inj (second.split_eq.symm.trans first.split_eq)
  rw [Part.split_eq_error_iff]
  constructor
  · rintro ⟨front, rest, rfl, rfl, unclosed, parts, read⟩
    rw [List.take_left, before, Braces.endAt?_append, unclosed, Text.units_append,
      List.getElem?_append_right (by simp)]
    refine ⟨?_, rfl, parts, read⟩
    rw [Text.length_units, Nat.sub_self, Text.units_short_cons (by decide), List.getElem?_cons_zero]
  · rintro ⟨opened, unclosed, parts, read⟩
    obtain ⟨front, rest, rfl, cut⟩ : ∃ front rest, text = front ++ rest ∧ text.take index = front :=
      ⟨_, _, (List.take_append_drop index text).symm, rfl⟩
    rw [cut] at opened unclosed read
    rw [Text.units_append, List.getElem?_append_right (by simp), Text.length_units, Nat.sub_self,
      ← List.head?_eq_getElem?] at opened
    rw [Braces.endAt?_append, Option.map_eq_none_iff] at unclosed
    rw [before] at read
    obtain ⟨tail, rfl⟩ := List.head?_eq_some_iff.mp (Text.head?_units (by decide) opened)
    have position := congrArg List.length cut
    rw [List.length_take, List.length_append, List.length_cons] at position
    exact ⟨front, tail, rfl, by omega, unclosed, parts, read⟩

end RenderTemplate
