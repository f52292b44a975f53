import Mathlib.Data.List.DropRight
import RenderTemplate.Proofs.Names

namespace RenderTemplate.Text

/-- Whether a text does not start with a character of a kind. -/
def Stops (kind : Char → Bool) (rest : List Char) : Prop :=
  ∀ c ∈ rest.head?, kind c = false

section Spans

variable {kind : Char → Bool} {front rest more after : List Char}

theorem Stops.cons {c : Char} (other : kind c = false) (rest : List Char) :
    Stops kind (c :: rest) := by
  intro d first
  cases first
  exact other

theorem takeWhile_eq_nil_iff : rest.takeWhile kind = [] ↔ Stops kind rest := by
  cases rest with
  | nil => simp [Stops]
  | cons c rest => by_cases inKind : kind c <;> simp [Stops, inKind]

theorem takeWhile_append_of_stops (inside : front.all kind) (stops : Stops kind rest) :
    (front ++ rest).takeWhile kind = front := by
  rw [List.takeWhile_append_of_pos (List.all_eq_true.mp inside), takeWhile_eq_nil_iff.mpr stops,
    List.append_nil]

theorem dropWhile_append_of_stops (inside : front.all kind) (stops : Stops kind rest) :
    (front ++ rest).dropWhile kind = rest := by
  rw [List.dropWhile_append_of_pos (List.all_eq_true.mp inside)]
  cases rest with
  | nil => rfl
  | cons c rest => rw [List.dropWhile_cons, stops c rfl, if_neg Bool.false_ne_true]

theorem stops_dropWhile (kind : Char → Bool) (chars : List Char) :
    Stops kind (chars.dropWhile kind) := by
  intro c first
  have other := List.head?_dropWhile_not kind chars
  rw [Option.mem_def.mp first] at other
  simpa using other

/-- A text falls apart in one way only into characters of a kind and a rest that starts with none of
them. -/
theorem append_inj_of_stops (inside : front.all kind) (stops : Stops kind rest)
    (within : more.all kind) (ends : Stops kind after) (same : front ++ rest = more ++ after) :
    front = more ∧ rest = after := by
  constructor
  · rw [← takeWhile_append_of_stops inside stops, same, takeWhile_append_of_stops within ends]
  · rw [← dropWhile_append_of_stops inside stops, same, dropWhile_append_of_stops within ends]

end Spans

/-- Blanks, perhaps none. -/
@[ext]
structure Gap where
  chars : List Char
  blank : chars.all isBlankChar

namespace Gap

/-- No blank. -/
def empty : Gap :=
  ⟨[], rfl⟩

/-- One space. -/
def space : Gap :=
  ⟨[' '], rfl⟩

theorem chars_space_ne : space.chars ≠ [] :=
  List.cons_ne_nil _ _

/-- The blanks in front of a text. -/
def leading (chars : List Char) : Gap :=
  ⟨chars.takeWhile isBlankChar, List.all_takeWhile⟩

/-- The blanks in front of a text, and the text behind them. -/
theorem leading_append (chars : List Char) : chars = (leading chars).chars ++ trimLeft chars :=
  List.takeWhile_append_dropWhile.symm

/-- Blanks end in one way only where something else follows. -/
theorem append_inj {gap more : Gap} {rest after : List Char} (stops : Stops isBlankChar rest)
    (ends : Stops isBlankChar after) (same : gap.chars ++ rest = more.chars ++ after) :
    gap = more ∧ rest = after := by
  obtain ⟨chars, others⟩ := append_inj_of_stops gap.blank stops more.blank ends same
  exact ⟨Gap.ext chars, others⟩

variable (gap : Gap) {rest : List Char}

theorem trimLeft_append (stops : Stops isBlankChar rest) : trimLeft (gap.chars ++ rest) = rest :=
  dropWhile_append_of_stops gap.blank stops

theorem trimRight_append (front : List Char) :
    trimRight (front ++ gap.chars) = trimRight front := by
  have blank : ∀ c ∈ gap.chars.reverse, isBlankChar c := by
    intro c member
    exact List.all_eq_true.mp gap.blank c (List.mem_reverse.mp member)
  rw [trimRight, List.reverse_append, List.dropWhile_append_of_pos blank, trimRight]

theorem exists_last (filled : gap.chars ≠ []) :
    ∃ (front : Gap) (c : Char), isBlankChar c ∧ gap.chars = front.chars ++ [c] := by
  obtain ⟨chars, blank⟩ := gap
  obtain ⟨front, c, rfl⟩ := (List.eq_nil_or_concat' chars).resolve_left filled
  rw [List.all_append, Bool.and_eq_true, List.all_cons, Bool.and_eq_true] at blank
  exact ⟨⟨front, blank.1⟩, c, blank.2.1, rfl⟩

/-- Behind blanks a text goes on with something else than a character that is never blank. -/
theorem stops_append {kind : Char → Bool} (solid : ∀ c, kind c → isBlankChar c = false)
    (filled : gap.chars ≠ []) (rest : List Char) : Stops kind (gap.chars ++ rest) := by
  obtain ⟨c, blanks, same⟩ := List.exists_cons_of_ne_nil filled
  rw [same]
  refine Stops.cons (Bool.eq_false_iff.mpr fun inKind => ?_) _
  have blank := gap.blank
  rw [same, List.all_cons, solid c inKind, Bool.false_and] at blank
  cases blank

end Gap

/-- The blanks at the end of a text, and the text before them. -/
theorem exists_gap_trimRight (chars : List Char) :
    ∃ gap : Gap, chars = trimRight chars ++ gap.chars := by
  obtain ⟨blanks, blank, same⟩ := exists_trimRight chars
  exact ⟨⟨blanks, List.all_eq_true.mpr blank⟩, same⟩

/-- A text without blanks at its ends has none in front and none behind. -/
theorem trimList_eq_self_iff {chars : List Char} :
    trimList chars = chars ↔ trimLeft chars = chars ∧ trimRight chars = chars := by
  constructor
  · intro trimmed
    have left : trimLeft chars <:+ chars := List.dropWhile_suffix isBlankChar
    obtain ⟨gap, parts⟩ := exists_gap_trimRight (trimLeft chars)
    have started : trimLeft chars = chars := by
      refine left.eq_of_length (Nat.le_antisymm left.length_le ?_)
      have length := congrArg List.length parts
      rw [← trimList, trimmed, List.length_append] at length
      omega
    rw [trimList, started] at trimmed
    exact ⟨started, trimmed⟩
  · rintro ⟨started, ended⟩
    rw [trimList, started, ended]

theorem trimLeft_trimRight {chars : List Char} (started : trimLeft chars = chars) :
    trimLeft (trimRight chars) = trimRight chars := by
  have front : trimRight chars <+: chars := List.rdropWhile_prefix isBlankChar chars
  unfold trimLeft at started ⊢
  rw [List.dropWhile_eq_self_iff] at started ⊢
  intro nonempty
  have same := front.getElem nonempty
  have first := started (Nat.lt_of_lt_of_le nonempty front.length_le)
  rwa [← same] at first

theorem trimLeft_trimLeft (chars : List Char) : trimLeft (trimLeft chars) = trimLeft chars :=
  List.dropWhile_idempotent isBlankChar chars

theorem trimRight_trimRight (chars : List Char) : trimRight (trimRight chars) = trimRight chars :=
  List.rdropWhile_idempotent isBlankChar chars

theorem trimList_trimList (chars : List Char) : trimList (trimList chars) = trimList chars := by
  unfold trimList
  rw [trimLeft_trimRight (trimLeft_trimLeft chars), trimRight_trimRight]

theorem trim_ofList_trimList (chars : List Char) :
    Text.trim (String.ofList (trimList chars)) = String.ofList (trimList chars) := by
  rw [trim, String.toList_ofList, trimList_trimList]

theorem trim_trim (text : String) : trim (trim text) = trim text :=
  trim_ofList_trimList text.toList

theorem stops_of_trimLeft {chars : List Char} (started : trimLeft chars = chars) :
    Stops isBlankChar chars := by
  rw [← started]
  exact stops_dropWhile isBlankChar chars

section Trimmed

variable {code : List Char} (trimmed : trimList code = code)
include trimmed

theorem stops_of_trimmed (filled : code ≠ []) (rest : List Char) :
    Stops isBlankChar (code ++ rest) := by
  have first := stops_of_trimLeft (trimList_eq_self_iff.mp trimmed).1
  obtain ⟨c, more, rfl⟩ := List.exists_cons_of_ne_nil filled
  exact Stops.cons (first c rfl) _

theorem trimRight_append_of_trimmed (gap : Gap) : trimRight (code ++ gap.chars) = code := by
  rw [gap.trimRight_append, (trimList_eq_self_iff.mp trimmed).2]

/-- Code without blanks around it is found again between gaps. -/
theorem trimList_of_trimmed (filled : code ≠ []) (front back : Gap) :
    trimList (front.chars ++ (code ++ back.chars)) = code := by
  rw [trimList, front.trimLeft_append (stops_of_trimmed trimmed filled _),
    trimRight_append_of_trimmed trimmed]

end Trimmed

/-- Blanks are trimmed up to the last word. -/
theorem trimRight_append_word {word : List Char} (filled : word ≠ [])
    (solid : ∀ c ∈ word, isBlankChar c = false) (front : List Char) :
    trimRight (front ++ word) = front ++ word := by
  obtain ⟨start, c, rfl⟩ := (List.eq_nil_or_concat' word).resolve_left filled
  rw [← List.append_assoc, trimRight_append_cons (solid c (by simp))]
  rfl

end RenderTemplate.Text
