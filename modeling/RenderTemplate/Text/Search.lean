namespace RenderTemplate.Text

/-- The text after `front`, if it starts with it. -/
def after? : List Char → List Char → Option (List Char)
  | [], chars => some chars
  | _ :: _, [] => none
  | f :: front, c :: chars => if f = c then after? front chars else none

/-- Splits at the first place where `piece` stands: what is before it and what follows it. -/
def splitAt? (piece : List Char) : List Char → Option (List Char × List Char)
  | [] => (after? piece []).map fun rest => ([], rest)
  | c :: chars =>
    match after? piece (c :: chars) with
    | some rest => some ([], rest)
    | none => (splitAt? piece chars).map fun (before, rest) => (c :: before, rest)

theorem after?_eq_some_iff {front chars rest : List Char} :
    after? front chars = some rest ↔ chars = front ++ rest := by
  fun_induction after? front chars with
  | case1 => simp [eq_comm]
  | case2 => simp
  | case3 f front chars ih => simp [ih]
  | case4 f front c chars other => simp [Ne.symm other]

/-- The parts of a split, and the piece between them, are the text. -/
theorem eq_append_of_splitAt? {piece chars before rest : List Char}
    (found : splitAt? piece chars = some (before, rest)) : chars = before ++ (piece ++ rest) := by
  induction chars generalizing before with
  | nil =>
    simp only [splitAt?, Option.map_eq_some_iff, Prod.mk.injEq] at found
    obtain ⟨_, here, rfl, rfl⟩ := found
    simpa using after?_eq_some_iff.mp here
  | cons c chars ih =>
    simp only [splitAt?] at found
    split at found
    · next here =>
      simp only [Option.some.injEq, Prod.mk.injEq] at found
      obtain ⟨rfl, rfl⟩ := found
      simpa using after?_eq_some_iff.mp here
    · simp only [Option.map_eq_some_iff, Prod.mk.injEq, Prod.exists] at found
      obtain ⟨front, _, later, rfl, rfl⟩ := found
      rw [List.cons_append, ← ih later]

/-- Whether `piece` stands somewhere in the text. -/
def holds (text piece : String) : Bool :=
  (splitAt? piece.toList text.toList).isSome

/-- Whether a text starts with `front`. -/
def startsWith (text front : String) : Bool :=
  (after? front.toList text.toList).isSome

/-- The text without the character `c` at its front and the character `d` at its end, if both are
there. -/
def unwrap? (c d : Char) (chars : List Char) : Option (List Char) :=
  match chars with
  | first :: rest =>
    if first = c then
      match rest.reverse with
      | last :: middle => if last = d then some middle.reverse else none
      | [] => none
    else none
  | [] => none

/-- The pieces of a text between the occurrences of one character. -/
def splitOnChar (separator : Char) : List Char → List (List Char)
  | [] => [[]]
  | c :: rest =>
    if c = separator then [] :: splitOnChar separator rest
    else
      match splitOnChar separator rest with
      | piece :: pieces => (c :: piece) :: pieces
      | [] => [[c]]

end RenderTemplate.Text
