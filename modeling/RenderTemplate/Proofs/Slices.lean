import RenderTemplate.Location
import RenderTemplate.Text.Search

namespace RenderTemplate

namespace Text

/-- Whether a character of a text starts at a byte offset, or the text ends there. Facts about
offsets are stated of a text that is given as an append: where a piece ends the offset is the number
of bytes before it, whatever characters these are. -/
def IsBoundary (chars : List Char) (offset : Nat) : Prop :=
  ∃ front rest, chars = front ++ rest ∧ byteLength front = offset

/-- The text between two byte offsets. -/
def slice (chars : List Char) (start stop : Nat) : List Char :=
  Location.before (stop - start) (dropBytes start chars)

theorem dropBytes_append (front rest : List Char) :
    dropBytes (byteLength front) (front ++ rest) = rest := by
  induction front with
  | nil => cases rest <;> simp [dropBytes]
  | cons c front ih =>
    have positive := c.utf8Size_pos
    rw [List.cons_append, dropBytes, byteLength_cons, if_neg (by omega), Nat.add_sub_cancel_left,
      ih]

theorem before_append (front rest : List Char) :
    Location.before (byteLength front) (front ++ rest) = front := by
  induction front with
  | nil => cases rest <;> simp [Location.before]
  | cons c front ih =>
    have positive := c.utf8Size_pos
    rw [List.cons_append, Location.before, byteLength_cons, if_neg (by omega),
      Nat.add_sub_cancel_left, ih]

/-- A slice is found between the lengths of what comes before it and with it. -/
theorem slice_append (front middle rest : List Char) :
    slice (front ++ (middle ++ rest)) (byteLength front) (byteLength (front ++ middle)) =
      middle := by
  rw [slice, dropBytes_append, byteLength_append, Nat.add_sub_cancel_left, before_append]

theorem isBoundary_append (front rest : List Char) :
    IsBoundary (front ++ rest) (byteLength front) :=
  ⟨front, rest, rfl, rfl⟩

theorem IsBoundary.le {chars : List Char} {offset : Nat} (boundary : IsBoundary chars offset) :
    offset ≤ byteLength chars := by
  obtain ⟨front, rest, rfl, rfl⟩ := boundary
  rw [byteLength_append]
  omega

theorem eq_nil_of_byteLength {chars : List Char} (empty : byteLength chars = 0) : chars = [] := by
  cases chars with
  | nil => rfl
  | cons c rest =>
    have positive := c.utf8Size_pos
    rw [byteLength_cons] at empty
    omega

/-- The text between two boundaries stands between what is before and what is after it. -/
theorem exists_eq_slice {chars : List Char} {start stop : Nat} (first : IsBoundary chars start)
    (last : IsBoundary chars stop) (order : start ≤ stop) :
    ∃ front rest, chars = front ++ (slice chars start stop ++ rest) ∧ byteLength front = start ∧
      byteLength (front ++ slice chars start stop) = stop := by
  obtain ⟨front, rest, rfl, rfl⟩ := first
  obtain ⟨whole, after, parts, rfl⟩ := last
  obtain ⟨middle, rfl, rfl⟩ : ∃ middle, whole = front ++ middle ∧ rest = middle ++ after := by
    rcases List.append_eq_append_iff.mp parts with ahead | ⟨more, rfl, rfl⟩
    · exact ahead
    · -- The second boundary is not before the first one, so nothing is between them.
      rw [byteLength_append] at order
      obtain rfl := eq_nil_of_byteLength (by omega : byteLength more = 0)
      exact ⟨[], by simp, by simp⟩
  rw [slice_append]
  exact ⟨front, after, rfl, rfl, rfl⟩

/-- A search finds the first place where a piece stands. -/
theorem splitAt?_of_append (piece front rest : List Char) :
    ∃ before after, splitAt? piece (front ++ (piece ++ rest)) = some (before, after) ∧
      before.length ≤ front.length := by
  induction front with
  | nil =>
    have here : after? piece (piece ++ rest) = some rest := after?_eq_some_iff.mpr rfl
    refine ⟨[], rest, ?_, Nat.le_refl _⟩
    rw [List.nil_append]
    generalize piece ++ rest = chars at here ⊢
    cases chars <;> simp [splitAt?, here]
  | cons c front ih =>
    obtain ⟨before, after, found, bound⟩ := ih
    rw [List.cons_append, splitAt?]
    cases here : after? piece (c :: (front ++ (piece ++ rest))) with
    | some after => exact ⟨[], after, rfl, Nat.zero_le _⟩
    | none => exact ⟨c :: before, after, by rw [found]; rfl, Nat.succ_le_succ bound⟩

/-- No piece stands before the place that a search finds. -/
theorem le_length_of_splitAt? {piece chars before after front rest : List Char}
    (found : splitAt? piece chars = some (before, after))
    (stands : chars = front ++ (piece ++ rest)) :
    before.length ≤ front.length := by
  obtain ⟨_, _, again, bound⟩ := splitAt?_of_append piece front rest
  rw [← stands, found] at again
  cases again
  exact bound

theorem not_infix_of_splitAt?_eq_none {piece chars : List Char}
    (missing : splitAt? piece chars = none) :
    ¬ piece <:+: chars := by
  rintro ⟨front, rest, rfl⟩
  obtain ⟨before, after, found, _⟩ := splitAt?_of_append piece front rest
  rw [List.append_assoc, found] at missing
  cases missing

theorem not_infix_of_splitAt? {piece chars before after : List Char} (nonempty : piece ≠ [])
    (found : splitAt? piece chars = some (before, after)) : ¬ piece <:+: before := by
  rintro ⟨front, rest, rfl⟩
  have whole : chars = front ++ (piece ++ (rest ++ (piece ++ after))) := by
    rw [eq_append_of_splitAt? found]
    simp only [List.append_assoc]
  have bound := le_length_of_splitAt? found whole
  have positive := List.length_pos_iff.mpr nonempty
  simp only [List.length_append] at bound
  omega

/-- What stands in front of the first of some pieces stands in front of all of them together. -/
theorem intercalate_cons_cons_left (separator : List Char) (c : Char) (first : List Char)
    (more : List (List Char)) :
    separator.intercalate ((c :: first) :: more) = c :: separator.intercalate (first :: more) := by
  cases more with
  | nil => rw [List.intercalate_singleton, List.intercalate_singleton]
  | cons second more =>
    rw [List.intercalate_cons_cons, List.intercalate_cons_cons]
    rfl

theorem holds_iff {text piece : String} : holds text piece ↔ piece.toList <:+: text.toList := by
  unfold holds
  cases found : splitAt? piece.toList text.toList with
  | none => simpa using not_infix_of_splitAt?_eq_none found
  | some parts =>
    simpa using ⟨parts.1, parts.2, by rw [eq_append_of_splitAt? found, List.append_assoc]⟩

theorem unwrap?_eq_some_iff {c d : Char} {chars inner : List Char} :
    unwrap? c d chars = some inner ↔ chars = c :: (inner ++ [d]) := by
  unfold unwrap?
  cases chars with
  | nil => simp
  | cons first rest =>
    rw [List.cons.injEq]
    dsimp only
    split
    · next same =>
      split
      · next last middle back =>
        obtain rfl : rest = middle.reverse ++ [last] := List.reverse_eq_cons_iff.mp back
        rw [List.append_singleton_inj]
        by_cases ends : last = d <;> simp [same, ends]
      · next back =>
        obtain rfl := List.reverse_eq_nil_iff.mp back
        simp
    · next other => simp [other]

end Text

namespace Location

@[simp] theorem offset_advance (place : Location) (chars : List Char) :
    (place.advance chars).offset = place.offset + Text.byteLength chars := by
  induction chars generalizing place with
  | nil => simp
  | cons c chars ih =>
    have stepped : (place.step c).offset = place.offset + c.utf8Size := by
      unfold step
      split <;> rfl
    rw [advance_cons, ih, stepped, Text.byteLength_cons, Nat.add_assoc]

/-- The line and column of an offset are those of the text before it. -/
theorem ofOffset_append {source : String} {front rest : List Char}
    (parts : source.toList = front ++ rest) :
    ofOffset source (Text.byteLength front) = ({} : Location).advance front := by
  have before : Location.before (Text.byteLength front) source.toList = front := by
    rw [parts, Text.before_append]
  have offset : (({} : Location).advance front).offset = Text.byteLength front := by simp
  rw [ofOffset, before, ← offset]

end Location

end RenderTemplate
