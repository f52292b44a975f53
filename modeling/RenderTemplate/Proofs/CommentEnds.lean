import RenderTemplate.Host.Lexer
import RenderTemplate.Proofs.Bracketing
import RenderTemplate.Proofs.Slices

namespace RenderTemplate

/-- An end of a comment stands in front of some characters or behind the first of them. -/
theorem not_ends_cons_iff {c : Char} {rest : List Char} :
    ¬ ['*', '/'] <:+: c :: rest ↔ (c = '*' → rest.head? ≠ some '/') ∧ ¬ ['*', '/'] <:+: rest := by
  have here : ['*', '/'] <+: c :: rest ↔ c = '*' ∧ rest.head? = some '/' := by
    rw [List.cons_prefix_cons, eq_comm]
    cases rest <;> simp [eq_comm]
  rw [List.infix_cons_iff, here, not_or, not_and]

/-- The end of a comment does not start with a slash, so what stands before it is not changed by
it. -/
theorem head?_closed_iff {inside rest : List Char} :
    (inside ++ '*' :: rest).head? = some '/' ↔ inside.head? = some '/' := by
  cases inside <;> simp

theorem head?_breakCommentEnds (chars : List Char) : (breakCommentEnds chars).head? = chars.head? :=
  breakCommentEnds_induction (motive := fun chars broken => broken.head? = chars.head?) rfl
    (fun _ _ => rfl)
    (fun _ _ _ _ => rfl) chars

/-- Where ends of comments are broken up, none is left and none comes up. -/
theorem not_ends_breakCommentEnds (chars : List Char) :
    ¬ ['*', '/'] <:+: breakCommentEnds chars := by
  refine breakCommentEnds_induction (motive := fun _ broken => ¬ ['*', '/'] <:+: broken)
    ?_ ?_ ?_ chars
  · simp
  · intro rest ih
    simp [not_ends_cons_iff, ih]
  · intro c rest other ih
    rw [not_ends_cons_iff, head?_breakCommentEnds]
    exact ⟨other, ih⟩

theorem any_isLineEnd_breakCommentEnds (chars : List Char) :
    (breakCommentEnds chars).any Host.isLineEnd = chars.any Host.isLineEnd := by
  have blank : Host.isLineEnd ' ' = false := by decide
  refine breakCommentEnds_induction
    (motive := fun chars broken => broken.any Host.isLineEnd = chars.any Host.isLineEnd)
      rfl ?_ ?_ chars
  · intro rest ih
    simp only [List.any_cons, ih, blank, Bool.false_or]
  · intro c rest _ ih
    rw [List.any_cons, List.any_cons, ih]

/-- What stands between the ends of comments in a text stays as it is where these are broken up. -/
theorem exists_pieces_of_breakCommentEnds (chars : List Char) :
    ∃ first more, chars = ['*', '/'].intercalate (first :: more) ∧
      breakCommentEnds chars = ['*', ' ', '/'].intercalate (first :: more) ∧
      ∀ piece ∈ first :: more, ¬ ['*', '/'] <:+: piece := by
  refine breakCommentEnds_induction (motive := fun chars broken => ∃ first more,
    chars = ['*', '/'].intercalate (first :: more) ∧
      broken = ['*', ' ', '/'].intercalate (first :: more) ∧
      ∀ piece ∈ first :: more, ¬ ['*', '/'] <:+: piece) ?_ ?_ ?_ chars
  · exact ⟨[], [], rfl, rfl, by simp⟩
  · rintro rest ⟨first, more, whole, broken, unended⟩
    refine ⟨[], first :: more, ?_, ?_, ?_⟩
    · rw [List.intercalate_cons_cons, ← whole]
      rfl
    · rw [List.intercalate_cons_cons, ← broken]
      rfl
    · rw [List.forall_mem_cons]
      exact ⟨by simp, unended⟩
  · rintro c rest other ⟨first, more, whole, broken, unended⟩
    rw [List.forall_mem_cons] at unended
    -- The character joins the first piece, and a slash in front of this piece is one in front of
    -- the rest.
    have starts : first.head? = some '/' → rest.head? = some '/' := by
      intro slash
      obtain ⟨tail, rfl⟩ := List.head?_eq_some_iff.mp slash
      rw [whole, Text.intercalate_cons_cons_left, List.head?_cons]
    refine ⟨c :: first, more, ?_, ?_, ?_⟩
    · rw [Text.intercalate_cons_cons_left, ← whole]
    · rw [Text.intercalate_cons_cons_left, ← broken]
    · rw [List.forall_mem_cons, not_ends_cons_iff]
      exact ⟨⟨fun star slash => other star (starts slash), unended.1⟩, unended.2⟩

/-- The end of a comment after a text that has none in it is the first one. -/
theorem ends_closed_iff {inside : List Char} (unended : ¬ ['*', '/'] <:+: inside) (place : Nat) :
    ['*', '/'] <+: (inside ++ ['*', '/']).drop place ↔ place = inside.length := by
  induction inside generalizing place with
  | nil =>
    rcases place with _ | _ | place
    · simp
    · simp
    · simp
  | cons c inside ih =>
    obtain ⟨apart, later⟩ := not_ends_cons_iff.mp unended
    cases place with
    | zero =>
      have closed : ¬ ['*', '/'] <+: c :: (inside ++ ['*', '/']) := by
        intro here
        obtain ⟨rfl, slash⟩ := List.cons_prefix_cons.mp here
        obtain ⟨rest, parts⟩ := slash
        have first : (inside ++ ['*', '/']).head? = some '/' := by rw [← parts]; rfl
        exact apart rfl (head?_closed_iff.mp first)
      simpa using closed
    | succ place =>
      rw [List.cons_append, List.drop_succ_cons, ih later, List.length_cons,
        Nat.add_right_cancel_iff]

namespace Host.Lexer

/-- A lexer inside a comment takes one character, unless it is the end. -/
theorem gap_inside (length : Nat) (lineEnd : Bool) {c : Char} {rest : List Char}
    (apart : c = '*' → rest.head? ≠ some '/') :
    gap .blockComment length lineEnd (c :: rest) =
      gap .blockComment (length + 1) (lineEnd || isLineEnd c) rest := by
  rw [gap]
  intro tail star parts
  exact apart star (by rw [parts, List.head?_cons])

/-- A reader inside a comment comes out of it where it is closed first. -/
theorem gap_closed {inside : List Char} (unended : ¬ ['*', '/'] <:+: inside) (length : Nat)
    (lineEnd : Bool) (rest : List Char) :
    gap .blockComment length lineEnd (inside ++ '*' :: '/' :: rest) =
      gap .blank (length + (inside.length + 2)) (lineEnd || inside.any isLineEnd) rest := by
  induction inside generalizing length lineEnd with
  | nil =>
    rw [List.any_nil, Bool.or_false, List.length_nil, Nat.zero_add]
    rfl
  | cons c inside ih =>
    obtain ⟨apart, later⟩ := not_ends_cons_iff.mp unended
    have inComment : c = '*' → (inside ++ '*' :: '/' :: rest).head? ≠ some '/' := fun star slash =>
      apart star (head?_closed_iff.mp slash)
    rw [List.cons_append, gap_inside length lineEnd inComment, ih later, List.any_cons,
      Bool.or_assoc, List.length_cons]
    congr 1
    omega

end Host.Lexer

theorem toList_blockComment (text : String) :
    (blockComment text).toList = '/' :: '*' :: (breakCommentEnds text.toList ++ ['*', '/']) := by
  simp [blockComment]

theorem length_blockComment (text : String) :
    (blockComment text).length = (breakCommentEnds text.toList).length + 4 := by
  rw [← String.length_toList, toList_blockComment]
  simp

/-- Behind the start of a comment, its end is the one place where a comment ends. -/
theorem ends_blockComment_iff (text : String) (place : Nat) :
    2 ≤ place ∧ ['*', '/'] <+: (blockComment text).toList.drop place ↔
      place + 2 = (blockComment text).length := by
  rw [toList_blockComment, length_blockComment]
  rcases place with _ | _ | place
  · simp
  · simp
  · have closed := ends_closed_iff (not_ends_breakCommentEnds text.toList) place
    simpa using closed

/-- The text of a comment can be seen in it, cut at the ends of comments that it had. -/
theorem exists_pieces_of_blockComment (text : String) :
    ∃ pieces : List String, text = "*/".intercalate pieces ∧ pieces.all (!Text.holds · "*/") ∧
      blockComment text = "/*" ++ "* /".intercalate pieces ++ "*/" := by
  obtain ⟨first, more, whole, broken, unended⟩ := exists_pieces_of_breakCommentEnds text.toList
  have chars : ((first :: more).map String.ofList).map String.toList = first :: more := by
    simp [Function.comp_def]
  refine ⟨(first :: more).map String.ofList, ?_, ?_, ?_⟩
  · rw [← String.toList_inj, String.toList_intercalate, chars]
    exact whole
  · rw [List.all_map, List.all_eq_true]
    intro piece member
    have back : (String.ofList piece).toList = piece := String.toList_ofList
    have missing : ¬ Text.holds (String.ofList piece) "*/" := by
      rw [Text.holds_iff, back]
      exact unended piece member
    simpa using missing
  · have inner : "* /".intercalate ((first :: more).map String.ofList) =
        String.ofList (breakCommentEnds text.toList) := by
      rw [broken, ← String.toList_inj, String.toList_intercalate, chars]
      exact String.toList_ofList.symm
    rw [inner, blockComment]

/-- A comment of the generated code is one comment, whatever its text. It starts as one, and behind
its start the end of a comment stands at one place only, which is its own end. In between is the
text as it was, apart from the ends of comments in it, which are broken up. -/
theorem blockComment_ends_once (text : String) :
    Text.startsWith (blockComment text) "/*" ∧
    (∃ last, last + 2 = (blockComment text).length ∧
      ∀ place, 2 ≤ place ∧ "*/".toList <+: (blockComment text).toList.drop place ↔ place = last) ∧
    (∃ pieces : List String, text = "*/".intercalate pieces ∧ pieces.all (!Text.holds · "*/") ∧
      blockComment text = "/*" ++ "* /".intercalate pieces ++ "*/") := by
  have starts : Text.startsWith (blockComment text) "/*" := by
    rw [Text.startsWith, toList_blockComment]
    rfl
  have last : (breakCommentEnds text.toList).length + 2 + 2 = (blockComment text).length := by
    rw [length_blockComment]
  refine ⟨starts, ⟨_, last, fun place => ?_⟩, exists_pieces_of_blockComment text⟩
  rw [← Nat.add_right_cancel_iff (n := 2), last]
  exact ends_blockComment_iff text place

example : blockComment "*//**/*" = "/** //** /**/" := by decide

/-- A lexer in front of a comment goes on right behind it, and has met the end of a line if there is
one in the text. -/
theorem Host.Lexer.gap_blockComment (text : String) (length : Nat) (lineEnd : Bool)
    (rest : List Char) :
    gap .blank length lineEnd ((blockComment text).toList ++ rest) =
      gap .blank (length + (blockComment text).length) (lineEnd || text.toList.any isLineEnd)
        rest := by
  have opened (inside : List Char) :
      gap .blank length lineEnd ('/' :: '*' :: inside) =
        gap .blockComment (length + 2) lineEnd inside := rfl
  have closed := gap_closed (not_ends_breakCommentEnds text.toList) (length + 2) lineEnd rest
  rw [any_isLineEnd_breakCommentEnds] at closed
  rw [toList_blockComment, length_blockComment, List.cons_append, List.cons_append,
    List.append_assoc, opened]
  refine closed.trans ?_
  congr 1
  omega

end RenderTemplate
