import RenderTemplate.Proofs.Pieces
import RenderTemplate.Proofs.Slices

namespace RenderTemplate

namespace TopLevel

variable {separator : Char}

/-- The pieces with separators between them are the text. -/
theorem intercalate_pieces (separator : Char) (scan : Scan) (chars : List Char) :
    [separator].intercalate (pieces separator scan chars) = chars := by
  induction chars generalizing scan with
  | nil => rfl
  | cons c rest ih =>
    rw [pieces]
    split
    · next cut =>
      have later := ih scan
      obtain ⟨piece, more, listed⟩ := exists_pieces_eq_cons separator scan rest
      rw [listed] at later ⊢
      rw [List.intercalate_cons_cons, later, (step_eq_of_separates cut).1]
      rfl
    · have later := ih (scan.step c)
      obtain ⟨piece, more, listed⟩ := exists_pieces_eq_cons separator (scan.step c) rest
      rw [listed] at later ⊢
      dsimp only
      rw [Text.intercalate_cons_cons_left, later]

/-- The pieces of a text with separators between them are the text. -/
theorem intercalate_split (separator : Char) (text : String) :
    (String.singleton separator).intercalate (split separator text) = text := by
  have chars : (split separator text).map String.toList = pieces separator {} text.toList := by
    simp [split, Function.comp_def]
  rw [← String.toList_inj, String.toList_intercalate, chars, String.toList_singleton]
  exact intercalate_pieces separator {} text.toList

/-- A text is in one piece if no separator is met in it where it would separate. -/
theorem separations_eq_zero_iff (scan : Scan) (chars : List Char) :
    separations separator scan chars = 0 ↔
      ∀ before after, chars = before ++ separator :: after →
        ¬(scan.run before).separates separator separator := by
  induction chars generalizing scan with
  | nil => simp [separations]
  | cons c rest ih =>
    rw [separations, Nat.add_eq_zero_iff, ih]
    constructor
    · rintro ⟨here, later⟩ before after same cut
      cases before with
      | nil =>
        obtain ⟨rfl, _⟩ := List.cons.inj same
        have cut : scan.separates c c := cut
        rw [if_pos cut] at here
        cases here
      | cons first before =>
        obtain ⟨rfl, behind⟩ := List.cons.inj same
        exact later before after behind cut
    · intro unmet
      constructor
      · refine if_neg fun cut => ?_
        obtain ⟨rfl, _⟩ := step_eq_of_separates cut
        exact unmet [] rest rfl cut
      · intro before after same
        exact unmet (c :: before) after (by rw [same, List.cons_append])

/-- A text is neutral if a scan of it ends at the top level, and comes to no separator there. -/
theorem isNeutral_iff (other : separator ∉ Scan.quoteMarks ++ Scan.bracketMarks) (text : String) :
    IsNeutral separator text ↔ (Scan.run {} text.toList).IsTop ∧
      ∀ before after, text.toList = before ++ separator :: after → ¬(Scan.run {} before).IsTop := by
  have uncut : cuts separator text = 0 ↔
      ∀ before after, text.toList = before ++ separator :: after → ¬(Scan.run {} before).IsTop := by
    simp only [cuts, separations_eq_zero_iff, Scan.separates_iff_isTop other]
  rw [← uncut]
  constructor
  · intro neutral
    exact ⟨⟨neutral.level, neutral.unquoted⟩, neutral.uncut⟩
  · rintro ⟨⟨level, unquoted⟩, uncut⟩
    exact ⟨level, unquoted, uncut⟩

/-- The pieces of a text with separators between them are the text, whatever the separator.
Conversely, if the separator is neither a quote nor a bracket, texts with separators between them
are split into just these texts, as long as a scan of each of them ends at the top level, where it
started, and comes to no separator there. -/
theorem split_inverts_joining (separator : Char) :
    (∀ text : String, (String.singleton separator).intercalate (split separator text) = text) ∧
    (separator ∉ Scan.quoteMarks ++ Scan.bracketMarks → ∀ texts : List String, texts ≠ [] →
      (∀ text ∈ texts, (Scan.run {} text.toList).IsTop ∧
        ∀ before after, text.toList = before ++ separator :: after → ¬(Scan.run {} before).IsTop) →
      split separator ((String.singleton separator).intercalate texts) = texts) := by
  constructor
  · exact intercalate_split separator
  · intro other texts nonempty neutral
    have separates : Scan.separates {} separator separator :=
      (Scan.separates_iff_isTop other {}).mpr ⟨rfl, rfl⟩
    refine split_intercalate_of_neutral separates nonempty fun text member => ?_
    exact (isNeutral_iff other text).mpr (neutral text member)

/-- An empty piece, separators in brackets and in a string literal behind a quote that does not end
it, and brackets that are closed before they are opened. -/
def mixedPieces : List String :=
  ["", " f(b, [c])", "'x\\',y'", ")("]

theorem mixedPieces_found :
    ",".intercalate mixedPieces = ", f(b, [c]),'x\\',y',)(" ∧
      split ',' ", f(b, [c]),'x\\',y',)(" = mixedPieces ∧
      ",".intercalate (split ',' "a, (b") = "a, (b" := by
  have joined : ",".intercalate mixedPieces = ", f(b, [c]),'x\\',y',)(" := by decide
  have other : ',' ∉ Scan.quoteMarks ++ Scan.bracketMarks := by decide
  obtain ⟨rejoined, found⟩ := split_inverts_joining ','
  refine ⟨joined, ?_, rejoined "a, (b"⟩
  rw [← joined]
  refine found other mixedPieces (by decide) fun text member => (isNeutral_iff other text).mp ?_
  simp only [mixedPieces, List.mem_cons, List.not_mem_nil, or_false] at member
  obtain rfl | rfl | rfl | rfl := member
  · exact ⟨by decide, by decide, by decide⟩
  · exact ⟨by decide, by decide, by decide⟩
  · exact ⟨by decide, by decide, by decide⟩
  · exact ⟨by decide, by decide, by decide⟩

end TopLevel

end RenderTemplate
