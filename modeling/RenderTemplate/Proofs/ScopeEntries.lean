import RenderTemplate.Proofs.Gaps
import RenderTemplate.Proofs.Pieces

namespace RenderTemplate.ScopeClause

open Text (Gap Stops isBlankChar)

/-- An entry `value as name` with the blanks around its words. -/
structure EntryWriting where
  lead : Gap
  before : Gap
  after : Gap
  tail : Gap
  entry : ScopeAlias
  apart : before.chars ≠ []
  behind : after.chars ≠ []

/-- What stands between two semicolons: nothing but blanks, or an entry. -/
inductive PieceWriting where
  | blank (gap : Gap)
  | entry (writing : EntryWriting)

/-- The entry as it is written. -/
def EntryWriting.text (writing : EntryWriting) : String :=
  String.ofList writing.lead.chars ++ (writing.entry.value ++ (String.ofList writing.before.chars ++
    ("as" ++
      (String.ofList writing.after.chars ++
      (writing.entry.name ++ String.ofList writing.tail.chars)))))

namespace PieceWriting

/-- The piece as it is written. -/
def text : PieceWriting → String
  | blank gap => String.ofList gap.chars
  | entry writing => writing.text

/-- The entry that a piece is. -/
def asAlias? : PieceWriting → Option ScopeAlias
  | blank _ => none
  | entry writing => some writing.entry

end PieceWriting

/-- Whether an entry can be written: its name is an identifier, and its value an expression without
blanks at its ends that keeps to itself between semicolons. The last word of an entry and the word
`as` before it are found from behind, whatever the value is. -/
structure IsWritable (host : HostLanguage) (place : Location) (entry : ScopeAlias) : Prop where
  identifier : isIdentifier entry.name
  filled : entry.value ≠ ""
  trimmed : Text.trim entry.value = entry.value
  accepted : host.validate entry.value place = .ok ()
  neutral : TopLevel.IsNeutral ';' entry.value

/-- The last word is found behind the last blanks that have a word behind them. -/
theorem lastWord_append {word : List Char} (filled : word ≠ [])
    (solid : ∀ c ∈ word, isBlankChar c = false) {gap : Gap} (apart : gap.chars ≠ [])
    (front : List Char) (tail : Gap) :
    lastWord (front ++ gap.chars ++ word ++ tail.chars) = (front ++ gap.chars, word) := by
  have inside : word.reverse.all fun c => !isBlankChar c := by
    rw [List.all_reverse, List.all_eq_true]
    exact fun c member => by simp [solid c member]
  have stops : Stops (fun c => !isBlankChar c) (front ++ gap.chars).reverse := by
    obtain ⟨blanks, c, blank, same⟩ := gap.exists_last apart
    rw [same, ← List.append_assoc, List.reverse_concat]
    exact Stops.cons (by simp [blank]) _
  have turned : (front ++ gap.chars ++ word).reverse =
      word.reverse ++ (front ++ gap.chars).reverse := List.reverse_append
  unfold lastWord
  dsimp only
  rw [tail.trimRight_append, Text.trimRight_append_word filled solid, turned,
    Text.takeWhile_append_of_stops inside stops, Text.dropWhile_append_of_stops inside stops,
    List.reverse_reverse, List.reverse_reverse]

/-- The last `as` between blanks is the one that counts, since no blanks are in the name behind
it. -/
theorem entry?_append {value name : List Char} (filled : value ≠ [])
    (trimmed : Text.trimList value = value) (form : isNameForm name) {before after : Gap}
    (apart : before.chars ≠ []) (behind : after.chars ≠ []) (lead tail : Gap) :
    ScopeClause.entry? (lead.chars ++ value ++ before.chars ++ ['a', 's'] ++ after.chars ++ name ++
      tail.chars) =
      some (value, name) := by
  have named : name ≠ [] := by
    rintro rfl
    cases form
  have solid : ∀ c ∈ name, isBlankChar c = false := fun c member =>
    not_isBlankChar_of_isNameChar (List.all_eq_true.mp (all_of_isNameForm form) c member)
  have ended : Text.trimRight (lead.chars ++ value ++ before.chars ++ ['a', 's'] ++ after.chars) =
      lead.chars ++ value ++ before.chars ++ ['a', 's'] := by
    have word : ∀ c ∈ ['a', 's'], isBlankChar c = false :=
      List.forall_mem_cons.mpr ⟨rfl, List.forall_mem_singleton.mpr rfl⟩
    rw [after.trimRight_append, Text.trimRight_append_word (by simp) word]
  have shorter : (lead.chars ++ value ++ before.chars ++ ['a', 's'] ++ after.chars).length ≠
      (lead.chars ++ value ++ before.chars ++ ['a', 's']).length := by
    have positive := List.length_pos_of_ne_nil behind
    rw [List.length_append]
    omega
  obtain ⟨blanks, c, blank, same⟩ := before.exists_last apart
  obtain ⟨d, rest, turned⟩ : ∃ d rest,
      (lead.chars ++ (value ++ blanks.chars)).reverse = d :: rest :=
    List.exists_cons_of_ne_nil (by simp [filled])
  have reversed : (lead.chars ++ value ++ before.chars ++ ['a', 's']).reverse =
      's' :: 'a' :: c :: d :: rest := by
    rw [← turned, same]
    simp
  have inner : Text.trimList (d :: rest).reverse = value := by
    rw [← turned, List.reverse_reverse, Text.trimList_of_trimmed trimmed filled]
  unfold ScopeClause.entry?
  rw [lastWord_append named solid behind]
  dsimp only
  rw [if_pos form, ended, reversed]
  change (if isBlankChar c && _ then some (Text.trimList (d :: rest).reverse, name) else none) = _
  rw [blank, bne_iff_ne.mpr shorter, Bool.and_self, if_pos rfl, inner]

namespace EntryWriting

variable (writing : EntryWriting) {host : HostLanguage} {place : Location}

theorem toList_text :
    writing.text.toList = writing.lead.chars ++ writing.entry.value.toList ++
      writing.before.chars ++
    ['a', 's'] ++ writing.after.chars ++ writing.entry.name.toList ++ writing.tail.chars := by
  simp only [text, String.toList_append, String.toList_ofList, List.append_assoc]
  rfl

theorem isBlank_text : Text.isBlank writing.text = false := by
  rw [Text.isBlank, List.all_eq_false]
  refine ⟨'a', ?_, by decide⟩
  rw [toList_text]
  simp

variable {writing}

theorem entry?_text (writable : IsWritable host place writing.entry) :
    ScopeClause.entry? writing.text.toList =
      some (writing.entry.value.toList, writing.entry.name.toList) := by
  have filled : writing.entry.value.toList ≠ [] :=
    fun empty => writable.filled (String.toList_eq_nil_iff.mp empty)
  have trimmed : Text.trimList writing.entry.value.toList = writing.entry.value.toList := by
    have same := congrArg String.toList writable.trimmed
    rwa [Text.trim, String.toList_ofList] at same
  rw [toList_text]
  exact entry?_append filled trimmed (isNameForm_of_isIdentifier writable.identifier)
    writing.apart writing.behind _ _

/-- An entry that is written is read, if none before it has its name. -/
theorem readEntry_text (writable : IsWritable host place writing.entry) {known : List ScopeAlias}
    (fresh : writing.entry.name ∉ known.map (·.name)) :
    readEntry host place known writing.text = .ok (known ++ [writing.entry]) := by
  have unknown : known.any (·.name == writing.entry.name) = false := by
    rw [List.any_eq_false]
    intro entry member same
    exact fresh (List.mem_map.mpr ⟨entry, member, beq_iff_eq.mp same⟩)
  rw [readEntry, writing.isBlank_text, if_neg Bool.false_ne_true, entry?_text writable]
  dsimp only
  rw [String.ofList_toList, String.ofList_toList, writable.identifier, unknown, writable.accepted]
  rfl

end EntryWriting

theorem isNeutral_gap (gap : Gap) : TopLevel.IsNeutral ';' (String.ofList gap.chars) := by
  have blank : ∀ c ∈ gap.chars, isBlankChar c := List.all_eq_true.mp gap.blank
  refine .plain ?_ ?_
  · rw [isPlain, String.toList_ofList, List.all_eq_true]
    exact fun c member => isPlainChar_of_isBlankChar (blank c member)
  · rw [String.toList_ofList]
    intro member
    cases blank ';' member

theorem isNeutral_name {name : String} (identifier : isIdentifier name) :
    TopLevel.IsNeutral ';' name := by
  refine .plain (isPlain_of_isIdentifier identifier) fun member => ?_
  cases List.all_eq_true.mp (all_of_isNameForm (isNameForm_of_isIdentifier identifier)) ';' member

variable {host : HostLanguage} {place : Location}

theorem EntryWriting.isNeutral_text {writing : EntryWriting}
    (writable : IsWritable host place writing.entry) :
    TopLevel.IsNeutral ';' writing.text := by
  have word : TopLevel.IsNeutral ';' "as" := .plain (by decide) (by decide)
  have name := isNeutral_name writable.identifier
  exact (isNeutral_gap _).append
    (writable.neutral.append ((isNeutral_gap _).append (word.append ((isNeutral_gap _).append
    (name.append (isNeutral_gap _))))))

namespace PieceWriting

variable {pieces : List PieceWriting}

theorem isNeutral_text
    (writable : ∀ entry ∈ pieces.filterMap asAlias?, IsWritable host place entry) :
    ∀ written ∈ pieces.map text, TopLevel.IsNeutral ';' written := by
  intro written member
  obtain ⟨piece, listed, rfl⟩ := List.mem_map.mp member
  cases piece with
  | blank gap => exact isNeutral_gap gap
  | entry writing =>
    exact writing.isNeutral_text (writable _ (List.mem_filterMap.mpr ⟨_, listed, rfl⟩))

/-- The entries are read one after the other, and what is blank is left out. -/
theorem foldlM_readEntry {known : List ScopeAlias}
    (writable : ∀ entry ∈ pieces.filterMap asAlias?, IsWritable host place entry)
    (distinct : ((known ++ pieces.filterMap asAlias?).map (·.name)).Nodup) :
    (pieces.map text).foldlM (readEntry host place) known =
      .ok (known ++ pieces.filterMap asAlias?) := by
  induction pieces generalizing known with
  | nil =>
    rw [List.map_nil, List.foldlM_nil, List.filterMap_nil, List.append_nil]
    rfl
  | cons piece pieces ih =>
    rw [List.map_cons, List.foldlM_cons]
    cases piece with
    | blank gap =>
      have skipped : readEntry host place known (text (blank gap)) = .ok known := by
        rw [readEntry, if_pos]
        rw [text, Text.isBlank, String.toList_ofList, gap.blank]
      rw [skipped]
      exact ih writable distinct
    | entry writing =>
      have entries : (entry writing :: pieces).filterMap asAlias? =
          writing.entry :: pieces.filterMap asAlias? := rfl
      rw [entries] at writable distinct ⊢
      rw [List.forall_mem_cons] at writable
      have fresh : writing.entry.name ∉ known.map (·.name) := by
        rw [List.map_append, List.map_cons, List.nodup_append] at distinct
        exact fun held => distinct.2.2 _ held _ List.mem_cons_self rfl
      have appended : known ++ writing.entry :: pieces.filterMap asAlias? =
          known ++ [writing.entry] ++ pieces.filterMap asAlias? := by simp
      rw [text, EntryWriting.readEntry_text writable.1 fresh]
      rw [appended] at distinct ⊢
      exact ih writable.2 distinct

end PieceWriting

/-- Entries that are written with semicolons between them, with any blanks around them and with
pieces in between that are blank, are read as they are and in their order, whatever code their
values are, as long as each of them keeps to itself between semicolons. -/
theorem read_written (host : HostLanguage) (place : Location) (pieces : List PieceWriting)
    (some : pieces.filterMap PieceWriting.asAlias? ≠ [])
    (writable : ∀ entry ∈ pieces.filterMap PieceWriting.asAlias?, IsWritable host place entry)
    (distinct : ((pieces.filterMap PieceWriting.asAlias?).map (·.name)).Nodup) :
    ScopeClause.read host ⟨";".intercalate (pieces.map PieceWriting.text), place⟩ =
      .ok (pieces.filterMap PieceWriting.asAlias?) := by
  have nonempty : pieces.map PieceWriting.text ≠ [] := by
    intro none
    rw [List.map_eq_nil_iff] at none
    exact some (by rw [none, List.filterMap_nil])
  have split : TopLevel.split ';' (";".intercalate (pieces.map PieceWriting.text)) =
      pieces.map PieceWriting.text :=
    TopLevel.split_intercalate_of_neutral (by decide) nonempty
      (PieceWriting.isNeutral_text writable)
  have folded : (pieces.map PieceWriting.text).foldlM (readEntry host place) [] =
      .ok (pieces.filterMap PieceWriting.asAlias?) :=
    PieceWriting.foldlM_readEntry writable distinct
  have filled : (pieces.filterMap PieceWriting.asAlias?).isEmpty = false := by simpa using some
  rw [ScopeClause.read, split, folded]
  change (if (pieces.filterMap PieceWriting.asAlias?).isEmpty then _ else _) = _
  rw [filled, if_neg Bool.false_ne_true]
  rfl

/-- A semicolon in a string, a value with a cast, a name that is `as`, and blank pieces. -/
def castScope : List PieceWriting := [
  .entry ⟨.empty, .space, .space, .space, ⟨"a", "f(';')"⟩, Gap.chars_space_ne, Gap.chars_space_ne⟩,
  .blank .space,
  .entry ⟨⟨['\n'], by decide⟩, .space, .space, .empty, ⟨"as", "b as C"⟩, Gap.chars_space_ne,
    Gap.chars_space_ne⟩,
  .blank .empty]

theorem castScope_read :
    ScopeClause.read .standard ⟨"f(';') as a ; ;\nb as C as as;", {}⟩ =
      .ok [⟨"a", "f(';')"⟩, ⟨"as", "b as C"⟩] := by
  have writable : ∀ entry ∈ castScope.filterMap PieceWriting.asAlias?,
      IsWritable .standard {} entry := by
    change ∀ entry ∈ [⟨"a", "f(';')"⟩, ⟨"as", "b as C"⟩], IsWritable .standard {} entry
    rw [List.forall_mem_cons, List.forall_mem_singleton]
    constructor
    · exact ⟨by decide, by decide, by decide, by decide +kernel, by decide, by decide, by decide⟩
    · exact ⟨by decide, by decide, by decide, by decide +kernel, by decide, by decide, by decide⟩
  have text : ";".intercalate (castScope.map PieceWriting.text) =
      "f(';') as a ; ;\nb as C as as;" := by decide
  rw [← text]
  exact read_written .standard {} castScope (by decide) writable (by decide)

end RenderTemplate.ScopeClause
