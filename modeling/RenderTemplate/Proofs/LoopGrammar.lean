import RenderTemplate.Proofs.Gaps

namespace RenderTemplate.RepeatClause

open Text (Gap Stops isBlankChar)

/-- The name of an index behind its comma, with the blanks on both sides of the comma. -/
@[ext]
structure IndexWriting where
  before : Gap
  after : Gap
  name : List Char
  form : isNameForm name

/-- The index as it is written. -/
def IndexWriting.text (index : IndexWriting) : List Char :=
  index.before.chars ++ ',' :: (index.after.chars ++ index.name)

/-- A loop in its words and the blanks between them. -/
@[ext]
structure Writing where
  lead : Gap
  item : List Char
  index : Option IndexWriting
  before : Gap
  after : Gap
  collection : List Char
  tail : Gap
  form : isNameForm item
  apart : before.chars ≠ []
  behind : after.chars ≠ []
  filled : collection ≠ []
  trimmed : Text.trimList collection = collection

namespace Writing

/-- The word `in` with its blanks, and the collection. -/
def source (writing : Writing) : List Char :=
  writing.before.chars ++ 'i' :: 'n' ::
    (writing.after.chars ++ (writing.collection ++ writing.tail.chars))

/-- All that follows the item. -/
def afterItem (writing : Writing) : List Char :=
  (writing.index.map IndexWriting.text).getD [] ++ writing.source

/-- The loop as it is written. -/
def text (writing : Writing) : List Char :=
  writing.lead.chars ++ (writing.item ++ writing.afterItem)

/-- The name of the index, if it is written. -/
def indexName (writing : Writing) : Option (List Char) :=
  writing.index.map (·.name)

/-- The names and the collection that are written. An index that is not written is named after the
item. -/
def clause (writing : Writing) : RepeatClause where
  item := String.ofList writing.item
  index := (writing.indexName.map String.ofList).getD (String.ofList writing.item ++ "Index")
  collection := String.ofList writing.collection

/-- Whether the names are identifiers and differ, and the collection is an expression. -/
structure IsAccepted (writing : Writing) (host : HostLanguage) (place : Location) : Prop where
  item : isIdentifier writing.clause.item
  index : isIdentifier writing.clause.index
  distinct : writing.clause.item ≠ writing.clause.index
  collection : host.validate writing.clause.collection place = .ok ()

end Writing

theorem stops_isBlankChar_name {name : List Char} (form : isNameForm name) (rest : List Char) :
    Stops isBlankChar (name ++ rest) := by
  cases name with
  | nil => cases form
  | cons c name =>
    have inName := all_of_isNameForm form
    rw [List.all_cons, Bool.and_eq_true] at inName
    exact Stops.cons (not_isBlankChar_of_isNameChar inName.1) _

theorem name?_append {name rest : List Char} (form : isNameForm name)
    (stops : Stops isNameChar rest) :
    name? (name ++ rest) = some (name, rest) := by
  have inside := all_of_isNameForm form
  rw [name?, Text.takeWhile_append_of_stops inside stops,
    Text.dropWhile_append_of_stops inside stops, if_pos form]

theorem eq_append_of_name? {chars name rest : List Char} (found : name? chars = some (name, rest)) :
    isNameForm name ∧ chars = name ++ rest := by
  rw [name?, Option.ite_none_right_eq_some] at found
  obtain ⟨form, same⟩ := found
  cases same
  exact ⟨form, List.takeWhile_append_dropWhile.symm⟩

theorem afterBlanks?_append {gap : Gap} (filled : gap.chars ≠ []) {rest : List Char}
    (stops : Stops isBlankChar rest) :
    afterBlanks? (gap.chars ++ rest) = some rest := by
  obtain ⟨chars, blank⟩ := gap
  obtain ⟨c, blanks, rfl⟩ := List.exists_cons_of_ne_nil filled
  rw [List.all_cons, Bool.and_eq_true] at blank
  rw [List.cons_append, afterBlanks?, if_pos blank.1, Text.trimLeft,
    Text.dropWhile_append_of_stops blank.2 stops]

theorem eq_append_of_afterBlanks? {chars rest : List Char}
    (found : afterBlanks? chars = some rest) :
    ∃ gap : Gap, gap.chars ≠ [] ∧ Text.trimLeft rest = rest ∧ chars = gap.chars ++ rest := by
  cases chars with
  | nil => cases found
  | cons c chars =>
    rw [afterBlanks?, Option.ite_none_right_eq_some, Option.some.injEq] at found
    obtain ⟨blank, rfl⟩ := found
    refine ⟨⟨c :: (Gap.leading chars).chars, ?_⟩, by simp, Text.trimLeft_trimLeft chars, ?_⟩
    · rw [List.all_cons, blank, (Gap.leading chars).blank, Bool.and_self]
    · rw [List.cons_append, ← Gap.leading_append]

/-- An index is found behind its comma, with or without blanks around it. -/
theorem indexName?_append (index : IndexWriting) {rest : List Char}
    (stops : Stops isNameChar rest) :
    indexName? (index.text ++ rest) = some (index.name, rest) := by
  have comma : Text.trimLeft (index.text ++ rest) =
      ',' :: (index.after.chars ++ (index.name ++ rest)) := by
    rw [IndexWriting.text, List.append_assoc, List.cons_append, List.append_assoc,
      index.before.trimLeft_append (Stops.cons rfl _)]
  rw [indexName?, comma]
  change name? (Text.trimLeft (index.after.chars ++ (index.name ++ rest))) = _
  rw [index.after.trimLeft_append (stops_isBlankChar_name index.form rest),
    name?_append index.form stops]

theorem eq_append_of_indexName? {chars name rest : List Char}
    (found : indexName? chars = some (name, rest)) :
    ∃ index : IndexWriting, index.name = name ∧ chars = index.text ++ rest := by
  unfold indexName? at found
  split at found
  · next inner comma =>
    obtain ⟨form, same⟩ := eq_append_of_name? found
    refine ⟨⟨Gap.leading chars, Gap.leading inner, name, form⟩, rfl, ?_⟩
    rw [IndexWriting.text, List.append_assoc, List.cons_append, List.append_assoc, ← same,
      ← Gap.leading_append, ← comma, ← Gap.leading_append]
  · cases found

/-- The item ends at the comma, or at the blanks before it. -/
theorem IndexWriting.stops_text (index : IndexWriting) (rest : List Char) :
    Stops isNameChar (index.text ++ rest) := by
  rw [IndexWriting.text, List.append_assoc]
  by_cases empty : index.before.chars = []
  · rw [empty]
    exact Stops.cons rfl _
  · exact index.before.stops_append (fun _ => not_isBlankChar_of_isNameChar) empty _

namespace Writing

variable (writing : Writing)

theorem stops_collection : Stops isBlankChar (writing.collection ++ writing.tail.chars) :=
  Text.stops_of_trimmed writing.trimmed writing.filled _

theorem trimRight_collection :
    Text.trimRight (writing.collection ++ writing.tail.chars) = writing.collection :=
  Text.trimRight_append_of_trimmed writing.trimmed writing.tail

/-- Names end at the blanks in front of `in`. -/
theorem stops_source : Stops isNameChar writing.source :=
  writing.before.stops_append (fun _ => not_isBlankChar_of_isNameChar) writing.apart _

/-- The collection is what stands behind the word, without the blanks around it. -/
theorem collection?_source : collection? writing.source = some writing.collection := by
  have first : afterBlanks? writing.source =
      some ('i' :: 'n' :: (writing.after.chars ++ (writing.collection ++ writing.tail.chars))) :=
    afterBlanks?_append writing.apart (Stops.cons rfl _)
  have word : Text.after? ['i', 'n']
      ('i' :: 'n' :: (writing.after.chars ++ (writing.collection ++ writing.tail.chars))) =
      some (writing.after.chars ++ (writing.collection ++ writing.tail.chars)) :=
    Text.after?_eq_some_iff.mpr rfl
  have last := afterBlanks?_append writing.behind writing.stops_collection
  have solid : (writing.collection ++ writing.tail.chars).isEmpty = false := by
    simp [writing.filled]
  simp only [collection?, first, word, last, solid, Option.bind_eq_bind, Option.bind_some,
    Bool.false_and, if_neg Bool.false_ne_true, writing.trimRight_collection]

/-- No index is found where there is none: blanks come first, and no comma. -/
theorem indexName?_source : indexName? writing.source = none := by
  have word : Text.trimLeft writing.source =
      'i' :: 'n' :: (writing.after.chars ++ (writing.collection ++ writing.tail.chars)) :=
    writing.before.trimLeft_append (Stops.cons rfl _)
  rw [indexName?, word]
  rfl

theorem stops_afterItem : Stops isNameChar writing.afterItem := by
  unfold afterItem
  cases writing.index with
  | none => exact writing.stops_source
  | some index => exact index.stops_text writing.source

/-- A loop that is written by the grammar is taken apart into its words. -/
theorem pieces?_text :
    pieces? writing.text = some (writing.item, writing.indexName, writing.collection) := by
  have started : Text.trimLeft writing.text = writing.item ++ writing.afterItem :=
    writing.lead.trimLeft_append (stops_isBlankChar_name writing.form _)
  rw [pieces?, started, name?_append writing.form writing.stops_afterItem, Option.bind_eq_bind,
    Option.bind_some]
  dsimp only
  unfold afterItem indexName
  cases writing.index with
  | none =>
    simp only [Option.map_none, Option.getD_none, List.nil_append, writing.indexName?_source,
      writing.collection?_source]
    rfl
  | some index =>
    simp only [Option.map_some, Option.getD_some, indexName?_append index writing.stops_source,
      writing.collection?_source]
    rfl

variable {writing} {other : Writing}

/-- The blanks and the collection can be told from their text. -/
theorem source_inj (same : writing.source = other.source) :
    writing.before = other.before ∧ writing.after = other.after ∧
      writing.collection = other.collection ∧
      writing.tail = other.tail := by
  obtain ⟨before, word⟩ := Gap.append_inj (Stops.cons rfl _) (Stops.cons rfl _) same
  simp only [List.cons.injEq, true_and] at word
  obtain ⟨after, rest⟩ := Gap.append_inj writing.stops_collection other.stops_collection word
  have collection : writing.collection = other.collection := by
    rw [← writing.trimRight_collection, rest, other.trimRight_collection]
  rw [collection, List.append_cancel_left_eq] at rest
  exact ⟨before, after, collection, Gap.ext rest⟩

/-- With an index the text has a comma in front of the word, and without one it has not. -/
theorem text_ne_source (index : IndexWriting) (rest : List Char) :
    index.text ++ rest ≠ writing.source := by
  intro same
  rw [IndexWriting.text, List.append_assoc] at same
  obtain ⟨_, word⟩ := Gap.append_inj (Stops.cons rfl _) (Stops.cons rfl _) same
  have comma := (List.cons.inj word).1
  cases comma

theorem indexText_inj {index more : IndexWriting}
    (same : index.text ++ writing.source = more.text ++ other.source) :
    index = more ∧ writing.source = other.source := by
  simp only [IndexWriting.text, List.append_assoc, List.cons_append] at same
  obtain ⟨before, word⟩ := Gap.append_inj (Stops.cons rfl _) (Stops.cons rfl _) same
  simp only [List.cons.injEq, true_and] at word
  obtain ⟨after, rest⟩ :=
    Gap.append_inj (stops_isBlankChar_name index.form _) (stops_isBlankChar_name more.form _) word
  obtain ⟨name, rest⟩ :=
    Text.append_inj_of_stops (all_of_isNameForm index.form) writing.stops_source
    (all_of_isNameForm more.form) other.stops_source rest
  exact ⟨IndexWriting.ext before after name, rest⟩

theorem afterItem_inj (same : writing.afterItem = other.afterItem) :
    writing.index = other.index ∧ writing.source = other.source := by
  unfold afterItem at same
  cases first : writing.index with
  | none =>
    cases second : other.index with
    | none =>
      rw [first, second] at same
      exact ⟨rfl, same⟩
    | some index =>
      rw [first, second] at same
      exact absurd same.symm (text_ne_source index _)
  | some index =>
    cases second : other.index with
    | none =>
      rw [first, second] at same
      exact absurd same (text_ne_source index _)
    | some more =>
      rw [first, second] at same
      obtain ⟨rfl, source⟩ := indexText_inj same
      exact ⟨rfl, source⟩

/-- A loop is written in one way only: its text determines all parts. -/
theorem text_inj (same : writing.text = other.text) : writing = other := by
  obtain ⟨lead, rest⟩ :=
    Gap.append_inj (stops_isBlankChar_name writing.form _) (stops_isBlankChar_name other.form _)
    same
  obtain ⟨item, rest⟩ :=
    Text.append_inj_of_stops (all_of_isNameForm writing.form) writing.stops_afterItem
    (all_of_isNameForm other.form) other.stops_afterItem rest
  obtain ⟨index, source⟩ := afterItem_inj rest
  obtain ⟨before, after, collection, tail⟩ := source_inj source
  exact Writing.ext lead item index before after collection tail

end Writing

theorem eq_append_of_collection? {chars code : List Char} (found : collection? chars = some code) :
    ∃ before after tail : Gap, before.chars ≠ [] ∧ after.chars ≠ [] ∧ Text.trimList code = code ∧
      chars = before.chars ++ 'i' :: 'n' :: (after.chars ++ (code ++ tail.chars)) := by
  obtain ⟨inner, first, found⟩ := Option.bind_eq_some_iff.mp found
  obtain ⟨rest, word, found⟩ := Option.bind_eq_some_iff.mp found
  obtain ⟨last, second, found⟩ := Option.bind_eq_some_iff.mp found
  rw [Option.ite_none_left_eq_some, Option.some.injEq] at found
  obtain ⟨_, rfl⟩ := found
  obtain ⟨before, apart, _, rfl⟩ := eq_append_of_afterBlanks? first
  obtain ⟨after, behind, started, rfl⟩ := eq_append_of_afterBlanks? second
  rw [Text.after?_eq_some_iff] at word
  obtain ⟨tail, same⟩ := Text.exists_gap_trimRight last
  refine ⟨before, after, tail, apart, behind, ?_, ?_⟩
  · exact Text.trimList_eq_self_iff.mpr ⟨Text.trimLeft_trimRight started,
      Text.trimRight_trimRight last⟩
  · rw [word, ← same]
    rfl

/-- What is taken apart into words is written by the grammar, unless the collection is missing. -/
theorem exists_writing_of_pieces? {value item code : List Char} {index : Option (List Char)}
    (found : pieces? value = some (item, index, code)) (filled : code ≠ []) :
    ∃ writing : Writing, writing.text = value ∧ writing.item = item ∧ writing.indexName = index ∧
      writing.collection = code := by
  obtain ⟨⟨name, rest⟩, named, found⟩ := Option.bind_eq_some_iff.mp found
  obtain ⟨form, started⟩ := eq_append_of_name? named
  dsimp only at found
  obtain ⟨written, remaining, rfl, rfl, rfl, collected⟩ :
      ∃ (written : Option IndexWriting) (remaining : List Char), name = item ∧
        written.map (·.name) = index ∧ rest = (written.map IndexWriting.text).getD [] ++ remaining ∧
        collection? remaining = some code := by
    split at found
    · next word remaining indexed =>
      obtain ⟨collection, collected, made⟩ := Option.bind_eq_some_iff.mp found
      cases made
      obtain ⟨written, rfl, rfl⟩ := eq_append_of_indexName? indexed
      exact ⟨some written, remaining, rfl, rfl, rfl, collected⟩
    · obtain ⟨collection, collected, made⟩ := Option.bind_eq_some_iff.mp found
      cases made
      exact ⟨none, rest, rfl, rfl, rfl, collected⟩
  obtain ⟨before, after, tail, apart, behind, trimmed, rfl⟩ := eq_append_of_collection? collected
  refine ⟨⟨Gap.leading value, name, written, before, after, code, tail, form, apart, behind, filled,
    trimmed⟩, ?_, rfl, rfl, rfl⟩
  calc
    _ = (Gap.leading value).chars ++ Text.trimLeft value := congrArg _ started.symm
    _ = value := (Gap.leading_append value).symm

variable {host : HostLanguage} {directive : DirectiveValue}

/-- What is read as a loop is the text of an accepted writing. -/
theorem exists_writing_of_read {clause : RepeatClause}
    (read : RepeatClause.read host directive = .ok clause) :
    ∃ writing : Writing, writing.text = directive.value.toList ∧
      writing.IsAccepted host directive.location ∧
      writing.clause = clause := by
  obtain ⟨item, index, code, found, rfl, fine, valid⟩ := read_ok read
  have filled : code ≠ [] := by
    rintro rfl
    cases valid
  obtain ⟨writing, text, rfl, rfl, rfl⟩ := exists_writing_of_pieces? found filled
  obtain ⟨identifier, indexed, distinct⟩ := nameFault?_eq_none_iff.mp fine
  exact ⟨writing, text, ⟨identifier, indexed, distinct, valid⟩, rfl⟩

theorem Writing.IsAccepted.read_eq {writing : Writing}
    (accepted : writing.IsAccepted host directive.location)
    (text : writing.text = directive.value.toList) :
    RepeatClause.read host directive = .ok writing.clause := by
  have fine : nameFault? (Text.trim directive.value) writing.clause.item writing.clause.index =
      none :=
    nameFault?_eq_none_iff.mpr ⟨accepted.item, accepted.index, accepted.distinct⟩
  have valid := accepted.collection
  unfold Writing.clause at fine valid
  rw [RepeatClause.read, ← text, writing.pieces?_text]
  dsimp only at fine valid ⊢
  rw [fine, valid]
  rfl

/-- A text is read as a loop exactly if it is written by the grammar, as `item in collection` or as
`item, index in collection`, with identifiers that differ and a collection that is an expression;
and no text is so written in two ways. -/
theorem read_iff_written (host : HostLanguage) (value : String) (place : Location) :
    (∀ clause, RepeatClause.read host ⟨value, place⟩ = .ok clause ↔
      ∃ writing : Writing, writing.text = value.toList ∧ writing.IsAccepted host place ∧
        writing.clause = clause) ∧
    ∀ writing other : Writing, writing.text = value.toList → other.text = value.toList →
      writing = other := by
  refine ⟨fun clause => ⟨exists_writing_of_read, ?_⟩, fun writing other first second => ?_⟩
  · rintro ⟨writing, text, accepted, rfl⟩
    exact accepted.read_eq text
  · exact Writing.text_inj (first.trans second.symm)

/-- A loop whose item ends in `in`, and whose collection has the word in it. -/
def marginLoop : Writing where
  lead := .space
  item := ['m', 'a', 'r', 'g', 'i', 'n']
  index := some ⟨.empty, ⟨['\t'], by decide⟩, ['i', 'n', 's'], by decide⟩
  before := .space
  after := ⟨['\n', ' '], by decide⟩
  collection := ['k', ' ', 'i', 'n', ' ', 'm', ',', ' ', 'n']
  tail := .space
  form := by decide
  apart := Gap.chars_space_ne
  behind := by decide
  filled := by decide
  trimmed := by decide

theorem marginLoop_read :
    RepeatClause.read .standard ⟨" margin,\tins in\n k in m, n ", {}⟩ =
      .ok ⟨"margin", "ins", "k in m, n"⟩ ∧
    ∀ writing : Writing, writing.text = " margin,\tins in\n k in m, n ".toList →
      writing = marginLoop := by
  have text : marginLoop.text = " margin,\tins in\n k in m, n ".toList := by decide
  have accepted : marginLoop.IsAccepted .standard {} :=
    ⟨by decide, by decide, by decide, by decide +kernel⟩
  have both := read_iff_written .standard " margin,\tins in\n k in m, n " {}
  exact ⟨(both.1 _).mpr ⟨marginLoop, text, accepted, by decide⟩, fun writing same =>
    both.2 writing marginLoop same text⟩

end RenderTemplate.RepeatClause
