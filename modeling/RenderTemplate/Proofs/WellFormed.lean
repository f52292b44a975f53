import RenderTemplate.Proofs.Origins
import RenderTemplate.Proofs.Runs
import RenderTemplate.Proofs.Splitting

namespace RenderTemplate

/-- No text is lost as a whole where its references are replaced. -/
theorem Entity.decodeList_eq_nil_iff {chars : List Char} : decodeList chars = [] ↔ chars = [] := by
  refine ⟨fun nothing => ?_, fun empty => by rw [empty, decodeList_nil]⟩
  cases chars with
  | nil => rfl
  | cons c rest =>
    by_cases ampersand : c = '&'
    · subst ampersand
      cases found : read? rest with
      | none =>
        rw [decodeList_cons_none found] at nothing
        cases nothing
      | some pair =>
        rw [decodeList_cons_found found] at nothing
        cases nothing
    · rw [decodeList_cons_other ampersand] at nothing
      cases nothing

theorem decodeEntities_eq_empty_iff {text : String} : decodeEntities text = "" ↔ text = "" := by
  rw [← String.toList_eq_nil_iff, decodeEntities, String.toList_ofList,
    Entity.decodeList_eq_nil_iff, String.toList_eq_nil_iff]

namespace Markup

/-- A name of an attribute that a tag can have. -/
def Attribute.IsNamed (attr : Attribute) : Prop :=
  attr.name ≠ "" ∧ ∀ c ∈ attr.name.toList, Text.isBlankChar c = false ∧
    c ∉ ['=', '>', '/', '<', '"', '\'']

/-- A tag that starts with a letter, an underscore or a dollar sign, with attributes whose names are
all different. -/
structure StartTag.IsWellFormed (start : StartTag) : Prop where
  tag : isTagName start.name.toList
  named : ∀ attr ∈ start.attributes, attr.IsNamed
  distinct : (start.attributes.map (·.name)).Nodup

/-- What a node is like, apart from the nodes inside of it. -/
def Node.IsWellFormed : Node → Prop
  | .element start children =>
    start.IsWellFormed ∧ (isVoidTag start.name ∨ start.selfClosing → children = []) ∧
      (isRawTag start.name →
        children = [] ∨ ∃ text location, text ≠ "" ∧ children = [.text [.literal text] location])
  | .text parts _ =>
    parts ≠ [] ∧ .literal "" ∉ parts ∧ parts.IsChain fun part next =>
      ¬(part.isLiteral ∧ next.isLiteral)
  | .comment value _ => ¬ ['-', '-', '>'] <:+: value.toList

/-- An attribute has the name that is read at its place. -/
theorem readAttribute_name {tag : String} {cursor : Cursor} {attr : Attribute} {count : Nat}
    (read : readAttribute tag cursor = .ok (attr, count)) :
    attr.name = cursor.slice (cursor.run isAttributeChar) ∧ cursor.run isAttributeChar ≠ 0 := by
  unfold readAttribute at read
  dsimp only at read
  split at read
  · cases read
  · next named =>
    split at read
    · split at read
      · cases read
        exact ⟨rfl, named⟩
      · cases read
    · cases read
      exact ⟨rfl, named⟩

theorem Attribute.isNamed_of_read {tag : String} {cursor : Cursor} {attr : Attribute} {count : Nat}
    (read : readAttribute tag cursor = .ok (attr, count)) : attr.IsNamed := by
  obtain ⟨name, named⟩ := readAttribute_name read
  have chars : attr.name.toList = cursor.rest.takeWhile isAttributeChar := by
    rw [name, Cursor.toList_slice_run]
  refine ⟨fun empty => named ?_, fun c member => ?_⟩
  · rw [Cursor.run, ← chars, empty]
    rfl
  · rw [chars] at member
    have inside := List.all_eq_true.mp List.all_takeWhile c member
    simpa [isAttributeChar, and_assoc] using inside

/-- Attributes are read up to the first one whose name was there before. -/
theorem readAttributes_names {tag : String} {location : Location} {cursor : Cursor}
    {found attributes : List Attribute} {selfClosing : Bool} {count : Nat}
    (read : readAttributes tag location cursor found = .ok (attributes, selfClosing, count))
    (named : ∀ attr ∈ found, attr.IsNamed) (distinct : (found.map (·.name)).Nodup) :
    (∀ attr ∈ attributes, attr.IsNamed) ∧ (attributes.map (·.name)).Nodup := by
  fun_induction readAttributes tag location cursor found generalizing attributes selfClosing count
  case case1 | case4 | case5 | case7 => contradiction
  case case2 | case3 =>
    cases read
    rw [List.map_reverse, List.nodup_reverse]
    exact ⟨fun attr member => named attr (List.mem_reverse.mp member), distinct⟩
  case case6 first fresh _ _ _ _ later ih =>
    cases read
    refine ih later (List.forall_mem_cons.mpr ⟨Attribute.isNamed_of_read first, named⟩) ?_
    rw [List.map_cons, List.nodup_cons]
    exact ⟨by simpa using fresh, distinct⟩

/-- A start tag that was read has a name, and attributes with different names. -/
theorem StartTag.IsReadAt.isWellFormed {start : StartTag} {cursor : Cursor} {size : Nat}
    (read : start.IsReadAt cursor size) :
    start.IsWellFormed := by
  obtain ⟨c, rest, front, opens⟩ := read.opens
  obtain ⟨count, _, attributes⟩ := read.attributes
  obtain ⟨named, distinct⟩ := readAttributes_names attributes (by simp) (by simp)
  refine ⟨?_, named, distinct⟩
  have letter : isTagName [c] := by simpa [isTagName, or_assoc] using opens
  have first : isTagChar c := isTagChar_of_isTagName letter c (List.mem_singleton.mpr rfl)
  have chars : start.name.toList = c :: rest.takeWhile isTagChar := by
    rw [read.name, Cursor.toList_slice_run, Cursor.rest_advance, front, List.drop_one,
      List.tail_cons, List.takeWhile_cons_of_pos first]
  rw [chars, isTagName, List.all_takeWhile, Bool.and_true]
  simpa [isTagName] using letter

theorem isLiteral_decodePart (part : Part) : (decodePart part).isLiteral = part.isLiteral := by
  cases part <;> rfl

/-- A run of text has parts, none of them empty, and literals only between expressions. -/
theorem isWellFormed_text {chars : List Char} {parts : List Part} (nonempty : chars ≠ [])
    (split : Part.split chars = .ok parts) (location : Location) :
    (Node.text (parts.map decodePart) location).IsWellFormed := by
  have isSplit := Part.isSplit_of_split split
  refine ⟨fun nothing => nonempty ?_, fun empty => ?_, ?_⟩
  · rw [← isSplit.whole, List.map_eq_nil_iff.mp nothing, List.flatMap_nil]
  · obtain ⟨part, member, same⟩ := List.mem_map.mp empty
    cases part with
    | expression code => cases same
    | literal text =>
      exact (isSplit.literals text member).1
        (decodeEntities_eq_empty_iff.mp (Part.literal.inj same))
  · rw [List.isChain_map]
    simpa only [isLiteral_decodePart] using isSplit.apart

/-- Whatever is made of a lexeme is well formed. -/
theorem Node.IsMadeOf.isWellFormed {node : Node} {lexeme : Lexeme} {cursor : Cursor} {count : Nat}
    (made : node.IsMadeOf lexeme) (nonempty : cursor.rest ≠ [])
    (found : lexeme.Found cursor count) :
    node.IsWellFormed := by
  cases made with
  | comment value location =>
    cases found with
    | comment front ends =>
      rw [IsWellFormed, String.toList_ofList]
      exact Text.not_infix_of_splitAt? (by simp) ends
  | text parts location =>
    cases found with
    | text length split =>
      obtain ⟨c, rest, front⟩ := List.exists_cons_of_ne_nil nonempty
      have positive : 0 < count := textLength_pos (by rwa [front] at length)
      refine isWellFormed_text ?_ split _
      rw [front]
      cases count with
      | zero => cases positive
      | succ count => simp
  | leaf start =>
    cases found with
    | leaf read leaf => exact ⟨read.isWellFormed, fun _ => rfl, fun _ => .inl rfl⟩
  | raw start content location =>
    cases found with
    | raw read continues raw inner =>
      refine ⟨read.isWellFormed, fun leaf => absurd ?_ continues, fun _ => ?_⟩
      · simpa [StartTag.isLeaf, or_comm] using leaf
      · by_cases empty : content = ""
        · exact .inl (by simp [rawChildren, empty])
        · exact .inr ⟨content, _, empty, if_neg (by simpa using empty)⟩
  | content start location filled => exact ⟨by simp, by simpa using filled.symm, .singleton _⟩
  | opening start children =>
    cases found with
    | opening read continues parsed =>
      refine ⟨read.isWellFormed, fun leaf => absurd ?_ continues, fun raw => absurd raw parsed⟩
      simpa [StartTag.isLeaf, or_comm] using leaf

/-- Forests that are read are well formed at every depth. The tag of an element starts with a
letter, an underscore or a dollar sign, and its attributes have proper names, which are all
different. An element that is void or closes itself has no children, and one with plain text only
has at most this text, as it stands in the source. Every text has parts, no literal in it is empty
or stands next to another one, and no comment holds what would end it. -/
theorem parseFile_isWellFormed {file : Option String} {source : String} {forest : List Node}
    (parsed : parseFile file source = .ok forest) :
    ∀ node ∈ insideAll forest, node.IsWellFormed := by
  intro node held
  obtain ⟨lexeme, made, cursor, count, _, nonempty, read⟩ :=
    exists_isRead_of_parse (parse_of_parseFile_ok parsed) held
  exact made.isWellFormed nonempty (Lexeme.found_of_read read)

/-- A source with something of each kind, some of it in unusual forms. -/
def crowdedPage : String :=
  "<$a-b.c x y='<' z=q/><script a>\x7b</p></script><style></style><br>" ++
    "é&lt;\x7ba\x7db\x7bc\x7d\x7bd\x7d<p>< 3<!--a--b--></p></br>"

theorem crowdedPage_isWellFormed :
    ∃ forest, parseFile none crowdedPage = .ok forest ∧ (insideAll forest).length = 9 ∧
      ∀ node ∈ insideAll forest, node.IsWellFormed := by
  have read : (parseFile none crowdedPage).toOption.map (fun forest => (insideAll forest).length) =
      some 9 := by
    decide +kernel
  obtain ⟨forest, parsed, nodes⟩ := exists_ok_of_toOption read
  exact ⟨forest, parsed, nodes, parseFile_isWellFormed parsed⟩

end Markup

end RenderTemplate
