import Mathlib.Data.List.DropRight
import RenderTemplate.Proofs.Origins
import RenderTemplate.Proofs.Runs
import RenderTemplate.Proofs.UnclosedExpressions

namespace RenderTemplate

namespace Markup

/-- Whether the run of characters for a value without quotes ends with the slash that closes the
tag. -/
def closesTag (onward : List Char) : Bool :=
  (onward.takeWhile isValueChar).getLast? == some '/' && (onward.dropWhile isValueChar).head? ==
    some '>'

/-- The run of characters for a value without quotes, up to the slash that closes the tag. Such a
value is read up to a blank or the end of its tag. All other slashes at the end are read as well,
and are no part of the value either. -/
def bareText (onward : List Char) : List Char :=
  if closesTag onward then (onward.takeWhile isValueChar).dropLast else onward.takeWhile isValueChar

/-- The run of a value in front of the end of its tag has one character more than the value can
have: the slash that closes the tag. -/
theorem takeWhile_eq_of_closesTag {onward : List Char} (closes : closesTag onward) :
    onward.takeWhile isValueChar = bareText onward ++ ['/'] := by
  rw [bareText, if_pos closes]
  simp only [closesTag, Bool.and_eq_true, beq_iff_eq] at closes
  obtain ⟨front, whole⟩ := List.getLast?_eq_some_iff.mp closes.1
  rw [whole, List.dropLast_concat]

theorem exists_eq_of_closesTag {onward : List Char} (closes : closesTag onward) :
    ∃ rest, onward = bareText onward ++ ('/' :: '>' :: rest) := by
  have run := takeWhile_eq_of_closesTag closes
  simp only [closesTag, Bool.and_eq_true, beq_iff_eq] at closes
  obtain ⟨rest, ends⟩ := List.head?_eq_some_iff.mp closes.2
  have whole : onward.takeWhile isValueChar ++ onward.dropWhile isValueChar = onward :=
    List.takeWhile_append_dropWhile
  refine ⟨rest, ?_⟩
  nth_rewrite 1 [← whole]
  rw [run, ends]
  simp

/-- All slashes at the end of a value without quotes are left out, and all but the one that closes
the tag are consumed. -/
theorem readValue_bare {name value : String} {cursor : Cursor} {count : Nat}
    (read : readValue name cursor = .ok (value, count))
    (bare : startsDelimited cursor.rest = false) :
    value.toList = (bareText cursor.rest).rdropWhile (· == '/') ∧
      count = (bareText cursor.rest).length := by
  unfold readValue at read
  split at read
  · next empty =>
    cases read
    rw [empty]
    exact ⟨rfl, rfl⟩
  · next c rest front =>
    simp only [front, startsDelimited, Bool.or_eq_false_iff, beq_eq_false_iff_ne] at bare
    obtain ⟨⟨double, single⟩, brace⟩ := bare
    rw [if_neg (by simp [double, single]), if_neg brace] at read
    obtain ⟨rfl, rfl⟩ := Prod.mk.inj (Except.ok.inj read)
    have behind : (cursor.advance (cursor.rest.takeWhile isValueChar).length).rest =
        cursor.rest.dropWhile isValueChar :=
      cursor.rest_advance_run isValueChar
    rw [← front, behind, String.toList_ofList]
    change _ = _ ∧ (if closesTag cursor.rest then _ else _) = _
    by_cases closes : closesTag cursor.rest
    · rw [if_pos closes, takeWhile_eq_of_closesTag closes]
      exact ⟨List.rdropWhile_concat_pos _ _ _ rfl, by simp⟩
    · rw [if_neg closes, bareText, if_neg closes]
      exact ⟨rfl, rfl⟩

/-- A slash in front of the end of a tag closes its element. -/
theorem selfClosing_of_rest {tag : String} {location : Location} {cursor : Cursor}
    {found attributes : List Attribute} {selfClosing : Bool} {count : Nat} {rest : List Char}
    (ends : cursor.rest = '/' :: '>' :: rest)
    (read : readAttributes tag location cursor found = .ok (attributes, selfClosing, count)) :
    selfClosing := by
  have closed := readAttributes_ending tag location found true rest cursor.place
  change readAttributes tag location ⟨'/' :: '>' :: rest, cursor.place⟩ found = _ at closed
  rw [← ends, read] at closed
  cases closed
  rfl

/-- What is read of each attribute of a tag. If a slash and the end of the tag are left directly
behind it, the tag closes itself. -/
theorem readAttributes_each {source : List Char} {tag : String} {location : Location}
    {cursor : Cursor} {found attributes : List Attribute} {selfClosing : Bool} {count : Nat}
    (inside : cursor.IsIn source)
    (read : readAttributes tag location cursor found = .ok (attributes, selfClosing, count)) :
    ∀ attr ∈ attributes, attr ∈ found ∨ ∃ here size, here.IsIn source ∧
      readAttribute tag here = .ok (attr, size) ∧
      ∀ rest, (here.advance size).rest = '/' :: '>' :: rest → selfClosing := by
  fun_induction readAttributes tag location cursor found generalizing attributes selfClosing count
  case case1 | case4 | case5 | case7 => contradiction
  case case2 | case3 =>
    cases read
    exact fun attr member => .inl (List.mem_reverse.mp member)
  case case6 first _ _ _ _ _ later ih =>
    cases read
    intro attr member
    rcases ih ((inside.advance _).advance _) later attr member with known | following
    · rcases List.mem_cons.mp known with rfl | known
      · exact .inr ⟨_, _, inside.advance _, first, fun rest ends => selfClosing_of_rest ends later⟩
      · exact .inl known
    · exact .inr following

/-- The text from the value of an attribute on, in the source of the attribute. -/
def Attribute.onward (source : List Char) (attr : Attribute) : List Char :=
  valueOnward (Text.dropBytes attr.location.offset source)

/-- What is said of the reader of a value holds of each attribute of a tag that was read. -/
theorem bareValue_of_isReadAt {source : List Char} {cursor : Cursor} {start : StartTag} {size : Nat}
    {attr : Attribute} {value : String} (inside : cursor.IsIn source)
    (opens : start.IsReadAt cursor size) (member : attr ∈ start.attributes)
    (valued : attr.value = some value) (bare : startsDelimited (attr.onward source) = false) :
    value.toList = (bareText (attr.onward source)).rdropWhile (· == '/') ∧
      (closesTag (attr.onward source) → start.selfClosing) := by
  obtain ⟨count, _, read⟩ := opens.attributes
  obtain known | ⟨here, size, hereIn, found, ends⟩ :=
    readAttributes_each (inside.advance _) read attr member
  · cases known
  obtain ⟨place, without | ⟨text, lead, length, same, rfl, readHere, rest⟩⟩ :=
    readAttribute_cases found
  · cases valued.symm.trans without.1
  obtain rfl := Option.some.inj (valued.symm.trans same)
  have onward : (here.advance lead).rest = attr.onward source := by
    rw [rest, Attribute.onward, place, hereIn.dropBytes_eq]
  rw [← onward] at bare ⊢
  obtain ⟨text, rfl⟩ := readValue_bare readHere bare
  refine ⟨text, fun closes => ?_⟩
  obtain ⟨after, parts⟩ := exists_eq_of_closesTag closes
  refine ends after ?_
  rw [← Cursor.advance_advance, Cursor.rest_advance]
  nth_rewrite 2 [parts]
  exact List.drop_left

theorem rdropWhile_slash_eq_self_iff {chars : List Char} :
    chars.rdropWhile (· == '/') = chars ↔ chars.getLast? ≠ some '/' := by
  rw [List.rdropWhile_eq_self_iff]
  cases chars using List.reverseRecOn with
  | nil => simp
  | append_singleton front last => simp

/-- The value of an attribute without quotes is the run of characters for it without the slashes at
its end. So it is all of the run, up to the slash that closes the tag, exactly if no slash is left
at the end of that. -/
theorem bareValue_eq_iff {file : Option String} {source value : String}
    {forest children : List Node} {start : StartTag} {attr : Attribute}
    (parsed : parseFile file source = .ok forest)
    (held : .element start children ∈ insideAll forest) (member : attr ∈ start.attributes)
    (valued : attr.value = some value)
    (bare : startsDelimited (attr.onward source.toList) = false) :
    value.toList = (bareText (attr.onward source.toList)).rdropWhile (· == '/') ∧
      (value.toList = bareText (attr.onward source.toList) ↔
        (bareText (attr.onward source.toList)).getLast? ≠ some '/') ∧
      (closesTag (attr.onward source.toList) → start.selfClosing) := by
  obtain ⟨cursor, size, inside, opens⟩ :=
    exists_isReadAt_of_parse (parse_of_parseFile_ok parsed) held
  obtain ⟨text, closes⟩ := bareValue_of_isReadAt inside opens member valued bare
  refine ⟨text, ?_, closes⟩
  rw [text]
  exact rdropWhile_slash_eq_self_iff

/-- An image whose tag is closed directly behind its source. -/
def closedImage : String :=
  "<p><img alt = b src=a/b.png/></p>"

theorem closedImage_value :
    ∃ forest start children attr value, parseFile none closedImage = .ok forest ∧
      .element start children ∈ insideAll forest ∧
      attr ∈ start.attributes ∧ attr.value = some value ∧
        startsDelimited (attr.onward closedImage.toList) = false ∧
      closesTag (attr.onward closedImage.toList) ∧ value = "a/b.png" ∧
      value.toList = bareText (attr.onward closedImage.toList) ∧ start.selfClosing := by
  have read :
      (parseFile none closedImage).toOption.map (fun forest => (startsAll forest).getLast?) =
      some
        (some ⟨"img", [⟨"alt", some "b", ⟨1, 9, 8⟩⟩, ⟨"src", some "a/b.png", ⟨1, 17, 16⟩⟩], true,
        ⟨1, 4, 3⟩⟩) := by
    decide +kernel
  obtain ⟨forest, parsed, starts⟩ := exists_ok_of_toOption read
  obtain ⟨children, held⟩ := mem_startsAll.mp (List.mem_of_getLast? starts)
  obtain ⟨_, kept, closes⟩ :=
    bareValue_eq_iff parsed held (List.mem_of_getLast? rfl) rfl (by decide +kernel)
  exact ⟨forest, _, children, _, _, parsed, held, List.mem_of_getLast? rfl, rfl, by decide +kernel,
    by decide +kernel, rfl, kept.mpr (by decide +kernel), closes (by decide +kernel)⟩

/-- A link to a folder. -/
def folderLink : String :=
  "<a href=/b/ c/>"

/-- The slash at the end is no part of the value, and does not close the tag. -/
theorem folderLink_value :
    ∃ forest start children attr value, parseFile none folderLink = .ok forest ∧
      .element start children ∈ insideAll forest ∧
      attr ∈ start.attributes ∧ attr.value = some value ∧
        startsDelimited (attr.onward folderLink.toList) = false ∧
      closesTag (attr.onward folderLink.toList) = false ∧ value = "/b" ∧
      bareText (attr.onward folderLink.toList) = "/b/".toList := by
  have read : (parseFile none folderLink).toOption.map (fun forest => (startsAll forest).head?) =
      some
        (some ⟨"a", [⟨"href", some "/b", ⟨1, 4, 3⟩⟩, ⟨"c", none, ⟨1, 13, 12⟩⟩], true,
        ⟨1, 1, 0⟩⟩) := by
    decide +kernel
  obtain ⟨forest, parsed, starts⟩ := exists_ok_of_toOption read
  obtain ⟨children, held⟩ := mem_startsAll.mp (List.mem_of_head? starts)
  exact ⟨forest, _, children, _, _, parsed, held, List.mem_of_head? rfl, rfl, by decide +kernel,
    by decide +kernel, rfl, by decide +kernel⟩

end Markup

end RenderTemplate
