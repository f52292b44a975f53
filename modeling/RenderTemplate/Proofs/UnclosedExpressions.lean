import RenderTemplate.Proofs.Reports

namespace RenderTemplate

open Markup

/-- The group at the front of a text, by its byte offsets. -/
theorem Braces.endAt?_spec {text : List Char} {stop : Nat} (found : endAt? text 0 = some stop)
    (before after : List Char) :
    2 ≤ stop ∧ stop ≤ Text.byteLength text ∧ Text.IsBoundary text stop ∧
      (Text.units text)[stop - 1]? = some '}' ∧
      endAt? (before ++ (Text.slice text 0 stop ++ after)) (Text.byteLength before) =
        some (Text.byteLength before + stop) := by
  obtain ⟨body, rest, rfl, filled, rfl, moved⟩ := endAt?_local found before after
  have whole : body ++ '}' :: rest = body ++ ['}'] ++ rest := by simp
  have group : Text.slice (body ++ '}' :: rest) 0 (Text.byteLength (body ++ ['}'])) =
      body ++ ['}'] := by
    rw [whole]
    exact Text.slice_append [] (body ++ ['}']) rest
  have brace := Text.utf8Size_short (c := '}') (by decide)
  have size : Text.byteLength (body ++ ['}']) = (Text.units body).length + 1 := by simp [brace]
  have boundary : Text.IsBoundary (body ++ '}' :: rest) (Text.byteLength (body ++ ['}'])) :=
    ⟨body ++ ['}'], rest, whole, rfl⟩
  refine ⟨?_, boundary.le, boundary, ?_, by rw [group]; exact moved⟩
  · obtain ⟨c, more, rfl⟩ := List.exists_cons_of_ne_nil filled
    have positive := c.utf8Size_pos
    simp only [List.cons_append, Text.byteLength_cons, Text.byteLength_append, Text.byteLength_nil,
      brace]
    omega
  · rw [size, Nat.add_sub_cancel, Text.units_append, Text.units_short_cons (by decide),
      List.getElem?_append_right (by simp)]
    simp

namespace Markup

/-- Whether a value is written in quotes, or starts with an expression. -/
def startsDelimited : List Char → Bool
  | [] => false
  | c :: _ => c == '"' || c == '\'' || c == '{'

/-- A value in quotes or in braces can be split. -/
theorem readValue_split {name value : String} {cursor : Cursor} {count : Nat}
    (read : readValue name cursor = .ok (value, count)) (delimited : startsDelimited cursor.rest) :
    ∃ parts, Part.split value.toList = .ok parts := by
  unfold readValue at read
  split at read
  · next empty =>
    rw [empty] at delimited
    cases delimited
  · next c rest front =>
    rw [front] at delimited
    split at read
    · split at read
      · next found =>
        cases read
        simpa [Cursor.slice, front] using (split_quotedLength found).1
      · cases read
      · cases read
    · next unquoted =>
      split at read
      · next opens =>
        subst opens
        split at read
        · next closed =>
          cases read
          obtain ⟨code, after, rfl, rfl, canonical⟩ := Part.exists_braced_of_length? closed
          have group := Part.take_braced code after 0
          have nothing : Part.split [] = .ok [] := by simp [Part.split]
          refine ⟨[.expression code], ?_⟩
          rw [Cursor.slice, String.toList_ofList, front]
          simpa [group] using Part.split_braced canonical nothing
        · cases read
      · next plain =>
        simp only [startsDelimited, Bool.or_eq_true, beq_iff_eq] at delimited
        rcases delimited with quoted | opens
        · exact absurd quoted unquoted
        · exact absurd opens plain

/-- A value between quotes or braces was split already when it was read. -/
theorem Attribute.IsRead.split {source : List Char} {attr : Attribute} {value : String}
    (isRead : attr.IsRead source) (valued : attr.value = some value)
    (delimited : startsDelimited (valueOnward (Text.dropBytes attr.location.offset source))) :
    ∃ parts, Part.split value.toList = .ok parts := by
  obtain ⟨tag, count, read⟩ := isRead
  obtain ⟨_, without | ⟨text, lead, size, same, _, found, onward⟩⟩ := readAttribute_cases read
  · rw [valued] at without
    cases without.1
  · obtain rfl := Option.some.inj (valued.symm.trans same)
    exact readValue_split found (onward ▸ delimited)

end Markup

/-- An expression without an end may be reported of the attributes of a forest that have one, and of
nothing else. -/
def Reports.unclosed (forest : List Node) : Reports where
  known _ := True
  allowed fault place := fault.code = .unterminatedExpression →
    ∃ attr ∈ gatherAll attributed forest, attr.Unclosed ∧
      fault.error place = Fault.unclosedInterpolation.error attr.location
  ordinary _ other same := absurd same (bne_iff_ne.mp other)

/-- If a source was read, an unclosed expression is reported for a value that cannot be split. -/
theorem exists_unclosed_of_compileWith {host : HostLanguage} {options : Options} {source : String}
    {forest : List Node} {error : CompileError} (parsed : parse source = .ok forest)
    (failed : compileWith host options source = .error error)
    (code : error.diagnostic.code = .unterminatedExpression) :
    ∃ attr ∈ gatherAll attributed forest, attr.Unclosed ∧
      error = Fault.unclosedInterpolation.error attr.location := by
  have admitted : AdmittedAll (.unclosed forest) forest :=
    admittedAll_of_marks (fun _ _ => trivial) fun attr held _ unclosed _ =>
      ⟨attr, held, unclosed, rfl⟩
  have tree :
      Ends (.unclosed forest) (fun found => WarnedAt (fun _ => True) found.2)
      (renderTree host options source) := by
    rw [renderTree, parsed]
    refine resolve_ends trivial _ ?_
    split
    · exact admittedAll_collapseWhitespace admitted
    · exact admitted
  have whole : Ends (.unclosed forest) Anything (compileWith host options source) :=
    (validateOptions_ends trivial options).bind fun _ _ => tree.bind fun _ _ => .ok trivial
  rw [failed] at whole
  cases whole with
  | error here => exact here code

/-- The scans for the ends of expressions agree. The end of a group depends on nothing but the
group, and is the same counted in bytes or in characters. So a text can be split, into the groups
that its reader has passed over, and so can a value in quotes or braces. Where a template is read,
an expression without an end is in a value without quotes, or in a declaration of a style as it is
cut off by semicolons. -/
theorem braceScans_agree (host : HostLanguage) (options : Options) (source : String)
    (before text after : List Char) :
    (∀ stop, Braces.endAt? text 0 = some stop →
      2 ≤ stop ∧ stop ≤ Text.byteLength text ∧ Text.IsBoundary text stop ∧
        (Text.units text)[stop - 1]? = some '}' ∧
        Braces.endAt? (before ++ (Text.slice text 0 stop ++ after)) (Text.byteLength before) =
          some (Text.byteLength before + stop)) ∧
    (Braces.endAt? (before ++ text) (Text.byteLength before) =
      (Braces.length? text).map fun count => Text.byteLength (before ++ text.take count)) ∧
    (∀ count, textLength true text = .ok count →
      ∃ parts, Part.split (text.take count) = .ok parts ∧
        Part.groups parts = passedGroups true text) ∧
    (∀ name cursor value count, readValue name cursor = .ok (value, count) →
      startsDelimited cursor.rest →
      ∃ parts, Part.split value.toList = .ok parts) ∧
    ∀ forest error, parse source = .ok forest → compileWith host options source = .error error →
      error.diagnostic.code = .unterminatedExpression →
      ∃ attr ∈ gatherAll attributed forest, error =
        Fault.unclosedInterpolation.error attr.location ∧
        ((startsDelimited (valueOnward (Text.dropBytes attr.location.offset source.toList)) =
          false ∧
            ∃ value index, attr.value = some value ∧ Part.split value.toList = .error index) ∨
          (attr.name = "style" ∧ ∃ value, attr.value = some value ∧
            ∃ declaration ∈ TopLevel.split ';' value, ∃ property rest index,
              Text.splitAt? [':'] declaration.toList = some (property, rest) ∧
              Part.split (Text.trimList rest) = .error index)) := by
  refine ⟨fun stop found => Braces.endAt?_spec found before after, ?_, ?_, ?_, ?_⟩
  · simp only [Braces.endAt?_append, Text.byteLength_append]
  · intro count found
    obtain ⟨parts, read, same, _⟩ := split_textLength found
    exact ⟨parts, read, same⟩
  · exact fun name cursor value count => readValue_split
  · intro forest error parsed failed code
    obtain ⟨attr, held, unclosed, same⟩ := exists_unclosed_of_compileWith parsed failed code
    refine ⟨attr, held, same, ?_⟩
    cases unclosed with
    | declaration style valued among found unclosed =>
      exact .inr ⟨style, _, valued, _, among, _, _, _, found, unclosed⟩
    | value valued unclosed =>
      refine .inl ⟨?_, _, _, valued, unclosed⟩
      by_contra delimited
      obtain ⟨parts, read⟩ :=
        ((parse_lays parsed).2 attr held).split valued (by simpa using delimited)
      rw [read] at unclosed
      cases unclosed

/-- The error of a computation, if it fails. -/
def failure? {α : Type} : Except CompileError α → Option CompileError
  | .ok _ => none
  | .error error => some error

theorem exists_error_of_failure? {α β : Type} {work : Except CompileError α}
    {view : CompileError → β} {seen : β} (found : (failure? work).map view = some seen) :
    ∃ error, work = .error error ∧ view error = seen := by
  cases work with
  | ok value => cases found
  | error error => exact ⟨error, rfl, Option.some.inj found⟩

/-- A template with a brace in a value without quotes. -/
def bareBrace : String :=
  "<a b=x\x7by></a>"

theorem bareBrace_unclosed :
    (Braces.endAt? "\x7b'\\é\x7d'\x7dx".toList 0 = some 8 ∧
      Braces.endAt? ("é".toList ++ (Text.slice "\x7b'\\é\x7d'\x7dx".toList 0 8 ++ "\x7b".toList))
        2 = some 10) ∧
    (∃ parts, Part.split "a\x7bb\x7d".toList = .ok parts ∧
      Part.groups parts = passedGroups true "a\x7bb\x7d<i>".toList) ∧
    ∃ forest error, parse bareBrace = .ok forest ∧
      compileWith .standard {} bareBrace = .error error ∧
      error.diagnostic.code = .unterminatedExpression ∧
      ∃ attr ∈ gatherAll attributed forest, error =
        Fault.unclosedInterpolation.error attr.location := by
  have closed : Braces.endAt? "\x7b'\\é\x7d'\x7dx".toList 0 = some 8 := by decide +kernel
  have length : (textLength true "a\x7bb\x7d<i>".toList).toOption.map id = some 4 := by
    decide +kernel
  have reads : ((parse bareBrace).toOption.map fun _ => ()) = some () := by decide +kernel
  have fails : (failure? (compileWith .standard {} bareBrace)).map (·.diagnostic.code) =
      some .unterminatedExpression := by
    decide +kernel
  obtain ⟨_, found, rfl⟩ := exists_ok_of_toOption length
  obtain ⟨forest, parsed, _⟩ := exists_ok_of_toOption reads
  obtain ⟨error, failed, code⟩ := exists_error_of_failure? fails
  obtain ⟨moved, _⟩ :=
    braceScans_agree .standard {} bareBrace "é".toList "\x7b'\\é\x7d'\x7dx".toList "\x7b".toList
  obtain ⟨_, _, texts, _, faults⟩ :=
    braceScans_agree .standard {} bareBrace [] "a\x7bb\x7d<i>".toList []
  obtain ⟨_, _, _, _, again⟩ := moved 8 closed
  obtain ⟨attr, held, same, _⟩ := faults forest error parsed failed code
  exact ⟨⟨closed, again⟩, texts _ found, forest, error, parsed, failed, code, attr, held, same⟩

/-- A template with a semicolon in an expression of a style. -/
def semicolonStyle : String :=
  "<div style=\"content: '\x7bjoin(';')\x7d'\"/>"

/-- A value in quotes whose expressions are all closed is refused as one with an expression without
an end. -/
theorem semicolonStyle_refused :
    ∃ forest attr value parts error, parse semicolonStyle = .ok forest ∧
      gatherAll attributed forest = [attr] ∧
      attr.value = some value ∧
      startsDelimited (valueOnward (Text.dropBytes attr.location.offset semicolonStyle.toList)) ∧
      Part.split value.toList = .ok parts ∧ compileWith .standard {} semicolonStyle = .error error ∧
      error.diagnostic.code = .unterminatedExpression := by
  have reads : (parse semicolonStyle).toOption.map (gatherAll attributed) =
      some [⟨"style", some "content: '\x7bjoin(';')\x7d'", ⟨1, 6, 5⟩⟩] := by decide +kernel
  have splits : (Part.split "content: '\x7bjoin(';')\x7d'".toList).toOption.map id =
      some [.literal "content: '", .expression "join(';')", .literal "'"] := by decide +kernel
  have fails : (failure? (compileWith .standard {} semicolonStyle)).map (·.diagnostic.code) =
      some .unterminatedExpression := by
    decide +kernel
  obtain ⟨forest, parsed, found⟩ := exists_ok_of_toOption reads
  obtain ⟨parts, split, _⟩ := exists_ok_of_toOption splits
  obtain ⟨error, failed, code⟩ := exists_error_of_failure? fails
  exact ⟨forest, _, _, parts, error, parsed, found, rfl, by decide +kernel, split, failed, code⟩

end RenderTemplate
