import Mathlib.Data.List.Infix
import RenderTemplate.Proofs.Acceptance
import RenderTemplate.Proofs.Groups
import RenderTemplate.Proofs.Pieces

namespace RenderTemplate

namespace Part

theorem length_trim_le_parenthesize (code : String) :
    (Text.trim code).length ≤ (parenthesize code).length := by
  unfold parenthesize
  dsimp only
  split
  · exact Nat.le_refl _
  · rw [String.length_append, String.length_append]
    omega

/-- With a literal after it, an expression is no longer alone. -/
theorem concatenate_ne_trim (code text : String) (more : List Part) :
    concatenate (expression code :: literal text :: more) ≠ Text.trim code := by
  intro same
  have sum : concatenate (expression code :: literal text :: more) =
      parenthesize code ++ " + " ++ " + ".intercalate (quote text :: more.map operand) := by
    change " + ".intercalate (parenthesize code :: quote text :: more.map operand) = _
    rw [String.intercalate_cons_cons]
  have bound := length_trim_le_parenthesize code
  have length := congrArg String.length (sum.symm.trans same)
  rw [String.length_append, String.length_append] at length
  have operator : " + ".length = 3 := rfl
  omega

end Part

namespace Style

/-- The entries for declarations with semicolons between them. A style is cut at its semicolons
before the braces in it are looked for, and the two scans do not count the same brackets. -/
def entries (host : HostLanguage) (native : Bool) (value : String) (place : Location) :
    Except CompileError (List String) :=
  ((TopLevel.split ';' value).filter fun declaration => !Text.isBlank declaration).mapM
    (entry host native place)

theorem valueCode_expression (native : Bool) (code : String) (more : List Part) :
    valueCode native (.expression code :: more) = Part.concatenate (.expression code :: more) := rfl

theorem object_eq (host : HostLanguage) (native : Bool) (value : String) (place : Location) :
    object host native value place = (entries host native value place).map objectLiteral := by
  unfold object entries
  dsimp only
  generalize List.mapM (entry host native place) _ = read
  cases read with
  | error e => rfl
  | ok found => rfl

/-- What properties are written with: the characters of names, and hyphens. -/
def isPropertyChar (c : Char) : Bool :=
  isNameChar c || c == '-'

/-- The name of a property contains nothing that a scan would stop at. -/
theorem isPlainChar_of_isPropertyChar {c : Char} (inProperty : isPropertyChar c) : isPlainChar c :=
  isPlainChar_of_all (motive := isPropertyChar) (by decide) inProperty

theorem not_isBlankChar_of_isPropertyChar {c : Char} (inProperty : isPropertyChar c) :
    Text.isBlankChar c = false := by
  simp only [isPropertyChar, Bool.or_eq_true, beq_iff_eq] at inProperty
  rcases inProperty with inName | rfl
  · exact not_isBlankChar_of_isNameChar inName
  · decide

/-- A property with an expression as its value. -/
structure Declaration where
  property : String
  code : String

namespace Declaration

/-- The expression with its braces. -/
def group (declaration : Declaration) : String :=
  "\x7b" ++ declaration.code ++ "\x7d"

def text (declaration : Declaration) : String :=
  declaration.property ++ ": " ++ declaration.group

/-- The entry that is meant. -/
def entry (native : Bool) (declaration : Declaration) : String :=
  key native declaration.property ++ ": " ++ Text.trim declaration.code

/-- A declaration whose expression is accepted and ends with its last brace. -/
structure IsProper (host : HostLanguage) (place : Location) (declaration : Declaration) : Prop where
  named : declaration.property.toList.all isPropertyChar
  accepted : host.validate declaration.code place = .ok ()
  closed : (Part.expression declaration.code).IsCanonical

theorem toList_group (declaration : Declaration) :
    declaration.group.toList = Part.braced declaration.code := by
  simp [group, Part.braced]

/-- What stands in front of the group. -/
def opening (declaration : Declaration) (blanks : List Char) : List Char :=
  blanks ++ (declaration.property.toList ++ [':', ' '])

/-- A written declaration is its opening and the expression in braces. -/
theorem toList_text (declaration : Declaration) (blanks : List Char) :
    blanks ++ declaration.text.toList =
      declaration.opening blanks ++ Part.braced declaration.code := by
  simp [text, opening, toList_group]

theorem brace_mem_text (declaration : Declaration) (blanks : List Char) :
    '{' ∈ blanks ++ declaration.text.toList := by
  simp [toList_text, Part.braced]

section Reading

variable {host : HostLanguage} {native : Bool} {place : Location} {declaration : Declaration}
  {blanks : List Char}

theorem isPlainChar_of_mem_opening (named : declaration.property.toList.all isPropertyChar)
    (blank : ∀ c ∈ blanks, Text.isBlankChar c) {c : Char}
    (member : c ∈ declaration.opening blanks) :
    isPlainChar c ∧ c ≠ ';' := by
  rw [List.all_eq_true] at named
  simp only [opening, List.mem_append, List.mem_cons, List.not_mem_nil, or_false] at member
  rcases member with member | member | rfl | rfl
  · refine ⟨isPlainChar_of_isBlankChar (blank c member), ?_⟩
    rintro rfl
    exact absurd (blank _ member) (by decide)
  · refine ⟨isPlainChar_of_isPropertyChar (named c member), ?_⟩
    rintro rfl
    exact absurd (named _ member) (by decide)
  · decide
  · decide

/-- How a declaration is read whose value starts with a brace. -/
theorem entry_ok_iff (named : declaration.property.toList.all isPropertyChar)
    (blank : ∀ c ∈ blanks, Text.isBlankChar c) {rest : List Char} {code : String} :
    Style.entry host native place (String.ofList (declaration.opening blanks ++ '{' :: rest)) =
      .ok code ↔
      ∃ parts, attributeParts host (String.ofList ('{' :: Text.trimRight rest)) place = .ok parts ∧
        code = key native declaration.property ++ ": " ++ valueCode native parts := by
  rw [List.all_eq_true] at named
  have solid : ∀ c ∈ declaration.property.toList, Text.isBlankChar c = false := fun c member =>
    not_isBlankChar_of_isPropertyChar (named c member)
  have absent : ':' ∉ blanks ++ declaration.property.toList := by
    rw [List.mem_append, not_or]
    exact ⟨fun member => absurd (blank _ member) (by decide), fun member =>
      absurd (named _ member) (by decide)⟩
  have found : Text.splitAt? [':'] (declaration.opening blanks ++ '{' :: rest) =
      some (blanks ++ declaration.property.toList, ' ' :: '{' :: rest) := by
    have missing : ¬ [':'] <:+: blanks ++ declaration.property.toList := by
      rwa [List.singleton_infix_iff]
    have placed := Text.splitAt?_append (by decide) missing (' ' :: '{' :: rest)
    simpa [opening] using placed
  have property : Text.trimList (blanks ++ declaration.property.toList) =
      declaration.property.toList := by
    rw [Text.trimList_blanks_append blank, Text.trimList_eq_self solid]
  have value : Text.trimList (' ' :: '{' :: rest) = '{' :: Text.trimRight rest :=
    Text.trimRight_append_cons (by decide) [] rest
  unfold Style.entry
  rw [String.toList_ofList, found]
  dsimp only
  rw [property, value, String.ofList_toList, bind_ok]
  exact exists_congr fun parts => and_congr_right fun _ => pure_ok.trans eq_comm

theorem attributeParts_group (proper : declaration.IsProper host place) :
    attributeParts host (String.ofList (Part.braced declaration.code)) place =
      .ok [.expression declaration.code] := by
  have read : Part.split (Part.braced declaration.code) = .ok [.expression declaration.code] := by
    have empty : Part.split [] = .ok [] := by rw [Part.split]
    have sole := Part.split_braced proper.closed empty
    rwa [List.append_nil] at sole
  unfold attributeParts
  rw [String.toList_ofList, read]
  simp [proper.accepted]

/-- A declaration as it was written has the entry that is meant. -/
theorem entry_text (proper : declaration.IsProper host place)
    (blank : ∀ c ∈ blanks, Text.isBlankChar c) :
    Style.entry host native place (String.ofList (blanks ++ declaration.text.toList)) =
      .ok (declaration.entry native) := by
  rw [toList_text, Part.braced]
  refine (entry_ok_iff proper.named blank).mpr ⟨[.expression declaration.code], ?_, ?_⟩
  · rw [Text.trimRight_append_cons (by decide)]
    exact attributeParts_group proper
  · rw [entry, valueCode_expression, Part.concatenate]

/-- A declaration that is cut inside of its group has no entry. -/
theorem entry_of_cut (proper : declaration.IsProper host place)
    (blank : ∀ c ∈ blanks, Text.isBlankChar c) {inner after : List Char}
    (cut : declaration.code.toList ++ ['}'] = inner ++ ';' :: after) (code : String) :
    Style.entry host native place (String.ofList (declaration.opening blanks ++ '{' :: inner)) ≠
      .ok code := by
  intro read
  obtain ⟨parts, read, _⟩ := (entry_ok_iff proper.named blank).mp read
  obtain ⟨back, _, inside⟩ := Text.exists_trimRight inner
  have group : Part.braced declaration.code =
      ('{' :: Text.trimRight inner) ++ (back ++ ';' :: after) := by
    rw [Part.braced, cut]
    nth_rewrite 1 [inside]
    simp
  have unclosed : Braces.length? ('{' :: Text.trimRight inner) = none :=
    Part.length?_eq_none proper.closed group (by simp)
  unfold attributeParts at read
  rw [String.toList_ofList, Part.split, if_pos rfl, unclosed] at read
  cases read

/-- A declaration that goes on after its group has another entry, if it has one. -/
theorem entry_of_uncut (proper : declaration.IsProper host place)
    (blank : ∀ c ∈ blanks, Text.isBlankChar c) (rest : List Char) :
    Style.entry host native place
      (String.ofList (blanks ++ declaration.text.toList ++ ';' :: rest)) ≠
      .ok (declaration.entry native) := by
  intro read
  rw [toList_text, Part.braced, List.append_assoc, List.cons_append] at read
  obtain ⟨parts, read, same⟩ := (entry_ok_iff proper.named blank).mp read
  rw [Text.trimRight_append_cons (by decide), ← List.cons_append, ← Part.braced] at read
  obtain ⟨written, split, decoded⟩ := (attributeParts_accepted read).split
  rw [String.toList_ofList] at split
  obtain ⟨later, behind, rfl⟩ := Part.split_braced_ok proper.closed split
  obtain ⟨text, more, rfl⟩ := Part.split_cons_ok (by decide) behind
  rw [decoded, entry, String.append_right_inj, List.map_cons, List.map_cons, Part.decoded,
    Part.decoded, valueCode_expression] at same
  exact Part.concatenate_ne_trim _ _ _ same.symm

/-- What stands in front of a group has no effect on the scan for semicolons. -/
theorem scan_text (named : declaration.property.toList.all isPropertyChar)
    (blank : ∀ c ∈ blanks, Text.isBlankChar c) :
    TopLevel.Scan.run {} (blanks ++ declaration.text.toList) =
      TopLevel.Scan.run {} declaration.group.toList ∧
      TopLevel.separations ';' {} (blanks ++ declaration.text.toList) =
        TopLevel.cuts ';' declaration.group := by
  have plain : (declaration.opening blanks).all isPlainChar :=
    List.all_eq_true.mpr fun c member => (isPlainChar_of_mem_opening named blank member).1
  have absent : ';' ∉ declaration.opening blanks :=
    fun member => (isPlainChar_of_mem_opening named blank member).2 rfl
  have settled : TopLevel.Scan.run {} (declaration.opening blanks) = {} :=
    TopLevel.Scan.run_of_runAbove (TopLevel.Scan.runAbove_plain plain)
  have uncut : TopLevel.separations ';' {} (declaration.opening blanks) = 0 :=
    TopLevel.separations_of_not_mem absent {}
  rw [toList_text, ← toList_group]
  constructor
  · rw [TopLevel.Scan.run_append, settled]
  · rw [TopLevel.separations_append, uncut, settled, Nat.zero_add, TopLevel.cuts]

/-- A cut in a declaration is a cut in its group. -/
theorem exists_inner (named : declaration.property.toList.all isPropertyChar)
    (blank : ∀ c ∈ blanks, Text.isBlankChar c) {before after : List Char}
    (cut : blanks ++ declaration.text.toList = before ++ ';' :: after) :
    ∃ inner, before = declaration.opening blanks ++ '{' :: inner ∧
      declaration.code.toList ++ ['}'] = inner ++ ';' :: after := by
  have absent : ';' ∉ declaration.opening blanks ++ ['{'] := by
    rw [List.mem_append, not_or]
    exact ⟨fun member => (isPlainChar_of_mem_opening named blank member).2 rfl, by decide⟩
  rw [toList_text, Part.braced, ← List.singleton_append, ← List.append_assoc] at cut
  rcases List.append_eq_append_iff.mp cut with ⟨inner, front, rest⟩ | ⟨back, front, rest⟩
  · exact ⟨inner, by rw [front, List.append_assoc, List.singleton_append], rest⟩
  · cases back with
    | nil =>
      rw [List.append_nil] at front
      exact ⟨[], by rw [← front], by rw [List.nil_append, rest, List.nil_append]⟩
    | cons c back =>
      rw [List.cons_append, List.cons.injEq] at rest
      rw [front, rest.1] at absent
      exact absurd (List.mem_append_right before List.mem_cons_self) absent

/-- A group around balanced code is passed over. -/
theorem scan_group (balanced : TopLevel.IsBalanced declaration.code) :
    TopLevel.cuts ';' declaration.group = 0 ∧
      TopLevel.Scan.run {} declaration.group.toList = {} := by
  have counted :
      TopLevel.Scan.tally ';' ({}, 0) ("" ++ "\x7b" ++ declaration.code ++ "\x7d").toList =
      some ({}, TopLevel.cuts ';' "") :=
    TopLevel.tally_bracketed (by decide) (.plain rfl) balanced
  rw [String.empty_append, ← group, TopLevel.tally_iff] at counted
  exact ⟨counted.2, TopLevel.Scan.run_of_runAbove counted.1⟩

end Reading

end Declaration

/-- Declarations with semicolons between them. -/
def sheet (declarations : List Declaration) : String :=
  "; ".intercalate (declarations.map Declaration.text)

/-- The declarations of a style are written one after the other, with a blank behind each
semicolon. -/
theorem toList_sheet_cons (blanks : List Char) (first second : Declaration)
    (rest : List Declaration) :
    blanks ++ (sheet (first :: second :: rest)).toList =
      blanks ++ first.text.toList ++ ';' :: ([' '] ++ (sheet (second :: rest)).toList) := by
  simp [sheet]

section Sheets

variable {host : HostLanguage} {native : Bool} {place : Location} {declarations : List Declaration}
  {blanks : List Char}

/-- A first piece that is not blank has the first entry. -/
theorem entries_ok_iff {chars first : List Char} {more : List (List Char)} {result : String}
    {results : List String} (cut : TopLevel.pieces ';' {} chars = first :: more)
    (solid : '{' ∈ first) :
    entries host native (String.ofList chars) place = .ok (result :: results) ↔
      entry host native place (String.ofList first) = .ok result ∧
        ((more.map String.ofList).filter fun declaration => !Text.isBlank declaration).mapM
          (entry host native place) =
          .ok results := by
  have kept : (!Text.isBlank (String.ofList first)) = true := by
    rw [Bool.not_eq_true', Text.isBlank, String.toList_ofList, List.all_eq_false]
    exact ⟨'{', solid, by decide⟩
  rw [entries, TopLevel.split, String.toList_ofList, cut, List.map_cons, List.filter_cons,
    if_pos kept, mapM_eq_ok_iff, List.forall₂_cons, mapM_eq_ok_iff]

section First

variable {first : Declaration} (proper : first.IsProper host place)
  (blank : ∀ c ∈ blanks, Text.isBlankChar c)

include proper blank

/-- A last declaration gives the last entry, if nothing cuts it. -/
theorem entries_of_last (uncut : TopLevel.cuts ';' first.group = 0) :
    entries host native (String.ofList (blanks ++ first.text.toList)) place =
      .ok [first.entry native] := by
  have whole : TopLevel.pieces ';' {} (blanks ++ first.text.toList) =
      [blanks ++ first.text.toList] := by
    refine TopLevel.pieces_eq_singleton ?_
    rw [(Declaration.scan_text proper.named blank).2, uncut]
  exact (entries_ok_iff whole (first.brace_mem_text blanks)).mpr
    ⟨Declaration.entry_text proper blank, rfl⟩

/-- After a group that the scan comes out of as it went in, a semicolon ends the declaration. -/
theorem entries_append_iff (uncut : TopLevel.cuts ';' first.group = 0)
    (settled : TopLevel.Scan.run {} first.group.toList = {}) (tail : List Char)
    (results : List String) :
    entries host native (String.ofList (blanks ++ first.text.toList ++ ';' :: tail)) place =
        .ok (first.entry native :: results) ↔
      entries host native (String.ofList tail) place = .ok results := by
  obtain ⟨ran, count⟩ := Declaration.scan_text proper.named blank
  rw [settled] at ran
  rw [uncut] at count
  have ends : TopLevel.pieces ';' {} (blanks ++ first.text.toList ++ ';' :: tail) =
      (blanks ++ first.text.toList) :: TopLevel.pieces ';' {} tail := by
    rw [TopLevel.pieces_append (by rw [ran]; decide), TopLevel.pieces_eq_singleton count, ran,
      List.singleton_append]
  have read : entry host native place (String.ofList (blanks ++ first.text.toList)) =
      .ok (first.entry native) :=
    Declaration.entry_text proper blank
  rw [entries_ok_iff ends (first.brace_mem_text blanks), and_iff_right read, entries,
    TopLevel.split, String.toList_ofList]

/-- A group with a semicolon that cuts it leaves an open brace behind. -/
theorem entries_ne_of_cut (cut : TopLevel.cuts ';' first.group ≠ 0) (tail : List Char)
    (result : String) (results : List String) :
    entries host native (String.ofList (blanks ++ first.text.toList ++ tail)) place ≠
      .ok (result :: results) := by
  have count : TopLevel.separations ';' {} (blanks ++ first.text.toList) ≠ 0 := by
    rwa [(Declaration.scan_text proper.named blank).2]
  obtain ⟨before, after, more, split, pieces⟩ := TopLevel.pieces_cut count tail
  obtain ⟨inner, rfl, inside⟩ := Declaration.exists_inner proper.named blank split
  intro read
  exact Declaration.entry_of_cut proper blank inside result
    ((entries_ok_iff pieces (by simp)).mp read).1

/-- After a group that leaves something open, or closes too much, a semicolon does not end the
declaration. -/
theorem entries_ne_of_open (uncut : TopLevel.cuts ';' first.group = 0)
    (unsettled : TopLevel.Scan.run {} first.group.toList ≠ {}) (tail : List Char)
    (results : List String) :
    entries host native (String.ofList (blanks ++ first.text.toList ++ ';' :: tail)) place ≠
      .ok (first.entry native :: results) := by
  obtain ⟨ran, count⟩ := Declaration.scan_text proper.named blank
  have apart : ¬(TopLevel.Scan.run {} (blanks ++ first.text.toList)).separates ';' ';' := by
    rw [(TopLevel.Scan.isTidy_start.run _).separates_iff (by decide), ran]
    exact unsettled
  have none : TopLevel.separations ';' {} (blanks ++ first.text.toList ++ [';']) = 0 := by
    rw [TopLevel.separations_append, count, uncut, TopLevel.separations, if_neg apart]
    rfl
  obtain ⟨piece, more, pieces⟩ := TopLevel.pieces_uncut none tail
  rw [List.append_assoc, List.singleton_append, List.append_assoc _ [';'], List.singleton_append]
    at pieces
  have brace : '{' ∈ blanks ++ first.text.toList ++ ';' :: piece :=
    List.mem_append_left _ (first.brace_mem_text blanks)
  intro read
  exact Declaration.entry_of_uncut proper blank piece ((entries_ok_iff pieces brace).mp read).1

end First

/-- Declarations keep one entry each if and only if the scan for semicolons passes over their
groups. -/
theorem entries_sheet_iff (proper : ∀ declaration ∈ declarations, declaration.IsProper host place)
    (blank : ∀ c ∈ blanks, Text.isBlankChar c) :
    entries host native (String.ofList (blanks ++ (sheet declarations).toList)) place =
        .ok (declarations.map (·.entry native)) ↔
      (∀ declaration ∈ declarations, TopLevel.cuts ';' declaration.group = 0) ∧
        ∀ declaration ∈ declarations.dropLast,
          TopLevel.Scan.run {} declaration.group.toList = {} := by
  -- The declarations after the first one have a blank in front of them, so the induction is for any
  -- blanks.
  induction declarations generalizing blanks with
  | nil =>
    have absent : ';' ∉ blanks := fun member => absurd (blank _ member) (by decide)
    have none : entries host native (String.ofList blanks) place = .ok [] := by
      have skipped : (!Text.isBlank (String.ofList blanks)) = false := by
        rw [Bool.not_eq_false', Text.isBlank, String.toList_ofList]
        exact List.all_eq_true.mpr blank
      rw [entries, TopLevel.split, String.toList_ofList,
        TopLevel.pieces_eq_singleton (TopLevel.separations_of_not_mem absent {}),
        List.map_singleton, List.filter_cons, skipped]
      rfl
    simpa [sheet] using none
  | cons first rest ih =>
    rw [List.forall_mem_cons] at proper
    obtain ⟨here, later⟩ := proper
    rw [List.map_cons, List.forall_mem_cons]
    by_cases uncut : TopLevel.cuts ';' first.group = 0
    · cases rest with
      | nil =>
        have single : entries host native (String.ofList (blanks ++ (sheet [first]).toList)) place =
            .ok [first.entry native] := by
          rw [sheet, List.map_singleton, String.intercalate_singleton]
          exact entries_of_last here blank uncut
        exact iff_of_true single ⟨⟨uncut, by simp⟩, by simp⟩
      | cons second rest =>
        rw [toList_sheet_cons, List.dropLast_cons_cons]
        by_cases settled : TopLevel.Scan.run {} first.group.toList = {}
        · have space : ∀ c ∈ [' '], Text.isBlankChar c := List.forall_mem_singleton.mpr rfl
          rw [entries_append_iff here blank uncut settled, ih later space]
          simp [uncut, settled]
        · exact iff_of_false (entries_ne_of_open here blank uncut settled _ _) fun kept =>
            settled (kept.2 first List.mem_cons_self)
    · have front : ∃ tail, blanks ++ (sheet (first :: rest)).toList =
          blanks ++ first.text.toList ++ tail := by
        cases rest with
        | nil => exact ⟨[], by simp [sheet]⟩
        | cons second rest => exact ⟨_, toList_sheet_cons blanks first second rest⟩
      obtain ⟨tail, same⟩ := front
      rw [same]
      exact iff_of_false (entries_ne_of_cut here blank uncut tail _ _) fun kept => uncut kept.1.1

end Sheets

end Style

open Style in
/-- An inline style has one entry for each declaration, with its property as key and its expression
as value, if and only if the scan for semicolons makes no cut in a group and comes out of every
group but the last as it went in. It does so for balanced expressions. -/
theorem styleEntries_iff (host : HostLanguage) (native : Bool) (place : Location)
    (declarations : List Style.Declaration)
    (proper : ∀ declaration ∈ declarations, declaration.IsProper host place) :
    object host native (sheet declarations) place =
        (entries host native (sheet declarations) place).map objectLiteral ∧
      (entries host native (sheet declarations) place = .ok (declarations.map (·.entry native)) ↔
        (∀ declaration ∈ declarations, TopLevel.cuts ';' declaration.group = 0) ∧
          ∀ declaration ∈ declarations.dropLast,
            TopLevel.Scan.run {} declaration.group.toList = {}) ∧
      ((∀ declaration ∈ declarations, TopLevel.IsBalanced declaration.code) →
        object host native (sheet declarations) place =
          .ok (objectLiteral (declarations.map (·.entry native)))) := by
  have whole := @entries_sheet_iff host native place declarations [] proper (by simp)
  rw [List.nil_append, String.ofList_toList] at whole
  refine ⟨object_eq host native _ place, whole, ?_⟩
  intro balanced
  have kept : entries host native (sheet declarations) place =
      .ok (declarations.map (·.entry native)) := by
    refine whole.mpr ⟨fun declaration member => ?_, fun declaration member => ?_⟩
    · exact (Declaration.scan_group (balanced declaration member)).1
    · exact (Declaration.scan_group (balanced declaration (List.mem_of_mem_dropLast member))).2
  rw [object_eq, kept]
  rfl

/-- Declarations with semicolons inside of their groups. -/
def quietStyle :
    List Style.Declaration :=
  [⟨"background-color", " on ? `;` : [')', ';'][0] "⟩, ⟨"--gap", "f(x)"⟩]

open Style in
theorem quietStyle_entries :
    (∀ declaration ∈ quietStyle, declaration.IsProper .standard {}) ∧
      (∀ declaration ∈ quietStyle, TopLevel.IsBalanced declaration.code) ∧
      sheet quietStyle =
        "background-color: \x7b on ? `;` : [')', ';'][0] \x7d; --gap: \x7bf(x)\x7d" ∧
      object .standard false (sheet quietStyle) {} =
        .ok "\x7b backgroundColor: on ? `;` : [')', ';'][0], \"--gap\": f(x) \x7d" := by
  have proper : ∀ declaration ∈ quietStyle, declaration.IsProper .standard {} := by
    rw [quietStyle, List.forall_mem_cons, List.forall_mem_singleton]
    exact ⟨⟨by decide +kernel, by decide +kernel, by decide +kernel⟩,
      ⟨by decide +kernel, by decide +kernel, by decide +kernel⟩⟩
  have balanced : ∀ declaration ∈ quietStyle, TopLevel.IsBalanced declaration.code := by
    decide +kernel
  have read := (styleEntries_iff .standard false {} quietStyle proper).2.2 balanced
  have written : objectLiteral (quietStyle.map (·.entry false)) =
      "\x7b backgroundColor: on ? `;` : [')', ';'][0], \"--gap\": f(x) \x7d" := by decide +kernel
  rw [written] at read
  exact ⟨proper, balanced, by decide +kernel, read⟩

/-- Declarations the first of which has a bracket in a regular expression. -/
def patternStyle : List Style.Declaration := [⟨"a", "/\\(/"⟩, ⟨"b", "c"⟩]

open Style in
/-- Two declarations can become one entry. -/
theorem patternStyle_merges :
    (∀ declaration ∈ patternStyle, declaration.IsProper .standard {}) ∧
      sheet patternStyle = "a: \x7b/\\(/\x7d; b: \x7bc\x7d" ∧
      patternStyle.map (·.entry false) = ["a: /\\(/", "b: c"] ∧
      entries .standard false (sheet patternStyle) {} = .ok ["a: (/\\(/) + \"; b: \" + c"] := by
  have proper : ∀ declaration ∈ patternStyle, declaration.IsProper .standard {} := by
    rw [patternStyle, List.forall_mem_cons, List.forall_mem_singleton]
    exact ⟨⟨by decide +kernel, by decide +kernel, by decide +kernel⟩,
      ⟨by decide +kernel, by decide +kernel, by decide +kernel⟩⟩
  exact ⟨proper, by decide +kernel, by decide +kernel, by decide +kernel⟩

end RenderTemplate
