import RenderTemplate.Proofs.Layout
import RenderTemplate.Proofs.Regions

namespace RenderTemplate

open Markup

namespace Text

/-- Of two fronts of a text the one with fewer bytes is a front of the other. -/
theorem front_of_byteLength_le {chars front other : List Char} (first : front <+: chars)
    (second : other <+: chars) (le : byteLength front ≤ byteLength other) : front <+: other := by
  rcases List.prefix_or_prefix_of_prefix first second with before | ⟨more, rfl⟩
  · exact before
  · rw [byteLength_append] at le
    rw [eq_nil_of_byteLength (by omega : byteLength more = 0), List.append_nil]

theorem byteLength_front_le {front chars : List Char} (first : front <+: chars) :
    byteLength front ≤ byteLength chars := by
  obtain ⟨rest, rfl⟩ := first
  rw [byteLength_append]
  omega

theorem append_inj_of_byteLength {front other rest more : List Char}
    (same : front ++ rest = other ++ more) (size : byteLength front = byteLength other) :
    front = other ∧ rest = more := by
  have first := before_append front rest
  rw [same, size, before_append] at first
  subst first
  exact ⟨rfl, List.append_cancel_left same⟩

end Text

namespace Embedded

/-- How many characters the scan for interpolations passes over at once: an expression, a comment or
a single character. There is none where it ends. The scan does not read tags, so it may take
something for the start of an expression or a comment that is none. -/
def passed? : List Char → Option Nat
  | [] => none
  | c :: rest =>
    if c = '{' then Braces.length? (c :: rest)
    else if (Text.after? "!--".toList rest).isSome ∧ c = '<' then
      (Text.splitAt? "-->".toList rest).map fun found => found.1.length + 4
    else some 1

/-- The places that the scan for interpolations comes to, each as the text from there on. -/
inductive ComesTo (template : List Char) : List Char → Prop where
  | start : ComesTo template template
  | next {rest : List Char} {count : Nat} (comes : ComesTo template rest)
      (passes : passed? rest = some count) :
      ComesTo template (rest.drop count)

theorem passed?_pos {rest : List Char} {count : Nat} (passes : passed? rest = some count) :
    0 < count := by
  unfold passed? at passes
  split at passes
  · cases passes
  · split at passes
    · exact Braces.Scan.close?_pos passes
    · split at passes
      · obtain ⟨found, _, rfl⟩ := Option.map_eq_some_iff.mp passes
        omega
      · cases passes
        decide

/-- If the check finds nothing, it finds nothing from where it goes on either. -/
theorem interpolation?_passed {rest : List Char} {count : Nat}
    (nothing : interpolation? rest = none) (passes : passed? rest = some count) :
    interpolation? (rest.drop count) = none := by
  have positive := passed?_pos passes
  obtain ⟨more, rfl⟩ : ∃ more, count = more + 1 := ⟨count - 1, by omega⟩
  cases rest with
  | nil => cases passes
  | cons c rest =>
    rw [interpolation?] at nothing
    rw [passed?] at passes
    rw [List.drop_succ_cons]
    split at nothing
    · cases nothing
    · by_cases opens : c = '{'
      · rw [if_pos opens] at nothing passes
        simpa [passes] using nothing
      · rw [if_neg opens] at nothing passes
        by_cases comments : (Text.after? "!--".toList rest).isSome ∧ c = '<'
        · rw [if_pos comments] at nothing passes
          obtain ⟨found, split, same⟩ := Option.map_eq_some_iff.mp passes
          obtain rfl : more = found.1.length + 3 := by omega
          rw [split] at nothing
          simpa using nothing
        · rw [if_neg comments] at nothing passes
          cases passes
          simpa using nothing

theorem ComesTo.interpolation?_eq_none {template rest : List Char} (comes : ComesTo template rest)
    (nothing : interpolation? template = none) : interpolation? rest = none := by
  induction comes with
  | start => exact nothing
  | next _ passes ih => exact interpolation?_passed ih passes

/-- The last place before a character that the scan comes to: at that character, or where it passes
over it. -/
theorem ComesTo.exists_last {template front before rest : List Char} (comes : ComesTo template rest)
    (here : template = before ++ rest) (early : before.length ≤ front.length)
    (inside : front <+: template) :
    ∃ before rest, ComesTo template rest ∧ template = before ++ rest ∧
      before.length ≤ front.length ∧
      (before.length = front.length ∨ ∀ count, passed? rest = some count →
        front.length < before.length + count) := by
  induction size : front.length - before.length using Nat.strongRecOn generalizing before rest with
  | ind size ih =>
    by_cases arrived : before.length = front.length
    · exact ⟨before, rest, comes, here, early, .inl arrived⟩
    · by_cases goes : ∃ count, passed? rest = some count ∧ before.length + count ≤ front.length
      · obtain ⟨count, passes, within⟩ := goes
        have positive := passed?_pos passes
        have long := inside.length_le
        rw [here, List.length_append] at long
        have taken : (before ++ rest.take count).length = before.length + count := by
          rw [List.length_append, List.length_take]
          omega
        refine ih (front.length - (before ++ rest.take count).length) (by omega) (comes.next passes)
          ?_ (by omega) rfl
        rw [List.append_assoc, List.take_append_drop, here]
      · refine ⟨before, rest, comes, here, early, .inr fun count passes => ?_⟩
        by_contra within
        exact goes ⟨count, passes, by omega⟩

/-- At an expression or a comment the scan passes over nothing behind it. -/
theorem passed?_piece {found : Enclosure} {piece : List Char} (isPiece : found.IsPiece piece)
    (rest : List Char) :
    (∃ count, passed? (piece ++ rest) = some count ∧ count ≤ piece.length) ∧
      ∃ body c, piece = body ++ [c] ∧ c ≠ '$' := by
  cases found with
  | expression offset =>
    obtain ⟨code, canonical, rfl⟩ := isPiece
    have closed := Part.length?_braced canonical rest
    refine ⟨⟨code.toList.length + 2, ?_, by simp [Part.braced]⟩, '{' :: code.toList, '}', rfl,
      by decide⟩
    rw [Part.braced_append] at closed ⊢
    rw [passed?, if_pos rfl, closed]
  | comment offset =>
    obtain ⟨value, rfl⟩ := isPiece
    obtain ⟨before, after, split, bound⟩ :=
      Text.splitAt?_of_append "-->".toList ('!' :: '-' :: '-' :: value) rest
    refine ⟨⟨before.length + 4, ?_, ?_⟩, '<' :: '!' :: '-' :: '-' :: (value ++ ['-', '-']), '>',
      by simp [commentText], by decide⟩
    · have text : commentText value ++ rest =
          '<' :: ('!' :: '-' :: '-' :: value ++ ("-->".toList ++ rest)) := by
        simp [commentText]
      rw [text, passed?, if_neg (by decide), split, if_pos ⟨by simp [Text.after?], rfl⟩]
      rfl
    · simp only [List.length_cons] at bound
      simp only [commentText, List.length_cons, List.length_append, List.length_nil]
      omega

/-- A place before an offset where the scan for interpolations passes over the offset: it takes what
stands there for the start of an expression or a comment, and the reader of markup does not. -/
structure Hides (template : List Char) (enclosures : List Enclosure) (offset : Nat)
    (before rest : List Char) : Prop where
  place : template = before ++ rest
  earlier : Text.byteLength before < offset
  comes : ComesTo template rest
  opens : rest.head? = some '{' ∨ "<!--".toList <+: rest
  misread : ∀ found ∈ enclosures, found.offset ≠ Text.byteLength before
  covers : ∀ count, passed? rest = some count → offset ≤ Text.byteLength (before ++ rest.take count)

/-- The check passes over more than one character only at a brace or at the start of a comment. -/
theorem opens_of_passed? {rest : List Char} (long : ∀ count, passed? rest = some count → 1 < count)
    (filled : rest ≠ []) :
    rest.head? = some '{' ∨ "<!--".toList <+: rest := by
  obtain ⟨c, more, rfl⟩ := List.exists_cons_of_ne_nil filled
  by_cases opens : c = '{'
  · exact .inl (by rw [opens]; rfl)
  by_cases comments : (Text.after? "!--".toList more).isSome ∧ c = '<'
  · obtain ⟨found, rfl⟩ := comments
    obtain ⟨after, front⟩ := Option.isSome_iff_exists.mp found
    rw [Text.after?_eq_some_iff.mp front]
    exact .inr ⟨after, by simp⟩
  · have single := long 1 (by rw [passed?, if_neg opens, if_neg comments])
    omega

/-- Where the scan passes over a dollar sign before an expression, the reader starts neither an
expression nor a comment: these end before the next expression, and no dollar sign is their last
character. -/
theorem misread_of_passes {template front rest before onward : List Char}
    {enclosures : List Enclosure} (layout : Layout 0 template enclosures)
    (read : .expression (Text.byteLength (front ++ ['$'])) ∈ enclosures)
    (whole : template = front ++ ['$'] ++ rest) (here : template = before ++ onward)
    (earlier : before <+: front)
    (passes : ∀ count, passed? onward = some count → front.length < before.length + count) :
    ∀ found ∈ enclosures, found.offset ≠ Text.byteLength before := by
  intro found held same
  obtain ⟨piece, isPiece, ⟨ahead, behind, parts, offset⟩, apart⟩ := layout.holds_of_mem held
  rw [Nat.zero_add, same] at offset
  obtain ⟨rfl, rfl⟩ := Text.append_inj_of_byteLength (here.symm.trans parts) offset
  obtain ⟨⟨count, passed, bounded⟩, body, c, rfl, other⟩ := passed?_piece isPiece behind
  have further := passes count passed
  have bytes := Text.byteLength_front_le earlier
  have dollar := '$'.utf8Size_pos
  have ends : Text.byteLength (before ++ (body ++ [c])) ≤ Text.byteLength (front ++ ['$']) := by
    rcases apart _ read with before | behind
    · simp only [Enclosure.offset_expression, same, Text.byteLength_append, Text.byteLength_cons]
        at before
      omega
    · simpa [same] using behind
  have isFront : before ++ (body ++ [c]) <+: front ++ ['$'] :=
    Text.front_of_byteLength_le ⟨behind, by rw [List.append_assoc]; exact here.symm⟩
      ⟨rest, whole.symm⟩ ends
  have all : before ++ (body ++ [c]) = front ++ ['$'] := isFront.eq_of_length (by
    have long := isFront.length_le
    simp only [List.length_append, List.length_cons, List.length_nil] at long bounded ⊢
    omega)
  rw [← List.append_assoc] at all
  exact other (by simpa using (List.append_inj' all rfl).2)

/-- Where the check sees no interpolation, each expression with a dollar sign before it is hidden
from it. -/
theorem exists_hides {template front rest : List Char} {enclosures : List Enclosure}
    (layout : Layout 0 template enclosures) (nothing : interpolation? template = none)
    (read : .expression (Text.byteLength (front ++ ['$'])) ∈ enclosures)
    (whole : template = front ++ ['$'] ++ rest) :
    ∃ before onward,
      Hides template enclosures (Text.byteLength (front ++ ['$'])) before onward := by
  have isFront : front <+: template := ⟨['$'] ++ rest, by rw [whole, List.append_assoc]⟩
  obtain ⟨before, onward, comes, here, early, last⟩ :=
    @ComesTo.exists_last template front [] template .start rfl (Nat.zero_le _) isFront
  have earlier : before <+: front :=
    List.prefix_of_prefix_length_le ⟨onward, here.symm⟩ isFront early
  by_cases arrived : before.length = front.length
  · -- The scan comes to the dollar sign itself, so it sees the brace behind it.
    exfalso
    obtain rfl := earlier.eq_of_length arrived
    obtain ⟨piece, ⟨code, _, rfl⟩, ⟨ahead, behind, parts, offset⟩, _⟩ := layout.holds_of_mem read
    obtain ⟨_, rfl⟩ :=
      Text.append_inj_of_byteLength (parts.symm.trans whole) (by simpa using offset.symm)
    obtain rfl : onward = '$' :: (Part.braced code ++ behind) :=
      List.append_cancel_left (here.symm.trans (by rw [whole, List.append_assoc]; rfl))
    have seen := comes.interpolation?_eq_none nothing
    rw [interpolation?, if_pos ⟨rfl, rfl⟩] at seen
    cases seen
  have passes := last.resolve_left arrived
  have room := isFront.length_le
  rw [here, List.length_append] at room
  refine ⟨before, onward, here, ?_, comes, opens_of_passed? ?_ ?_,
    misread_of_passes layout read whole here earlier passes, fun count passed =>
      Text.byteLength_front_le ?_⟩
  · have bytes := Text.byteLength_front_le earlier
    have dollar := '$'.utf8Size_pos
    simp only [Text.byteLength_append, Text.byteLength_cons]
    omega
  · intro count passed
    have further := passes count passed
    omega
  · rintro rfl
    simp only [List.length_nil] at room
    omega
  · have further := passes count passed
    refine List.prefix_of_prefix_length_le ⟨rest, whole.symm⟩
      ⟨onward.drop count, by rw [List.append_assoc, List.take_append_drop, here]⟩ ?_
    have long : (front ++ ['$']).length ≤ template.length := by simp [whole]
    rw [here] at long
    simp only [List.length_append, List.length_cons, List.length_nil, List.length_take] at long ⊢
    omega

/-- The text of a template of a script. -/
def Region.text (region : Region) (source : String) : List Char :=
  Text.slice source.toList region.start region.stop

theorem parse_of_compileWith_ok {host : HostLanguage} {options : Options} {source : String}
    {output : Output} (compiled : RenderTemplate.compileWith host options source = .ok output) :
    ∃ forest, parse source = .ok forest := by
  obtain ⟨_, _, compiled⟩ := bind_ok.mp compiled
  obtain ⟨found, tree, _⟩ := bind_ok.mp compiled
  obtain ⟨forest, parsed, _⟩ := bind_ok.mp tree
  exact ⟨forest, parsed⟩

/-- A template that compiles was passed by the check, and was read. -/
theorem regionResult_ok {host : HostLanguage} {options : Options} {file : Option String}
    {source : String} {region : Region} {compiled : Output}
    (passed : regionResult host options file source region = .ok compiled) :
    interpolation? (region.text source) = none ∧
      ∃ forest, parse (String.ofList (region.text source)) = .ok forest := by
  cases inner : compileRegion host options source region with
  | error error =>
    rw [regionResult, inner] at passed
    cases passed
  | ok output =>
    unfold compileRegion at inner
    dsimp only at inner
    split at inner
    · cases inner
    · next seen =>
      refine ⟨seen, ?_⟩
      cases whole :
        RenderTemplate.compileWith host (embeddedOptions options)
        (String.ofList (region.text source)) with
      | error error =>
        rw [← Region.text, whole] at inner
        cases inner
      | ok output => exact parse_of_compileWith_ok whole

/-- In a script that compiles, an expression with a dollar sign right before it is hidden from the
check for interpolations: by something before it that looks like the start of an expression or a
comment, and that the reader of markup takes as text, as part of a tag or a value, or as plain text
of an element that has no other. -/
theorem compileEmbedded_hides {host : HostLanguage} {options : Options} {file : Option String}
    {source : String} {output : Output}
    (compiled : compileEmbeddedWith host options file source = .ok output) {region : Region}
    (member : region ∈ regions source) :
    ∃ forest, parse (String.ofList (region.text source)) = .ok forest ∧
      ∀ front rest, region.text source = front ++ ['$'] ++ rest →
        .expression (Text.byteLength (front ++ ['$'])) ∈
          gatherAll (enclosed (region.text source)) forest →
        ∃ before onward,
          Hides (region.text source) (gatherAll (enclosed (region.text source)) forest)
          (Text.byteLength (front ++ ['$'])) before onward := by
  obtain ⟨outputs, each, _⟩ := compileEmbedded_eq_ok_iff.mp compiled
  obtain ⟨index, bound, rfl⟩ := List.getElem_of_mem member
  obtain ⟨nothing, forest, parsed⟩ :=
    regionResult_ok (List.Forall₂.get each bound (each.length_eq ▸ bound))
  refine ⟨forest, parsed, fun front rest whole read => ?_⟩
  have layout := (parse_lays parsed).1
  rw [String.toList_ofList] at layout
  exact exists_hides layout nothing read whole

/-- A script whose template has the start of a comment in a value, and an interpolation. -/
def quotedComment : String :=
  "<template><div title=\"<!--\">$\x7bx\x7d</div></template>"

theorem quotedComment_hides :
    (∃ output, compileEmbeddedWith .standard {} none quotedComment = .ok output) ∧
      ⟨10, 38, 0, 49⟩ ∈ regions quotedComment ∧
      ∃ forest before onward, parse "<div title=\"<!--\">$\x7bx\x7d</div>" = .ok forest ∧
        Hides "<div title=\"<!--\">$\x7bx\x7d</div>".toList
          (gatherAll (enclosed "<div title=\"<!--\">$\x7bx\x7d</div>".toList) forest)
            19 before onward := by
  have text : (⟨10, 38, 0, 49⟩ : Region).text quotedComment =
      "<div title=\"<!--\">$\x7bx\x7d</div>".toList := by
    decide +kernel
  have member : ⟨10, 38, 0, 49⟩ ∈ regions quotedComment := by decide +kernel
  have runs : ((compileEmbeddedWith .standard {} none quotedComment).toOption.map fun _ => ()) =
      some () := by decide +kernel
  have reads : (parse "<div title=\"<!--\">$\x7bx\x7d</div>").toOption.map
      (gatherAll (enclosed "<div title=\"<!--\">$\x7bx\x7d</div>".toList)) =
        some [.expression 19] := by
    decide +kernel
  obtain ⟨output, compiled, _⟩ := exists_ok_of_toOption runs
  obtain ⟨forest, parsed, hides⟩ := compileEmbedded_hides compiled member
  rw [text, String.ofList_toList] at parsed
  rw [text] at hides
  rw [parsed] at reads
  obtain ⟨before, onward, hidden⟩ :=
    hides "<div title=\"<!--\">".toList "\x7bx\x7d</div>".toList (by decide) (by
    rw [Option.some.inj reads]
    decide)
  exact ⟨⟨output, compiled⟩, member, forest, before, onward, parsed, hidden⟩

/-- A script whose template has a brace in a style sheet, and an interpolation. -/
def styleBrace : String :=
  "<template><div><style>\x7b</style>$\x7bx\x7d</div></template>"

/-- A brace that no other one closes hides an interpolation: the reader of markup finds an
expression with a dollar sign right before it, and the script compiles. -/
theorem styleBrace_unseen :
    (∃ output, compileEmbeddedWith .standard {} none styleBrace = .ok output) ∧
      ∃ region ∈ regions styleBrace, ∃ forest front rest,
        parse (String.ofList (region.text styleBrace)) = .ok forest ∧
        region.text styleBrace = front ++ ['$'] ++ rest ∧
        .expression (Text.byteLength (front ++ ['$'])) ∈
          gatherAll (enclosed (region.text styleBrace)) forest := by
  have runs : ((compileEmbeddedWith .standard {} none styleBrace).toOption.map fun _ => ()) =
      some () := by decide +kernel
  have reads : (parse (String.ofList ((⟨10, 41, 0, 52⟩ : Region).text styleBrace))).toOption.map
      (gatherAll (enclosed ((⟨10, 41, 0, 52⟩ : Region).text styleBrace))) =
        some [.expression 22] := by
    decide +kernel
  obtain ⟨output, compiled, _⟩ := exists_ok_of_toOption runs
  obtain ⟨forest, parsed, found⟩ := exists_ok_of_toOption reads
  refine ⟨⟨output, compiled⟩, ⟨10, 41, 0, 52⟩, by decide +kernel, forest,
    "<div><style>\x7b</style>".toList, "\x7bx\x7d</div>".toList, parsed, by decide +kernel, ?_⟩
  rw [found]
  decide

end Embedded

end RenderTemplate
