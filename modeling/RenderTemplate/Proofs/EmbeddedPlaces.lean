import RenderTemplate.Proofs.Placement
import RenderTemplate.Proofs.Regions

namespace RenderTemplate

/-- A place in a text, and the same place counted from where the text starts at `base`. Both ways of
counting go on in step, one character after another. -/
structure Location.Follows (base place moved : Location) : Prop where
  positive : 1 ≤ place.line ∧ 1 ≤ place.column
  line : moved.line = base.line + (place.line - 1)
  column : moved.column = if place.line ≤ 1 then base.column + (place.column - 1) else place.column

namespace Location.Follows

variable {base place moved : Location}

theorem start (base : Location) : Follows base {} base :=
  ⟨by decide, by simp, by simp⟩

/-- One character moves both places on: to the next column, or to the next line, where they stand in
the same column. -/
theorem step (follows : Follows base place moved) (c : Char) :
    Follows base (place.step c) (moved.step c) := by
  obtain ⟨positive, line, column⟩ := follows
  unfold Location.step
  split
  · exact ⟨by simp, by simp only; omega, by simp only; rw [if_neg (by omega)]⟩
  · refine ⟨by simp only; omega, line, ?_⟩
    simp only [column]
    split <;> omega

theorem advance (follows : Follows base place moved) (chars : List Char) :
    Follows base (place.advance chars) (moved.advance chars) := by
  induction chars generalizing place moved with
  | nil => exact follows
  | cons c chars ih => exact ih (follows.step c)

/-- What is said about a place inside a template is said about the place of the script that follows
it. -/
theorem shifted (follows : Follows base place moved) {diagnostic : Diagnostic}
    (isAt : diagnostic.IsAt place) :
    (diagnostic.shifted base).IsAt moved := by
  obtain ⟨line, column⟩ := isAt
  simp only [Diagnostic.IsAt, Diagnostic.shifted, line, column, follows.line, follows.column,
    and_self]

end Location.Follows

/-- What is at an offset of a slice is, once it is shifted, as much further on in the whole text. -/
theorem Diagnostic.IsAt.shifted_slice {source : String} {start stop offset : Nat}
    {diagnostic : Diagnostic} (first : Text.IsBoundary source.toList start)
    (last : Text.IsBoundary source.toList stop) (order : start ≤ stop)
    (inner : Text.IsBoundary (Text.slice source.toList start stop) offset)
    (isAt :
      diagnostic.IsAt
      (Location.ofOffset (String.ofList (Text.slice source.toList start stop)) offset)) :
    (diagnostic.shifted (Location.ofOffset source start)).IsAt
      (Location.ofOffset source (start + offset)) := by
  obtain ⟨front, rest, parts, rfl, _⟩ := Text.exists_eq_slice first last order
  obtain ⟨before, after, same, rfl⟩ := inner
  rw [same] at parts isAt
  have here : source.toList = (front ++ before) ++ (after ++ rest) := by
    rw [parts]
    simp only [List.append_assoc]
  have base := Location.ofOffset_append parts
  have place : Location.ofOffset (String.ofList (before ++ after)) (Text.byteLength before) =
      ({} : Location).advance before := Location.ofOffset_append String.toList_ofList
  have moved := Location.ofOffset_append here
  rw [Text.byteLength_append, Location.advance_append] at moved
  rw [base, moved]
  rw [place] at isAt
  exact ((Location.Follows.start _).advance before).shifted isAt

namespace Embedded

/-- Whether a diagnostic is at a character of a region of a script, or at the end of that region. -/
def Region.Holds (region : Region) (source : String) (diagnostic : Diagnostic) : Prop :=
  ∃ offset, Text.IsBoundary source.toList offset ∧ region.start ≤ offset ∧ offset ≤ region.stop ∧
    diagnostic.IsAt (Location.ofOffset source offset)

section

variable {source : String} {region : Region} (encloses : region.Encloses source.toList)

include encloses

/-- An offset inside the template of a region is one inside the region. -/
theorem Region.Encloses.inside {offset : Nat}
    (inner : Text.IsBoundary (Text.slice source.toList region.start region.stop) offset) :
    Text.IsBoundary source.toList (region.start + offset) ∧
      region.start + offset ≤ region.stop := by
  obtain ⟨front, rest, parts, start, stop⟩ :=
    Text.exists_eq_slice encloses.start encloses.stop encloses.ordered.2.1
  obtain ⟨before, after, same, rfl⟩ := inner
  rw [same] at parts stop
  simp only [Text.byteLength_append] at stop
  refine ⟨⟨front ++ before, after ++ rest, ?_, ?_⟩, by omega⟩
  · rw [parts]
    simp only [List.append_assoc]
  · rw [Text.byteLength_append, start]

/-- A diagnostic about a template is inside of its region once it is shifted. -/
theorem Region.Encloses.holds_shifted {diagnostic : Diagnostic}
    (placed : diagnostic.IsPlaced
      (Markup.Reaches (String.ofList (Text.slice source.toList region.start region.stop)))) :
    region.Holds source (diagnostic.shifted (Location.ofOffset source region.start)) := by
  obtain ⟨place, reaches, isAt⟩ := placed
  obtain ⟨inner, same⟩ := reaches.boundary
  rw [String.toList_ofList] at inner
  rw [← same] at isAt
  obtain ⟨boundary, bound⟩ := encloses.inside inner
  exact ⟨_, boundary, Nat.le_add_right _ _, bound,
    isAt.shifted_slice encloses.start encloses.stop encloses.ordered.2.1 inner⟩

/-- Where a diagnostic is does not depend on the file that it names. -/
theorem regionResult_holds (host : HostLanguage) (options : Options) (file : Option String) :
    (∀ error, regionResult host options file source region = .error error →
      region.Holds source error.diagnostic) ∧
      ∀ output, regionResult host options file source region = .ok output →
        ∀ warning ∈ output.warnings, region.Holds source warning.diagnostic := by
  unfold regionResult compileRegion
  dsimp only
  split
  · next index _ =>
    obtain ⟨boundary, bound⟩ := encloses.inside ⟨_, _, (List.take_append_drop index _).symm, rfl⟩
    refine ⟨?_, fun output ok => by cases ok⟩
    rintro _ ⟨⟩
    exact ⟨_, boundary, Nat.le_add_right _ _, bound, rfl, rfl⟩
  · have compiled := compileWith_placed host (embeddedOptions options)
      (String.ofList (Text.slice source.toList region.start region.stop))
    generalize RenderTemplate.compileWith host (embeddedOptions options)
      (String.ofList (Text.slice source.toList region.start region.stop)) = result at compiled ⊢
    cases compiled with
    | error placed =>
      refine ⟨?_, fun output ok => by cases ok⟩
      rintro _ ⟨⟩
      exact encloses.holds_shifted placed
    | ok warned =>
      refine ⟨fun error failed => (by cases failed), ?_⟩
      rintro _ ⟨⟩ warning member
      obtain ⟨_, shifted, rfl⟩ := List.mem_map.mp member
      obtain ⟨inner, found, rfl⟩ := List.mem_map.mp shifted
      exact encloses.holds_shifted (warned inner found)

end

/-- Diagnostics about the templates of a script point into the script. A diagnostic at an offset of
a part of a text is, once it is shifted, at the line and column of that offset in the whole text. So
the error that a region has, if one fails, is at a character of that region or at its end, and so
are the warnings about each region. -/
theorem compileEmbedded_places (host : HostLanguage) (options : Options) (file : Option String)
    (source : String) :
    (∀ start stop offset (diagnostic : Diagnostic), Text.IsBoundary source.toList start →
      Text.IsBoundary source.toList stop →
      start ≤ stop → Text.IsBoundary (Text.slice source.toList start stop) offset →
      diagnostic.IsAt
        (Location.ofOffset (String.ofList (Text.slice source.toList start stop)) offset) →
      (diagnostic.shifted (Location.ofOffset source start)).IsAt
        (Location.ofOffset source (start + offset))) ∧
    (∀ error, compileEmbeddedWith host options file source = .error error →
      ∃ region ∈ regions source, regionResult host options file source region = .error error ∧
        region.Holds source error.diagnostic) ∧
    (∀ output, compileEmbeddedWith host options file source = .ok output →
      ∃ outputs, List.Forall₂ (fun region compiled =>
        regionResult host options file source region = .ok compiled ∧
          ∀ warning ∈ compiled.warnings, region.Holds source warning.diagnostic) (regions source)
            outputs ∧
        output.warnings = outputs.flatMap (·.warnings)) := by
  refine ⟨fun start stop offset diagnostic first last order inner isAt =>
    isAt.shifted_slice first last order inner, ?_, ?_⟩
  · intro error failed
    obtain ⟨before, region, after, parts, _, here⟩ := compileEmbedded_eq_error_iff.mp failed
    have member : region ∈ regions source := by simp [parts]
    exact ⟨region, member, here,
      (regionResult_holds (encloses_of_mem_regions member) host options file).1 error here⟩
  · intro output succeeded
    obtain ⟨outputs, compiled, rfl⟩ := compileEmbedded_eq_ok_iff.mp succeeded
    refine ⟨outputs, ?_, rfl⟩
    have each := (List.forall₂_and_left _ _).mpr ⟨fun region => encloses_of_mem_regions, compiled⟩
    exact each.imp fun region output here =>
      ⟨here.2, (regionResult_holds here.1 host options file).2 output here.2⟩

/-- A script whose template has an element that is never closed. -/
def unclosedTemplate : String :=
  "é\n<template>\n <b></template>"

theorem unclosedTemplate_places :
    ((Oddity.misplacedStateless.warning ⟨1, 4, 3⟩).diagnostic.shifted
      (Location.ofOffset twoTemplates 39)).IsAt
        (Location.ofOffset twoTemplates 42) ∧
      (∃ output, compileEmbeddedWith .standard {} none twoTemplates = .ok output ∧
        output.warnings = [(Oddity.unknownDirective "rt-x").warning ⟨2, 14, 42⟩] ∧
        ∃ outputs,
          List.Forall₂ (fun region compiled =>
          regionResult .standard {} none twoTemplates region = .ok compiled ∧
            ∀ warning ∈ compiled.warnings, region.Holds twoTemplates warning.diagnostic)
              (regions twoTemplates) outputs ∧
          output.warnings = outputs.flatMap (·.warnings)) ∧
      ∃ error, compileEmbeddedWith .standard {} none unclosedTemplate = .error error ∧
        (⟨13, 18, 3, 29⟩ : Region).Holds unclosedTemplate error.diagnostic := by
  have warns : (compileEmbeddedWith .standard {} none twoTemplates).toOption.map (·.warnings) = some
      [(Oddity.unknownDirective "rt-x").warning ⟨2, 14, 42⟩] := by
    decide +kernel
  have fails : (compileEmbeddedWith .standard {} none unclosedTemplate).toOption.map (·.warnings) =
      none := by
    decide +kernel
  have only : regions unclosedTemplate = [⟨13, 18, 3, 29⟩] := by decide +kernel
  obtain ⟨shifts, _, succeeds⟩ := compileEmbedded_places .standard {} none twoTemplates
  obtain ⟨_, failing, _⟩ := compileEmbedded_places .standard {} none unclosedTemplate
  refine ⟨?_, ?_, ?_⟩
  · refine shifts 39 51 3 _ ?_ ?_ (by decide) ?_ ⟨?_, ?_⟩
    · exact ⟨_, _, (List.take_append_drop 38 _).symm, by decide +kernel⟩
    · exact ⟨_, _, (List.take_append_drop 50 _).symm, by decide +kernel⟩
    · exact ⟨_, _, (List.take_append_drop 3 _).symm, by decide +kernel⟩
    · decide +kernel
    · decide +kernel
  · obtain ⟨output, compiled, warnings⟩ := exists_ok_of_toOption warns
    exact ⟨output, compiled, warnings, succeeds output compiled⟩
  · cases run : compileEmbeddedWith .standard {} none unclosedTemplate with
    | ok output =>
      rw [run] at fails
      cases fails
    | error error =>
      obtain ⟨region, member, _, holds⟩ := failing error run
      rw [only, List.mem_singleton] at member
      exact ⟨error, rfl, member ▸ holds⟩

end Embedded

end RenderTemplate
