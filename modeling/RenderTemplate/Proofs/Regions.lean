import Mathlib.Data.List.Forall2
import RenderTemplate.Embedded
import RenderTemplate.Proofs.Runs
import RenderTemplate.Proofs.Slices

namespace RenderTemplate

namespace Embedded

/-- A text as pieces and a tail: nothing opens a template before the one of a piece, each template
goes up to the next closing tag, and there is no template in the tail. What is said about a cut is
carried to byte offsets by going through the pieces with the text that stands before them. -/
inductive Cut : List Char → List Piece → List Char → Prop where
  | tail {chars : List Char} (plain : ∀ inner, ¬ opening ++ (inner ++ closing) <:+: chars) :
      Cut chars [] chars
  | piece {piece : Piece} {rest : List Char} {pieces : List Piece} {tail : List Char}
      (unopened : ¬ opening <:+: piece.gap) (unclosed : ¬ closing <:+: piece.template)
        (later : Cut rest pieces tail) :
      Cut (piece.gap ++ (opening ++ (piece.template ++ (closing ++ rest)))) (piece :: pieces) tail

theorem cut_first? {chars rest tail : List Char} {piece : Piece} {pieces : List Piece}
    (found : first? chars = some (piece, rest)) (later : Cut rest pieces tail) :
    Cut chars (piece :: pieces) tail := by
  rw [eq_append_of_first? found]
  simp only [first?, Option.bind_eq_bind, Option.bind_eq_some_iff, Prod.exists] at found
  obtain ⟨gap, inner, atOpening, template, outer, atClosing, same⟩ := found
  cases same
  exact .piece (Text.not_infix_of_splitAt? (by decide) atOpening)
    (Text.not_infix_of_splitAt? (by decide) atClosing) later

/-- Where no template is found there is none: one that was opened first would have been found. -/
theorem not_infix_of_first?_eq_none {chars : List Char} (missing : first? chars = none)
    (inner : List Char) :
    ¬ opening ++ (inner ++ closing) <:+: chars := by
  rintro ⟨front, rest, whole⟩
  have opened : chars = front ++ (opening ++ (inner ++ (closing ++ rest))) := by
    rw [← whole]
    simp only [List.append_assoc]
  obtain ⟨gap, after, atOpening, bound⟩ :=
    Text.splitAt?_of_append opening front (inner ++ (closing ++ rest))
  rw [← opened] at atOpening
  have unclosed : ¬ closing <:+: after := by
    refine Text.not_infix_of_splitAt?_eq_none ?_
    cases atClosing : Text.splitAt? closing after with
    | none => rfl
    | some found => simp [first?, atOpening, atClosing] at missing
  have both : (gap ++ opening) ++ after = (front ++ opening) ++ (inner ++ (closing ++ rest)) := by
    rw [List.append_assoc, ← Text.eq_append_of_splitAt? atOpening, opened, List.append_assoc]
  have later : inner ++ (closing ++ rest) <:+ after := by
    refine List.suffix_of_suffix_length_le ⟨front ++ opening, both.symm⟩ ⟨gap ++ opening, rfl⟩ ?_
    have lengths := congrArg List.length both
    simp only [List.length_append] at lengths ⊢
    omega
  have closed : closing <:+: inner ++ (closing ++ rest) := ⟨inner, rest, by rw [List.append_assoc]⟩
  exact unclosed (closed.trans later.isInfix)

theorem split_cut (chars : List Char) : Cut chars (split chars).1 (split chars).2 := by
  fun_induction split chars with
  | case1 chars missing => exact .tail (not_infix_of_first?_eq_none missing)
  | case2 chars piece rest found _ pieces tail same ih =>
    rw [same] at ih
    exact cut_first? found ih

/-- What stands before each of some regions, from the end of the region before it or from an offset
on. -/
def gapsFrom (source : List Char) (offset : Nat) : List Region → List (List Char)
  | [] => []
  | region :: rest =>
    Text.slice source offset region.outerStart :: gapsFrom source region.outerStop rest

/-- What stands after the last of some regions, or from an offset on. -/
def tailFrom (source : List Char) (offset : Nat) : List Region → List Char
  | [] => Text.slice source offset (Text.byteLength source)
  | region :: rest => tailFrom source region.outerStop rest

/-- Whether a region is that of a template in a text: its tags stand around it, and it goes up to
the next closing tag. -/
structure Region.Encloses (region : Region) (source : List Char) : Prop where
  outerStart : Text.IsBoundary source region.outerStart
  start : Text.IsBoundary source region.start
  stop : Text.IsBoundary source region.stop
  outerStop : Text.IsBoundary source region.outerStop
  ordered : region.outerStart < region.start ∧ region.start ≤ region.stop ∧
    region.stop < region.outerStop
  opening : Text.slice source region.outerStart region.start = opening
  closing : Text.slice source region.stop region.outerStop = closing
  unclosed : ¬ Embedded.closing <:+: Text.slice source region.start region.stop

section

variable (piece : Piece) (front rest : List Char)

/-- The text up to the end of a piece that stands after `front`. -/
def Piece.upTo : List Char :=
  front ++ piece.gap ++ opening ++ piece.template ++ closing

theorem Piece.source_eq :
    front ++ (piece.gap ++ (opening ++ (piece.template ++ (closing ++ rest)))) =
      piece.upTo front ++ rest := by
  simp only [Piece.upTo, List.append_assoc]

/-- The offsets of a region are the lengths of what comes before. -/
theorem Piece.region_eq :
    piece.region (Text.byteLength front) =
      ⟨Text.byteLength (front ++ piece.gap ++ opening),
        Text.byteLength (front ++ piece.gap ++ opening ++ piece.template),
          Text.byteLength (front ++ piece.gap), Text.byteLength (piece.upTo front)⟩ := by
  simp [Piece.region, Piece.upTo, Nat.add_assoc]

theorem Piece.outerStop_region :
    (piece.region (Text.byteLength front)).outerStop = Text.byteLength (piece.upTo front) := by
  rw [Piece.region_eq]

/-- The parts of a piece stand between the offsets of its region. -/
theorem Piece.slices :
    Text.slice (piece.upTo front ++ rest) (Text.byteLength front)
      (piece.region (Text.byteLength front)).outerStart =
        piece.gap ∧
      Text.slice (piece.upTo front ++ rest) (piece.region (Text.byteLength front)).outerStart
        (piece.region (Text.byteLength front)).start = opening ∧
      Text.slice (piece.upTo front ++ rest) (piece.region (Text.byteLength front)).start
        (piece.region (Text.byteLength front)).stop = piece.template ∧
      Text.slice (piece.upTo front ++ rest) (piece.region (Text.byteLength front)).stop
        (piece.region (Text.byteLength front)).outerStop = closing := by
  have gap := Text.slice_append front piece.gap (opening ++ (piece.template ++ (closing ++ rest)))
  have opened :=
    Text.slice_append (front ++ piece.gap) opening (piece.template ++ (closing ++ rest))
  have template :=
    Text.slice_append (front ++ piece.gap ++ opening) piece.template (closing ++ rest)
  have closed := Text.slice_append (front ++ piece.gap ++ opening ++ piece.template) closing rest
  rw [Piece.region_eq]
  simp only [Piece.upTo, List.append_assoc] at gap opened template closed ⊢
  exact ⟨gap, opened, template, closed⟩

theorem Piece.encloses (unclosed : ¬ closing <:+: piece.template) :
    (piece.region (Text.byteLength front)).Encloses (piece.upTo front ++ rest) := by
  obtain ⟨_, opened, template, closed⟩ := piece.slices front rest
  have long : 0 < Text.byteLength opening ∧ 0 < Text.byteLength closing := by decide
  refine ⟨?_, ?_, ?_, ?_, ?_, opened, closed, template ▸ unclosed⟩
  · rw [Piece.region_eq]
    exact ⟨front ++ piece.gap, _, by simp only [Piece.upTo, List.append_assoc]; rfl, rfl⟩
  · rw [Piece.region_eq]
    exact ⟨front ++ piece.gap ++ opening, _, by simp only [Piece.upTo, List.append_assoc]; rfl, rfl⟩
  · rw [Piece.region_eq]
    exact ⟨front ++ piece.gap ++ opening ++ piece.template, _,
      by simp only [Piece.upTo, List.append_assoc]; rfl, rfl⟩
  · rw [Piece.region_eq]
    exact Text.isBoundary_append _ _
  · simp only [Piece.region]
    omega

end

section

variable {chars tail : List Char} {pieces : List Piece}

theorem regionsFrom_cons (piece : Piece) (pieces : List Piece) (front : List Char) :
    regionsFrom (Text.byteLength front) (piece :: pieces) =
      piece.region (Text.byteLength front) ::
        regionsFrom (Text.byteLength (piece.upTo front)) pieces := by
  rw [regionsFrom, Piece.outerStop_region]

/-- A region starts behind the text before its piece, and inside of the piece. -/
theorem le_byteLength_upTo (piece : Piece) (front : List Char) :
    Text.byteLength front ≤ (piece.region (Text.byteLength front)).outerStart ∧
      (piece.region (Text.byteLength front)).outerStart ≤ Text.byteLength (piece.upTo front) := by
  rw [Piece.region_eq]
  simp only [Piece.upTo, Text.byteLength_append]
  omega

/-- All regions enclose templates of the script, from the start of the cut on. -/
theorem Cut.encloses (cut : Cut chars pieces tail) (front : List Char) :
    ∀ region ∈ regionsFrom (Text.byteLength front) pieces,
      Text.byteLength front ≤ region.outerStart ∧ region.Encloses (front ++ chars) := by
  induction cut generalizing front with
  | tail => simp [regionsFrom]
  | @piece piece rest pieces tail unopened unclosed later ih =>
    have bounds := le_byteLength_upTo piece front
    rw [regionsFrom_cons, Piece.source_eq]
    intro region member
    rcases List.mem_cons.mp member with rfl | member
    · exact ⟨bounds.1, piece.encloses front rest unclosed⟩
    · obtain ⟨behind, encloses⟩ := ih (piece.upTo front) region member
      exact ⟨by omega, encloses⟩

theorem Cut.ordered (cut : Cut chars pieces tail) (front : List Char) :
    (regionsFrom (Text.byteLength front) pieces).Pairwise fun region next =>
      region.outerStop ≤ next.outerStart := by
  induction cut generalizing front with
  | tail => exact .nil
  | @piece piece rest pieces tail unopened unclosed later ih =>
    rw [regionsFrom_cons, List.pairwise_cons]
    refine ⟨?_, ih (piece.upTo front)⟩
    intro next member
    rw [Piece.outerStop_region]
    exact (later.encloses (piece.upTo front) next member).1

/-- The gaps are what the pieces have in front of their templates. -/
theorem Cut.gaps (cut : Cut chars pieces tail) (front : List Char) :
    gapsFrom (front ++ chars) (Text.byteLength front) (regionsFrom (Text.byteLength front) pieces) =
      pieces.map (·.gap) := by
  induction cut generalizing front with
  | tail => rfl
  | @piece piece rest pieces tail unopened unclosed later ih =>
    rw [regionsFrom_cons, Piece.source_eq, gapsFrom, (piece.slices front rest).1,
      Piece.outerStop_region, ih, List.map_cons]

theorem Cut.tailFrom_eq (cut : Cut chars pieces tail) (front : List Char) :
    tailFrom (front ++ chars) (Text.byteLength front) (regionsFrom (Text.byteLength front) pieces) =
      tail := by
  induction cut generalizing front with
  | @tail chars plain =>
    have whole := Text.slice_append front chars []
    rw [List.append_nil] at whole
    rw [regionsFrom, tailFrom, whole]
  | @piece piece rest pieces tail unopened unclosed later ih =>
    rw [regionsFrom_cons, Piece.source_eq, tailFrom, Piece.outerStop_region, ih]

theorem Cut.unopened (cut : Cut chars pieces tail) :
    ∀ piece ∈ pieces, ¬ opening <:+: piece.gap := by
  induction cut with
  | tail => simp
  | piece unopened unclosed later ih => exact List.forall_mem_cons.mpr ⟨unopened, ih⟩

theorem Cut.plain (cut : Cut chars pieces tail) (inner : List Char) :
    ¬ opening ++ (inner ++ closing) <:+: tail := by
  induction cut with
  | tail plain => exact plain inner
  | piece unopened unclosed later ih => exact ih

end

/-- What the template of a region compiles to, with all places counted in the script. -/
def compileRegion (host : HostLanguage) (options : Options) (source : String) (region : Region) :
    CompileResult :=
  let template := Text.slice source.toList region.start region.stop
  match interpolation? template with
  | some index =>
    .error (Fault.runtimeInterpolation.error
      (Location.ofOffset source (region.start + Text.byteLength (template.take index))))
  | none =>
    CompileResult.shifted
      (RenderTemplate.compileWith host (embeddedOptions options) (String.ofList template))
      (Location.ofOffset source region.start)

/-- A piece is compiled from the place where its region starts. -/
theorem compileRegion_eq {source : String} (host : HostLanguage) (options : Options) (piece : Piece)
    (front rest : List Char) (parts : source.toList = piece.upTo front ++ rest) :
    compileRegion host options source (piece.region (Text.byteLength front)) =
      compilePiece host options (({} : Location).advance (front ++ piece.gap ++ opening))
        piece.template := by
  have template : Text.slice source.toList (piece.region (Text.byteLength front)).start
      (piece.region (Text.byteLength front)).stop = piece.template := by
    rw [parts]
    exact (piece.slices front rest).2.2.1
  have start : (piece.region (Text.byteLength front)).start =
      Text.byteLength (front ++ piece.gap ++ opening) := by
    rw [Piece.region_eq]
  have base : Location.ofOffset source (piece.region (Text.byteLength front)).start =
      ({} : Location).advance (front ++ piece.gap ++ opening) := by
    rw [start]
    exact Location.ofOffset_append (by simpa only [Piece.upTo, List.append_assoc] using parts)
  unfold compileRegion compilePiece
  dsimp only
  rw [template, base]
  cases interpolation? piece.template with
  | none => rfl
  | some index =>
    have split : source.toList = (front ++ piece.gap ++ opening ++ piece.template.take index) ++
        (piece.template.drop index ++ (closing ++ rest)) := by
      rw [List.append_assoc, ← List.append_assoc (piece.template.take index), List.take_append_drop]
      simpa only [Piece.upTo, List.append_assoc] using parts
    have place := Location.ofOffset_append split
    rw [Text.byteLength_append, Location.advance_append] at place
    dsimp only
    rw [start, place]

/-- The templates of a script are compiled one region after another. -/
theorem Cut.compilePieces_eq {source : String} {chars tail : List Char} {pieces : List Piece}
    (cut : Cut chars pieces tail) (front : List Char) (parts : source.toList = front ++ chars)
    (host : HostLanguage) (options : Options) :
    compilePieces host options (({} : Location).advance front) pieces =
      (regionsFrom (Text.byteLength front) pieces).mapM (compileRegion host options source) := by
  induction cut generalizing front with
  | tail => rfl
  | @piece piece rest pieces tail unopened unclosed later ih =>
    rw [Piece.source_eq] at parts
    have next := ih (piece.upTo front) parts
    have base : (({} : Location).advance front).advance (piece.gap ++ opening) =
        ({} : Location).advance (front ++ piece.gap ++ opening) := by
      rw [← Location.advance_append, List.append_assoc]
    have stop :
        (({} : Location).advance (front ++ piece.gap ++ opening)).advance
        (piece.template ++ closing) =
        ({} : Location).advance (piece.upTo front) := by
      rw [← Location.advance_append]
      simp only [Piece.upTo, List.append_assoc]
    rw [regionsFrom_cons, List.mapM_cons, compileRegion_eq host options piece front rest parts,
      compilePieces]
    simp only [base, stop, next]

/-- The text of a script with code in the place of its templates. -/
def weave (gaps : List (List Char)) (codes : List String) (tail : List Char) : String :=
  String.ofList ((List.zipWith (fun gap code => gap ++ code.toList) gaps codes).flatten ++ tail)

theorem splice_eq_weave {pieces : List Piece} {outputs : List Output} (tail : List Char) :
    splice pieces outputs tail = weave (pieces.map (·.gap)) (outputs.map (·.code)) tail := by
  induction pieces generalizing outputs with
  | nil => simp [splice, weave]
  | cons piece pieces ih =>
    cases outputs with
    | nil => simp [splice, weave]
    | cons output outputs => simp [splice, ih, weave, String.append_assoc]

/-- What stands before each template of a script. -/
def gaps (source : String) : List (List Char) :=
  gapsFrom source.toList 0 (regions source)

/-- What stands after the last template of a script. -/
def tail (source : String) : List Char :=
  tailFrom source.toList 0 (regions source)

/-- A script with outputs in the place of its templates. -/
def spliced (source : String) (outputs : List Output) : Output :=
  ⟨weave (gaps source) (outputs.map (·.code)) (tail source), outputs.flatMap (·.warnings)⟩

/-- A script is compiled region by region, and then spliced. -/
theorem compileWith_eq (host : HostLanguage) (options : Options) (source : String) :
    compileWith host options source =
      ((regions source).mapM (compileRegion host options source)).map (spliced source) := by
  have cut := split_cut source.toList
  have compiled := cut.compilePieces_eq [] rfl host options
  have gapsEq := cut.gaps []
  have tailEq := cut.tailFrom_eq []
  simp only [List.nil_append, Text.byteLength_nil, Location.advance_nil] at compiled gapsEq tailEq
  rw [compileWith]
  dsimp only
  rw [compiled, regions]
  cases (regionsFrom 0 (split source.toList).1).mapM (compileRegion host options source) with
  | error error => rfl
  | ok outputs =>
    simp only [bind, Except.bind, pure, Except.pure, Except.map, spliced, gaps, tail, regions,
      gapsEq, tailEq, splice_eq_weave]

/-- An output with all warnings in a file. -/
def outputInFile (file : Option String) (output : Output) : Output :=
  { output with warnings := output.warnings.map (·.inFile file) }

theorem mapM_inFile {α : Type} (read : α → CompileResult) (file : Option String) (items : List α) :
    items.mapM (fun item => (read item).inFile file) =
      ((items.mapM read).mapError (·.inFile file)).map (List.map (outputInFile file)) := by
  induction items with
  | nil => rfl
  | cons item items ih =>
    rw [List.mapM_cons, List.mapM_cons, ih]
    cases read item with
    | error error => rfl
    | ok output => cases items.mapM read <;> rfl

theorem spliced_inFile (source : String) (outputs : List Output) (file : Option String) :
    outputInFile file (spliced source outputs) =
      spliced source (outputs.map (outputInFile file)) := by
  simp [outputInFile, spliced, List.map_flatMap, List.flatMap_map, Function.comp_def]

/-- What is compiled in the place of a template of a script in a file. -/
def regionResult (host : HostLanguage) (options : Options) (file : Option String) (source : String)
    (region : Region) :
    CompileResult :=
  (compileRegion host options source region).inFile file

/-- To add the name of the file to all reports at the end is to add it at each region. -/
theorem compileEmbedded_eq (host : HostLanguage) (options : Options) (file : Option String)
    (source : String) :
    compileEmbeddedWith host options file source =
      ((regions source).mapM (regionResult host options file source)).map (spliced source) := by
  have inFile := mapM_inFile (compileRegion host options source) file (regions source)
  rw [compileEmbeddedWith, compileWith_eq]
  unfold regionResult
  rw [inFile]
  cases (regions source).mapM (compileRegion host options source) with
  | error error => rfl
  | ok outputs => exact congrArg Except.ok (spliced_inFile source outputs file)

/-- The error is that of the first item that fails. -/
theorem mapM_eq_error_iff {ε α β : Type} {read : α → Except ε β} {items : List α} {error : ε} :
    items.mapM read = .error error ↔ ∃ before item after, items = before ++ item :: after ∧
      (∀ earlier ∈ before, ∃ result, read earlier = .ok result) ∧ read item = .error error := by
  induction items with
  | nil => simp [pure, Except.pure]
  | cons item items ih =>
    rw [List.mapM_cons]
    cases here : read item with
    | error other =>
      constructor
      · intro failed
        cases failed
        exact ⟨[], item, items, rfl, by simp, here⟩
      · rintro ⟨before, failing, after, parts, fine, failed⟩
        cases before with
        | nil =>
          cases parts
          rw [here] at failed
          cases failed
          rfl
        | cons first before =>
          cases parts
          obtain ⟨result, passed⟩ := fine item List.mem_cons_self
          rw [here] at passed
          cases passed
    | ok result =>
      have later : (do let rest ← items.mapM read; pure (result :: rest) : Except ε (List β)) =
          .error error ↔
          items.mapM read = .error error := by
        cases items.mapM read <;> simp [bind, Except.bind, pure, Except.pure]
      refine later.trans (ih.trans ?_)
      constructor
      · rintro ⟨before, failing, after, rfl, fine, failed⟩
        exact ⟨item :: before, failing, after, rfl, List.forall_mem_cons.mpr ⟨⟨result, here⟩, fine⟩,
          failed⟩
      · rintro ⟨before, failing, after, parts, fine, failed⟩
        cases before with
        | nil =>
          cases parts
          rw [here] at failed
          cases failed
        | cons first before =>
          cases parts
          exact ⟨before, failing, after, rfl, fun earlier member =>
            fine earlier (List.mem_cons_of_mem _ member), failed⟩

theorem spliced_of_regions_eq_nil {source : String} (none : regions source = []) :
    spliced source [] = ⟨source, []⟩ := by
  have whole : Text.slice source.toList 0 (Text.byteLength source.toList) = source.toList := by
    simpa using Text.slice_append [] source.toList []
  simp [spliced, weave, gaps, tail, none, gapsFrom, tailFrom, whole]

theorem encloses_of_mem_regions {source : String} {region : Region}
    (member : region ∈ regions source) :
    region.Encloses source.toList :=
  ((split_cut source.toList).encloses [] region member).2

theorem compileEmbedded_eq_ok_iff {host : HostLanguage} {options : Options} {file : Option String}
    {source : String} {output : Output} :
    compileEmbeddedWith host options file source = .ok output ↔
      ∃ outputs, List.Forall₂ (fun region compiled =>
        regionResult host options file source region = .ok compiled)
        (regions source) outputs ∧ output = spliced source outputs := by
  rw [compileEmbedded_eq]
  simp only [← mapM_eq_ok_iff]
  cases (regions source).mapM (regionResult host options file source) with
  | error error => simp [Except.map]
  | ok outputs => simp [Except.map, eq_comm]

theorem compileEmbedded_eq_error_iff {host : HostLanguage} {options : Options}
    {file : Option String} {source : String} {error : CompileError} :
    compileEmbeddedWith host options file source = .error error ↔
      ∃ before region after, regions source = before ++ region :: after ∧
        (∀ earlier ∈ before, ∃ compiled,
          regionResult host options file source earlier = .ok compiled) ∧
        regionResult host options file source region = .error error := by
  rw [compileEmbedded_eq, ← mapM_eq_error_iff]
  cases (regions source).mapM (regionResult host options file source) <;> simp [Except.map]

/-- The regions of a script are those of its templates, in order. It compiles if each of them does,
and then each is replaced by its code and all else stays as it is; and else the error is that of the
first region that fails. -/
theorem compileEmbedded_splices (host : HostLanguage) (options : Options) (file : Option String)
    (source : String) :
    ((∀ region ∈ regions source, region.Encloses source.toList) ∧
      (regions source).Pairwise (fun region next => region.outerStop ≤ next.outerStart) ∧
      (∀ gap ∈ gaps source, ¬ opening <:+: gap) ∧
      ∀ inner, ¬ opening ++ (inner ++ closing) <:+: tail source) ∧
    (∀ output, compileEmbeddedWith host options file source = .ok output ↔
      ∃ outputs, List.Forall₂ (fun region compiled =>
        regionResult host options file source region = .ok compiled)
        (regions source) outputs ∧ output = spliced source outputs) ∧
    (∀ error, compileEmbeddedWith host options file source = .error error ↔
      ∃ before region after, regions source = before ++ region :: after ∧
        (∀ earlier ∈ before, ∃ compiled,
          regionResult host options file source earlier = .ok compiled) ∧
        regionResult host options file source region = .error error) ∧
    (regions source = [] → compileEmbeddedWith host options file source = .ok ⟨source, []⟩) := by
  have cut := split_cut source.toList
  have gapsEq : gaps source = (split source.toList).1.map (·.gap) := cut.gaps []
  have tailEq : tail source = (split source.toList).2 := cut.tailFrom_eq []
  refine ⟨⟨fun region => encloses_of_mem_regions, cut.ordered [], ?_, ?_⟩, fun output =>
    compileEmbedded_eq_ok_iff, fun error => compileEmbedded_eq_error_iff, ?_⟩
  · intro gap member
    rw [gapsEq] at member
    obtain ⟨piece, held, rfl⟩ := List.mem_map.mp member
    exact cut.unopened piece held
  · rw [tailEq]
    exact cut.plain
  · intro none
    rw [compileEmbedded_eq, none, ← spliced_of_regions_eq_nil none]
    rfl

/-- A script with two templates after a character of two bytes, and a warning about the second
one. -/
def twoTemplates : String :=
  "é<template><b/></template>,\n<template><i rt-x=''/></template>;<template>"

theorem twoTemplates_spliced :
    regions twoTemplates = [⟨12, 16, 2, 27⟩, ⟨39, 51, 29, 62⟩] ∧
      (⟨39, 51, 29, 62⟩ : Region).Encloses twoTemplates.toList ∧
      compileEmbeddedWith .standard {} none twoTemplates = .ok
        ⟨"éfunction () \x7b\n    return React.createElement(\"b\", \x7b\x7d);\n\x7d,\n" ++
            "function () \x7b\n    return React.createElement(\"i\", \x7b \"rt-x\": \"\" \x7d);\n\x7d;<template>",
          [(Oddity.unknownDirective "rt-x").warning ⟨2, 14, 42⟩]⟩ ∧
      regions "a<template>" = [] ∧ compileEmbeddedWith .standard {} none "a<template>" =
        .ok ⟨"a<template>", []⟩ := by
  have found : regions twoTemplates = [⟨12, 16, 2, 27⟩, ⟨39, 51, 29, 62⟩] := by decide +kernel
  have none : regions "a<template>" = [] := by decide +kernel
  have first : ((regionResult .standard {} .none twoTemplates ⟨12, 16, 2, 27⟩).toOption.map id) =
      some
      ⟨"function () \x7b\n    return React.createElement(\"b\", \x7b\x7d);\n\x7d", []⟩ := by
    decide +kernel
  have second : ((regionResult .standard {} .none twoTemplates ⟨39, 51, 29, 62⟩).toOption.map id) =
      some
      ⟨"function () \x7b\n    return React.createElement(\"i\", \x7b \"rt-x\": \"\" \x7d);\n\x7d",
        [(Oddity.unknownDirective "rt-x").warning ⟨2, 14, 42⟩]⟩ := by
    decide +kernel
  obtain ⟨output, passed, rfl⟩ := exists_ok_of_toOption first
  obtain ⟨other, alsoPassed, rfl⟩ := exists_ok_of_toOption second
  obtain ⟨⟨encloses, _⟩, succeeds, _⟩ := compileEmbedded_splices .standard {} .none twoTemplates
  refine ⟨found, encloses _ (by simp [found]), ?_, none,
    (compileEmbedded_splices .standard {} .none _).2.2.2 none⟩
  rw [succeeds, found]
  exact ⟨_, .cons passed (.cons alsoPassed .nil), by decide +kernel⟩

end Embedded

end RenderTemplate
