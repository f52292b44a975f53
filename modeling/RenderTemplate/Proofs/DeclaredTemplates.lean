import Mathlib.Data.List.Nodup
import RenderTemplate.Proofs.Commas
import RenderTemplate.Proofs.Isolation

namespace RenderTemplate

open Markup

/-- Whether a template can be declared with these names: they are identifiers, and no argument
stands twice. -/
structure TemplateSpec.IsDeclarable (spec : TemplateSpec) : Prop where
  prop : isIdentifier spec.prop
  arguments : ∀ name ∈ spec.arguments, isIdentifier name
  distinct : spec.arguments.Nodup

/-- The opening tag of a template that declares its prop and its arguments. -/
def TemplateSpec.startTag (spec : TemplateSpec) (place : Location) : StartTag where
  name := "rt-template"
  attributes :=
    [⟨"prop", some spec.prop, place⟩, ⟨"arguments", some (", ".intercalate spec.arguments), place⟩]
  location := place

/-- What the options configure for a child of an owner, unless it declares itself as a template. -/
def configured? (options : Options) (owner : String) (start : StartTag) : Option TemplateSpec :=
  if declaresTemplate start then none else options.spec? owner start.name

/-- A child of an owner, with a template in its place if the options configure it. -/
def Markup.Node.declaring (options : Options) (owner : String) : Node → Node
  | .element start children =>
    match configured? options owner start with
    | some spec => .element (spec.startTag start.location) children
    | none => .element start children
  | node => node

/-- Errors that differ in their wording at most. -/
def CompileError.IsReworded (first second : CompileError) : Prop :=
  second =
    { first with diagnostic := { first.diagnostic with message := second.diagnostic.message } }

/-- Children of an element that are taken apart in the same way, or not at all for the same
reason. -/
inductive Extraction.Matches : Except CompileError Extraction → Except CompileError Extraction →
    Prop where
  | ok {first second : Extraction} (candidates : first.candidates = second.candidates)
      (remaining : first.remaining = second.remaining) : Matches (.ok first) (.ok second)
  | error {first second : CompileError} (reworded : first.IsReworded second) :
      Matches (.error first) (.error second)

theorem isEmpty_of_isIdentifier {name : String} (identifier : isIdentifier name) :
    name.isEmpty = false := by
  rw [Bool.eq_false_iff, ne_eq, String.isEmpty_iff]
  rintro rfl
  cases identifier

theorem Text.trim_blank_append (text : String) : trim (" " ++ text) = trim text := by
  rw [trim, trim, String.toList_append]
  rfl

/-- Names that are written with commas between them are found again without the blanks. -/
theorem map_trim_padded {names : List String} (identifiers : ∀ name ∈ names, isIdentifier name) :
    (padded names).map Text.trim = names := by
  have kept (name : String) (member : name ∈ names) : Text.trim name = name :=
    trim_eq_self (isNameForm_of_isIdentifier (identifiers name member))
  cases names with
  | nil => rfl
  | cons first rest =>
    have later : (rest.map (" " ++ ·)).map Text.trim = rest.map id := by
      rw [List.map_map]
      refine List.map_congr_left fun name member => ?_
      exact (Text.trim_blank_append name).trans (kept name (List.mem_cons_of_mem _ member))
    rw [padded, List.map_cons, later, List.map_id, kept first List.mem_cons_self]

namespace TemplateSpec

variable {place : Location} {spec : TemplateSpec}

/-- An argument is taken if it is a name that is not there yet. -/
theorem addArgument_new {known : List String} {piece : String}
    (identifier : isIdentifier (Text.trim piece)) (fresh : Text.trim piece ∉ known) :
    addArgument place known piece = .ok (known ++ [Text.trim piece]) := by
  simp [addArgument, isEmpty_of_isIdentifier identifier, fresh, identifier]

/-- Different names are read one after the other, whatever blanks stand around them. -/
theorem foldlM_addArgument {pieces known : List String}
    (identifiers : ∀ piece ∈ pieces, isIdentifier (Text.trim piece))
    (distinct : (known ++ pieces.map Text.trim).Nodup) :
    pieces.foldlM (addArgument place) known = .ok (known ++ pieces.map Text.trim) := by
  induction pieces generalizing known with
  | nil => rw [List.map_nil, List.append_nil, List.foldlM_nil, pure_ok]
  | cons piece pieces ih =>
    rw [List.forall_mem_cons] at identifiers
    rw [List.map_cons, List.append_cons] at distinct ⊢
    have fresh : Text.trim piece ∉ known := by
      have front := (List.nodup_append.mp distinct).1
      rw [← List.concat_eq_append, List.nodup_concat] at front
      exact front.1
    rw [List.foldlM_cons]
    exact bind_ok.mpr ⟨_, addArgument_new identifiers.1 fresh, ih identifiers.2 distinct⟩

/-- Arguments are read as they were listed. -/
theorem readArguments_intercalate {names : List String}
    (identifiers : ∀ name ∈ names, isIdentifier name) (distinct : names.Nodup) :
    readArguments (", ".intercalate names) place = .ok names := by
  by_cases none : names = []
  · subst none
    rfl
  · have trimmed := map_trim_padded identifiers
    have pieces : ∀ piece ∈ padded names, isIdentifier (Text.trim piece) := by
      rw [← trimmed, List.forall_mem_map] at identifiers
      exact identifiers
    have read : (padded names).foldlM (addArgument place) [] =
        .ok ([] ++ (padded names).map Text.trim) :=
      foldlM_addArgument pieces (by rwa [trimmed])
    rw [readArguments, split_names none fun name member =>
      isQuiet_of_isIdentifier (identifiers name member), read, trimmed, List.nil_append]

/-- A template declares what its tag was made for. -/
theorem IsDeclarable.ofStart_startTag (declarable : spec.IsDeclarable) (place : Location) :
    ofStart (spec.startTag place) = .ok spec := by
  have named : (spec.startTag place).trimmedValue? "prop" = some spec.prop := by
    have trimmed := trim_eq_self (isNameForm_of_isIdentifier declarable.prop)
    simp [StartTag.trimmedValue?, StartTag.value?, StartTag.attribute?, startTag, trimmed,
      isEmpty_of_isIdentifier declarable.prop]
  have listed : (spec.startTag place).value? "arguments" = some (", ".intercalate spec.arguments) :=
    rfl
  have read : readArguments (", ".intercalate spec.arguments) place = .ok spec.arguments :=
    readArguments_intercalate declarable.arguments declarable.distinct
  rw [ofStart, named]
  dsimp only
  rw [if_pos declarable.prop, listed]
  exact bind_ok.mpr ⟨_, read, rfl⟩

end TemplateSpec

/-- A child is configured by its tag, unless it declares itself as a template. -/
theorem configured?_eq_some_iff {options : Options} {owner : String} {start : StartTag}
    {spec : TemplateSpec} :
    configured? options owner start = some spec ↔
      ¬ declaresTemplate start ∧ options.spec? owner start.name = some spec := by
  rw [configured?, Option.ite_none_left_eq_some]

theorem TemplateSpec.isDeclarable_listTemplates :
    ∀ entry ∈ listTemplates, entry.2.IsDeclarable := by
  have checked : ∀ entry ∈ listTemplates, isIdentifier entry.2.prop ∧
      (∀ name ∈ entry.2.arguments, isIdentifier name) ∧
      entry.2.arguments.Nodup := by
    decide +kernel
  exact fun entry member =>
    ⟨(checked entry member).1, (checked entry member).2.1, (checked entry member).2.2⟩

/-- What is configured in the native list can be declared, so only the options have to be looked
at. -/
theorem isDeclarable_of_spec? {options : Options} {owner child : String} {spec : TemplateSpec}
    (declarable : ∀ child spec, options.templates.spec? owner child = some spec → spec.IsDeclarable)
    (known : options.spec? owner child = some spec) : spec.IsDeclarable := by
  rcases Options.spec?_eq_some_iff.mp known with configured | ⟨_, _, _, native⟩
  · exact declarable child spec configured
  · exact TemplateSpec.isDeclarable_listTemplates (child, spec) (mem_of_lookup native)

namespace Extraction

variable {options : Options} {owner : StartTag} {first second : Extraction}

/-- Two children with the same spec at the same place become the same prop, if they have the same
content. -/
theorem add_alike (candidates : first.candidates = second.candidates)
    (remaining : first.remaining = second.remaining) {start other : StartTag}
    {spec : Except CompileError TemplateSpec}
    (here : childSpec? options owner.name start = some spec)
    (there : childSpec? options owner.name other = some spec)
    (place : start.location = other.location) (children : List Node) :
    Matches (add options owner first (.element start children))
      (add options owner second (.element other children)) := by
  simp only [add, here, there, candidates, place]
  cases spec with
  | error error => exact .error rfl
  | ok spec =>
    cases soleElement? children with
    | none => exact .error rfl
    | some body =>
      cases checked : checkNew owner second.candidates ⟨spec, body, other.location⟩ with
      | error error =>
        simp only [bind, Except.bind, checked]
        exact .error rfl
      | ok result =>
        simp only [bind, Except.bind, checked]
        exact .ok rfl remaining

theorem add_same (candidates : first.candidates = second.candidates)
    (remaining : first.remaining = second.remaining) (node : Node) :
    Matches (add options owner first node) (add options owner second node) := by
  have kept : Matches (.ok { first with remaining := first.remaining ++ [node] })
      (.ok { second with remaining := second.remaining ++ [node] }) :=
    .ok candidates (by rw [remaining])
  cases node with
  | text parts place => exact kept
  | comment value place => exact kept
  | element start children =>
    cases specified : childSpec? options owner.name start with
    | none =>
      simp only [add, specified]
      exact kept
    | some spec => exact add_alike candidates remaining specified specified rfl children

/-- A child that is configured is taken apart as it is when it declares the same itself. -/
theorem add_declaring
    (declarable : ∀ child spec, options.templates.spec? owner.name child = some spec →
      spec.IsDeclarable)
    (candidates : first.candidates = second.candidates)
    (remaining : first.remaining = second.remaining) (node : Node) :
    Matches (add options owner first node)
      (add options owner second (node.declaring options owner.name)) := by
  cases node with
  | text parts place => exact add_same candidates remaining _
  | comment value place => exact add_same candidates remaining _
  | element start children =>
    cases known : configured? options owner.name start with
    | none =>
      simp only [Node.declaring, known]
      exact add_same candidates remaining _
    | some spec =>
      simp only [Node.declaring, known]
      obtain ⟨other, configured⟩ := configured?_eq_some_iff.mp known
      have specified : childSpec? options owner.name start = some (.ok spec) := by
        rw [childSpec?, if_neg other, configured, Option.map_some]
      have declared : childSpec? options owner.name (spec.startTag start.location) =
          some (.ok spec) := by
        have template : declaresTemplate (spec.startTag start.location) := rfl
        have reads := (isDeclarable_of_spec? declarable configured).ofStart_startTag start.location
        rw [childSpec?, if_pos template, reads]
      exact add_alike candidates remaining specified declared rfl children

theorem foldlM_declaring
    (declarable : ∀ child spec, options.templates.spec? owner.name child = some spec →
      spec.IsDeclarable)
    (candidates : first.candidates = second.candidates)
    (remaining : first.remaining = second.remaining) (children : List Node) :
    Matches (children.foldlM (add options owner) first)
      ((children.map (·.declaring options owner.name)).foldlM (add options owner) second) := by
  induction children generalizing first second with
  | nil => exact .ok candidates remaining
  | cons node children ih =>
    have step := add_declaring declarable candidates remaining node
    rw [List.map_cons, List.foldlM_cons, List.foldlM_cons]
    generalize add options owner first node = here at step ⊢
    generalize add options owner second (node.declaring options owner.name) = there at step ⊢
    cases step with
    | ok candidates remaining => exact ih candidates remaining
    | error reworded => exact .error reworded

end Extraction

/-- An element whose configured children declare themselves as templates is taken apart as before:
it gets the same props from the same places and has the same children left, or it is refused for the
same reason. -/
theorem extraction_declaring (options : Options) (owner : StartTag) (children : List Node)
    (declarable : ∀ child spec, options.templates.spec? owner.name child = some spec →
      spec.IsDeclarable) :
    Extraction.Matches (Extraction.ofElement options owner children)
      (Extraction.ofElement options owner (children.map (·.declaring options owner.name))) :=
  Extraction.foldlM_declaring declarable rfl rfl children

/-- Options that configure the cells of a grid. -/
def cellOptions : Options where
  templates := ⟨[("Grid", ⟨[("Cell", ⟨"renderCell", ["cell", "column"]⟩)], by simp⟩)], by simp⟩

/-- Children of a grid: a cell, text, and a template. -/
def gridChildren : List Node := [
  .element { name := "Cell", attributes := [⟨"rt-if", some "x", {}⟩], location := ⟨1, 7, 6⟩ }
    [.element { name := "b" } []],
  .text [.literal "a"] {},
  .element { name := "rt-template", attributes := [⟨"prop", some "renderHeader", {}⟩] }
    [.element { name := "i" } []]]

theorem gridChildren_declaring :
    (∀ child spec, cellOptions.templates.spec? "Grid" child = some spec → spec.IsDeclarable) ∧
      ∃ found other, Extraction.ofElement cellOptions { name := "Grid" } gridChildren = .ok found ∧
        found.candidates.map (·.spec) = [⟨"renderCell", ["cell", "column"]⟩, ⟨"renderHeader", []⟩] ∧
        Extraction.ofElement cellOptions { name := "Grid" }
          (gridChildren.map (·.declaring cellOptions "Grid")) = .ok other ∧
        found.candidates = other.candidates ∧ found.remaining = other.remaining := by
  have declarable : ∀ child spec, cellOptions.templates.spec? "Grid" child = some spec →
      spec.IsDeclarable := by
    intro child spec known
    have listed : (child, spec) ∈ [("Cell", (⟨"renderCell", ["cell", "column"]⟩ : TemplateSpec))] :=
      mem_of_lookup known
    cases List.mem_singleton.mp listed
    exact ⟨by decide, by decide, by decide⟩
  have evaluated :
      ((Extraction.ofElement cellOptions { name := "Grid" } gridChildren).toOption.map fun found =>
      found.candidates.map (·.spec)) =
        some [⟨"renderCell", ["cell", "column"]⟩, ⟨"renderHeader", []⟩] := by
    decide +kernel
  obtain ⟨found, extracted, specs⟩ := exists_ok_of_toOption evaluated
  have alike := extraction_declaring cellOptions { name := "Grid" } gridChildren declarable
  rw [extracted] at alike
  generalize Extraction.ofElement cellOptions { name := "Grid" }
    (gridChildren.map (·.declaring cellOptions "Grid")) = result at alike ⊢
  cases alike with
  | ok candidates remaining =>
    exact ⟨declarable, found, _, extracted, specs, rfl, candidates, remaining⟩

end RenderTemplate
