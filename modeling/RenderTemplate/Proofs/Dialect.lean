import RenderTemplate.Compile
import RenderTemplate.Proofs.Coupling

namespace RenderTemplate

open Markup Resolve

/-- The same options for a module of another form and another name. -/
def Options.withModule (options : Options) (format : ModuleFormat) (name : Option String) :
    Options :=
  { options with format := format, name := name }

/-- The same setting for a module of another form and another name. -/
def Setting.withModule (setting : Setting) (format : ModuleFormat) (name : Option String) :
    Setting :=
  { setting with options := setting.options.withModule format name }

/-- The warnings that are not about imports without a place in the module. -/
def withoutUnemitted (warnings : List Warning) : List Warning :=
  warnings.filter fun warning => warning.diagnostic.code != .unemittedImport

theorem withoutUnemitted_append (first second : List Warning) :
    withoutUnemitted (first ++ second) = withoutUnemitted first ++ withoutUnemitted second :=
  List.filter_append first second

theorem withoutUnemitted_unemittedWarnings (format : ModuleFormat) (start : StartTag)
    (added : Bool) :
    withoutUnemitted (unemittedWarnings format start added) = [] := by
  unfold unemittedWarnings
  split
  · rfl
  · rfl

/-- The same progress, up to warnings about imports without a place in the module. -/
structure Progress.SameButUnemitted (first second : Progress) : Prop where
  scope : first.scope = second.scope
  imports : first.imports = second.imports
  templates : first.templates = second.templates
  warnings : withoutUnemitted first.warnings = withoutUnemitted second.warnings

/-- No step of the resolution looks at the warnings that were given before. -/
theorem sameButUnemitted_respected : Respected Progress.SameButUnemitted where
  warn warnings before other kept := by
    refine .ok ⟨rfl, kept.scope, kept.imports, kept.templates, ?_⟩
    simp only [withoutUnemitted_append, kept.warnings]
  currentScope _ _ kept := .ok ⟨kept.scope, kept⟩
  enter kind own before other kept := by
    refine .ok ⟨?_, ?_, kept.imports, kept.templates, kept.warnings⟩
    · simp only [kept.scope]
    · simp only [kept.scope]
  leave before other kept := by
    refine .ok ⟨rfl, ?_, kept.imports, kept.templates, kept.warnings⟩
    simp only [kept.scope]
  declare dependency place before other kept := by
    rw [run_declare, run_declare, kept.imports]
    cases other.imports.declare dependency place with
    | error error => exact .error error
    | ok found => exact .ok ⟨rfl, kept.scope, rfl, kept.templates, kept.warnings⟩
  add template before other kept := by
    refine .ok ⟨?_, kept.scope, kept.imports, ?_, kept.warnings⟩
    · simp only [kept.templates]
    · simp only [kept.templates]

/-- Computations with the same results that make the same progress, up to these warnings. -/
abbrev SameRuns {α : Type} (first second : Resolve α) : Prop :=
  Simulates Progress.SameButUnemitted Eq first second

section

variable (setting : Setting) (format : ModuleFormat) (name : Option String)

/-- The one step that looks at the form of a module: it may warn that an import has no place
there. -/
theorem declareImport_withModule (start : StartTag) :
    SameRuns (declareImport setting start)
      (declareImport (setting.withModule format name) start) := by
  refine (Simulates.lift_self _).then fun dependency => ?_
  refine (sameButUnemitted_respected.declare dependency _).then fun added => ?_
  intro before other kept
  refine .ok ⟨rfl, kept.scope, kept.imports, kept.templates, ?_⟩
  simp only [withoutUnemitted_append, withoutUnemitted_unemittedWarnings, kept.warnings]

/-- Resolutions for modules of two forms. -/
def moduleCoupling : Coupling setting (setting.withModule format name) where
  keeps := Progress.SameButUnemitted
  alike := Eq
  props := Eq
  texts := Eq
  keepsComments := true
  host := rfl
  target := rfl
  specs := rfl
  framed := sameButUnemitted_respected.toFramed
  declare := sameButUnemitted_respected.declare
  declareImport := declareImport_withModule setting format name
  add _ _ _ _ _ _ _ same := same ▸ sameButUnemitted_respected.add _
  writes := keepsTexts_eq fun parts place => by
    rw [List.forall₂_eq_eq_eq]
    exact .of_eq rfl
  sets := keepsProps_eq fun _ _ => rfl
  comment _ _ := rfl
  group same := by rw [same.eq]
  element same also := by
    rw [List.forall₂_eq_eq_eq] at same
    rw [← same, also.eq]
  around := .eq

/-- Trees that are the same, with warnings that differ in those about imports without a place in the
module only. -/
def SameTrees (first second : RenderTree × List Warning) : Prop :=
  first.1 = second.1 ∧ withoutUnemitted first.2 = withoutUnemitted second.2

/-- The form of a module is read for warnings about imports only, so the tree is the same. -/
theorem resolve_withModule (nodes : List Node) :
    Alike SameTrees (resolve setting nodes) (resolve (setting.withModule format name) nodes) := by
  have written := WrittenAlike.refl (fun _ => rfl) nodes
  refine ((moduleCoupling setting format name).resolve_alike ⟨rfl, rfl, rfl, rfl⟩ written).mono ?_
  intro found other same
  obtain ⟨_, _, kept⟩ := same.progress
  exact ⟨RenderTree.ext same.root kept.imports kept.templates same.comments.symm same.stateless,
    kept.warnings⟩

end

/-- Two compilations of a template that differ in the form and the name of the module only stop at
the same error, or they make the same tree, and so the same functions and the same expression. Their
warnings differ in those about imports without a place in the module only. -/
theorem renderTree_withModule (host : HostLanguage) (options : Options) (format : ModuleFormat)
    (name : Option String) (source : String) :
    (∃ error, renderTree host options source = .error error ∧
      renderTree host (options.withModule format name) source = .error error) ∨
    ∃ tree warnings others, renderTree host options source = .ok (tree, warnings) ∧
      renderTree host (options.withModule format name) source = .ok (tree, others) ∧
      tree.renderFunction (Target.ofOptions options) =
        tree.renderFunction (Target.ofOptions (options.withModule format name)) ∧
      withoutUnemitted warnings = withoutUnemitted others := by
  have alike : Alike SameTrees (renderTree host options source)
      (renderTree host (options.withModule format name) source) := by
    refine (Alike.of_eq (rfl : Markup.parse source = Markup.parse source)).bind ?_
    rintro nodes _ rfl
    exact resolve_withModule (Setting.ofOptions host options) format name _
  generalize first : renderTree host options source = result at alike
  generalize second : renderTree host (options.withModule format name) source = partner at alike
  cases alike with
  | error error => exact .inl ⟨error, rfl, rfl⟩
  | @ok pair others same =>
    obtain ⟨tree, warnings⟩ := pair
    obtain ⟨other, rest⟩ := others
    obtain ⟨rfl, filtered⟩ := same
    exact .inr ⟨tree, warnings, rest, rfl, rfl, rfl, filtered⟩

end RenderTemplate
