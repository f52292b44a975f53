import RenderTemplate.Proofs.Reports

namespace RenderTemplate

open Markup

/-- Any fault may be reported at a place that is known. -/
def Reports.within (known : Location → Prop) : Reports where
  known := known
  allowed _ := known
  ordinary here _ := here

/-- Where any fault may be reported at a known place, all that ends well is placed. -/
theorem Ends.placed {α : Type} {known : Location → Prop} {holds : α → Prop}
    {work : Except CompileError α} (ends : Ends (.within known) holds work) :
    Placed known holds work := by
  cases ends with
  | ok fine => exact .ok fine
  | error here => exact .fault here _

theorem Placed.bind {α β : Type} {known : Location → Prop} {holds : α → Prop} {further : β → Prop}
    {work : Except CompileError α} {next : α → Except CompileError β}
    (first : Placed known holds work)
    (rest : ∀ value, holds value → Placed known further (next value)) :
    Placed known further (work >>= next) := by
  cases first with
  | ok fine => exact rest _ fine
  | error placed => exact .error placed

/-- Each error and each warning about a template is at a character of its source, or at its end. -/
theorem compileWith_placed (host : HostLanguage) (options : Options) (source : String) :
    Placed (Reaches source) (fun output => WarnedAt (Reaches source) output.warnings)
      (compileWith host options source) := by
  have root : (Reports.within (Reaches source)).known {} := ⟨0, rfl⟩
  have tree :
      Placed (Reaches source) (fun found => WarnedAt (Reaches source) found.2)
      (renderTree host options source) := by
    refine (parse_placed source).bind fun nodes found => ?_
    obtain ⟨high, spread⟩ := found
    have marked : ∀ mark ∈ marksAll nodes,
        (Reports.within (Reaches source)).known mark.location := by
      intro mark member
      obtain ⟨index, _, stands⟩ := spread.stands mark member
      exact ⟨index, stands.location⟩
    have admitted : AdmittedAll (.within (Reaches source)) nodes :=
      admittedAll_of_marks marked fun _ _ here _ => here
    refine (resolve_ends root _ ?_).placed
    split
    · exact admittedAll_collapseWhitespace admitted
    · exact admitted
  refine (validateOptions_ends root options).placed.bind fun _ _ => tree.bind fun found warned => ?_
  exact .ok warned

end RenderTemplate
