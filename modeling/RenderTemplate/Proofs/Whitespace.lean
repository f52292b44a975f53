import Mathlib.Data.List.SplitBy
import RenderTemplate.Markup.Whitespace
import RenderTemplate.Proofs.Coupling

namespace RenderTemplate

namespace Text

/-- Whether two characters are both white space, or both something else. -/
def sameClass (c d : Char) : Bool :=
  isHtmlSpace c == isHtmlSpace d

/-- A run of characters that are all white space, or all something else, with one space for white
space. -/
def squeezeRun (run : List Char) : List Char :=
  if run.any isHtmlSpace then [' '] else run

/-- A text with one space in the place of each maximal run of white space. -/
def singleSpaced (text : String) : String :=
  String.ofList ((text.toList.splitBy sameClass).flatMap squeezeRun)

theorem collapseList_idem (inRun : Bool) (chars : List Char) :
    collapseList inRun (collapseList inRun chars) = collapseList inRun chars := by
  induction chars generalizing inRun with
  | nil => rfl
  | cons c rest ih =>
    have space : isHtmlSpace ' ' := by decide
    by_cases white : isHtmlSpace c
    · cases inRun with
      | true => simpa [white] using ih true
      | false => simp [white, space, ih true]
    · simp [white, ih false]

/-- What comes before matters only to a text that starts with white space. -/
theorem collapseList_true {chars : List Char} (other : ∀ c ∈ chars.head?, isHtmlSpace c = false) :
    collapseList true chars = collapseList false chars := by
  cases chars with
  | nil => rfl
  | cons c rest => simp [other c rfl]

theorem collapseList_white {run : List Char} (white : ∀ c ∈ run, isHtmlSpace c) (rest : List Char) :
    collapseList true (run ++ rest) = collapseList true rest := by
  induction run with
  | nil => rfl
  | cons c run ih =>
    have first : isHtmlSpace c := white c List.mem_cons_self
    have later := ih fun other member => white other (List.mem_cons_of_mem c member)
    simpa [first] using later

theorem collapseList_other {run : List Char} (other : ∀ c ∈ run, isHtmlSpace c = false)
    (rest : List Char) :
    collapseList false (run ++ rest) = run ++ collapseList false rest := by
  induction run with
  | nil => rfl
  | cons c run ih =>
    have first : isHtmlSpace c = false := other c List.mem_cons_self
    have later := ih fun other' member => other other' (List.mem_cons_of_mem c member)
    simp [first, later]

/-- All characters of a run are of the class of its first one. -/
theorem isHtmlSpace_of_isChain {c : Char} {run : List Char}
    (uniform : (c :: run).IsChain fun c d => sameClass c d) :
    ∀ d ∈ c :: run, isHtmlSpace d = isHtmlSpace c := by
  induction run generalizing c with
  | nil => simp
  | cons next run ih =>
    obtain ⟨same, later⟩ := List.isChain_cons_cons.mp uniform
    have alike : isHtmlSpace c = isHtmlSpace next := beq_iff_eq.mp same
    intro d member
    rcases List.mem_cons.mp member with rfl | member
    · rfl
    · rw [alike]
      exact ih later d member

/-- Collapsing a text run by run. -/
theorem collapseList_flatten {runs : List (List Char)} (nonempty : [] ∉ runs)
    (uniform : ∀ run ∈ runs, run.IsChain fun c d => sameClass c d)
    (apart : runs.IsChain fun run next =>
      ∃ some more, sameClass (run.getLast some) (next.head more) = false) :
    collapseList false runs.flatten = runs.flatMap squeezeRun := by
  induction runs with
  | nil => rfl
  | cons run runs ih =>
    rw [List.mem_cons, not_or] at nonempty
    obtain ⟨c, rest, rfl⟩ := List.exists_cons_of_ne_nil (Ne.symm nonempty.1)
    have later :=
      ih nonempty.2 (fun other member => uniform other (List.mem_cons_of_mem _ member)) apart.tail
    have class_eq := isHtmlSpace_of_isChain (uniform _ List.mem_cons_self)
    rw [List.flatten_cons, List.flatMap_cons, ← later]
    by_cases white : isHtmlSpace c
    · have all : ∀ d ∈ c :: rest, isHtmlSpace d := fun d member => by rw [class_eq d member, white]
      have next : ∀ d ∈ runs.flatten.head?, isHtmlSpace d = false := by
        intro d first
        cases runs with
        | nil => cases first
        | cons other runs =>
          obtain ⟨_, more, differ⟩ := (List.isChain_cons_cons.mp apart).1
          obtain ⟨e, others, rfl⟩ := List.exists_cons_of_ne_nil more
          cases first
          have last := all _ (List.getLast_mem (List.cons_ne_nil c rest))
          simpa [sameClass, last] using differ
      have squeezed : squeezeRun (c :: rest) = [' '] := if_pos (by simp [white])
      have tail :=
        collapseList_white (fun d member => all d (List.mem_cons_of_mem c member)) runs.flatten
      rw [squeezed, ← collapseList_true next, ← tail, List.cons_append,
        collapseList_cons_space white]
      rfl
    · have none : ∀ d ∈ c :: rest, isHtmlSpace d = false :=
        fun d member => by simp [class_eq d member, white]
      have squeezed : squeezeRun (c :: rest) = c :: rest := if_neg (by simpa using none)
      rw [squeezed, collapseList_other none]

/-- Collapsing leaves one space for each run, and that is what single spacing means. -/
theorem collapseSpaces_eq_singleSpaced (text : String) :
    collapseSpaces text = singleSpaced text := by
  rw [collapseSpaces, singleSpaced]
  congr 1
  have parts := List.flatten_splitBy sameClass text.toList
  rw [← collapseList_flatten (List.nil_notMem_splitBy _ _) (fun run => List.isChain_of_mem_splitBy)
    (List.isChain_getLast_head_splitBy _ _), parts]

example : singleSpaced "a \n\t b\u00a0\u00a0c " = "a b\u00a0\u00a0c " := by decide

theorem singleSpaced_collapseSpaces (text : String) :
    singleSpaced (collapseSpaces text) = singleSpaced text := by
  rw [← collapseSpaces_eq_singleSpaced, ← collapseSpaces_eq_singleSpaced]
  simp [collapseSpaces, collapseList_idem]

theorem all_collapseList (chars : List Char) (inRun : Bool) :
    (collapseList inRun chars).all isHtmlSpace = chars.all isHtmlSpace := by
  induction chars generalizing inRun with
  | nil => rfl
  | cons c rest ih =>
    by_cases white : isHtmlSpace c
    · cases inRun with
      | true => simp [white, ih]
      | false => simp [white, ih, show isHtmlSpace ' ' from by decide]
    · simp [white]

/-- A text is blank if and only if it is so when it is collapsed. -/
theorem isHtmlBlank_collapseSpaces (text : String) :
    isHtmlBlank (collapseSpaces text) = isHtmlBlank text := by
  simp [isHtmlBlank, collapseSpaces, all_collapseList]

theorem isEmpty_collapseSpaces (text : String) : (collapseSpaces text).isEmpty = text.isEmpty := by
  have same : collapseList false text.toList = [] ↔ text.toList = [] := by
    cases text.toList with
    | nil => simp
    | cons c rest => by_cases white : isHtmlSpace c <;> simp [white]
  rw [Bool.eq_iff_iff, String.isEmpty_iff, String.isEmpty_iff, ← String.toList_eq_nil_iff,
    ← String.toList_eq_nil_iff]
  simpa [collapseSpaces] using same

end Text

open Markup Resolve

namespace RenderNode

mutual

/-- A node with single spaces in all of its texts. -/
def singleSpaced : RenderNode → RenderNode
  | element head children => element head (singleSpacedAll children)
  | group children => group (singleSpacedAll children)
  | text value => text (Text.singleSpaced value)
  | expression code => expression code
  | comment value => comment value
  | conditional test body => conditional test (singleSpaced body)
  | iteration loop body => iteration loop (singleSpaced body)
  | binding block body => binding block (singleSpaced body)

def singleSpacedAll : List RenderNode → List RenderNode
  | [] => []
  | node :: rest => singleSpaced node :: singleSpacedAll rest

end

/-- Nodes that match one by one are the same when they are single spaced. -/
theorem singleSpacedAll_eq {nodes others : List RenderNode}
    (same : RendersAlike (fun node other => node.singleSpaced = other.singleSpaced)
      true nodes others) :
    singleSpacedAll nodes = singleSpacedAll others := by
  induction same with
  | nil => rfl
  | cons here _ ih => rw [singleSpacedAll, singleSpacedAll, here, ih]
  | dropped drops _ _ => cases drops

end RenderNode

/-- A template with single spaces in all of its texts. -/
def PropTemplate.singleSpaced (template : PropTemplate) : PropTemplate :=
  { template with body := template.body.singleSpaced }

/-- The same progress, up to the length of runs of white space in templates. -/
structure Progress.SameButSpaces (first second : Progress) : Prop where
  scope : first.scope = second.scope
  imports : first.imports = second.imports
  warnings : first.warnings = second.warnings
  templates : first.templates.map (·.singleSpaced) = second.templates.map (·.singleSpaced)

namespace Progress.SameButSpaces

theorem length_templates {first second : Progress} (same : first.SameButSpaces second) :
    first.templates.length = second.templates.length := by
  simpa using congrArg List.length same.templates

theorem add {template other : PropTemplate} (same : template.singleSpaced = other.singleSpaced) :
    Simulates Progress.SameButSpaces Eq (Resolve.add template) (Resolve.add other) := by
  intro before after kept
  refine .ok ⟨kept.length_templates, kept.scope, kept.imports, kept.warnings, ?_⟩
  simp only [List.map_append, kept.templates, List.map_cons, List.map_nil, same]

theorem respected : Respected Progress.SameButSpaces where
  warn warnings before other kept := by
    refine .ok ⟨rfl, kept.scope, kept.imports, ?_, kept.templates⟩
    simp only [kept.warnings]
  currentScope _ _ kept := .ok ⟨kept.scope, kept⟩
  enter kind own before other kept := by
    refine .ok ⟨?_, ?_, kept.imports, kept.warnings, kept.templates⟩
    · simp only [kept.scope]
    · simp only [kept.scope]
  leave before other kept := by
    refine .ok ⟨rfl, ?_, kept.imports, kept.warnings, kept.templates⟩
    simp only [kept.scope]
  declare dependency place before other kept := by
    rw [run_declare, run_declare, kept.imports]
    cases other.imports.declare dependency place with
    | error error => exact .error error
    | ok found => exact .ok ⟨rfl, kept.scope, rfl, kept.warnings, kept.templates⟩
  add template := add rfl

end Progress.SameButSpaces

namespace Markup

theorem isBlankText_collapse (parts : List Part) :
    isBlankText (parts.map collapsePart) = isBlankText parts := by
  induction parts with
  | nil => rfl
  | cons part parts ih =>
    simp only [isBlankText, List.map_cons, List.all_cons] at ih ⊢
    rw [ih]
    cases part with
    | literal text => simp only [collapsePart, Text.isHtmlBlank_collapseSpaces]
    | expression code => rfl

end Markup

theorem Alike.mapM {α β γ δ : Type} {related : γ → δ → Prop} {read : α → Except CompileError γ}
    {other : β → Except CompileError δ} {change : α → β} {items : List α}
    (each : ∀ item, Alike related (read item) (other (change item))) :
    Alike (List.Forall₂ related) (items.mapM read) ((items.map change).mapM other) := by
  induction items with
  | nil => exact .ok .nil
  | cons item items ih =>
    rw [List.map_cons, List.mapM_cons, List.mapM_cons]
    refine (each item).bind fun first second same => ih.bind fun rest more alike => ?_
    exact .ok (.cons same alike)

/-- Blank text renders nothing before and after collapsing, and other text the same parts. -/
theorem textNodes_collapse (host : HostLanguage) (parts : List Part) (place : Location) :
    Alike (List.Forall₂ fun node other => node.singleSpaced = other.singleSpaced)
      (textNodes host parts place)
      (textNodes host (parts.map collapsePart) place) := by
  unfold textNodes
  rw [isBlankText_collapse]
  split
  · exact .ok .nil
  · refine Alike.bind (Alike.mapM fun part => ?_) fun _ _ same => .ok (List.rel_flatten same)
    cases part with
    | expression code =>
      refine (Alike.of_eq rfl).bind fun _ _ _ => ?_
      exact .ok (.cons rfl .nil)
    | literal text =>
      simp only [collapsePart, Text.isEmpty_collapseSpaces]
      refine .ok ?_
      split
      · exact .nil
      · refine .cons ?_ .nil
        simp only [RenderNode.singleSpaced, Text.singleSpaced_collapseSpaces]

/-- What stands in the place of a text once white space is collapsed: the same where it matters, and
else the text with its white space collapsed. -/
def CollapsesText (parts other : List Part) : Prop :=
  other = parts ∨ other = parts.map collapsePart

theorem collapsesText_keeps (host : HostLanguage) :
    KeepsTexts host (fun node other => node.singleSpaced = other.singleSpaced) CollapsesText where
  isBlankText same := by
    rcases same with rfl | rfl
    · rfl
    · exact isBlankText_collapse _
  textNodes place same := by
    rcases same with rfl | rfl
    · refine (Alike.of_eq rfl).mono ?_
      rintro nodes _ rfl
      exact List.forall₂_same.mpr fun _ _ => rfl
    · exact textNodes_collapse host _ place

theorem singleSpaced_keptAround :
    KeptAround fun node other => node.singleSpaced = other.singleSpaced where
  conditional _ _ _ same := by simp only [RenderNode.singleSpaced, same]
  iteration _ _ _ same := by simp only [RenderNode.singleSpaced, same]
  binding _ _ _ same := by simp only [RenderNode.singleSpaced, same]

section

variable (setting : Setting)

/-- Resolutions before and after white space is collapsed. -/
def spaceCoupling : Coupling setting setting where
  keeps := Progress.SameButSpaces
  alike node other := node.singleSpaced = other.singleSpaced
  props := Eq
  texts := CollapsesText
  keepsComments := true
  host := rfl
  target := rfl
  specs := rfl
  framed := Progress.SameButSpaces.respected.toFramed
  declare := Progress.SameButSpaces.respected.declare
  declareImport := Progress.SameButSpaces.respected.declareImport setting
  add _ _ _ _ _ _ _ same :=
    Progress.SameButSpaces.add (by simp only [PropTemplate.singleSpaced, same])
  writes := collapsesText_keeps setting.host
  sets := keepsProps_eq fun _ _ => rfl
  comment _ _ := rfl
  group same := by
    rw [RenderNode.singleSpaced, RenderNode.singleSpaced, RenderNode.singleSpacedAll_eq same]
  element same also := by
    rw [List.forall₂_eq_eq_eq] at same
    rw [RenderNode.singleSpaced, RenderNode.singleSpaced, RenderNode.singleSpacedAll_eq also,
      ← same]
  around := singleSpaced_keptAround

theorem collapseAll_written (kept : Bool) (nodes : List Node) :
    WrittenAlike CollapsesText true nodes (collapseAll kept nodes) := by
  match nodes with
  | [] => exact .nil
  | .comment _ _ :: rest =>
    rw [collapseAll, Node.collapse]
    exact .comment rfl (collapseAll_written kept rest)
  | .text parts _ :: rest =>
    rw [collapseAll, Node.collapse]
    refine .text ?_ (collapseAll_written kept rest)
    cases kept with
    | true => exact .inl rfl
    | false => exact .inr rfl
  | .element start children :: rest =>
    rw [collapseAll, Node.collapse]
    exact .element (collapseAll_written _ children) (collapseAll_written kept rest)

/-- Trees and warnings that are the same, up to the length of runs of white space in texts. -/
structure SameButSpaces (first second : RenderTree × List Warning) : Prop where
  warnings : first.2 = second.2
  imports : first.1.imports = second.1.imports
  comments : first.1.comments = second.1.comments
  stateless : first.1.stateless = second.1.stateless
  root : first.1.root.singleSpaced = second.1.root.singleSpaced
  templates : first.1.templates.map (·.singleSpaced) = second.1.templates.map (·.singleSpaced)

/-- Collapsing the white space of a template first changes nothing about its resolution but the
length of runs of white space in the texts that are rendered: it fails with the same error, or it
gives the same tree and the same warnings. -/
theorem resolve_collapseWhitespace (nodes : List Node) :
    (∃ error, resolve setting nodes = .error error ∧
      resolve setting (collapseWhitespace nodes) = .error error) ∨
    ∃ found other, resolve setting nodes = .ok found ∧
      resolve setting (collapseWhitespace nodes) = .ok other ∧
      SameButSpaces found other := by
  have alike : Alike SameButSpaces (resolve setting nodes)
      (resolve setting (collapseWhitespace nodes)) := by
    rw [collapseWhitespace_eq_collapseAll]
    refine ((spaceCoupling setting).resolve_alike ⟨rfl, rfl, rfl, rfl⟩
      (collapseAll_written false nodes)).mono ?_
    intro found other same
    obtain ⟨_, _, kept⟩ := same.progress
    exact ⟨kept.warnings, kept.imports, same.comments.symm, same.stateless, same.root,
      kept.templates⟩
  generalize resolve setting nodes = first at alike
  generalize resolve setting (collapseWhitespace nodes) = second at alike
  cases alike with
  | error error => exact .inl ⟨error, rfl, rfl⟩
  | @ok found other same => exact .inr ⟨found, other, rfl, rfl, same⟩

end

end RenderTemplate
