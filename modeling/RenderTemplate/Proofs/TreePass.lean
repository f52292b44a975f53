import RenderTemplate.Proofs.Coupling
import RenderTemplate.Proofs.Lifting

namespace RenderTemplate

open Markup Resolve

/-- A pass over trees: what becomes of a prop, and whether comments stay in their places. If a
second setting sets the props as a pass rewrites them, then what the pass makes of a resolution in
the first setting is the resolution in the second one of the template with the same comments taken
out. -/
structure TreePass where
  prop : RenderProp → RenderProp := id
  keepsComments : Bool := true

namespace TreePass

variable (pass : TreePass)

/-- Whether a node stays in its place. -/
def keeps (node : RenderNode) : Bool :=
  pass.keepsComments || !node.isComment

/-- The head of an element with its props rewritten. -/
def head (head : ElementHead) : ElementHead :=
  { head with props := head.props.map pass.prop }

mutual

def node : RenderNode → RenderNode
  | .element head children => .element (pass.head head) (nodes children)
  | .group children => .group (nodes children)
  | .text value => .text value
  | .expression code => .expression code
  | .comment value => .comment value
  | .conditional test body => .conditional test (node body)
  | .iteration loop body => .iteration loop (node body)
  | .binding block body => .binding block (node body)

def nodes : List RenderNode → List RenderNode
  | [] => []
  | child :: rest => if pass.keeps child then node child :: nodes rest else nodes rest

end

def template (template : PropTemplate) : PropTemplate :=
  { template with body := pass.node template.body }

/-- A tree after a pass. Its imports are the same. -/
def tree (tree : RenderTree) : RenderTree :=
  { tree with
    root := pass.node tree.root
    templates := tree.templates.map pass.template
    comments := if pass.keepsComments then tree.comments else [] }

/-- The result of a resolution after a pass. Its warnings are the same. -/
def result (found : RenderTree × List Warning) : RenderTree × List Warning :=
  (pass.tree found.1, found.2)

/-- Whether a node of a template stays in its place. -/
def keepsSource : Node → Bool
  | .comment _ _ => pass.keepsComments
  | _ => true

mutual

def sourceNode : Node → Node
  | .element start children => .element start (source children)
  | .text parts place => .text parts place
  | .comment value place => .comment value place

/-- A template with its comments, or with none of them at any depth. -/
def source : List Node → List Node
  | [] => []
  | node :: rest => if pass.keepsSource node then sourceNode node :: source rest else source rest

end

/-- Two settings of which the second sets each prop as a pass rewrites it, and which agree on
everything else. Props that refer to templates are left alone. -/
structure Realizes (first second : Setting) : Prop where
  host : second.host = first.host
  target : second.target = first.target
  format : second.options.format = first.options.format
  specs : childSpec? second.options = childSpec? first.options
  references : ∀ key index, pass.prop ⟨key, .template index⟩ = ⟨key, .template index⟩
  props : ∀ scope found,
    attributeProps second scope found = (attributeProps first scope found).map fun props =>
      props.map pass.prop

/-- Beside a node that stays stands what becomes of it. -/
def Matches (node other : RenderNode) : Prop :=
  pass.keeps node ∧ other = pass.node node

/-- Nodes that match one by one are those that the pass gives. -/
theorem nodes_of_renders {found others : List RenderNode}
    (same : RendersAlike pass.Matches pass.keepsComments found others) :
    others = pass.nodes found := by
  induction same with
  | nil => rfl
  | cons here _ ih => rw [nodes, if_pos here.1, ← here.2, ← ih]
  | @dropped value _ _ drops _ ih =>
    have skipped : pass.keeps (.comment value) = false := by
      rw [keeps, drops]
      rfl
    rw [nodes, if_neg (Bool.eq_false_iff.mp skipped), ← ih]

theorem matches_around : KeptAround pass.Matches where
  conditional _ _ _ matched := ⟨Bool.or_true _, by rw [matched.2, TreePass.node]⟩
  iteration _ _ _ matched := ⟨Bool.or_true _, by rw [matched.2, TreePass.node]⟩
  binding _ _ _ matched := ⟨Bool.or_true _, by rw [matched.2, TreePass.node]⟩

/-- The progress beside that of a run without the pass. -/
def Follows (before other : Progress) : Prop :=
  other = { before with templates := before.templates.map pass.template }

theorem follows_framed : Framed pass.Follows where
  warn _ _ _ same := by subst same; exact .ok ⟨rfl, rfl⟩
  currentScope _ _ same := by subst same; exact .ok ⟨rfl, rfl⟩
  enter _ _ _ _ same := by subst same; exact .ok ⟨rfl, rfl⟩
  leave _ _ same := by subst same; exact .ok ⟨rfl, rfl⟩

theorem declare_follows (dependency : Dependency) (place : Location) :
    Simulates pass.Follows Eq (declare dependency place) (declare dependency place) := by
  rintro before _ rfl
  rw [run_declare, run_declare]
  cases before.imports.declare dependency place with
  | error error => exact .error error
  | ok found => exact .ok ⟨rfl, rfl⟩

/-- The template of a child, beside the one with what becomes of its body. -/
theorem add_follows {template other : PropTemplate} (same : other = pass.template template) :
    Simulates pass.Follows Eq (add template) (add other) := by
  rintro before _ rfl
  refine .ok ⟨(List.length_map _).symm, ?_⟩
  simp only [Follows, List.map_append, List.map_cons, List.map_nil, same]

/-- Text renders texts and expressions, which stay as they are. -/
theorem textNodes_matches (host : HostLanguage) (parts : List Part) (place : Location) :
    Alike (List.Forall₂ pass.Matches) (textNodes host parts place)
      (textNodes host parts place) := by
  cases read : textNodes host parts place with
  | error error => exact .error error
  | ok nodes =>
    refine .ok (List.forall₂_same.mpr fun node member => ?_)
    rcases textNodes_leaf read member with ⟨text, rfl⟩ | ⟨code, rfl⟩
    · exact ⟨Bool.or_true _, rfl⟩
    · exact ⟨Bool.or_true _, rfl⟩

theorem source_written (forest : List Node) :
    WrittenAlike Eq pass.keepsComments forest (pass.source forest) := by
  match forest with
  | [] => exact .nil
  | .comment _ _ :: rest =>
    rw [source, sourceNode, keepsSource]
    split
    · next kept => exact .comment kept (source_written rest)
    · next drops => exact .dropped (Bool.eq_false_iff.mpr drops) (source_written rest)
  | .text _ _ :: rest => exact .text rfl (source_written rest)
  | .element _ children :: rest => exact .element (source_written children) (source_written rest)

namespace Realizes

variable {pass} {first second : Setting} (realizes : pass.Realizes first second)

include realizes

/-- Imports are declared the same, for a pass does not look at them. -/
theorem declareImport_follows (start : StartTag) :
    Simulates pass.Follows Eq (declareImport first start) (declareImport second start) := by
  unfold declareImport
  rw [realizes.format]
  refine (Simulates.lift_self _).then fun dependency => ?_
  exact (pass.declare_follows dependency _).then fun added => pass.follows_framed.warn _

theorem keepsProps : KeepsProps first second fun prop other => pass.prop prop = other where
  attributeProps scope found := by
    refine (Alike.iff_eq_map.mpr (realizes.props scope found)).mono ?_
    rintro props _ rfl
    exact List.forall₂_map_right_iff.mpr (List.forall₂_same.mpr fun _ _ => rfl)
  reference := realizes.references

/-- Resolutions in the first setting, and in the second one without the comments that are taken
out. -/
def coupling : Coupling first second where
  keeps := pass.Follows
  alike := pass.Matches
  props prop other := pass.prop prop = other
  texts := Eq
  keepsComments := pass.keepsComments
  host := realizes.host
  target := realizes.target
  specs := realizes.specs
  framed := pass.follows_framed
  declare := pass.declare_follows
  declareImport := realizes.declareImport_follows
  add _ _ _ _ _ _ _ matched := pass.add_follows (by rw [matched.2]; rfl)
  writes := keepsTexts_eq (pass.textNodes_matches first.host)
  sets := realizes.keepsProps
  comment kept value := ⟨by rw [keeps, kept]; rfl, rfl⟩
  group same := ⟨Bool.or_true _, by rw [pass.nodes_of_renders same]; rfl⟩
  element {head set _ _} same also := by
    have rewritten : List.Forall₂ Eq (head.props.map pass.prop) set :=
      List.forall₂_map_left_iff.mpr same
    rw [List.forall₂_eq_eq_eq] at rewritten
    exact ⟨Bool.or_true _, by rw [pass.nodes_of_renders also, ← rewritten]; rfl⟩
  around := pass.matches_around

/-- A pass over the tree of a template can as well be made before the resolution: the template
without the comments that are taken out, resolved in the setting that sets the props as the pass
rewrites them, fails with the same error or gives the tree after the pass, with the same
warnings. -/
theorem resolve_source (forest : List Node) :
    resolve second (pass.source forest) = (resolve first forest).map pass.result := by
  refine Alike.iff_eq_map.mp
    ((realizes.coupling.resolve_alike rfl (pass.source_written forest)).mono ?_)
  intro found other same
  obtain ⟨_, _, kept⟩ := same.progress
  have known := Progress.mk.inj kept
  exact Prod.ext
    (RenderTree.ext same.root.2 known.2.1 known.2.2.1 same.comments same.stateless.symm) known.2.2.2

end Realizes

end TreePass

end RenderTemplate
