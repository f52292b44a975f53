import RenderTemplate.Proofs.Simulation

namespace RenderTemplate

open Markup Resolve

attribute [ext] RenderTree

/-- Nodes that are rendered beside each other. Comments may be missing in the second place. -/
inductive RendersAlike (alike : RenderNode → RenderNode → Prop) (keepsComments : Bool) :
    List RenderNode → List RenderNode → Prop where
  | nil : RendersAlike alike keepsComments [] []
  | cons {node other : RenderNode} {rest others : List RenderNode} (here : alike node other)
      (later : RendersAlike alike keepsComments rest others) :
      RendersAlike alike keepsComments (node :: rest) (other :: others)
  | dropped {value : String} {rest others : List RenderNode} (drops : keepsComments = false)
      (later : RendersAlike alike keepsComments rest others) :
      RendersAlike alike keepsComments (.comment value :: rest) others

/-- Nodes that are rendered alike stay so with more of them behind. -/
theorem RendersAlike.append {alike : RenderNode → RenderNode → Prop} {keepsComments : Bool}
    {nodes others more rest : List RenderNode} (front : List.Forall₂ alike nodes others)
    (back : RendersAlike alike keepsComments more rest) :
    RendersAlike alike keepsComments (nodes ++ more) (others ++ rest) := by
  induction front with
  | nil => exact back
  | cons here _ ih => exact .cons here ih

theorem RendersAlike.eq {nodes others : List RenderNode}
    (same : RendersAlike Eq true nodes others) :
    nodes = others := by
  induction same with
  | nil => rfl
  | cons here _ ih => rw [here, ih]
  | dropped drops _ _ => cases drops

/-- Forests that are written beside each other, with the same tags at the same places. Comments are
missing in the second forest, or they are the same. -/
inductive WrittenAlike (texts : List Part → List Part → Prop) (keepsComments : Bool) :
    List Node → List Node → Prop where
  | nil : WrittenAlike texts keepsComments [] []
  | comment {value : String} {place : Location} {rest others : List Node} (kept : keepsComments)
      (later : WrittenAlike texts keepsComments rest others) :
      WrittenAlike texts keepsComments (.comment value place :: rest)
        (.comment value place :: others)
  | dropped {value : String} {place : Location} {rest others : List Node}
      (drops : keepsComments = false)
      (later : WrittenAlike texts keepsComments rest others) :
      WrittenAlike texts keepsComments (.comment value place :: rest) others
  | text {parts other : List Part} {place : Location} {rest others : List Node}
      (same : texts parts other)
      (later : WrittenAlike texts keepsComments rest others) :
      WrittenAlike texts keepsComments (.text parts place :: rest) (.text other place :: others)
  | element {start : StartTag} {children inner rest others : List Node}
      (inside : WrittenAlike texts keepsComments children inner)
      (later : WrittenAlike texts keepsComments rest others) :
      WrittenAlike texts keepsComments (.element start children :: rest)
        (.element start inner :: others)

theorem WrittenAlike.refl {texts : List Part → List Part → Prop} (same : ∀ parts, texts parts parts)
    (forest : List Node) :
    WrittenAlike texts true forest forest := by
  match forest with
  | [] => exact .nil
  | .comment _ _ :: rest => exact .comment rfl (refl same rest)
  | .text parts _ :: rest => exact .text (same parts) (refl same rest)
  | .element _ children :: rest => exact .element (refl same children) (refl same rest)

/-- The comments at the top are the same, or are all left out. -/
theorem WrittenAlike.topComments_eq {texts : List Part → List Part → Prop} {keepsComments : Bool}
    {forest others : List Node} (written : WrittenAlike texts keepsComments forest others) :
    topComments others = if keepsComments then topComments forest else [] := by
  unfold topComments
  induction written with
  | nil => simp
  | comment kept _ ih => simpa [kept] using ih
  | dropped drops _ ih => simpa [drops] using ih
  | text _ _ ih => simpa using ih
  | element _ _ _ ih => simpa using ih

/-- Texts that are blank alike and rendered alike. -/
structure KeepsTexts (host : HostLanguage) (alike : RenderNode → RenderNode → Prop)
    (texts : List Part → List Part → Prop) : Prop where
  isBlankText : ∀ {parts other}, texts parts other → isBlankText other = isBlankText parts
  textNodes : ∀ {parts other} place, texts parts other →
    Alike (List.Forall₂ alike) (textNodes host parts place) (textNodes host other place)

theorem keepsTexts_eq {host : HostLanguage} {alike : RenderNode → RenderNode → Prop}
    (each : ∀ parts place,
      Alike (List.Forall₂ alike) (textNodes host parts place) (textNodes host parts place)) :
    KeepsTexts host alike Eq where
  isBlankText same := by rw [same]
  textNodes place same := by
    rw [same]
    exact each _ place

/-- Attributes set props that are related, and a reference to a template is related to itself. -/
structure KeepsProps (first second : Setting) (props : RenderProp → RenderProp → Prop) : Prop where
  attributeProps : ∀ scope found,
    Alike (List.Forall₂ props) (attributeProps first scope found)
      (attributeProps second scope found)
  reference : ∀ key index, props ⟨key, .template index⟩ ⟨key, .template index⟩

theorem keepsProps_eq {first second : Setting}
    (each : ∀ scope found, attributeProps first scope found = attributeProps second scope found) :
    KeepsProps first second Eq where
  attributeProps scope found := by
    rw [List.forall₂_eq_eq_eq]
    exact .of_eq (each scope found)
  reference _ _ := rfl

/-- What two resolutions in two settings have in common at each step. By `Coupling.resolve_alike`
they have it in common as a whole: they stop at the same error, or render alike. -/
structure Coupling (first second : Setting) where
  /-- What the progress of one has to do with that of the other. -/
  keeps : Progress → Progress → Prop
  /-- What is rendered in the place of a node. -/
  alike : RenderNode → RenderNode → Prop
  /-- What is set in the place of a prop. -/
  props : RenderProp → RenderProp → Prop
  /-- What may be written in the place of a text. -/
  texts : List Part → List Part → Prop
  /-- Whether comments stay in the second template. -/
  keepsComments : Bool
  host : second.host = first.host
  target : second.target = first.target
  specs : childSpec? second.options = childSpec? first.options
  framed : Framed keeps
  declare :
    ∀ dependency place, Simulates keeps Eq (declare dependency place) (declare dependency place)
  declareImport :
    ∀ start, Simulates keeps Eq (declareImport first start) (declareImport second start)
  add : ∀ owner prop arguments outer place {node other}, alike node other →
    Simulates keeps Eq (add ⟨owner, prop, arguments, outer, node, place⟩)
      (add ⟨owner, prop, arguments, outer, other, place⟩)
  writes : KeepsTexts first.host alike texts
  sets : KeepsProps first second props
  comment : keepsComments → ∀ value, alike (.comment value) (.comment value)
  group : ∀ {nodes others}, RendersAlike alike keepsComments nodes others →
    alike (.group nodes) (.group others)
  element : ∀ {head : ElementHead} {set nodes others}, List.Forall₂ props head.props set →
    RendersAlike alike keepsComments nodes others →
    alike (.element head nodes) (.element { head with props := set } others)
  around : KeptAround alike

/-- The same props and the same warnings for the children of an element. -/
structure Extraction.SameProps (first second : Extraction) : Prop where
  specs : first.candidates.map (·.spec) = second.candidates.map (·.spec)
  warnings : first.warnings = second.warnings

namespace Extraction

variable {first second : Extraction}

theorem SameProps.checkNew (same : first.SameProps second) (owner : StartTag) (spec : TemplateSpec)
    (body other : StartTag × List Node) (place : Location) :
    checkNew owner first.candidates ⟨spec, body, place⟩ =
      checkNew owner second.candidates ⟨spec, other, place⟩ := by
  have known : (first.candidates.any fun candidate => candidate.spec.prop == spec.prop) =
      second.candidates.any fun candidate => candidate.spec.prop == spec.prop := by
    have mapped :=
      congrArg (fun specs : List TemplateSpec => specs.any fun known => known.prop == spec.prop)
      same.specs
    simpa only [List.any_map, Function.comp_def] using mapped
  simp only [Extraction.checkNew, known]

/-- A child becomes a prop or stays, whatever stands around the one element that it wraps. -/
theorem SameProps.addElement (same : first.SameProps second) (options : Options)
    (owner start : StartTag) {children others : List Node}
    (wraps : (soleElement? others).isSome = (soleElement? children).isSome) :
    Alike SameProps (Extraction.add options owner first (.element start children))
      (Extraction.add options owner second (.element start others)) := by
  unfold Extraction.add
  dsimp only
  cases childSpec? options owner.name start with
  | none => exact .ok ⟨same.specs, same.warnings⟩
  | some spec =>
    refine (Alike.of_eq rfl).bind ?_
    rintro spec _ rfl
    cases here : soleElement? children with
    | none =>
      rw [here, Option.isSome_none, Option.isSome_eq_false_iff, Option.isNone_iff_eq_none] at wraps
      rw [wraps]
      exact .error _
    | some body =>
      rw [here, Option.isSome_some, Option.isSome_iff_exists] at wraps
      obtain ⟨other, there⟩ := wraps
      rw [there]
      refine (Alike.of_eq (same.checkNew owner spec body other start.location)).bind ?_
      rintro _ _ _
      refine .ok ⟨?_, ?_⟩
      · simp [same.specs]
      · simp [same.warnings]

end Extraction

namespace Coupling

variable {first second : Setting} (coupling : Coupling first second)

/-- Forests that are written alike. -/
abbrev Writes : List Node → List Node → Prop :=
  WrittenAlike coupling.texts coupling.keepsComments

/-- Nodes that are rendered alike. -/
abbrev Renders : List RenderNode → List RenderNode → Prop :=
  RendersAlike coupling.alike coupling.keepsComments

variable {coupling} {forest others children inner : List Node}

theorem length_elements (written : coupling.Writes forest others) :
    (others.filterMap Node.element?).length = (forest.filterMap Node.element?).length := by
  induction written with
  | nil => rfl
  | comment _ _ ih => exact ih
  | dropped _ _ ih => exact ih
  | text _ _ ih => exact ih
  | element _ _ _ ih => exact congrArg Nat.succ ih

theorem all_isFiller (written : coupling.Writes forest others) :
    others.all Node.isFiller = forest.all Node.isFiller := by
  induction written with
  | nil => rfl
  | comment _ _ ih => exact ih
  | dropped _ _ ih => exact ih
  | text same _ ih =>
    rw [List.all_cons, List.all_cons, ih, Node.isFiller, Node.isFiller,
      coupling.writes.isBlankText same]
  | element _ _ _ ih => exact ih

/-- A child wraps one element in both forests, or in none. -/
theorem isSome_soleElement? (written : coupling.Writes forest others) :
    (soleElement? others).isSome = (soleElement? forest).isSome := by
  have wraps (nodes : List Node) : (soleElement? nodes).isSome ↔
      (nodes.filterMap Node.element?).length = 1 ∧ nodes.all Node.isFiller := by
    simp only [Option.isSome_iff_exists, soleElement?_eq_some_iff, List.length_eq_one_iff,
      exists_and_right]
  rw [Bool.eq_iff_iff, wraps, wraps, length_elements written, all_isFiller written]

/-- Children that are taken apart side by side become the same props. -/
theorem foldlM_add (written : coupling.Writes children inner) (options : Options) (owner : StartTag)
    {known other : Extraction} (same : known.SameProps other) :
    Alike Extraction.SameProps (children.foldlM (Extraction.add options owner) known)
      (inner.foldlM (Extraction.add options owner) other) := by
  induction written generalizing known other with
  | nil => exact .ok same
  | comment _ _ ih => exact ih ⟨same.specs, same.warnings⟩
  | dropped _ _ ih => exact ih ⟨same.specs, same.warnings⟩
  | text _ _ ih => exact ih ⟨same.specs, same.warnings⟩
  | element inside _ _ ih =>
    exact (same.addElement options owner _ (isSome_soleElement? inside)).bind fun _ _ next =>
      ih next

/-- The children of an element become the same props, with the same warnings. -/
theorem ofElement_alike (written : coupling.Writes children inner) (start : StartTag) :
    Alike Extraction.SameProps (Extraction.ofElement first.options start children)
      (Extraction.ofElement second.options start inner) := by
  have same : Extraction.add second.options = Extraction.add first.options := by
    unfold Extraction.add
    rw [coupling.specs]
  unfold Extraction.ofElement
  rw [same]
  exact foldlM_add written first.options start ⟨rfl, rfl⟩

/-- The heads of two elements differ in the props only, and in these as the coupling says. -/
theorem elementHead_alike (written : coupling.Writes children inner) (start : StartTag)
    (found : Directives) :
    Simulates coupling.keeps
      (fun head other => ∃ set, List.Forall₂ coupling.props head.props set ∧
        other = { head with props := set })
      (elementHead first start children found) (elementHead second start inner found) := by
  unfold elementHead
  rw [coupling.host, coupling.target]
  refine (Simulates.lift_self _).then fun tag => ?_
  refine (Simulates.lift (ofElement_alike written start)).bind fun extraction other same => ?_
  rw [same.warnings]
  refine (coupling.framed.warn _).then fun _ => ?_
  refine coupling.framed.currentScope.then fun scope => ?_
  refine (Simulates.lift (coupling.sets.attributeProps scope found)).bind fun props set alike => ?_
  exact (Simulates.lift_self _).then fun spread => .pure ⟨set, alike, rfl⟩

theorem leave_alike (wrapping : Wrapping) {node other : RenderNode}
    (same : coupling.alike node other) :
    Simulates coupling.keeps (List.Forall₂ coupling.alike) (do return [← wrapping.leave node])
      (do return [← wrapping.leave other]) :=
  (coupling.framed.leaveAround coupling.around wrapping same).bind fun _ _ here =>
    .pure (.cons here .nil)

theorem addTemplate_alike (owner : String) (spec : TemplateSpec) (outer : List String)
    (place : Location) {body bodies : List RenderNode}
    (same : List.Forall₂ coupling.alike body bodies) :
    Simulates coupling.keeps Eq (addTemplate owner spec outer body place)
      (addTemplate owner spec outer bodies place) := by
  cases same with
  | nil => exact .fail _ _
  | cons here _ => exact coupling.add owner spec.prop spec.arguments outer place here

/-- A choice among nodes that looks at nothing but the kind of a node and its tag. -/
structure SameChoice (isRendered isTaken : Node → Bool) : Prop where
  element : ∀ start children inner,
    isTaken (.element start inner) = isRendered (.element start children)
  text : ∀ parts other place, isTaken (.text other place) = isRendered (.text parts place)
  comment : ∀ value place, isTaken (.comment value place) = isRendered (.comment value place)

theorem sameChoice_staysInline (coupling : Coupling first second) (owner : String) :
    SameChoice (staysInline first.options owner) (staysInline second.options owner) where
  element start children inner := by rw [staysInline, staysInline, coupling.specs]
  text _ _ _ := rfl
  comment _ _ := rfl

variable (coupling) in
/-- What is rendered for two forests, whatever is chosen of them. -/
structure Runs (forest others : List Node) : Prop where
  nodes : ∀ {isRendered isTaken}, SameChoice isRendered isTaken →
    Simulates coupling.keeps coupling.Renders (resolveAll first isRendered forest)
      (resolveAll second isTaken others)
  props : ∀ owner, Simulates coupling.keeps (List.Forall₂ coupling.props)
    (liftTemplates first owner forest) (liftTemplates second owner others)
  body : Simulates coupling.keeps (List.Forall₂ coupling.alike) (resolveBody first forest)
    (resolveBody second others)

/-- One step: if the children of two elements are resolved alike, so are the elements. -/
theorem resolveNode_alike (written : coupling.Writes children inner)
    (runs : coupling.Runs children inner) (isRoot : Bool) (start : StartTag) :
    Simulates coupling.keeps (List.Forall₂ coupling.alike)
      (resolveNode first isRoot (.element start children))
      (resolveNode second isRoot (.element start inner)) := by
  unfold resolveNode
  rw [coupling.host]
  split
  · exact (coupling.declareImport start).then fun _ => .pure .nil
  · exact (coupling.declareImport start).then fun _ => .pure .nil
  · exact .fail _ _
  · refine (coupling.framed.elementDirectives isRoot start).then fun found => ?_
    refine (Simulates.lift_self _).then fun _ => ?_
    refine (coupling.framed.enterWrapping _ found).then fun wrapping => ?_
    refine (runs.nodes ⟨fun _ _ _ => rfl, fun _ _ _ => rfl, fun _ _ => rfl⟩).bind
      fun nodes others same => ?_
    exact leave_alike wrapping (coupling.group same)
  · refine (coupling.framed.elementDirectives isRoot start).then fun found => ?_
    refine (coupling.framed.enterWrapping _ found).then fun wrapping => ?_
    refine (elementHead_alike written start found).bind ?_
    rintro head _ ⟨set, alike, rfl⟩
    refine (runs.props start.name).bind fun lifted more also => ?_
    refine (runs.nodes (coupling.sameChoice_staysInline start.name)).bind fun nodes others same =>
      ?_
    exact leave_alike wrapping (coupling.element (List.rel_append alike also) same)

/-- One node more in front of forests that are resolved alike. -/
theorem resolveAll_alike {isRendered isTaken : Node → Bool} {node other : Node}
    (same : isTaken other = isRendered node)
    (here : Simulates coupling.keeps (List.Forall₂ coupling.alike) (resolveNode first false node)
      (resolveNode second false other))
    (later : Simulates coupling.keeps coupling.Renders (resolveAll first isRendered forest)
      (resolveAll second isTaken others)) :
    Simulates coupling.keeps coupling.Renders (resolveAll first isRendered (node :: forest))
      (resolveAll second isTaken (other :: others)) := by
  rw [resolveAll, resolveAll, same]
  split
  · refine here.bind fun _ _ front => later.bind fun _ _ back => ?_
    exact .pure (.append front back)
  · exact later

/-- A comment that is missing in the second forest renders a comment that is missing too. -/
theorem resolveAll_dropped {isRendered : Node → Bool} {value : String} {place : Location}
    (drops : coupling.keepsComments = false) {work : Resolve (List RenderNode)}
    (later : Simulates coupling.keeps coupling.Renders (resolveAll first isRendered forest) work) :
    Simulates coupling.keeps coupling.Renders
      (resolveAll first isRendered (.comment value place :: forest)) work := by
  rw [resolveAll]
  split
  · rw [resolveNode, pure_bind, ← bind_pure work]
    exact later.bind fun _ _ same => .pure (.dropped drops same)
  · exact later

/-- Forests that are written alike are resolved alike. -/
theorem runs_of_writes (written : coupling.Writes forest others) : coupling.Runs forest others := by
  induction written with
  | nil =>
    refine ⟨fun _ => ?_, fun owner => ?_, ?_⟩
    · rw [resolveAll, resolveAll]
      exact .pure .nil
    · rw [liftTemplates, liftTemplates]
      exact .pure .nil
    · rw [resolveBody, resolveBody]
      exact .pure .nil
  | comment kept _ ih =>
    refine ⟨fun choice => resolveAll_alike (choice.comment _ _) ?_ (ih.nodes choice), ih.props,
      ih.body⟩
    rw [resolveNode, resolveNode]
    exact .pure (.cons (coupling.comment kept _) .nil)
  | dropped drops _ ih =>
    exact ⟨fun choice => resolveAll_dropped drops (ih.nodes choice), ih.props, ih.body⟩
  | text same _ ih =>
    refine ⟨fun choice => resolveAll_alike (choice.text _ _ _) ?_ (ih.nodes choice), ih.props,
      ih.body⟩
    rw [resolveNode, resolveNode, coupling.host]
    exact .lift (coupling.writes.textNodes _ same)
  | @element start _ _ _ _ inside _ insideIh ih =>
    have here := resolveNode_alike inside insideIh false start
    refine ⟨fun choice => resolveAll_alike (choice.element _ _ _) here (ih.nodes choice),
      fun owner => ?_, here⟩
    rw [liftTemplates, liftTemplates, coupling.specs]
    split
    · exact ih.props owner
    · refine (Simulates.lift_self _).then fun spec => ?_
      refine (coupling.framed.enter _ _).then fun outer => ?_
      refine insideIh.body.bind fun body bodies same => ?_
      refine coupling.framed.leave.then fun _ => ?_
      refine (addTemplate_alike owner spec outer _ same).then fun index => ?_
      exact (ih.props owner).bind fun lifted more also =>
        .pure (.cons (coupling.sets.reference _ _) also)

/-- The same roots are found, and the same imports declared on the way. -/
theorem surveyRoots_alike (written : coupling.Writes forest others) :
    Simulates coupling.keeps
      (List.Forall₂ fun root other => other.1 = root.1 ∧ coupling.Writes root.2 other.2)
      (surveyRoots first forest) (surveyRoots second others) := by
  induction written with
  | nil => exact .pure .nil
  | comment _ _ ih => exact ih
  | dropped _ _ ih => exact ih
  | text same _ ih =>
    rw [surveyRoots, surveyRoots, coupling.writes.isBlankText same]
    split
    · exact ih
    · exact .fail _ _
  | element inside _ _ ih =>
    rw [surveyRoots, surveyRoots]
    split
    · exact (coupling.declareImport _).then fun _ => ih
    · exact ih.bind fun roots more same => .pure (.cons ⟨rfl, inside⟩ same)

theorem resolveRoot_alike (written : coupling.Writes forest others) :
    Simulates coupling.keeps (fun found other => found.1 = other.1 ∧ coupling.alike found.2 other.2)
      (resolveRoot first forest) (resolveRoot second others) := by
  refine (surveyRoots_alike written).bind fun roots more same => ?_
  cases same with
  | nil => exact .fail _ _
  | @cons root other rest others here later =>
    obtain ⟨_, children⟩ := root
    obtain ⟨start, inner⟩ := other
    obtain ⟨rfl, inside⟩ := here
    cases later with
    | nil =>
      refine (resolveNode_alike inside (runs_of_writes inside) true start).bind
        fun found partner alike => ?_
      cases alike with
      | nil => exact .fail _ _
      | cons here _ => exact .pure ⟨rfl, here⟩
    | @cons root other _ _ here _ =>
      obtain ⟨_, _⟩ := root
      obtain ⟨_, _⟩ := other
      obtain ⟨rfl, _⟩ := here
      exact .fail _ _

variable (coupling) in
/-- Results of two resolutions with a common progress. -/
structure SameResults (found other : RenderTree × List Warning) : Prop where
  root : coupling.alike found.1.root other.1.root
  stateless : found.1.stateless = other.1.stateless
  comments : other.1.comments = if coupling.keepsComments then found.1.comments else []
  progress : ∃ scope partner, coupling.keeps ⟨scope, found.1.imports, found.1.templates, found.2⟩
    ⟨partner, other.1.imports, other.1.templates, other.2⟩

/-- Templates that are written alike are resolved alike: both resolutions stop at the same error, or
give the same but for what the coupling lets differ. -/
theorem resolve_alike (initially : coupling.keeps {} {}) (written : coupling.Writes forest others) :
    Alike coupling.SameResults (resolve first forest) (resolve second others) := by
  have runs := (Simulates.declareAll coupling.declare first.target.dependencies).then fun _ =>
    resolveRoot_alike written
  unfold resolve
  rw [coupling.target]
  refine (runs {} {} initially).bind ?_
  rintro ⟨⟨stateless, root⟩, progress⟩ ⟨⟨_, partner⟩, other⟩ ⟨⟨rfl, alike⟩, kept⟩
  exact .ok ⟨alike, rfl, written.topComments_eq, _, _, kept⟩

end Coupling

end RenderTemplate
