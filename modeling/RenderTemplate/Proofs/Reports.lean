import RenderTemplate.Compile
import RenderTemplate.Proofs.Layout
import RenderTemplate.Proofs.Runs

namespace RenderTemplate

open Markup

/-- Warnings at places that are known. -/
def WarnedAt (known : Location → Prop) (warnings : List Warning) : Prop :=
  ∀ warning ∈ warnings, warning.diagnostic.IsPlaced known

theorem WarnedAt.append {known : Location → Prop} {warnings more : List Warning}
    (first : WarnedAt known warnings) (second : WarnedAt known more) :
    WarnedAt known (warnings ++ more) :=
  List.forall_mem_append.mpr ⟨first, second⟩

theorem Oddity.isPlaced {known : Location → Prop} {place : Location} (here : known place)
    (oddity : Oddity) :
    (oddity.warning place).diagnostic.IsPlaced known :=
  ⟨place, here, rfl, rfl⟩

/-- Whether a fault does not tell of an expression without an end. -/
def Fault.isOrdinary (fault : Fault) : Bool :=
  fault.code != .unterminatedExpression

/-- What may be reported. At a place that is known any ordinary fault is allowed. The resolution
never makes up a place, and only the value of an attribute can have an expression that is never
closed. What is known and allowed is left open, so that nothing here depends on how a source is
read. -/
structure Reports where
  known : Location → Prop
  allowed : Fault → Location → Prop
  ordinary : ∀ {fault : Fault} {place : Location}, known place → fault.isOrdinary →
    allowed fault place

/-- A computation that gives what holds, or fails with a fault that is allowed at its place. -/
inductive Ends {α : Type} (reports : Reports) (holds : α → Prop) :
    Except CompileError α → Prop where
  | ok {value : α} (fine : holds value) : Ends reports holds (.ok value)
  | error {fault : Fault} {place : Location} (here : reports.allowed fault place) :
      Ends reports holds (.error (fault.error place))

namespace Ends

variable {α β : Type} {reports : Reports} {holds : α → Prop} {further : β → Prop}

theorem fault {place : Location} (here : reports.known place) {fault : Fault}
    (ordinary : fault.isOrdinary) :
    Ends reports holds (.error (fault.error place)) :=
  .error (reports.ordinary here ordinary)

/-- Computations in a row end well if each does so from where the one before has ended. -/
theorem bind {work : Except CompileError α} {next : α → Except CompileError β}
    (first : Ends reports holds work)
    (rest : ∀ value, holds value → Ends reports further (next value)) :
    Ends reports further (work >>= next) := by
  cases first with
  | ok fine => exact rest _ fine
  | error here => exact .error here

theorem map {work : Except CompileError α} {view : α → β} (ends : Ends reports holds work)
    (implies : ∀ value, holds value → further (view value)) :
    Ends reports further (work.map view) := by
  cases ends with
  | ok fine => exact .ok (implies _ fine)
  | error here => exact .error here

theorem mapM {step : α → Except CompileError β} {items : List α}
    (each : ∀ item ∈ items, Ends reports Anything (step item)) :
    Ends reports Anything (items.mapM step) := by
  induction items with
  | nil => exact .ok trivial
  | cons item items ih =>
    obtain ⟨first, later⟩ := List.forall_mem_cons.mp each
    rw [List.mapM_cons]
    exact first.bind fun _ _ => (ih later).bind fun _ _ => .ok trivial

/-- A fold ends well if each step does and keeps what the next one needs. -/
theorem foldlM {step : α → β → Except CompileError α} {items : List β} {start : α}
    (initially : holds start)
    (keeps : ∀ state, holds state → ∀ item ∈ items, Ends reports holds (step state item)) :
    Ends reports holds (items.foldlM step start) := by
  induction items generalizing start with
  | nil => exact .ok initially
  | cons item items ih =>
    rw [List.foldlM_cons]
    refine (keeps start initially item List.mem_cons_self).bind fun state fine => ?_
    exact ih fine fun state fine item member =>
      keeps state fine item (List.mem_cons_of_mem _ member)

theorem forM {step : α → Except CompileError Unit} {items : List α}
    (each : ∀ item ∈ items, Ends reports Anything (step item)) :
    Ends reports Anything (items.forM step) := by
  induction items with
  | nil => exact .ok trivial
  | cons item items ih =>
    obtain ⟨first, later⟩ := List.forall_mem_cons.mp each
    exact first.bind fun _ _ => ih later

end Ends

section

variable {reports : Reports} {place : Location} (here : reports.known place)

include here

/-- The host language refuses code at the place of the code. -/
theorem validate_ends (host : HostLanguage) (code : String) :
    Ends reports Anything (host.validate code place) := by
  unfold HostLanguage.validate
  split
  · exact .fault here rfl
  · split
    · exact .ok trivial
    · exact .fault here rfl

theorem lambda_ends (host : HostLanguage) (code : String) :
    Ends reports Anything (host.lambda code place) := by
  unfold HostLanguage.lambda
  split
  · exact .fault here rfl
  · exact .fault here rfl
  · exact .ok trivial

theorem textNodes_ends (host : HostLanguage) (parts : List Part) :
    Ends reports Anything (textNodes host parts place) := by
  unfold textNodes
  split
  · exact .ok trivial
  · refine Ends.bind (.mapM fun part _ => ?_) fun _ _ => .ok trivial
    cases part with
    | literal text => exact .ok trivial
    | expression code => exact (validate_ends here host code).bind fun _ _ => .ok trivial

/-- The parts of a value end well, provided that an unclosed expression may be reported. -/
theorem attributeParts_ends (host : HostLanguage) {value : String}
    (unclosed : ∀ index, Part.split value.toList = .error index →
      reports.allowed .unclosedInterpolation place) :
    Ends reports Anything (attributeParts host value place) := by
  unfold attributeParts
  split
  · next index failed => exact .error (unclosed index failed)
  · refine .mapM fun part _ => ?_
    cases part with
    | literal text => exact .ok trivial
    | expression code => exact (validate_ends here host code).bind fun _ _ => .ok trivial

theorem styleObject_ends (host : HostLanguage) (native : Bool) {value : String}
    (unclosed : ∀ declaration ∈ TopLevel.split ';' value, ∀ property rest index,
      Text.splitAt? [':'] declaration.toList = some (property, rest) →
        Part.split (Text.trimList rest) = .error index →
      reports.allowed .unclosedInterpolation place) :
    Ends reports Anything (Style.object host native value place) := by
  refine Ends.bind (.mapM fun declaration member => ?_) fun _ _ => .ok trivial
  have among := (List.mem_filter.mp member).1
  unfold Style.entry
  split
  · exact .fault here rfl
  · next property rest found =>
    refine (attributeParts_ends here host fun index failed => ?_).bind fun _ _ => .ok trivial
    rw [String.toList_ofList] at failed
    exact unclosed declaration among property rest index found failed

theorem readArguments_ends (text : String) :
    Ends reports Anything (TemplateSpec.readArguments text place) := by
  refine .foldlM trivial fun names _ piece _ => ?_
  unfold TemplateSpec.addArgument
  dsimp only
  split
  · exact .ok trivial
  · split
    · exact .fault here rfl
    · exact .ok trivial

theorem declareIn_ends (table : ImportTable) (dependency : Dependency) :
    Ends reports Anything (table.declare dependency place) := by
  unfold ImportTable.declare
  rcases table.submit_cases dependency place with ⟨_, added⟩ | ⟨_, kept⟩ | ⟨_, _, _, refused⟩
  · rw [added]
    exact .ok trivial
  · rw [kept]
    exact .ok trivial
  · rw [refused]
    exact .fault here rfl

theorem classify_ends (target : Target) (tag : String) :
    Ends reports Anything (target.classify tag place) := by
  unfold Target.classify
  split
  · exact .ok trivial
  · split
    · exact .ok trivial
    · exact .fault here rfl

end

theorem isOrdinary_of_nameFault? {value item index : String} {fault : Fault}
    (refused : RepeatClause.nameFault? value item index = some fault) : fault.isOrdinary := by
  unfold RepeatClause.nameFault? at refused
  split at refused
  · cases refused
    rfl
  · split at refused
    · cases refused
      rfl
    · cases refused

section

variable {reports : Reports} {directive : DirectiveValue} (here : reports.known directive.location)

include here

theorem expression_ends (host : HostLanguage) : Ends reports Anything (directive.expression host) :=
  (validate_ends here host _).bind fun _ _ => .ok trivial

theorem readRepeat_ends (host : HostLanguage) :
    Ends reports Anything (RepeatClause.read host directive) := by
  unfold RepeatClause.read
  dsimp only
  split
  · exact .fault here rfl
  · split
    · next fault refused => exact .fault here (isOrdinary_of_nameFault? refused)
    · exact (validate_ends here host _).bind fun _ _ => .ok trivial

theorem readScope_ends (host : HostLanguage) :
    Ends reports Anything (ScopeClause.read host directive) := by
  have entry (aliases : List ScopeAlias) (piece : String) :
      Ends reports Anything (ScopeClause.readEntry host directive.location aliases piece) := by
    unfold ScopeClause.readEntry
    split
    · exact .ok trivial
    · split
      · exact .fault here rfl
      · dsimp only
        split
        · exact .fault here rfl
        · split
          · exact .fault here rfl
          · exact (validate_ends here host _).bind fun _ _ => .ok trivial
  have entries : Ends reports Anything
      ((TopLevel.split ';' directive.value).foldlM (ScopeClause.readEntry host directive.location)
        []) :=
    .foldlM trivial fun aliases _ piece _ => entry aliases piece
  refine entries.bind fun aliases _ => ?_
  split
  · exact .fault here rfl
  · exact .ok trivial

theorem addClassSet_ends (setting : Setting) (props : List RenderProp) :
    Ends reports Anything (ClassSet.addTo setting props directive) :=
  (validate_ends here setting.host _).bind fun _ _ => .ok trivial

end

/-- A brace without its partner, in the value of an attribute or in that of one of its declarations,
if it is a style. -/
inductive Markup.Attribute.Unclosed (attr : Attribute) : Prop where
  | value {text : String} {index : Nat} (valued : attr.value = some text)
      (unclosed : Part.split text.toList = .error index)
  | declaration {text declaration : String} {property rest : List Char} {index : Nat}
    (style : attr.name = "style")
      (valued : attr.value = some text) (among : declaration ∈ TopLevel.split ';' text)
      (found : Text.splitAt? [':'] declaration.toList = some (property, rest))
      (unclosed : Part.split (Text.trimList rest) = .error index)

/-- Whether all that can be wrong with an attribute may be reported. -/
structure Markup.Attribute.Admitted (reports : Reports) (attr : Attribute) : Prop where
  place : reports.known attr.location
  value : attr.Unclosed → reports.allowed .unclosedInterpolation attr.location

theorem eq_style_of_propKey {target : Target} {name : String}
    (same : propKey target name = "style") :
    name = "style" := by
  unfold propKey documentProp at same
  grind

section

variable {reports : Reports} {attr : Attribute} (admitted : attr.Admitted reports)

include admitted

theorem handlerValue_ends (setting : Setting) (scope : Scope) (key value : String) :
    Ends reports Anything (handlerValue setting scope attr key value) := by
  unfold handlerValue
  dsimp only
  split
  · exact (validate_ends admitted.place setting.host _).bind fun _ _ => .ok trivial
  · exact (lambda_ends admitted.place setting.host _).bind fun _ _ => .ok trivial

theorem attributeValue_ends (setting : Setting) (scope : Scope) {key : String}
    (named : key = "style" → attr.name = "style") :
    Ends reports Anything (attributeValue setting scope attr key) := by
  unfold attributeValue
  split
  · split
    · exact .fault admitted.place rfl
    · exact .ok trivial
  · next text valued =>
    split
    · exact handlerValue_ends admitted setting scope key _
    · refine (attributeParts_ends admitted.place setting.host fun index failed => ?_).bind
        fun parts _ => ?_
      · exact admitted.value (.value valued failed)
      split
      · exact .ok trivial
      · refine (styleObject_ends admitted.place setting.host _ ?_).bind fun _ _ => .ok trivial
        intro declaration among property rest index found failed
        exact admitted.value (.declaration (named rfl) valued among found failed)
      · exact .ok trivial

theorem addProp_ends (setting : Setting) (scope : Scope) (props : List RenderProp) :
    Ends reports Anything (addProp setting scope props attr) := by
  unfold addProp
  dsimp only
  split
  · exact .fault admitted.place rfl
  · exact (attributeValue_ends admitted setting scope eq_style_of_propKey).bind fun _ _ =>
      .ok trivial

/-- A directive is at the place of its attribute. -/
theorem setOnce_ends (tag : String) (earlier : Option DirectiveValue) :
    Ends reports (fun directive => ∀ found ∈ some directive, reports.known found.location)
      (Directives.setOnce tag attr earlier) := by
  cases earlier with
  | none =>
    refine .ok ?_
    rintro _ ⟨⟩
    exact admitted.place
  | some directive => exact .fault admitted.place rfl

end

/-- Directives and attributes at places that are known. -/
structure Directives.Located (reports : Reports) (found : Directives) : Prop where
  condition : ∀ directive ∈ found.condition, reports.known directive.location
  iteration : ∀ directive ∈ found.iteration, reports.known directive.location
  scope : ∀ directive ∈ found.scope, reports.known directive.location
  classSet : ∀ directive ∈ found.classSet, reports.known directive.location
  spread : ∀ directive ∈ found.spread, reports.known directive.location
  stateless : ∀ place ∈ found.stateless, reports.known place
  plain : ∀ attr ∈ found.plain, attr.Admitted reports

theorem addDirective_ends {reports : Reports} {attr : Attribute} {found : Directives}
    (here : attr.Admitted reports) (located : found.Located reports) (tag : String) :
    Ends reports (Directives.Located reports) (Directives.add tag found attr) := by
  unfold Directives.add
  split
  · exact .ok
      { located with plain := List.forall_mem_append.mpr ⟨located.plain, by simpa using here⟩ }
  · exact (setOnce_ends here tag _).bind fun _ known => .ok { located with condition := known }
  · exact (setOnce_ends here tag _).bind fun _ known => .ok { located with iteration := known }
  · exact (setOnce_ends here tag _).bind fun _ known => .ok { located with scope := known }
  · exact (setOnce_ends here tag _).bind fun _ known => .ok { located with classSet := known }
  · exact (setOnce_ends here tag _).bind fun _ known => .ok { located with spread := known }
  · exact .ok { located with stateless := by rintro _ ⟨⟩; exact here.place }
  · exact .ok { located with }

section

variable {reports : Reports} {found : Directives} (located : found.Located reports)

include located

/-- All values of an element are refused at their attributes. -/
theorem attributeProps_ends (setting : Setting) (scope : Scope) :
    Ends reports Anything (attributeProps setting scope found) := by
  have props : Ends reports Anything (found.plain.foldlM (addProp setting scope) []) :=
    .foldlM trivial fun props _ attr member =>
      addProp_ends (located.plain attr member) setting scope props
  refine props.bind fun props _ => ?_
  split
  · next directive same => exact addClassSet_ends (located.classSet directive same) setting props
  · exact .ok trivial

end

theorem optionalExpression_ends {reports : Reports} {directive : Option DirectiveValue}
    (located : ∀ found ∈ directive, reports.known found.location) (host : HostLanguage) :
    Ends reports Anything (optionalExpression host directive) := by
  cases directive with
  | none => exact .ok trivial
  | some directive =>
    exact (expression_ends (located directive rfl) host).bind fun _ _ => .ok trivial

/-- Whether all that can be wrong with a tag may be reported. -/
structure Markup.StartTag.Admitted (reports : Reports) (start : StartTag) : Prop where
  place : reports.known start.location
  attributes : ∀ attr ∈ start.attributes, attr.Admitted reports

section

variable (reports : Reports)

mutual

/-- Whether all that can be wrong with a node may be reported. -/
def Markup.Node.Admitted : Node → Prop
  | .element start children => start.Admitted reports ∧ AdmittedAll children
  | .text _ location => reports.known location
  | .comment _ _ => True

def Markup.AdmittedAll : List Node → Prop
  | [] => True
  | node :: rest => node.Admitted ∧ AdmittedAll rest

end

end

section

variable {reports : Reports}

mutual

/-- A node is admitted if its marks are known and its unclosed values may be reported. -/
theorem Markup.Node.admitted_of_marks {node : Node}
    (places : ∀ mark ∈ node.marks, reports.known mark.location)
    (values : ∀ attr ∈ node.gather attributed, reports.known attr.location → attr.Unclosed →
      reports.allowed .unclosedInterpolation attr.location) : node.Admitted reports := by
  cases node with
  | comment => trivial
  | text parts location => exact places ⟨_, location⟩ List.mem_cons_self
  | element start children =>
    obtain ⟨here, inner⟩ := List.forall_mem_append.mp places
    obtain ⟨own, later⟩ := List.forall_mem_append.mp values
    refine ⟨⟨here ⟨_, _⟩ List.mem_cons_self, fun attr member => ?_⟩,
      admittedAll_of_marks inner later⟩
    have place := here attr.mark (List.mem_cons_of_mem _ (List.mem_map_of_mem member))
    exact ⟨place, own attr member place⟩

/-- What can be wrong with a forest may be reported if all that stands in it does so at known
places, and if it may be told of its attributes which of them have no end. -/
theorem Markup.admittedAll_of_marks {nodes : List Node}
    (places : ∀ mark ∈ marksAll nodes, reports.known mark.location)
    (values : ∀ attr ∈ gatherAll attributed nodes, reports.known attr.location → attr.Unclosed →
      reports.allowed .unclosedInterpolation attr.location) : AdmittedAll reports nodes := by
  cases nodes with
  | nil => trivial
  | cons node rest =>
    obtain ⟨here, later⟩ := List.forall_mem_append.mp places
    obtain ⟨own, others⟩ := List.forall_mem_append.mp values
    exact ⟨Node.admitted_of_marks here own, admittedAll_of_marks later others⟩

end

end

theorem Markup.AdmittedAll.node {reports : Reports} {nodes : List Node}
    (admitted : AdmittedAll reports nodes) :
    ∀ node ∈ nodes, node.Admitted reports := by
  induction nodes with
  | nil => simp
  | cons node nodes ih => exact List.forall_mem_cons.mpr ⟨admitted.1, ih admitted.2⟩

mutual

/-- Collapsing white space moves nothing, so nodes stay admitted. -/
theorem Markup.Node.admitted_collapse {reports : Reports} (kept : Bool) {node : Node}
    (admitted : node.Admitted reports) :
    (node.collapse kept).Admitted reports := by
  cases node with
  | comment | text => exact admitted
  | element start children => exact ⟨admitted.1, admittedAll_collapseAll _ admitted.2⟩

/-- Collapsing white space changes neither places nor attributes. -/
theorem Markup.admittedAll_collapseAll {reports : Reports} (kept : Bool) {nodes : List Node}
    (admitted : AdmittedAll reports nodes) : AdmittedAll reports (collapseAll kept nodes) := by
  cases nodes with
  | nil => trivial
  | cons node rest =>
    exact ⟨node.admitted_collapse kept admitted.1, admittedAll_collapseAll kept admitted.2⟩

end

theorem Markup.admittedAll_collapseWhitespace {reports : Reports} {nodes : List Node}
    (admitted : AdmittedAll reports nodes) :
    AdmittedAll reports (collapseWhitespace nodes) := by
  rw [collapseWhitespace_eq_collapseAll]
  exact admittedAll_collapseAll false admitted

section

variable {reports : Reports} {start : StartTag} (admitted : start.Admitted reports)

include admitted

theorem Markup.StartTag.Admitted.warnings (isOdd : Attribute → Bool) (oddity : Attribute → Oddity) :
    WarnedAt reports.known ((start.attributes.filter isOdd).map fun attr =>
      (oddity attr).warning attr.location) := by
  intro warning member
  obtain ⟨attr, odd, rfl⟩ := List.mem_map.mp member
  exact (oddity attr).isPlaced (admitted.attributes attr (List.mem_filter.mp odd).1).place

/-- Directives are refused at their attributes, and keep their places. -/
theorem collect_ends : Ends reports (Directives.Located reports) (Directives.collect start) := by
  have nothing : ({} : Directives).Located reports := by constructor <;> simp
  exact .foldlM nothing fun found located attr member =>
    addDirective_ends (admitted.attributes attr member) located start.name

theorem required_ends (name : String) : Ends reports Anything (Dependency.required start name) := by
  unfold Dependency.required
  split
  · exact .ok trivial
  · exact .fault admitted.place rfl

theorem ofRequire_ends : Ends reports Anything (Dependency.ofRequire start) := by
  refine (required_ends admitted "dependency").bind fun _ _ => ?_
  exact (required_ends admitted "as").bind fun _ _ => .ok trivial

theorem ofImport_ends : Ends reports Anything (Dependency.ofImport start) := by
  refine (required_ends admitted "name").bind fun name _ => ?_
  refine (required_ends admitted "from").bind fun source _ => ?_
  have binding : Ends reports Anything (Dependency.bindingOf start name) := by
    unfold Dependency.bindingOf
    split
    · exact .ok trivial
    · split
      · exact .ok trivial
      · split
        · exact .ok trivial
        · exact .fault admitted.place rfl
  refine binding.bind fun binding _ => ?_
  split
  · exact .ok trivial
  · exact .ok trivial
  · exact (required_ends admitted "as").bind fun _ _ => .ok trivial

/-- An import is refused at one of its attributes or at its tag. -/
theorem ofElement_ends : Ends reports Anything (Dependency.ofElement start) := by
  have named (dependency : Dependency) : Ends reports Anything
      (if isIdentifier dependency.localName then .ok dependency
        else .error ((Fault.invalidImportAlias dependency.localName).error start.location)) := by
    split
    · exact .ok trivial
    · exact .fault admitted.place rfl
  unfold Dependency.ofElement
  split
  · exact (ofRequire_ends admitted).bind fun dependency _ => named dependency
  · exact (ofImport_ends admitted).bind fun dependency _ => named dependency

theorem childSpec?_ends {options : Options} {owner : String}
    {spec : Except CompileError TemplateSpec}
    (isChild : childSpec? options owner start = some spec) :
    Ends reports Anything spec := by
  unfold childSpec? at isChild
  split at isChild
  · cases isChild
    unfold TemplateSpec.ofStart
    split
    · exact .fault admitted.place rfl
    · split
      · split
        · exact (readArguments_ends admitted.place _).bind fun _ _ => .ok trivial
        · exact .ok trivial
      · exact .fault admitted.place rfl
  · obtain ⟨_, _, rfl⟩ := Option.map_eq_some_iff.mp isChild
    exact .ok trivial

theorem childWarnings_placed : WarnedAt reports.known (childWarnings start) := by
  unfold childWarnings
  split
  · exact admitted.warnings _ fun attr => .ignoredTemplateAttribute attr.name
  · exact admitted.warnings _ fun attr => .ignoredTriggerDirective attr.name start.name

theorem unemittedWarnings_placed (format : ModuleFormat) (added : Bool) :
    WarnedAt reports.known (unemittedWarnings format start added) := by
  unfold unemittedWarnings
  split
  · exact List.forall_mem_singleton.mpr (Oddity.isPlaced admitted.place _)
  · simp [WarnedAt]

theorem checkGroup_ends (found : Directives) : Ends reports Anything (checkGroup start found) := by
  unfold checkGroup
  split
  · exact .fault admitted.place rfl
  · exact .ok trivial

end

/-- Children that become props are refused, or warned about, where they stand. -/
theorem extraction_ends {reports : Reports} {children : List Node}
    (admitted : AdmittedAll reports children) (options : Options) (owner : StartTag) :
    Ends reports (fun found => WarnedAt reports.known found.warnings)
      (Extraction.ofElement options owner children) := by
  refine .foldlM (by simp [WarnedAt]) fun found warned node member => ?_
  have here := admitted.node node member
  unfold Extraction.add
  split
  · next start children =>
    have admitted : start.Admitted reports := here.1
    split
    · exact .ok warned
    · next spec isChild =>
      refine (childSpec?_ends admitted isChild).bind fun spec _ => ?_
      split
      · exact .fault admitted.place rfl
      · have checked (candidate : Candidate) (place : candidate.location = start.location) :
            Ends reports Anything (Extraction.checkNew owner found.candidates candidate) := by
          unfold Extraction.checkNew
          dsimp only
          rw [place]
          split
          · exact .fault admitted.place rfl
          · split
            · exact .fault admitted.place rfl
            · exact .ok trivial
        exact (checked _ rfl).bind fun _ _ => .ok (warned.append (childWarnings_placed admitted))
  · exact .ok warned

namespace Resolve

variable {α β : Type} {reports : Reports} {holds : α → Prop} {further : β → Prop}

/-- A computation with warnings at known places so far that gives what holds and has warned at known
places only, or fails with a fault that is allowed at its place. -/
def Ends (reports : Reports) (holds : α → Prop) (work : Resolve α) : Prop :=
  ∀ before, WarnedAt reports.known before.warnings →
    RenderTemplate.Ends reports (fun result => holds result.1 ∧
      WarnedAt reports.known result.2.warnings) (work.run before)

namespace Ends

theorem pure {value : α} (fine : holds value) : Ends reports holds (Pure.pure value) :=
  fun _ warned => .ok ⟨fine, warned⟩

theorem fail {place : Location} (here : reports.known place) {fault : Fault}
    (ordinary : fault.isOrdinary) :
    Ends reports holds (Resolve.fail fault place) :=
  fun _ _ => .fault here ordinary

/-- A computation without progress ends in a run as it does by itself. -/
theorem lift {work : Except CompileError α} (ends : RenderTemplate.Ends reports holds work) :
    Ends reports holds (liftM work) := by
  intro before warned
  cases ends with
  | ok fine => exact .ok ⟨fine, warned⟩
  | error here => exact .error here

theorem bind {work : Resolve α} {next : α → Resolve β} (first : Ends reports holds work)
    (rest : ∀ value, holds value → Ends reports further (next value)) :
    Ends reports further (work >>= next) := by
  intro before warned
  rw [StateT.run_bind]
  exact (first before warned).bind fun result fine => rest _ fine.1 _ fine.2

theorem warn {warnings : List Warning} (here : WarnedAt reports.known warnings) :
    Ends reports Anything (Resolve.warn warnings) :=
  fun _ warned => .ok ⟨trivial, warned.append here⟩

theorem currentScope : Ends reports Anything Resolve.currentScope :=
  fun _ warned => .ok ⟨trivial, warned⟩

theorem enter (kind : FrameKind) (own : List String) :
    Ends reports Anything (Resolve.enter kind own) :=
  fun _ warned => .ok ⟨trivial, warned⟩

theorem leave : Ends reports Anything Resolve.leave :=
  fun _ warned => .ok ⟨trivial, warned⟩

theorem add (template : PropTemplate) : Ends reports Anything (Resolve.add template) :=
  fun _ warned => .ok ⟨trivial, warned⟩

theorem declare {place : Location} (here : reports.known place) (dependency : Dependency) :
    Ends reports Anything (Resolve.declare dependency place) := by
  intro before warned
  rw [Resolve.run_declare]
  exact (declareIn_ends here before.imports dependency).map fun _ _ => ⟨trivial, warned⟩

theorem declareAll (root : reports.known {}) (dependencies : List Dependency) :
    Ends reports Anything (dependencies.forM fun dependency =>
      do let _ ← Resolve.declare dependency {}) := by
  have single (dependency : Dependency) :
      Ends reports Anything (do let _ ← Resolve.declare dependency {} : Resolve Unit) :=
    (declare root dependency).bind fun _ _ => .pure trivial
  induction dependencies with
  | nil => exact .pure trivial
  | cons dependency dependencies ih => exact (single dependency).bind fun _ _ => ih

end Ends

variable {start : StartTag} (admitted : start.Admitted reports)

include admitted in
theorem declareImport_ends (setting : Setting) :
    Ends reports Anything (declareImport setting start) := by
  refine (Ends.lift (ofElement_ends admitted)).bind fun dependency _ => ?_
  exact (Ends.declare admitted.place dependency).bind fun added _ =>
    .warn (unemittedWarnings_placed admitted _ added)

include admitted in
theorem elementDirectives_ends (isRoot : Bool) :
    Ends reports (Directives.Located reports) (elementDirectives isRoot start) := by
  refine (Ends.lift (collect_ends admitted)).bind fun found located => ?_
  refine (Ends.warn (admitted.warnings _ fun attr => .unknownDirective attr.name)).bind fun _ _ =>
    ?_
  split
  · next place stateless =>
    have here := located.stateless place stateless
    refine (Ends.warn (List.forall_mem_singleton.mpr (Oddity.isPlaced here _))).bind fun _ _ => ?_
    exact .pure { located with stateless := by simp }
  · exact .pure located

theorem enterWrapping_ends {found : Directives} (located : found.Located reports)
    (host : HostLanguage) :
    Ends reports Anything (Wrapping.enter host found) := by
  have loop : Ends reports Anything (Wrapping.enterLoop host found.iteration) := by
    cases same : found.iteration with
    | none => exact .pure trivial
    | some directive =>
      refine (Ends.lift (readRepeat_ends (located.iteration directive same) host)).bind
        fun clause _ => ?_
      exact (Ends.enter _ _).bind fun _ _ => .pure trivial
  have block : Ends reports Anything (Wrapping.enterBlock host found.scope) := by
    cases same : found.scope with
    | none => exact .pure trivial
    | some directive =>
      refine (Ends.lift (readScope_ends (located.scope directive same) host)).bind fun aliases _ =>
        ?_
      exact (Ends.enter _ _).bind fun _ _ => .pure trivial
  refine loop.bind fun _ _ => block.bind fun _ _ => ?_
  exact (Ends.lift (optionalExpression_ends located.condition host)).bind fun _ _ => .pure trivial

theorem leaveWrapping_ends (wrapping : Wrapping) (node : RenderNode) :
    Ends reports Anything (wrapping.leave node) := by
  have block (node : RenderNode) :
      Ends reports Anything (Wrapping.leaveBlock wrapping.block node) := by
    cases wrapping.block with
    | none => exact .pure trivial
    | some block => exact Ends.leave.bind fun _ _ => .pure trivial
  refine (block _).bind fun node _ => ?_
  unfold Wrapping.leaveLoop
  split
  · exact .pure trivial
  · exact Ends.leave.bind fun _ _ => .pure trivial

include admitted in
/-- The head of an element ends well if its children are admitted and its directives located. -/
theorem elementHead_ends {children : List Node} {found : Directives}
    (inner : AdmittedAll reports children) (located : found.Located reports) (setting : Setting) :
    Ends reports Anything (elementHead setting start children found) := by
  refine (Ends.lift (classify_ends admitted.place _ _)).bind fun tag _ => ?_
  refine (Ends.lift (extraction_ends inner _ _)).bind fun extraction warned => ?_
  refine (Ends.warn warned).bind fun _ _ => Ends.currentScope.bind fun scope _ => ?_
  refine (Ends.lift (attributeProps_ends located setting scope)).bind fun props _ => ?_
  exact (Ends.lift (optionalExpression_ends located.spread _)).bind fun _ _ => .pure trivial

theorem addTemplate_ends {place : Location} (here : reports.known place) (owner : String)
    (spec : TemplateSpec) (outer : List String) (body : List RenderNode) :
    Ends reports Anything (addTemplate owner spec outer body place) := by
  cases body with
  | nil => exact .fail here rfl
  | cons node rest => exact .add _

mutual

/-- Resolving a node ends well if the node is admitted. The induction is over the node, with its
children, templates and bodies. -/
theorem resolveNode_ends (setting : Setting) (isRoot : Bool) (node : Node)
    (admitted : node.Admitted reports) :
    Ends reports Anything (resolveNode setting isRoot node) := by
  cases node with
  | comment value place => exact .pure trivial
  | text parts place => exact .lift (textNodes_ends admitted _ _)
  | element start children =>
    obtain ⟨here, inner⟩ := admitted
    rw [resolveNode]
    split
    · exact (declareImport_ends here setting).bind fun _ _ => .pure trivial
    · exact (declareImport_ends here setting).bind fun _ _ => .pure trivial
    · exact .fail here.place rfl
    · refine (elementDirectives_ends here isRoot).bind fun found located => ?_
      refine (Ends.lift (checkGroup_ends here found)).bind fun _ _ => ?_
      refine (enterWrapping_ends located setting.host).bind fun wrapping _ => ?_
      refine (resolveAll_ends setting _ children inner).bind fun nodes _ => ?_
      exact (leaveWrapping_ends wrapping _).bind fun _ _ => .pure trivial
    · refine (elementDirectives_ends here isRoot).bind fun found located => ?_
      refine (enterWrapping_ends located setting.host).bind fun wrapping _ => ?_
      refine (elementHead_ends here inner located setting).bind fun head _ => ?_
      refine (liftTemplates_ends setting start.name children inner).bind fun lifted _ => ?_
      refine (resolveAll_ends setting _ children inner).bind fun nodes _ => ?_
      exact (leaveWrapping_ends wrapping _).bind fun _ _ => .pure trivial

theorem resolveAll_ends (setting : Setting) (isRendered : Node → Bool) (nodes : List Node)
    (admitted : AdmittedAll reports nodes) :
    Ends reports Anything (resolveAll setting isRendered nodes) := by
  cases nodes with
  | nil => exact .pure trivial
  | cons node rest =>
    obtain ⟨here, later⟩ := admitted
    have others := resolveAll_ends setting isRendered rest later
    rw [resolveAll]
    split
    · refine (resolveNode_ends setting false node here).bind fun _ _ => ?_
      exact others.bind fun _ _ => .pure trivial
    · exact others

theorem liftTemplates_ends (setting : Setting) (owner : String) (nodes : List Node)
    (admitted : AdmittedAll reports nodes) :
    Ends reports Anything (liftTemplates setting owner nodes) := by
  cases nodes with
  | nil => exact .pure trivial
  | cons node rest =>
    obtain ⟨here, later⟩ := admitted
    have others := liftTemplates_ends setting owner rest later
    cases node with
    | comment | text => exact others
    | element start children =>
      obtain ⟨here, inner⟩ := here
      rw [liftTemplates]
      split
      · exact others
      · next spec isChild =>
        refine (Ends.lift (childSpec?_ends here isChild)).bind fun spec _ => ?_
        refine (Ends.enter _ _).bind fun outer _ => ?_
        refine (resolveBody_ends setting children inner).bind fun body _ => ?_
        refine Ends.leave.bind fun _ _ => ?_
        refine (addTemplate_ends here.place owner spec outer body).bind fun _ _ => ?_
        exact others.bind fun _ _ => .pure trivial

theorem resolveBody_ends (setting : Setting) (nodes : List Node)
    (admitted : AdmittedAll reports nodes) :
    Ends reports Anything (resolveBody setting nodes) := by
  cases nodes with
  | nil => exact .pure trivial
  | cons node rest =>
    obtain ⟨here, later⟩ := admitted
    cases node with
    | comment | text => exact resolveBody_ends setting rest later
    | element start children => exact resolveNode_ends setting false (.element start children) here

end

/-- The roots of a template are among what stands in it. -/
theorem surveyRoots_ends (setting : Setting) {nodes : List Node}
    (admitted : AdmittedAll reports nodes) :
    Ends reports (fun roots => ∀ root ∈ roots, (Node.element root.1 root.2).Admitted reports)
      (surveyRoots setting nodes) := by
  induction nodes with
  | nil => exact .pure (by simp)
  | cons node rest ih =>
    obtain ⟨here, later⟩ := admitted
    cases node with
    | comment value place => exact ih later
    | text parts place =>
      rw [surveyRoots]
      split
      · exact ih later
      · exact .fail here rfl
    | element start children =>
      rw [surveyRoots]
      split
      · exact (declareImport_ends here.1 setting).bind fun _ _ => ih later
      · exact (ih later).bind fun roots others => .pure (List.forall_mem_cons.mpr ⟨here, others⟩)

/-- The start of the source has to be known too, for errors about the whole template are reported
there. -/
theorem resolveRoot_ends (root : reports.known {}) (setting : Setting) {nodes : List Node}
    (admitted : AdmittedAll reports nodes) : Ends reports Anything (resolveRoot setting nodes) := by
  refine (surveyRoots_ends setting admitted).bind fun roots located => ?_
  split
  · exact .fail root rfl
  · next start children =>
    have here := located (start, children) List.mem_cons_self
    refine (resolveNode_ends setting true (.element start children) here).bind fun rendered _ => ?_
    split
    · exact .fail here.1.place rfl
    · exact .pure trivial
  · next start children _ =>
    have here := located (start, children) (List.mem_cons_of_mem _ List.mem_cons_self)
    exact .fail here.1.place rfl

end Resolve

section

variable {reports : Reports} (root : reports.known {})

include root

/-- What the resolution reports is allowed, if that is so of all that can be wrong with a
template. -/
theorem resolve_ends (setting : Setting) {nodes : List Node}
    (admitted : AdmittedAll reports nodes) :
    Ends reports (fun found => WarnedAt reports.known found.2) (resolve setting nodes) := by
  have work := (Resolve.Ends.declareAll root setting.target.dependencies).bind fun _ _ =>
    Resolve.resolveRoot_ends root setting admitted
  refine (work {} (by simp [WarnedAt])).bind fun found fine => ?_
  exact .ok fine.2

theorem checkSpec_ends (owner child : String) (spec : TemplateSpec) :
    Ends reports Anything (Options.checkSpec owner child spec) := by
  unfold Options.checkSpec
  split
  · split
    · exact .fault root rfl
    · exact .ok trivial
  · exact .fault root rfl

theorem validateOptions_ends (options : Options) : Ends reports Anything options.validate := by
  unfold Options.validate
  split
  · exact .fault root rfl
  · split
    · exact .fault root rfl
    · exact .forM fun entry _ => .forM fun child _ => checkSpec_ends root _ _ _

end

end RenderTemplate
