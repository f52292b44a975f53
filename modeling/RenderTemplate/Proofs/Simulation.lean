import RenderTemplate.Proofs.Runs

namespace RenderTemplate

/-- Two computations fail alike, or succeed with results that are related. -/
inductive Alike {α β : Type} (related : α → β → Prop) :
    Except CompileError α → Except CompileError β → Prop where
  | error (error : CompileError) : Alike related (.error error) (.error error)
  | ok {first : α} {second : β} (same : related first second) :
      Alike related (.ok first) (.ok second)

namespace Alike

variable {α β γ δ : Type} {related : α → β → Prop} {further : γ → δ → Prop}

theorem of_eq {first second : Except CompileError α} (same : first = second) :
    Alike Eq first second := by
  subst same
  cases first with
  | error error => exact .error error
  | ok value => exact .ok rfl

/-- Results that are alike in a strong sense are so in a weaker one. -/
theorem mono {weaker : α → β → Prop} {first : Except CompileError α}
    {second : Except CompileError β} (alike : Alike related first second)
    (implies : ∀ value partner, related value partner → weaker value partner) :
    Alike weaker first second := by
  cases alike with
  | error error => exact .error error
  | ok same => exact .ok (implies _ _ same)

/-- Two computations are alike by a function if the second is the first with the function
applied. -/
theorem iff_eq_map {first : Except CompileError α} {second : Except CompileError β}
    {change : α → β} :
    Alike (fun value partner => partner = change value) first second ↔
      second = first.map change := by
  constructor
  · intro alike
    cases alike with
    | error error => rfl
    | ok same => exact congrArg Except.ok same
  · rintro rfl
    cases first with
    | error error => exact .error error
    | ok value => exact .ok rfl

/-- Computations in a row are alike if each is, on values that are. -/
theorem bind {first : Except CompileError α} {second : Except CompileError β}
    {next : α → Except CompileError γ} {other : β → Except CompileError δ}
    (alike : Alike related first second)
    (rest : ∀ value partner, related value partner → Alike further (next value) (other partner)) :
    Alike further (first >>= next) (second >>= other) := by
  cases alike with
  | error error => exact .error error
  | ok same => exact rest _ _ same

end Alike

namespace Resolve

variable {α β γ δ : Type} {keeps : Progress → Progress → Prop}
  {related : α → β → Prop} {further : γ → δ → Prop}

/-- Two computations that run alike whenever the progress is related, which it is afterwards too. -/
def Simulates (keeps : Progress → Progress → Prop) (related : α → β → Prop) (first : Resolve α)
    (second : Resolve β) :
    Prop :=
  ∀ before other, keeps before other →
    Alike (fun result partner => related result.1 partner.1 ∧
      keeps result.2 partner.2) (first.run before)
      (second.run other)

/-- A run that succeeds has one beside it. -/
theorem Simulates.run_ok {first second : Resolve α} {before after other : Progress} {value : α}
    (simulates : Simulates keeps Eq first second) (kept : keeps before other)
    (run : first.run before = .ok (value, after)) :
    ∃ final, second.run other = .ok (value, final) ∧ keeps after final := by
  have alike := simulates before other kept
  rw [run] at alike
  generalize beside : second.run other = result at alike
  cases alike with
  | @ok _ partner same =>
    obtain ⟨partnerValue, final⟩ := partner
    obtain ⟨rfl, keptFinal⟩ := same
    exact ⟨final, rfl, keptFinal⟩

theorem Simulates.pure {value : α} {partner : β} (same : related value partner) :
    Simulates keeps related (Pure.pure value) (Pure.pure partner) :=
  fun _ _ kept => .ok ⟨same, kept⟩

theorem Simulates.fail (fault : Fault) (place : Location) :
    Simulates keeps related (Resolve.fail fault place) (Resolve.fail fault place) :=
  fun _ _ _ => .error _

theorem Simulates.lift {first : Except CompileError α} {second : Except CompileError β}
    (alike : Alike related first second) :
    Simulates keeps related (liftM first) (liftM second) := by
  intro before other kept
  cases alike with
  | error error => exact .error error
  | ok same => exact .ok ⟨same, kept⟩

/-- Runs in a row simulate each other if each does, on values that are related. -/
theorem Simulates.bind {first : Resolve α} {second : Resolve β} {next : α → Resolve γ}
    {more : β → Resolve δ} (simulates : Simulates keeps related first second)
    (rest : ∀ value partner, related value partner →
      Simulates keeps further (next value) (more partner)) :
    Simulates keeps further (first >>= next) (second >>= more) := by
  intro before other kept
  rw [StateT.run_bind, StateT.run_bind]
  exact (simulates before other kept).bind fun result partner same => rest _ _ same.1 _ _ same.2

theorem Simulates.lift_self (work : Except CompileError α) :
    Simulates keeps Eq (liftM work) (liftM work) :=
  .lift (.of_eq rfl)

theorem Simulates.then {first second : Resolve α} {next : α → Resolve γ} {more : α → Resolve δ}
    (same : Simulates keeps Eq first second)
    (rest : ∀ value, Simulates keeps further (next value) (more value)) :
    Simulates keeps further (first >>= next) (second >>= more) := by
  refine same.bind ?_
  rintro value _ rfl
  exact rest value

theorem Simulates.declareAll
    (each : ∀ dependency place,
      Simulates keeps Eq (declare dependency place) (declare dependency place))
    (dependencies : List Dependency) :
    Simulates keeps Eq (dependencies.forM fun dependency => do let _ ← declare dependency {})
      (dependencies.forM fun dependency => do let _ ← declare dependency {}) := by
  induction dependencies with
  | nil => exact .pure rfl
  | cons dependency dependencies ih =>
    exact ((each dependency {}).then fun _ => .pure rfl).then fun _ => ih

/-- A relation of nodes that stays when the same is put around both. -/
structure KeptAround (alike : RenderNode → RenderNode → Prop) : Prop where
  conditional : ∀ test {node other}, alike node other →
    alike (.conditional test node) (.conditional test other)
  iteration : ∀ loop {node other}, alike node other →
    alike (.iteration loop node) (.iteration loop other)
  binding : ∀ block {node other}, alike node other →
    alike (.binding block node) (.binding block other)

theorem KeptAround.eq : KeptAround Eq where
  conditional _ _ _ same := by rw [same]
  iteration _ _ _ same := by rw [same]
  binding _ _ _ same := by rw [same]

/-- A relation that each operation keeps that is about warnings and frames. -/
structure Framed (keeps : Progress → Progress → Prop) : Prop where
  warn : ∀ warnings, Simulates keeps Eq (warn warnings) (warn warnings)
  currentScope : Simulates keeps Eq currentScope currentScope
  enter : ∀ kind own, Simulates keeps Eq (enter kind own) (enter kind own)
  leave : Simulates keeps Eq leave leave

/-- A relation that each operation on the progress keeps, apart from those on imports. -/
structure Carried (keeps : Progress → Progress → Prop) : Prop extends Framed keeps where
  add : ∀ template, Simulates keeps Eq (add template) (add template)

/-- A relation that each operation on the progress keeps. -/
structure Respected (keeps : Progress → Progress → Prop) : Prop extends Carried keeps where
  declare :
    ∀ dependency place, Simulates keeps Eq (declare dependency place) (declare dependency place)

namespace Framed

variable {alike : RenderNode → RenderNode → Prop} (respected : Framed keeps)

include respected

/-- Directives are read the same, since only scopes and warnings change. -/
theorem elementDirectives (isRoot : Bool) (start : Markup.StartTag) :
    Simulates keeps Eq (elementDirectives isRoot start) (elementDirectives isRoot start) := by
  refine (Simulates.lift_self _).then fun found => (respected.warn _).then fun _ => ?_
  split
  · exact (respected.warn _).then fun _ => .pure rfl
  · exact .pure rfl

theorem enterLoop (host : HostLanguage) (directive : Option DirectiveValue) :
    Simulates keeps Eq (Wrapping.enterLoop host directive) (Wrapping.enterLoop host directive) := by
  cases directive with
  | none => exact .pure rfl
  | some directive =>
    refine (Simulates.lift_self _).then fun clause => ?_
    exact (respected.enter _ _).then fun outer => .pure rfl

theorem enterBlock (host : HostLanguage) (directive : Option DirectiveValue) :
    Simulates keeps Eq (Wrapping.enterBlock host directive)
      (Wrapping.enterBlock host directive) := by
  cases directive with
  | none => exact .pure rfl
  | some directive =>
    refine (Simulates.lift_self _).then fun aliases => ?_
    exact (respected.enter _ _).then fun outer => .pure rfl

theorem enterWrapping (host : HostLanguage) (found : Directives) :
    Simulates keeps Eq (Wrapping.enter host found) (Wrapping.enter host found) := by
  refine (respected.enterLoop host _).then fun loop => ?_
  refine (respected.enterBlock host _).then fun block => ?_
  exact (Simulates.lift_self _).then fun test => .pure rfl

theorem leaveBlock (around : KeptAround alike) (block : Option ScopeBlock) {node other : RenderNode}
    (same : alike node other) :
    Simulates keeps alike (Wrapping.leaveBlock block node) (Wrapping.leaveBlock block other) := by
  cases block with
  | none => exact .pure same
  | some block => exact respected.leave.then fun _ => .pure (around.binding block same)

theorem leaveLoop (around : KeptAround alike) (loop : Option Loop) {node other : RenderNode}
    (same : alike node other) :
    Simulates keeps alike (Wrapping.leaveLoop loop node) (Wrapping.leaveLoop loop other) := by
  cases loop with
  | none => exact .pure same
  | some loop => exact respected.leave.then fun _ => .pure (around.iteration loop same)

/-- Nodes that are alike are so with the same around them. -/
theorem leaveAround (around : KeptAround alike) (wrapping : Wrapping) {node other : RenderNode}
    (same : alike node other) :
    Simulates keeps alike (wrapping.leave node) (wrapping.leave other) := by
  have tested :
      alike (Wrapping.testNode wrapping.test node) (Wrapping.testNode wrapping.test other) := by
    cases wrapping.test with
    | none => exact same
    | some test => exact around.conditional test same
  exact (respected.leaveBlock around wrapping.block tested).bind fun _ _ inner =>
    respected.leaveLoop around wrapping.loop inner

theorem leaveWrapping (wrapping : Wrapping) (node : RenderNode) :
    Simulates keeps Eq (wrapping.leave node) (wrapping.leave node) :=
  respected.leaveAround .eq wrapping rfl

end Framed

namespace Respected

variable (respected : Respected keeps)

include respected

theorem declareImport (setting : Setting) (start : Markup.StartTag) :
    Simulates keeps Eq (declareImport setting start) (declareImport setting start) := by
  refine (Simulates.lift_self _).then fun dependency => ?_
  exact (respected.declare dependency _).then fun added => respected.warn _

theorem declareAll (dependencies : List Dependency) :
    Simulates keeps Eq (dependencies.forM fun dependency =>
      do let _ ← Resolve.declare dependency {})
      (dependencies.forM fun dependency => do let _ ← Resolve.declare dependency {}) :=
  .declareAll respected.declare dependencies

end Respected

end Resolve

end RenderTemplate
