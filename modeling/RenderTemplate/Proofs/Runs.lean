import Mathlib.Data.List.Forall2
import RenderTemplate.Resolution

namespace RenderTemplate

/-- The scope is the same again, and templates were added only. -/
structure Progress.Extends (before after : Progress) : Prop where
  scope : after.scope = before.scope
  templates : before.templates <+: after.templates

namespace Progress.Extends

theorem refl (progress : Progress) : progress.Extends progress :=
  ⟨rfl, List.prefix_rfl⟩

theorem trans {first second third : Progress} (earlier : first.Extends second)
    (later : second.Extends third) :
    first.Extends third :=
  ⟨later.scope.trans earlier.scope, earlier.templates.trans later.templates⟩

/-- Work inside one more frame leaves the scope as it was once that frame is taken off. -/
theorem leave {before inside : Progress} {kind : FrameKind} {own : List String}
    (work : ({ before with scope := before.scope.push kind own } : Progress).Extends inside) :
    before.Extends { inside with scope := inside.scope.pop } := by
  have restored : inside.scope.pop = before.scope := by
    rw [work.scope]
    rfl
  exact ⟨restored, work.templates⟩

end Progress.Extends

/-- A computation of two steps that succeeds is made of two that do. -/
theorem bind_ok {ε α β : Type} {work : Except ε α} {next : α → Except ε β} {result : β} :
    (work >>= next) = .ok result ↔ ∃ value, work = .ok value ∧ next value = .ok result := by
  cases work with
  | error error => simp [bind, Except.bind]
  | ok value => simp [bind, Except.bind]

theorem pure_ok {ε α : Type} {value result : α} :
    (pure value : Except ε α) = .ok result ↔ value = result := by
  simp [pure, Except.pure]

/-- A result of a computation that is seen belongs to a computation that succeeds. -/
theorem exists_ok_of_toOption {ε α β : Type} {work : Except ε α} {view : α → β} {seen : β}
    (found : work.toOption.map view = some seen) :
    ∃ value, work = .ok value ∧ view value = seen := by
  cases work with
  | error error => cases found
  | ok value => exact ⟨value, rfl, Option.some.inj found⟩

theorem mapM_eq_ok_iff {ε α β : Type} {read : α → Except ε β} {items : List α} {results : List β} :
    items.mapM read = .ok results ↔
      List.Forall₂ (fun item result => read item = .ok result) items results := by
  induction items generalizing results with
  | nil => rw [List.mapM_nil, pure_ok, List.forall₂_nil_left_iff, eq_comm]
  | cons item items ih =>
    simp only [List.mapM_cons, bind_ok, pure_ok, ih, List.forall₂_cons_left_iff]
    constructor
    · rintro ⟨result, first, rest, later, rfl⟩
      exact ⟨result, rest, first, later, rfl⟩
    · rintro ⟨result, rest, first, later, rfl⟩
      exact ⟨result, first, rest, later, rfl⟩

/-- What is found for the members of a list is found for one of them each. -/
theorem mem_of_mapM_ok {ε α β : Type} {read : α → Except ε β} {items : List α} {results : List β}
    (run : items.mapM read = .ok results) {result : β} (member : result ∈ results) :
    ∃ item ∈ items, read item = .ok result := by
  induction items generalizing results with
  | nil =>
    rw [List.mapM_nil, pure_ok] at run
    subst run
    simp at member
  | cons item items ih =>
    rw [List.mapM_cons] at run
    obtain ⟨first, read, run⟩ := bind_ok.mp run
    obtain ⟨rest, later, run⟩ := bind_ok.mp run
    obtain rfl := pure_ok.mp run
    rcases List.mem_cons.mp member with rfl | member
    · exact ⟨item, List.mem_cons_self, read⟩
    · obtain ⟨other, known, found⟩ := ih later member
      exact ⟨other, List.mem_cons_of_mem _ known, found⟩

/-- What each step keeps holds after all of them. -/
theorem foldlM_ok {ε α β : Type} {step : β → α → Except ε β} {motive : β → Prop} {items : List α}
    {start result : β} (run : items.foldlM step start = .ok result) (initially : motive start)
    (keeps : ∀ state item next, motive state → step state item = .ok next → motive next) :
    motive result := by
  induction items generalizing start with
  | nil =>
    obtain rfl := pure_ok.mp run
    exact initially
  | cons item items ih =>
    rw [List.foldlM_cons] at run
    obtain ⟨middle, first, later⟩ := bind_ok.mp run
    exact ih later (keeps start item middle initially first)

/-- The entry that one piece of a scope adds to those that are known, if it is not blank. -/
theorem ScopeClause.readEntry_ok {host : HostLanguage} {place : Location}
    {known result : List ScopeAlias} {piece : String}
    (read : readEntry host place known piece = .ok result) :
    Text.isBlank piece ∧ result = known ∨
    ∃ code word, entry? piece.toList = some (code, word) ∧ isIdentifier (String.ofList word) ∧
      String.ofList word ∉ known.map (·.name) ∧ host.validate (String.ofList code) place = .ok () ∧
      result = known ++ [⟨String.ofList word, String.ofList code⟩] := by
  unfold readEntry at read
  split at read
  · next blank =>
    cases read
    exact .inl ⟨blank, rfl⟩
  · split at read
    · cases read
    · next code word found =>
      dsimp only at read
      split at read
      · cases read
      · next identifier =>
        split at read
        · cases read
        · next fresh =>
          obtain ⟨_, valid, read⟩ := bind_ok.mp read
          cases read
          exact .inr ⟨code, word, found, by simpa using identifier, by simpa using fresh, valid,
            rfl⟩

/-- What each entry of a scope keeps holds of all of them. -/
theorem ScopeClause.read_ok {host : HostLanguage} {directive : DirectiveValue}
    {motive : List ScopeAlias → Prop} {aliases : List ScopeAlias}
    (read : ScopeClause.read host directive = .ok aliases) (initially : motive [])
    (keeps : ∀ known piece code word, motive known → entry? piece = some (code, word) →
      isIdentifier (String.ofList word) →
      String.ofList word ∉ known.map (·.name) →
        host.validate (String.ofList code) directive.location = .ok () →
      motive (known ++ [⟨String.ofList word, String.ofList code⟩])) : motive aliases := by
  obtain ⟨entries, folded, read⟩ := bind_ok.mp read
  have all : motive entries := by
    refine foldlM_ok folded initially fun known piece result earlier read => ?_
    rcases readEntry_ok read with ⟨_, rfl⟩ | ⟨code, word, found, identifier, fresh, valid, rfl⟩
    · exact earlier
    · exact keeps known _ code word earlier found identifier fresh valid
  split at read
  · cases read
  · cases read
    exact all

/-- The pieces that a loop is read from. -/
theorem RepeatClause.read_ok {host : HostLanguage} {directive : DirectiveValue}
    {clause : RepeatClause} (read : RepeatClause.read host directive = .ok clause) :
    ∃ item index code, pieces? directive.value.toList = some (item, index, code) ∧
      clause =
        ⟨String.ofList item, (index.map String.ofList).getD (String.ofList item ++ "Index"),
        String.ofList code⟩ ∧
      nameFault? (Text.trim directive.value) clause.item clause.index = none ∧
      host.validate clause.collection directive.location = .ok () := by
  unfold RepeatClause.read at read
  dsimp only at read
  split at read
  · cases read
  · next item index code found =>
    split at read
    · cases read
    · next fine =>
      obtain ⟨_, valid, read⟩ := bind_ok.mp read
      cases read
      exact ⟨item, index, code, found, rfl, Option.eq_none_iff_forall_ne_some.mpr fine, valid⟩

namespace Resolve

variable {α β : Type} {before after : Progress}

theorem run_declare (dependency : Dependency) (place : Location) :
    (declare dependency place).run before = (before.imports.declare dependency place).map
      fun found => (found.1, { before with imports := found.2 }) := rfl

/-- A run of two steps that succeeds is a run of the first and one of the second from where the
first ends. -/
theorem run_bind_ok {work : Resolve α} {next : α → Resolve β} {result : β} :
    (work >>= next).run before = .ok (result, after) ↔
      ∃ value middle, work.run before = .ok (value, middle) ∧
        (next value).run middle = .ok (result, after) := by
  rw [StateT.run_bind]
  rcases work.run before with error | ⟨value, middle⟩
  · simp [bind, Except.bind]
  · constructor
    · intro run
      exact ⟨value, middle, rfl, run⟩
    · rintro ⟨_, _, first, run⟩
      cases first
      exact run

/-- What needs no progress leaves it as it is. -/
theorem run_lift_ok {work : Except CompileError α} {result : α} :
    (liftM work : Resolve α).run before = .ok (result, after) ↔ work = .ok result ∧
      before = after := by
  rw [show (liftM work : Resolve α).run before = work.bind fun value =>
    .ok (value, before) from rfl]
  cases work with
  | error error => simp [Except.bind]
  | ok value => simp [Except.bind]

theorem declare_ok {dependency : Dependency} {place : Location} {added : Bool}
    (run : (declare dependency place).run before = .ok (added, after)) :
    ∃ imports, before.imports.declare dependency place = .ok (added, imports) ∧
      after = { before with imports := imports } := by
  rw [run_declare] at run
  cases declared : before.imports.declare dependency place with
  | error error =>
    rw [declared] at run
    cases run
  | ok found =>
    rw [declared] at run
    cases run
    exact ⟨found.2, rfl, rfl⟩

end Resolve

section

variable {setting : Setting} {before after : Progress}

/-- An import changes the imports, and adds a warning at most. -/
theorem declareImport_extends {start : Markup.StartTag} {result : Unit}
    (run : (declareImport setting start).run before = .ok (result, after)) :
    before.Extends after := by
  obtain ⟨dependency, first, read, run⟩ := Resolve.run_bind_ok.mp run
  obtain ⟨_, rfl⟩ := Resolve.run_lift_ok.mp read
  obtain ⟨added, second, declared, run⟩ := Resolve.run_bind_ok.mp run
  obtain ⟨imports, _, rfl⟩ := Resolve.declare_ok declared
  cases run
  exact ⟨rfl, List.prefix_rfl⟩

/-- Reading the directives of an element adds warnings at most. -/
theorem elementDirectives_extends {isRoot : Bool} {start : Markup.StartTag} {found : Directives}
    (run : (elementDirectives isRoot start).run before = .ok (found, after)) :
    before.Extends after := by
  obtain ⟨collected, first, read, run⟩ := Resolve.run_bind_ok.mp run
  obtain ⟨_, rfl⟩ := Resolve.run_lift_ok.mp read
  obtain ⟨_, second, warned, run⟩ := Resolve.run_bind_ok.mp run
  cases warned
  split at run
  · obtain ⟨_, third, warned, run⟩ := Resolve.run_bind_ok.mp run
    cases warned
    cases run
    exact ⟨rfl, List.prefix_rfl⟩
  · cases run
    exact ⟨rfl, List.prefix_rfl⟩

/-- The directives of an element, apart from its being stateless, are those of its attributes. -/
theorem elementDirectives_ok {isRoot : Bool} {start : Markup.StartTag} {found : Directives}
    (run : (elementDirectives isRoot start).run before = .ok (found, after)) :
    ∃ collected, Directives.collect start = .ok collected ∧
      found = { collected with stateless := found.stateless } := by
  obtain ⟨collected, first, lifted, run⟩ := Resolve.run_bind_ok.mp run
  obtain ⟨read, rfl⟩ := Resolve.run_lift_ok.mp lifted
  obtain ⟨_, second, warned, run⟩ := Resolve.run_bind_ok.mp run
  refine ⟨collected, read, ?_⟩
  split at run
  · obtain ⟨_, third, warned, run⟩ := Resolve.run_bind_ok.mp run
    cases run
    rfl
  · cases run
    rfl

/-- What an element without its children was read from: its tag is known to the target, and its
props were read in a scope. -/
structure ElementHead.IsRead (setting : Setting) (scope : Scope) (head : ElementHead) : Prop where
  tag : ∃ start : Markup.StartTag, setting.target.classify start.name start.location = .ok head.tag
  props : ∃ found, attributeProps setting scope found = .ok head.props
  spread : ∃ directive, optionalExpression setting.host directive = .ok head.spread

/-- What is done for an element before its children: it adds warnings only. -/
theorem run_elementHead_ok {start : Markup.StartTag} {children : List Markup.Node}
    {found : Directives} {head : ElementHead} :
    (elementHead setting start children found).run before = .ok (head, after) ↔
      ∃ extraction, Extraction.ofElement setting.options start children = .ok extraction ∧
        setting.target.classify start.name start.location = .ok head.tag ∧
        attributeProps setting before.scope found = .ok head.props ∧
        optionalExpression setting.host found.spread = .ok head.spread ∧
          head.location = start.location ∧
        after = { before with warnings := before.warnings ++ extraction.warnings } := by
  constructor
  · intro run
    obtain ⟨tag, first, lifted, run⟩ := Resolve.run_bind_ok.mp run
    obtain ⟨classified, rfl⟩ := Resolve.run_lift_ok.mp lifted
    obtain ⟨extraction, second, lifted, run⟩ := Resolve.run_bind_ok.mp run
    obtain ⟨extracted, rfl⟩ := Resolve.run_lift_ok.mp lifted
    obtain ⟨_, third, warned, run⟩ := Resolve.run_bind_ok.mp run
    cases warned
    obtain ⟨scope, fourth, current, run⟩ := Resolve.run_bind_ok.mp run
    cases current
    obtain ⟨props, fifth, lifted, run⟩ := Resolve.run_bind_ok.mp run
    obtain ⟨read, rfl⟩ := Resolve.run_lift_ok.mp lifted
    obtain ⟨spread, sixth, lifted, run⟩ := Resolve.run_bind_ok.mp run
    obtain ⟨spreadRead, rfl⟩ := Resolve.run_lift_ok.mp lifted
    cases run
    exact ⟨extraction, extracted, classified, read, spreadRead, rfl, rfl⟩
  · obtain ⟨tag, props, spread, place⟩ := head
    rintro ⟨extraction, extracted, classified, read, spreadRead, rfl, rfl⟩
    refine Resolve.run_bind_ok.mpr ⟨tag, before, Resolve.run_lift_ok.mpr ⟨classified, rfl⟩, ?_⟩
    refine Resolve.run_bind_ok.mpr ⟨extraction, before, Resolve.run_lift_ok.mpr ⟨extracted, rfl⟩,
      ?_⟩
    refine Resolve.run_bind_ok.mpr ⟨(), _, rfl, Resolve.run_bind_ok.mpr ⟨before.scope, _, rfl, ?_⟩⟩
    refine Resolve.run_bind_ok.mpr ⟨props, _, Resolve.run_lift_ok.mpr ⟨read, rfl⟩, ?_⟩
    exact Resolve.run_bind_ok.mpr ⟨spread, _, Resolve.run_lift_ok.mpr ⟨spreadRead, rfl⟩, rfl⟩

/-- An element is read in the scope at its place. -/
theorem elementHead_ok {start : Markup.StartTag} {children : List Markup.Node} {found : Directives}
    {head : ElementHead}
    (run : (elementHead setting start children found).run before = .ok (head, after)) :
    head.IsRead setting before.scope ∧ before.Extends after := by
  obtain ⟨extraction, _, classified, read, spreadRead, _, rfl⟩ := run_elementHead_ok.mp run
  exact ⟨⟨⟨start, classified⟩, ⟨found, read⟩, ⟨_, spreadRead⟩⟩, rfl, List.prefix_rfl⟩

/-- The imports at the top of a template leave the scope and the templates alone. -/
theorem surveyRoots_extends {nodes : List Markup.Node}
    {roots : List (Markup.StartTag × List Markup.Node)}
    (run : (surveyRoots setting nodes).run before = .ok (roots, after)) : before.Extends after := by
  induction nodes generalizing before roots with
  | nil =>
    cases run
    exact .refl _
  | cons node rest ih =>
    cases node with
    | comment value place => exact ih run
    | text parts place =>
      unfold surveyRoots at run
      split at run
      · exact ih run
      · cases run
    | element start children =>
      unfold surveyRoots at run
      split at run
      · obtain ⟨_, _, declared, later⟩ := Resolve.run_bind_ok.mp run
        exact (declareImport_extends declared).trans (ih later)
      · obtain ⟨more, _, later, run⟩ := Resolve.run_bind_ok.mp run
        cases run
        exact ih later

end

end RenderTemplate
