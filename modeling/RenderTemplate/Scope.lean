namespace RenderTemplate

/-- What binds names. -/
inductive FrameKind where
  | iteration
  | scope
  | arguments
deriving DecidableEq, Repr

/-- Names that are bound together. -/
structure Frame where
  kind : FrameKind
  names : List String
deriving DecidableEq, Repr

/-- The frames around a place, the innermost first. The functions that are generated for loops,
scopes and templates close over nothing, so each one gets the names that are visible around it as
arguments, from the outermost to the innermost. -/
structure Scope where
  frames : List Frame := []
deriving DecidableEq, Repr

namespace Scope

/-- The scope inside one more frame. -/
def push (scope : Scope) (kind : FrameKind) (names : List String) : Scope :=
  ⟨⟨kind, names⟩ :: scope.frames⟩

/-- The scope around the innermost frame. -/
def pop (scope : Scope) : Scope :=
  ⟨scope.frames.tail⟩

/-- The kind of the innermost frame that binds a name. -/
def lookup (scope : Scope) (name : String) : Option FrameKind :=
  (scope.frames.find? (·.names.contains name)).map (·.kind)

/-- A list of names with one more, unless it is there. -/
def addName (names : List String) (name : String) : List String :=
  if name ∈ names then names else names ++ [name]

/-- All names that are bound, the outermost first, each once. -/
def visible (scope : Scope) : List String :=
  scope.frames.foldr (fun frame names => frame.names.foldl addName names) []

/-- The names that are bound around a construct and that it does not bind itself. -/
def outside (scope : Scope) (own : List String) : List String :=
  scope.visible.filter fun name => !own.contains name

theorem mem_addName {names : List String} {name other : String} :
    other ∈ addName names name ↔ other ∈ names ∨ other = name := by
  unfold addName
  split
  · next known =>
    constructor
    · exact .inl
    · rintro (member | rfl)
      · exact member
      · exact known
  · simp

theorem mem_foldl_addName {added names : List String} {other : String} :
    other ∈ added.foldl addName names ↔ other ∈ names ∨ other ∈ added := by
  induction added generalizing names with
  | nil => simp
  | cons name added ih => simp [ih, mem_addName, or_assoc]

/-- A name is visible if some frame binds it. -/
theorem mem_visible {scope : Scope} {name : String} :
    name ∈ scope.visible ↔ ∃ frame ∈ scope.frames, name ∈ frame.names := by
  obtain ⟨frames⟩ := scope
  induction frames with
  | nil => simp [visible]
  | cons frame frames ih =>
    simp only [visible, List.foldr_cons, mem_foldl_addName] at ih ⊢
    simp [ih, or_comm]

theorem nodup_addName {names : List String} (distinct : names.Nodup) (name : String) :
    (addName names name).Nodup := by
  unfold addName
  split
  · exact distinct
  · next fresh =>
    rw [List.nodup_append]
    refine ⟨distinct, by simp, ?_⟩
    intro first member second last
    rw [List.mem_singleton] at last
    rintro rfl
    exact fresh (last ▸ member)

theorem nodup_foldl_addName {added names : List String} (distinct : names.Nodup) :
    (added.foldl addName names).Nodup := by
  induction added generalizing names with
  | nil => exact distinct
  | cons name added ih => exact ih (nodup_addName distinct name)

/-- No name is listed twice. -/
theorem nodup_visible (scope : Scope) : scope.visible.Nodup := by
  obtain ⟨frames⟩ := scope
  induction frames with
  | nil => simp [visible]
  | cons frame frames ih => exact nodup_foldl_addName ih

end Scope

end RenderTemplate
