import RenderTemplate.Diagnostic.Fault

namespace RenderTemplate

/-- What a local name stands for in a module that is imported. -/
inductive Binding where
  /-- The value of the module itself. -/
  | moduleValue
  /-- The object of all that the module exports. -/
  | allExports
  /-- The default export. -/
  | defaultExport
  /-- One member of the module. -/
  | member (name : String)
deriving DecidableEq, Repr

/-- An import under a local name from a source. -/
structure Dependency where
  localName : String
  source : String
  binding : Binding
deriving DecidableEq, Repr

/-- Imports in the order in which they were declared. -/
structure ImportTable where
  entries : List Dependency := []
deriving DecidableEq, Repr

namespace ImportTable

/-- The import under a local name. -/
def get? (table : ImportTable) (localName : String) : Option Dependency :=
  table.entries.find? (·.localName == localName)

/-- What is answered to an import that is declared, and the table afterwards: whether the import is
new, or an error if its local name is that of another one. -/
def submit (table : ImportTable) (dependency : Dependency) (place : Location) :
    Except CompileError Bool × ImportTable :=
  match table.get? dependency.localName with
  | none => (.ok true, ⟨table.entries ++ [dependency]⟩)
  | some known =>
    if known = dependency then (.ok false, table)
    else
      (.error
        ((Fault.conflictingImport dependency.localName known.source dependency.source).error place),
        table)

/-- The three things that can happen to an import that is declared. -/
theorem submit_cases (table : ImportTable) (dependency : Dependency) (place : Location) :
    (table.get? dependency.localName = none ∧
      table.submit dependency place = (.ok true, ⟨table.entries ++ [dependency]⟩)) ∨
    (table.get? dependency.localName = some dependency ∧
      table.submit dependency place = (.ok false, table)) ∨
    ∃ known, table.get? dependency.localName = some known ∧ known ≠ dependency ∧
      table.submit dependency place =
        (.error
          ((Fault.conflictingImport dependency.localName known.source dependency.source).error
          place), table) := by
  unfold submit
  cases table.get? dependency.localName with
  | none => exact .inl ⟨rfl, rfl⟩
  | some known =>
    by_cases same : known = dependency
    · subst same
      exact .inr (.inl ⟨rfl, if_pos rfl⟩)
    · exact .inr (.inr ⟨known, rfl, same, if_neg same⟩)

/-- The table with one more import, and whether it is new, unless it is refused. -/
def declare (table : ImportTable) (dependency : Dependency) (place : Location) :
    Except CompileError (Bool × ImportTable) :=
  let (answer, after) := table.submit dependency place
  answer.map fun added => (added, after)

end ImportTable

end RenderTemplate
