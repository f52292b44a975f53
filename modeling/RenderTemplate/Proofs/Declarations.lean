import Mathlib.Data.List.Induction
import RenderTemplate.Proofs.Visits

namespace RenderTemplate

/-- An import that is declared at a place. -/
structure Declaration where
  dependency : Dependency
  place : Location
deriving DecidableEq, Repr

namespace ImportTable

/-- Whether a declaration adds an import, or the error with which it is refused. -/
def answer (table : ImportTable) (call : Declaration) : Except CompileError Bool :=
  (table.submit call.dependency call.place).1

/-- The table after a declaration. -/
def next (table : ImportTable) (call : Declaration) : ImportTable :=
  (table.submit call.dependency call.place).2

/-- The table after declarations, which go on where one is refused. Under each name there is what
was declared first under it, whatever was refused since then. -/
def after (table : ImportTable) (calls : List Declaration) : ImportTable :=
  calls.foldl next table

/-- What the declarations of a sequence answer, each to the table that those before it have left. -/
def answers (table : ImportTable) : List Declaration → List (Except CompileError Bool)
  | [] => []
  | call :: later => table.answer call :: (table.next call).answers later

/-- Whether no declaration of a sequence is refused. -/
def Succeeds (table : ImportTable) (calls : List Declaration) : Prop :=
  ∀ answer ∈ table.answers calls, answer.isOk

/-- Whether imports with one local name are always the same import. -/
def Compatible (dependencies : List Dependency) : Prop :=
  ∀ first ∈ dependencies, ∀ second ∈ dependencies, first.localName = second.localName →
    first.source = second.source ∧ first.binding = second.binding

variable {table : ImportTable} {call : Declaration} {calls : List Declaration}

/-- The three things that a declaration can do. -/
theorem call_cases (table : ImportTable) (call : Declaration) :
    (table.get? call.dependency.localName = none ∧ table.answer call = .ok true ∧
      table.next call = ⟨table.entries ++ [call.dependency]⟩) ∨
    (table.get? call.dependency.localName = some call.dependency ∧ table.answer call = .ok false ∧
      table.next call = table) ∨
    ∃ known, table.get? call.dependency.localName = some known ∧ known ≠ call.dependency ∧
      table.answer call =
        .error
          ((Fault.conflictingImport call.dependency.localName known.source
          call.dependency.source).error call.place) ∧
      table.next call = table := by
  unfold answer next
  rcases table.submit_cases call.dependency call.place with
    ⟨unknown, added⟩ | ⟨found, kept⟩ | ⟨known, found, other, refused⟩
  · rw [added]
    exact .inl ⟨unknown, rfl, rfl⟩
  · rw [kept]
    exact .inr (.inl ⟨found, rfl, rfl⟩)
  · rw [refused]
    exact .inr (.inr ⟨known, found, other, rfl, rfl⟩)

theorem isOk_answer_iff :
    (table.answer call).isOk ↔ ∀ known ∈ table.get? call.dependency.localName,
      known = call.dependency := by
  rcases call_cases table call with ⟨unknown, answered, _⟩ | ⟨found, answered, _⟩
    | ⟨known, found, other, answered, _⟩
  · simp [unknown, answered, Except.isOk, Except.toBool]
  · simp [found, answered, Except.isOk, Except.toBool]
  · simp [found, answered, other, Except.isOk, Except.toBool]

/-- A declaration that is refused leaves the table as it was. -/
theorem next_of_error {error : CompileError} (refused : table.answer call = .error error) :
    table.next call = table := by
  rcases call_cases table call with ⟨_, answered, _⟩ | ⟨_, answered, _⟩ | ⟨_, _, _, _, kept⟩
  · cases answered.symm.trans refused
  · cases answered.symm.trans refused
  · exact kept

/-- A declaration keeps what the table has under a name, and gives a new name its meaning. -/
theorem get?_next (table : ImportTable) (call : Declaration) (name : String) :
    (table.next call).get? name =
      (table.get? name).or ([call.dependency].find? (·.localName == name)) := by
  have kept (known : Dependency) (found : table.get? call.dependency.localName = some known) :
      table.get? name = (table.get? name).or ([call.dependency].find? (·.localName == name)) := by
    by_cases same : call.dependency.localName = name
    · rw [← same, found, Option.some_or]
    · have absent : [call.dependency].find? (·.localName == name) = none := by simp [same]
      rw [absent, Option.or_none]
  rcases call_cases table call with ⟨_, _, added⟩ | ⟨found, _, same⟩ | ⟨known, found, _, _, same⟩
  · rw [added]
    exact List.find?_append
  · rw [same]
    exact kept _ found
  · rw [same]
    exact kept known found

theorem after_cons (table : ImportTable) (call : Declaration) (later : List Declaration) :
    table.after (call :: later) = (table.next call).after later := rfl

theorem after_concat (table : ImportTable) (calls : List Declaration) (call : Declaration) :
    table.after (calls ++ [call]) = (table.after calls).next call := by
  simp [after]

/-- Under each name, a table has what was declared first under it. -/
theorem get?_after (table : ImportTable) (calls : List Declaration) (name : String) :
    (table.after calls).get? name =
      (table.get? name).or ((calls.map (·.dependency)).find? (·.localName == name)) := by
  induction calls generalizing table with
  | nil => simp [after]
  | cons call later ih =>
    have first : (call :: later).map (·.dependency) =
        [call.dependency] ++ later.map (·.dependency) := rfl
    rw [after_cons, ih, get?_next, first, List.find?_append, Option.or_assoc]

/-- In a table that started empty, the first declaration of a name is the one that is known. -/
theorem get?_after_start (calls : List Declaration) (name : String) :
    (after {} calls).get? name = (calls.map (·.dependency)).find? (·.localName == name) := by
  rw [get?_after]
  rfl

theorem nodup_next (distinct : (table.entries.map (·.localName)).Nodup) :
    ((table.next call).entries.map (·.localName)).Nodup := by
  rcases call_cases table call with ⟨unknown, _, added⟩ | ⟨_, _, same⟩ | ⟨_, _, _, _, same⟩
  · rw [added, List.map_append, List.map_singleton, ← List.concat_eq_append, List.nodup_concat]
    exact ⟨localName_not_mem unknown, distinct⟩
  · rwa [same]
  · rwa [same]

theorem nodup_after (distinct : (table.entries.map (·.localName)).Nodup)
    (calls : List Declaration) :
    ((table.after calls).entries.map (·.localName)).Nodup := by
  induction calls generalizing table with
  | nil => exact distinct
  | cons call later ih => exact ih (nodup_next distinct)

/-- A search for the name of a dependency in a list that has it finds one with that name. -/
theorem exists_find?_of_mem {dependencies : List Dependency} {dependency : Dependency}
    (member : dependency ∈ dependencies) :
    ∃ known ∈ dependencies, known.localName = dependency.localName ∧
      dependencies.find? (·.localName == dependency.localName) = some known := by
  cases found : dependencies.find? (·.localName == dependency.localName) with
  | none =>
    have differs := List.find?_eq_none.mp found dependency member
    simp at differs
  | some known =>
    exact ⟨known, List.mem_of_find?_eq_some found, by simpa using List.find?_some found, rfl⟩

theorem get?_of_mem (distinct : (table.entries.map (·.localName)).Nodup) {dependency : Dependency}
    (member : dependency ∈ table.entries) : table.get? dependency.localName = some dependency := by
  obtain ⟨known, listed, named, found⟩ := exists_find?_of_mem member
  rw [get?, found, List.inj_on_of_nodup_map distinct listed member named]

theorem nodup_after_start (calls : List Declaration) :
    ((after {} calls).entries.map (·.localName)).Nodup := by
  have start : (({} : ImportTable).entries.map (·.localName)).Nodup := List.nodup_nil
  exact nodup_after start calls

theorem mem_dependencies_of_mem_after {dependency : Dependency}
    (member : dependency ∈ (after {} calls).entries) :
    dependency ∈ calls.map (·.dependency) := by
  have found := get?_of_mem (nodup_after_start calls) member
  rw [get?_after_start] at found
  exact List.mem_of_find?_eq_some found

/-- Nothing is refused if and only if the last table has under each name all that was declared under
it. -/
theorem succeeds_iff (table : ImportTable) (calls : List Declaration) :
    table.Succeeds calls ↔ ∀ call ∈ calls, (table.after calls).get? call.dependency.localName =
      some call.dependency := by
  induction calls generalizing table with
  | nil => simp [Succeeds, answers]
  | cons call later ih =>
    have here : (table.answer call).isOk ↔
        (table.after (call :: later)).get? call.dependency.localName = some call.dependency := by
      have named : [call.dependency].find? (·.localName == call.dependency.localName) =
          some call.dependency := by simp
      rw [isOk_answer_iff, after_cons, get?_after, get?_next, named]
      cases table.get? call.dependency.localName with
      | none => simp
      | some known => simp
    rw [List.forall_mem_cons, ← here, after_cons, ← ih (table.next call)]
    exact List.forall_mem_cons

theorem Compatible.eq {dependencies : List Dependency} (compatible : Compatible dependencies)
    {first second : Dependency} (firstMember : first ∈ dependencies)
    (secondMember : second ∈ dependencies) (named : first.localName = second.localName) :
    first = second := by
  obtain ⟨source, binding⟩ := compatible first firstMember second secondMember named
  cases first
  cases second
  simp_all

/-- Declarations go together if each is the first one of its name. -/
theorem compatible_iff (dependencies : List Dependency) :
    Compatible dependencies ↔
      ∀ dependency ∈ dependencies,
        dependencies.find? (·.localName == dependency.localName) = some dependency := by
  constructor
  · intro compatible dependency member
    obtain ⟨known, listed, named, found⟩ := exists_find?_of_mem member
    rw [found, compatible.eq listed member named]
  · intro first one oneMember other otherMember named
    have same : some one = some other := by
      rw [← first one oneMember, ← first other otherMember, named]
    cases same
    exact ⟨rfl, rfl⟩

/-- All declarations are accepted exactly if they go together. Their order does not matter to
that. -/
theorem succeeds_start_iff (calls : List Declaration) :
    Succeeds {} calls ↔ Compatible (calls.map (·.dependency)) := by
  simp only [succeeds_iff, compatible_iff, get?_after_start, List.forall_mem_map]

theorem Compatible.of_subset {first second : List Dependency} (compatible : Compatible second)
    (held : first ⊆ second) :
    Compatible first :=
  fun one oneMember other otherMember => compatible one (held oneMember) other (held otherMember)

/-- Where no names clash, a table has what was declared, in order and once. -/
theorem entries_after {calls : List Declaration}
    (compatible : Compatible (calls.map (·.dependency))) :
    (after {} calls).entries = (calls.map (·.dependency)).eraseDups := by
  induction calls using List.reverseRecOn with
  | nil => rfl
  | append_singleton calls call ih =>
    rw [List.map_append, List.map_singleton] at compatible ⊢
    have earlier := ih (compatible.of_subset (List.subset_append_left _ _))
    have first := get?_after_start calls call.dependency.localName
    rw [after_concat, List.eraseDups_append, ← earlier]
    rcases call_cases (after {} calls) call with ⟨unknown, _, added⟩ | ⟨found, _, same⟩
      | ⟨known, found, other, _, _⟩
    · have fresh : call.dependency ∉ calls.map (·.dependency) := by
        intro member
        obtain ⟨known, _, _, found⟩ := exists_find?_of_mem member
        cases (first.symm.trans unknown).symm.trans found
      have kept : [call.dependency].removeAll (calls.map (·.dependency)) = [call.dependency] := by
        simpa [List.removeAll] using fresh
      rw [added, kept]
      rfl
    · have member : call.dependency ∈ calls.map (·.dependency) :=
        List.mem_of_find?_eq_some (first.symm.trans found)
      have dropped : [call.dependency].removeAll (calls.map (·.dependency)) = [] := by
        simpa [List.removeAll] using member
      rw [same, dropped, List.eraseDups_nil, List.append_nil]
    · -- A clash is against the hypothesis: what is known was declared too.
      have search := first.symm.trans found
      have named : known.localName = call.dependency.localName := by
        simpa using List.find?_some search
      have listed := List.mem_of_find?_eq_some search
      exact absurd
        (compatible.eq (List.mem_append_left _ listed) (List.mem_append_right _ List.mem_cons_self)
        named) other

end ImportTable

open ImportTable

/-- The laws of declarations, from the empty table on. Local names stay distinct; a declaration that
is refused changes nothing, and neither does one of an import that is there, which answers that it
is not new; all of them succeed if and only if no two of them give one name two meanings, so that
their order does not matter; and then the table has each import once, where it was declared
first. -/
theorem declarations_lawful (calls : List Declaration) :
    (∀ before, before <+: calls → ((after {} before).entries.map (·.localName)).Nodup) ∧
    (∀ before call later, calls = before ++ call :: later →
      (∀ error, (after {} before).answer call = .error error →
        after {} (before ++ [call]) = after {} before) ∧
      (call.dependency ∈ (after {} before).entries →
        (after {} before).answer call = .ok false ∧
          after {} (before ++ [call]) = after {} before)) ∧
    (Succeeds {} calls ↔ Compatible (calls.map (·.dependency))) ∧
    (∀ reordered : List Declaration,
      (reordered.map (·.dependency)).Perm (calls.map (·.dependency)) →
      (Succeeds {} reordered ↔ Succeeds {} calls)) ∧
    (Succeeds {} calls → (after {} calls).entries = (calls.map (·.dependency)).eraseDups) := by
  refine ⟨fun before _ => nodup_after_start before, ?_, succeeds_start_iff calls, ?_, ?_⟩
  · intro before call later _
    rw [after_concat]
    refine ⟨fun error refused => next_of_error refused, fun member => ?_⟩
    have found := get?_of_mem (nodup_after_start before) member
    rcases call_cases (after {} before) call with ⟨unknown, _, _⟩ | ⟨_, answered, same⟩
      | ⟨known, other, differs, _, _⟩
    · cases unknown.symm.trans found
    · exact ⟨answered, same⟩
    · exact absurd (Option.some.inj (other.symm.trans found)) differs
  · intro reordered same
    rw [succeeds_start_iff, succeeds_start_iff]
    exact ⟨fun compatible => compatible.of_subset same.symm.subset, fun compatible =>
      compatible.of_subset same.subset⟩
  · intro succeeds
    exact entries_after ((succeeds_start_iff calls).mp succeeds)

end RenderTemplate
