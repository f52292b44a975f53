import RenderTemplate.Proofs.Commas
import RenderTemplate.Proofs.Declarations
import RenderTemplate.Proofs.HelperNames

namespace RenderTemplate

/-- What is read of a module that is imported, if it is not all of it. -/
def Binding.access? : Binding → Option String
  | .moduleValue | .allExports => none
  | .defaultExport => some ".default"
  | .member name => some ("." ++ name)

namespace Factory

/-- The name that is made up for the parameter at a position, if one is needed. It is an identifier
like all others, so an import can have it as its own name. -/
def madeUp? (found : Dependency × Nat) : Option String :=
  found.1.binding.access?.map fun _ => "$" ++ toString found.2

/-- The parameter for an import at a position. -/
def parameter (found : Dependency × Nat) : String :=
  (madeUp? found).getD found.1.localName

/-- The variable for an import at a position, if it needs one, with its value. -/
def assigned? (found : Dependency × Nat) : Option (String × String) :=
  found.1.binding.access?.map fun access => (found.1.localName, "$" ++ toString found.2 ++ access)

def sources (imports : List Dependency) : List String :=
  imports.map fun dependency => Text.margin 1 ++ quote dependency.source

def parameters (imports : List Dependency) : List String :=
  imports.zipIdx.map parameter

/-- The variables that are set from parameters, with their values. -/
def assignments (imports : List Dependency) : List (String × String) :=
  imports.zipIdx.filterMap assigned?

/-- The names that are made up for parameters. -/
def madeUpNames (imports : List Dependency) : List String :=
  imports.zipIdx.filterMap madeUp?

/-- All names that a factory binds for its imports, as often as it binds them. -/
def boundNames (imports : List Dependency) : List String :=
  parameters imports ++ (assignments imports).map (·.1)

/-- The text of a definition with an array of sources, and with a function of parameters and
statements. -/
def text (name : Option String) (sources parameters statements : List String) : String :=
  "define(" ++ (name.map fun name => quote name ++ ", ").getD "" ++ "[\n" ++
    ",\n".intercalate sources ++
    "\n], function (" ++ ", ".intercalate parameters ++ ") \x7b\n" ++
    Text.indent ("\n".intercalate statements) 1 ++
    "\n\x7d);\n"

/-- Whether an import has its name from the position of its source: as the parameter there, or as
a variable that is set to the wanted part of that parameter. -/
def BindsAt (imports : List Dependency) (index : Nat) (dependency : Dependency) : Prop :=
  match dependency.binding with
  | .moduleValue | .allExports => (parameters imports)[index]? = some dependency.localName
  | .defaultExport => ∃ parameter, (parameters imports)[index]? = some parameter ∧
      (dependency.localName, parameter ++ ".default") ∈ assignments imports
  | .member name => ∃ parameter, (parameters imports)[index]? = some parameter ∧
      (dependency.localName, parameter ++ ("." ++ name)) ∈ assignments imports

variable {imports : List Dependency} {index : Nat} {dependency : Dependency}

/-- The lines for an import, in two parts: the parameter, and the variable that is set from it if it
has one. -/
theorem amdBinding_eq (found : Dependency × Nat) :
    ModuleParts.amdBinding found.1 found.2 =
      (parameter found, (assigned? found).map fun entry =>
        ModuleParts.assignment entry.1 entry.2) := by
  obtain ⟨⟨localName, source, binding⟩, index⟩ := found
  cases binding with
  | moduleValue => rfl
  | allExports => rfl
  | defaultExport => rfl
  | member name =>
    have joined : "$" ++ toString index ++ "." ++ name = "$" ++ toString index ++ ("." ++ name) :=
      String.append_assoc
    change (_, some (ModuleParts.assignment localName ("$" ++ toString index ++ "." ++ name))) = _
    rw [joined]
    rfl

/-- A module definition has the sources and parameters of its imports, and sets their variables
first. -/
theorem amd_eq_text (parts : ModuleParts) :
    parts.amd = text parts.name (sources parts.imports) (parameters parts.imports)
      (ModuleParts.useStrict :: (assignments parts.imports).map (fun entry =>
        ModuleParts.assignment entry.1 entry.2) ++
        parts.preamble ++ ["return " ++ parts.render.hoisted ++ ";"]) := by
  let bindings := parts.imports.zipIdx.map fun found => ModuleParts.amdBinding found.1 found.2
  have named : bindings.map (·.1) = parameters parts.imports := by
    rw [List.map_map]
    exact List.map_congr_left fun found _ => congrArg Prod.fst (amdBinding_eq found)
  have statements : bindings.filterMap (·.2) =
      (assignments parts.imports).map fun entry => ModuleParts.assignment entry.1 entry.2 := by
    rw [List.filterMap_map, assignments, List.map_filterMap]
    exact List.filterMap_congr fun found _ => congrArg Prod.snd (amdBinding_eq found)
  rw [← named, ← statements]
  rfl

theorem getElem?_parameters (found : imports[index]? = some dependency) :
    (parameters imports)[index]? = some (parameter (dependency, index)) := by
  rw [parameters, List.getElem?_map, List.getElem?_zipIdx, found, Nat.zero_add]
  rfl

theorem mem_zipIdx (found : imports[index]? = some dependency) :
    (dependency, index) ∈ imports.zipIdx :=
  List.mem_zipIdx_iff_getElem?.mpr found

theorem bindsAt (found : imports[index]? = some dependency) : BindsAt imports index dependency := by
  have listed := getElem?_parameters found
  have assigned (entry : String × String) (made : assigned? (dependency, index) = some entry) :
      entry ∈ assignments imports := List.mem_filterMap.mpr ⟨_, mem_zipIdx found, made⟩
  obtain ⟨localName, source, binding⟩ := dependency
  cases binding with
  | moduleValue => exact listed
  | allExports => exact listed
  | defaultExport => exact ⟨_, listed, assigned _ rfl⟩
  | member name => exact ⟨_, listed, assigned _ rfl⟩

theorem locals_zipIdx (imports : List Dependency) :
    imports.zipIdx.map (fun entry => entry.1.localName) = imports.map (·.localName) := by
  have composed : (fun entry : Dependency × Nat => entry.1.localName) =
      (fun dependency => dependency.localName) ∘ Prod.fst := rfl
  rw [composed, ← List.map_map, List.zipIdx_map_fst]

/-- What is bound besides the local names of the imports are the names that are made up. -/
theorem boundNames_perm (imports : List Dependency) :
    (boundNames imports).Perm (imports.map (·.localName) ++ madeUpNames imports) := by
  have numbered (found : List (Dependency × Nat)) :
      (found.map parameter ++ (found.filterMap assigned?).map (·.1)).Perm
        (found.map (fun entry => entry.1.localName) ++ found.filterMap madeUp?) := by
    induction found with
    | nil => exact .refl _
    | cons entry rest ih =>
      cases access : entry.1.binding.access? with
      | none =>
        have none : madeUp? entry = none := by rw [madeUp?, access, Option.map_none]
        have unassigned : assigned? entry = .none := by rw [assigned?, access, Option.map_none]
        have whole : parameter entry = entry.1.localName := by
          rw [parameter, none, Option.getD_none]
        rw [List.map_cons, List.map_cons, List.filterMap_cons_none unassigned,
          List.filterMap_cons_none none, whole]
        exact ih.cons _
      | some part =>
        have made : madeUp? entry = some ("$" ++ toString entry.2) := by
          rw [madeUp?, access, Option.map_some]
        have assigned : assigned? entry =
            some (entry.1.localName, "$" ++ toString entry.2 ++ part) := by
          rw [assigned?, access, Option.map_some]
        have named : parameter entry = "$" ++ toString entry.2 := by
          rw [parameter, made, Option.getD_some]
        rw [List.map_cons, List.map_cons, List.filterMap_cons_some assigned,
          List.filterMap_cons_some made, named, List.map_cons, List.cons_append, List.cons_append]
        have swapped :=
          (ih.cons entry.1.localName).cons ("$" ++ toString entry.2) |>.trans (.swap _ _ _)
        exact (List.perm_middle.cons _).trans (swapped.trans (List.perm_middle.symm.cons _))
  rw [← locals_zipIdx]
  exact numbered imports.zipIdx

/-- Names that are made up for different positions are different. -/
theorem nodup_madeUpNames (imports : List Dependency) : (madeUpNames imports).Nodup := by
  have positions : imports.zipIdx.Pairwise fun first second => first.2 ≠ second.2 := by
    have distinct := List.nodup_range' (s := 0) (n := imports.length)
    rw [← List.zipIdx_map_snd 0 imports] at distinct
    exact List.pairwise_map.mp distinct
  refine List.pairwise_filterMap.mpr
    (positions.imp fun {first second} apart name made other again same => apart ?_)
  obtain ⟨_, _, rfl⟩ := Option.map_eq_some_iff.mp made
  obtain ⟨_, _, rfl⟩ := Option.map_eq_some_iff.mp again
  exact toString_inj (String.append_right_inj _ |>.mp same)

/-- Different names are set, since the names of imports differ. -/
theorem nodup_assignments (distinct : (imports.map (·.localName)).Nodup) :
    ((assignments imports).map (·.1)).Nodup := by
  have kept (found : List (Dependency × Nat)) :
      ((found.filterMap assigned?).map (·.1)).Sublist (found.map fun entry =>
        entry.1.localName) := by
    induction found with
    | nil => exact .slnil
    | cons entry rest ih =>
      cases assigned : assigned? entry with
      | none =>
        rw [List.filterMap_cons_none assigned]
        exact ih.cons _
      | some value =>
        obtain ⟨_, _, rfl⟩ := Option.map_eq_some_iff.mp assigned
        rw [List.filterMap_cons_some assigned]
        exact ih.cons_cons _
  have held := kept imports.zipIdx
  rw [locals_zipIdx] at held
  exact distinct.sublist held

/-- A factory binds no name twice if and only if no import has a name that is made up. -/
theorem boundOnce_iff (distinct : (imports.map (·.localName)).Nodup) :
    (parameters imports).Nodup ∧
      (∀ name ∈ parameters imports, name ∉ (assignments imports).map (·.1)) ↔
      ∀ dependency ∈ imports, dependency.localName ∉ madeUpNames imports := by
  have once := (boundNames_perm imports).nodup_iff
  rw [boundNames, List.nodup_append', List.nodup_append', List.disjoint_left, List.disjoint_left]
    at once
  constructor
  · rintro ⟨parametersDistinct, apart⟩ dependency member
    have apart := (once.mp ⟨parametersDistinct, nodup_assignments distinct, apart⟩).2.2
    exact apart (List.mem_map_of_mem member)
  · intro apart
    have names : ∀ name ∈ imports.map (·.localName), name ∉ madeUpNames imports := by
      rw [List.forall_mem_map]
      exact apart
    have bound := once.mpr ⟨distinct, nodup_madeUpNames imports, fun name => names name⟩
    exact ⟨bound.1, bound.2.2⟩

/-- An import is the only one to bind its name exactly if the name is none of those that are made
up. -/
theorem count_boundNames (distinct : (imports.map (·.localName)).Nodup)
    (member : dependency ∈ imports) :
    (boundNames imports).count dependency.localName = 1 ↔
      dependency.localName ∉ madeUpNames imports := by
  have here : (imports.map (·.localName)).count dependency.localName = 1 :=
    List.count_eq_one_of_mem distinct (List.mem_map_of_mem member)
  rw [(boundNames_perm imports).count_eq, List.count_append, here, ← List.count_eq_zero]
  omega

/-- A parameter is a name, with no comma in it. -/
theorem isQuiet_parameter (named : isIdentifier dependency.localName) (index : Nat) :
    isQuiet (parameter (dependency, index)) := by
  unfold parameter madeUp?
  cases dependency.binding.access? with
  | none => exact isQuiet_of_isIdentifier named
  | some access =>
    have dollar : isQuiet "$" := by decide
    rw [Option.map_some, Option.getD_some, isQuiet_append, dollar, isQuiet_toString, Bool.and_self]

/-- The parameters can be read between the commas of their list. -/
theorem split_parameters (named : ∀ dependency ∈ imports, isIdentifier dependency.localName)
    (nonempty : imports ≠ []) :
    TopLevel.split ',' (", ".intercalate (parameters imports)) = padded (parameters imports) := by
  have quiet : ∀ name ∈ parameters imports, isQuiet name := by
    rw [parameters, List.forall_mem_map]
    intro found member
    exact isQuiet_parameter (named found.1 (List.fst_mem_of_mem_zipIdx member)) found.2
  exact split_names (by simpa [parameters] using nonempty) quiet

end Factory

open Factory in
/-- A module definition has one parameter for each source, in order, and each import has its name
from the parameter at its position. No name is bound twice if and only if no import has a name that
is made up for a parameter; and an import with such a name is the one whose name is bound twice. -/
theorem factory_bindsOnce_iff (parts : ModuleParts) (calls : List Declaration)
    (declared : parts.imports = (ImportTable.after {} calls).entries)
    (named : ∀ call ∈ calls, isIdentifier call.dependency.localName) :
    parts.text .amd = text parts.name (sources parts.imports) (parameters parts.imports)
      (ModuleParts.useStrict :: (assignments parts.imports).map (fun entry =>
        ModuleParts.assignment entry.1 entry.2) ++
        parts.preamble ++ ["return " ++ parts.render.hoisted ++ ";"]) ∧
    (parts.imports ≠ [] →
      TopLevel.split ',' (", ".intercalate (parameters parts.imports)) =
        padded (parameters parts.imports)) ∧
    (sources parts.imports).length = (parameters parts.imports).length ∧
    (∀ index dependency, parts.imports[index]? = some dependency →
      (sources parts.imports)[index]? = some (Text.margin 1 ++ quote dependency.source) ∧
        BindsAt parts.imports index dependency) ∧
    ((parameters parts.imports).Nodup ∧
        (∀ name ∈ parameters parts.imports, name ∉ (assignments parts.imports).map (·.1)) ↔
      ∀ dependency ∈ parts.imports, dependency.localName ∉ madeUpNames parts.imports) ∧
    ∀ dependency ∈ parts.imports, (boundNames parts.imports).count dependency.localName = 1 ↔
      dependency.localName ∉ madeUpNames parts.imports := by
  have distinct : (parts.imports.map (·.localName)).Nodup := by
    rw [declared]
    exact ImportTable.nodup_after_start calls
  have identifiers : ∀ dependency ∈ parts.imports, isIdentifier dependency.localName := by
    intro dependency member
    rw [declared] at member
    obtain ⟨call, listed, rfl⟩ := List.mem_map.mp (ImportTable.mem_dependencies_of_mem_after member)
    exact named call listed
  refine ⟨amd_eq_text parts, split_parameters identifiers, ?_, ?_, boundOnce_iff distinct,
    fun dependency member => count_boundNames distinct member⟩
  · simp [sources, parameters]
  · intro index dependency found
    refine ⟨?_, bindsAt found⟩
    rw [sources, List.getElem?_map, found]
    rfl

/-- Imports of a whole module, of a default export and of a member. -/
def mixedImports : List Declaration := [
  ⟨⟨"React", "react", .moduleValue⟩, {}⟩, ⟨⟨"Row", "./row", .defaultExport⟩, {}⟩,
    ⟨⟨"fmt", "./utils", .member "format"⟩, {}⟩]

def mixedModule : ModuleParts :=
  ⟨some "div", (ImportTable.after {} mixedImports).entries, [], ⟨[], "f()", ""⟩⟩

open Factory in
theorem mixedModule_bindsOnce :
    (∀ call ∈ mixedImports, isIdentifier call.dependency.localName) ∧
      mixedModule.text .amd =
        text (some "div") ["    \"react\"", "    \"./row\"", "    \"./utils\""] ["React", "$1",
        "$2"]
        ["\"use strict\";", "var Row = $1.default;", "var fmt = $2.format;",
          "return " ++ mixedModule.render.hoisted ++ ";"] ∧
      BindsAt mixedModule.imports 2 ⟨"fmt", "./utils", .member "format"⟩ ∧
      (parameters mixedModule.imports).Nodup ∧
      ∀ dependency ∈ mixedModule.imports,
        (boundNames mixedModule.imports).count dependency.localName = 1 := by
  have identifiers : ∀ call ∈ mixedImports, isIdentifier call.dependency.localName := by
    decide +kernel
  have apart : ∀ dependency ∈ mixedModule.imports, dependency.localName ∉
      madeUpNames mixedModule.imports := by
    decide +kernel
  obtain ⟨written, _, _, placed, once, counted⟩ :=
    factory_bindsOnce_iff mixedModule mixedImports rfl identifiers
  exact ⟨identifiers, written, (placed 2 _ rfl).2, (once.mpr apart).1,
    fun dependency member => (counted dependency member).mpr (apart dependency member)⟩

/-- Imports the first of which has the name that is made up for the second one. -/
def dollarImports :
    List Declaration := [⟨⟨"$1", "a", .moduleValue⟩, {}⟩, ⟨⟨"B", "b", .defaultExport⟩, {}⟩]

def dollarModule : ModuleParts :=
  ⟨some "n", (ImportTable.after {} dollarImports).entries, [], ⟨[], "f()", ""⟩⟩

open Factory in
/-- A name that is made up for a parameter can be that of another parameter. -/
theorem dollarModule_repeats :
    (∀ call ∈ dollarImports, isIdentifier call.dependency.localName) ∧
      ImportTable.Succeeds {} dollarImports ∧
      dollarModule.text .amd =
        "define(\"n\", [\n    \"a\",\n    \"b\"\n], function ($1, $1) \x7b\n    \"use strict\";\n" ++
        "    var B = $1.default;\n    return function () \x7b\n        return f();\n    \x7d;\n\x7d);\n" ∧
      parameters dollarModule.imports = ["$1", "$1"] ∧
        (boundNames dollarModule.imports).count "$1" = 2 := by
  have succeeds : ImportTable.Succeeds {} dollarImports := by
    unfold ImportTable.Succeeds
    decide +kernel
  exact ⟨by decide +kernel, succeeds, by decide +kernel, by decide +kernel, by decide +kernel⟩

end RenderTemplate
