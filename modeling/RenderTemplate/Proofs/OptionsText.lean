import RenderTemplate.Options.Json
import RenderTemplate.Proofs.JsonText
import RenderTemplate.Proofs.DottedVersions

namespace RenderTemplate

namespace Json

theorem object?_map (entries : List (String × Json)) :
    (Json.object (entries.map fun entry => (some entry.1, entry.2))).object? = some entries := by
  rw [object?]
  induction entries with
  | nil => rfl
  | cons entry entries ih =>
    rw [List.map_cons, List.mapM_cons, ih]
    rfl

theorem haveNames_map (entries : List (String × Json)) :
    haveNames (entries.map fun entry => (some entry.1, entry.2)) = entries.all (·.2.isPlain) := by
  induction entries with
  | nil => rfl
  | cons entry entries ih =>
    rw [List.map_cons, haveNames, hasName, ih, List.all_cons]
    rfl

theorem arePlain_map_ofText (texts : List String) : arePlain (texts.map ofText) := by
  induction texts with
  | nil => rfl
  | cons text texts ih =>
    rw [List.map_cons, arePlain, ih]
    rfl

theorem mapM_text?_map_ofText (texts : List String) :
    (texts.map ofText).mapM text? = some texts := by
  induction texts with
  | nil => rfl
  | cons text texts ih =>
    rw [List.map_cons, List.mapM_cons, ih]
    rfl

end Json

/-- Known members under different names are read one after another. -/
theorem readMembers_eq_foldlM {α : Type} {known names : List String}
    {read : α → String → Json → Option α} {members : List (String × Json)}
    (named : members.map (·.1) = names) (listed : ∀ name ∈ names, name ∈ known)
    (distinct : names.Nodup) {seen : List String} (fresh : ∀ name ∈ names, name ∉ seen)
    (value : α) :
    readMembers known read seen value members =
      members.foldlM (fun value member => read value member.1 member.2) value := by
  subst named
  induction members generalizing seen value with
  | nil => rfl
  | cons member members ih =>
    rw [List.map_cons, List.forall_mem_cons] at listed fresh
    rw [List.map_cons, List.nodup_cons] at distinct
    have unseen (name : String) (later : name ∈ members.map (·.1)) : name ∉ member.1 :: seen := by
      rw [List.mem_cons, not_or]
      exact ⟨fun same => distinct.1 (same ▸ later), fresh.2 name later⟩
    rw [readMembers, if_pos (List.contains_iff_mem.mpr listed.1),
      if_neg (mt List.contains_iff_mem.mp fresh.1), List.foldlM_cons]
    exact congrArg _ (funext fun value => ih value listed.2 distinct.2 unseen)

namespace Dictionary

variable {α : Type}

theorem ext {first second : Dictionary α} (same : first.entries = second.entries) :
    first = second := by
  cases first
  cases second
  cases same
  rfl

theorem entries_set_of_fresh {dictionary : Dictionary α} {key : String}
    (fresh : key ∉ dictionary.entries.map (·.1)) (value : α) :
    (dictionary.set key value).entries = dictionary.entries ++ [(key, value)] := by
  rw [set, dif_neg fresh]

/-- Entries under new keys are put behind those that are there. -/
theorem foldlM_set {read : Json → Option α} {write : α → Json} {entries : List (String × α)}
    (readable : ∀ entry ∈ entries, read (write entry.2) = some entry.2)
    (dictionary whole : Dictionary α) (parts : whole.entries = dictionary.entries ++ entries) :
    (entries.map fun entry => (entry.1, write entry.2)).foldlM
      (fun dictionary member => (read member.2).map fun value => dictionary.set member.1 value)
        dictionary = some whole := by
  induction entries generalizing dictionary with
  | nil =>
    rw [List.append_nil] at parts
    rw [ext parts]
    rfl
  | cons entry entries ih =>
    rw [List.forall_mem_cons] at readable
    have distinct := whole.distinct
    rw [parts, List.map_append, List.map_cons, List.nodup_append] at distinct
    have fresh : entry.1 ∉ dictionary.entries.map (·.1) :=
      fun held => distinct.2.2 _ held _ List.mem_cons_self rfl
    have more : whole.entries = (dictionary.set entry.1 entry.2).entries ++ entries := by
      rw [parts, entries_set_of_fresh fresh, List.append_assoc, List.singleton_append]
    rw [List.map_cons, List.foldlM_cons, readable.1, Option.map_some, Option.bind_eq_bind,
      Option.bind_some]
    exact ih readable.2 _ more

theorem ofJson?_toJson {read : Json → Option α} {write : α → Json} {dictionary : Dictionary α}
    (readable : ∀ entry ∈ dictionary.entries, read (write entry.2) = some entry.2) :
    ofJson? read (dictionary.toJson write) = some dictionary := by
  have members : (dictionary.toJson write).object? =
      some (dictionary.entries.map fun entry => (entry.1, write entry.2)) := by
    rw [← Json.object?_map, List.map_map]
    rfl
  have folded := foldlM_set readable {} dictionary rfl
  rw [ofJson?, members, Option.bind_eq_bind, Option.bind_some, ← folded]
  congr 1
  funext dictionary ⟨name, value⟩
  dsimp only
  cases read value <;> rfl

/-- A dictionary is plain if its values are, since its keys are texts. -/
theorem isPlain_toJson {write : α → Json} {dictionary : Dictionary α}
    (plain : ∀ entry ∈ dictionary.entries, (write entry.2).isPlain) :
    (dictionary.toJson write).isPlain := by
  have listed := Json.haveNames_map (dictionary.entries.map fun entry => (entry.1, write entry.2))
  rw [List.map_map] at listed
  refine listed.trans ?_
  rw [List.all_map, List.all_eq_true]
  exact plain

end Dictionary

namespace TemplateSpec

/-- A specification is read back with all of its fields, those that have defaults included. -/
theorem ofJson?_toJson (spec : TemplateSpec) : ofJson? spec.toJson = some spec := by
  let members :=
    [("prop", Json.ofText spec.prop), ("arguments", .array (spec.arguments.map .ofText))]
  have named : members.map (·.1) = memberNames := rfl
  have prop : readMember (none, []) "prop" (.ofText spec.prop) = some (some spec.prop, []) := rfl
  have arguments :
      readMember (some spec.prop, []) "arguments" (.array (spec.arguments.map .ofText)) =
      some (some spec.prop, spec.arguments) := by
    rw [readMember, if_neg (by decide), Json.array?, Option.bind_eq_bind, Option.bind_some,
      Json.mapM_text?_map_ofText]
    rfl
  have read : readMembers memberNames readMember [] (none, []) members =
      some (some spec.prop, spec.arguments) := by
    rw [readMembers_eq_foldlM named (fun _ listed => listed) (by decide) (by simp)]
    simp only [members, List.foldlM_cons, List.foldlM_nil, prop, arguments, Option.bind_eq_bind,
      Option.bind_some, Option.pure_def]
  have found : spec.toJson.object? = some members := rfl
  rw [toJson] at found ⊢
  rw [ofJson?, found, Option.bind_some, read]
  · rfl
  · intro elements same
    cases same

theorem isPlain_toJson (spec : TemplateSpec) : spec.toJson.isPlain := by
  have arguments := Json.arePlain_map_ofText spec.arguments
  simp [toJson, Json.isPlain, Json.haveNames, Json.hasName, Json.ofText, arguments]

end TemplateSpec

namespace ModuleFormat

theorem ofJson?_name (format : ModuleFormat) : ofJson? (.ofText format.name) = some format := by
  cases format <;> rfl

end ModuleFormat

namespace Version

/-- A version is displayed in a form in which it can be read. -/
theorem ofJson?_display (version : Version) : ofJson? (.ofText version.display) = some version := by
  rw [ofJson?, Json.ofText, Json.text?, Option.bind_some, ofText?_display]

end Version

namespace Options

theorem templates_ofJson?_toJson (table : TemplateTable) :
    Dictionary.ofJson? (Dictionary.ofJson? TemplateSpec.ofJson?)
      (table.toJson (Dictionary.toJson TemplateSpec.toJson)) =
      some table :=
  Dictionary.ofJson?_toJson fun _ _ => Dictionary.ofJson?_toJson fun entry _ =>
    TemplateSpec.ofJson?_toJson entry.2

/-- Options are read back from the members that they are written as. -/
theorem ofJson?_toJson (options : Options) : ofJson? options.toJson = some options := by
  let members := [
    ("modules", Json.ofText options.format.name),
    ("name", (options.name.map Json.ofText).getD .null),
    ("targetVersion", .ofText options.targetVersion.display),
    ("native", .bool options.native),
    ("nativeTargetVersion", .ofText options.nativeTargetVersion.display),
    ("autobind", .bool options.autobind),
    ("propTemplates", options.templates.toJson (Dictionary.toJson TemplateSpec.toJson)),
    ("normalizeHtmlWhitespace", .bool options.collapsesWhitespace)]
  have named : members.map (·.1) = memberNames := rfl
  have read : readMembers memberNames readMember [] {} members = some options := by
    rw [readMembers_eq_foldlM named (fun _ listed => listed) (by decide) (by simp)]
    simp only [members, List.foldlM_cons, List.foldlM_nil, readMember, ModuleFormat.ofJson?_name,
      Version.ofJson?_display, Json.bool?, templates_ofJson?_toJson, Option.map_some,
      Option.bind_eq_bind, Option.bind_some, Option.pure_def]
    obtain ⟨_, _ | name, _, _, _, _, _, _⟩ := options <;> rfl
  have found : options.toJson.object? = some members := rfl
  rw [toJson] at found ⊢
  rw [ofJson?, found, Option.bind_some, read]
  intro elements same
  cases same

theorem isPlain_toJson (options : Options) : options.toJson.isPlain := by
  have name : ((options.name.map Json.ofText).getD .null).isPlain := by
    cases options.name <;> rfl
  have templates : (options.templates.toJson (Dictionary.toJson TemplateSpec.toJson)).isPlain :=
    Dictionary.isPlain_toJson fun _ _ => Dictionary.isPlain_toJson fun entry _ =>
      entry.2.isPlain_toJson
  simp [toJson, Json.isPlain, Json.haveNames, Json.hasName, Json.ofText, name, templates]

/-- Options are read back by any reader of JSON that gives what was written. -/
theorem ofTextWith_of_read {read : String → Option Json} {text : String} {options : Options}
    (written : read text = some options.toJson) : ofTextWith read text = .ok options := by
  rw [ofTextWith, written, Option.bind_some, ofJson?_toJson]

/-- A text that stands for the JSON of options, for whatever reader of JSON, is read as these
options, and there is such a text for all of them. Versions are read from the form in which they are
shown, and from all texts that are a `Version.Writing` and no others. -/
theorem ofText_reads_written (options : Options) (version : Version) (text : String) :
    (∀ read : String → Option Json, read text = some options.toJson →
      ofTextWith read text = .ok options) ∧
      Json.ofString? (String.ofList options.toJson.print) = some options.toJson ∧
      ofText (String.ofList options.toJson.print) = .ok options ∧
      Version.ofText? version.display = some version ∧
      (Version.ofText? text = some version ↔
        ∃ writing : Version.Writing, text = String.ofList writing.text ∧
          version = writing.version) := by
  have written := Json.ofString?_print options.isPlain_toJson
  exact ⟨fun _ => ofTextWith_of_read, written, ofTextWith_of_read written,
    Version.ofText?_display version, Version.ofText?_eq_some_iff⟩

/-- Options with a name that needs escapes, the greatest number in a version, and two owners of
templates. -/
def nativeOptions : Options where
  format := .typescript
  name := some "\"Né\n"
  targetVersion := ⟨4294967295, 0, 14⟩
  native := true
  nativeTargetVersion := ⟨0, 29, 0⟩
  templates :=
    ⟨[("Grid",
    ⟨[("Cell", ⟨"renderCell", ["row", "column"]⟩), ("Gap", ⟨"renderGap", []⟩)], by decide⟩),
      ("Empty", {})], by decide⟩

/-- A version of two numbers with blanks around it, two letters in front, and a suffix. -/
def paddedVersion : Version.Writing where
  before := .space
  letters := 2
  numbers :=
    [⟨['0'], by decide, by decide, by decide⟩, ⟨['0', '2', '9'], by decide, by decide, by decide⟩]
  suffix := "-rc.1+7".toList
  after := .space
  filled := List.cons_ne_nil _ _
  few := by decide
  marked := by
    rintro _ ⟨⟩
    exact .inl rfl

theorem nativeOptions_read_back :
    Json.ofString? (String.ofList nativeOptions.toJson.print) = some nativeOptions.toJson ∧
      ofText (String.ofList nativeOptions.toJson.print) = .ok nativeOptions ∧
      Version.ofText? " vv0.029-rc.1+7 " = some ⟨0, 29, 0⟩ := by
  have written : Json.ofString? (String.ofList nativeOptions.toJson.print) =
      some nativeOptions.toJson :=
    Json.ofString?_print nativeOptions.isPlain_toJson
  obtain ⟨read, -⟩ :=
    ofText_reads_written nativeOptions ⟨0, 0, 0⟩ (String.ofList nativeOptions.toJson.print)
  obtain ⟨-, -, -, -, versions⟩ := ofText_reads_written nativeOptions ⟨0, 29, 0⟩ " vv0.029-rc.1+7 "
  exact ⟨written, read Json.ofString? written, versions.mpr ⟨paddedVersion, by decide, by decide⟩⟩

end Options

end RenderTemplate
