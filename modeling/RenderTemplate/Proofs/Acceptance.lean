import RenderTemplate.Proofs.HelperParameters
import RenderTemplate.Proofs.LoopGrammar

namespace RenderTemplate

open Markup

namespace HostLanguage

/-- A text that is an expression and not blank. -/
def Accepts (host : HostLanguage) (code : String) : Prop :=
  Text.isBlank code = false ∧ host.accepts code

/-- An expression without the blanks around it. -/
def Trims (host : HostLanguage) (code : String) : Prop :=
  ∃ written, host.Accepts written ∧ code = Text.trim written

variable {host : HostLanguage} {code : String} {place : Location}

theorem accepts_of_validate (valid : host.validate code place = .ok ()) : host.Accepts code := by
  unfold validate at valid
  split at valid
  · cases valid
  · next solid =>
    split at valid
    · next accepted => exact ⟨Bool.eq_false_iff.mpr solid, accepted⟩
    · cases valid

/-- Code that has no blanks around it is accepted as it stands. -/
theorem Accepts.trims (accepted : host.Accepts code) (trimmed : Text.trim code = code) :
    host.Trims code :=
  ⟨code, accepted, trimmed.symm⟩

end HostLanguage

section Directives

variable {host : HostLanguage} {directive : DirectiveValue}

theorem DirectiveValue.expression_trims {code : String}
    (read : directive.expression host = .ok code) : host.Trims code := by
  obtain ⟨_, valid, made⟩ := bind_ok.mp read
  cases made
  exact (HostLanguage.accepts_of_validate valid).trims (Text.trim_trim directive.value)

theorem optionalExpression_trims {optional : Option DirectiveValue} {code : Option String}
    (read : optionalExpression host optional = .ok code) : ∀ found ∈ code, host.Trims found := by
  cases optional with
  | none =>
    cases read
    simp
  | some directive =>
    obtain ⟨found, expression, made⟩ := bind_ok.mp read
    cases made
    simpa using DirectiveValue.expression_trims expression

/-- The collection of a loop was accepted, and the blanks around it are gone. -/
theorem RepeatClause.read_trims {clause : RepeatClause}
    (read : RepeatClause.read host directive = .ok clause) :
    host.Trims clause.collection := by
  obtain ⟨writing, _, accepted, rfl⟩ := RepeatClause.exists_writing_of_read read
  have trimmed : Text.trim writing.clause.collection = writing.clause.collection := by
    rw [Text.trim, RepeatClause.Writing.clause, String.toList_ofList, writing.trimmed]
  exact (HostLanguage.accepts_of_validate accepted.collection).trims trimmed

theorem ScopeClause.entry?_trimmed {piece code name : List Char}
    (found : entry? piece = some (code, name)) :
    ∃ inner, code = Text.trimList inner := by
  unfold entry? at found
  dsimp only at found
  split at found
  · split at found
    · split at found
      · cases found
        exact ⟨_, rfl⟩
      · cases found
    · cases found
  · cases found

theorem ScopeClause.read_trims {aliases : List ScopeAlias}
    (read : ScopeClause.read host directive = .ok aliases) :
    ∀ entry ∈ aliases, host.Trims entry.value := by
  refine ScopeClause.read_ok (motive := fun known => ∀ entry ∈ known, host.Trims entry.value) read
    (by simp) ?_
  intro known piece code word earlier found _ _ valid
  obtain ⟨inner, rfl⟩ := entry?_trimmed found
  rw [List.forall_mem_append]
  refine ⟨earlier, ?_⟩
  simpa using (HostLanguage.accepts_of_validate valid).trims (Text.trim_ofList_trimList inner)

end Directives

/-- A part with the references in a literal decoded. -/
def Part.decoded : Part → Part
  | literal text => literal (decodeEntities text)
  | expression code => expression code

/-- The parts of a text, all of whose expressions are accepted. -/
structure AcceptedParts (host : HostLanguage) (value : String) (parts : List Part) : Prop where
  split : ∃ written, Part.split value.toList = .ok written ∧ parts = written.map Part.decoded
  accepted : ∀ code, .expression code ∈ parts → host.Accepts code

/-- Code of a prop that is put together of accepted expressions. -/
inductive PropCode (host : HostLanguage) (native : Bool) : String → Prop where
  /-- An attribute without a value. -/
  | flag : PropCode host native "true"
  | parts {value : String} {parts : List Part} (accepted : AcceptedParts host value parts) :
      PropCode host native (Part.concatenate parts)
  /-- Declarations of a style. -/
  | style {declarations : List (String × List Part)}
      (accepted : ∀ declaration ∈ declarations, ∃ value, AcceptedParts host value declaration.2) :
      PropCode host native (objectLiteral (declarations.map fun declaration =>
        Style.key native declaration.1 ++ ": " ++ Style.valueCode native declaration.2))
  | handler {code : String} (accepted : host.Accepts code) : PropCode host native code
  | method {code : String} (accepted : host.Accepts code) (refers : host.refersToMethod code) :
      PropCode host native (code ++ ".bind(this)")
  | classes {object : String} (accepted : host.Accepts object) :
      PropCode host native (ClassSet.joinedNames object)
  /-- Classes that are joined to those of an attribute. -/
  | joined {existing object : String} (before : PropCode host native existing)
      (accepted : host.Accepts object) :
      PropCode host native (ClassSet.baseOperand existing ++ " + \" \" + " ++
        ClassSet.joinedNames object)

/-- The value of a prop that is made of accepted code: a handler is a lambda of the host
language. -/
def PropValue.IsAccepted (host : HostLanguage) (native : Bool) : PropValue → Prop
  | .code text => PropCode host native text
  | .handler found => ∃ text, host.readLambda text = .lambda ⟨found.parameters, found.body⟩
  | .template _ => True

section Attributes

variable {host : HostLanguage} {place : Location}

/-- The expressions of a value were accepted one by one, before they are put together. -/
theorem attributeParts_accepted {value : String} {parts : List Part}
    (read : attributeParts host value place = .ok parts) :
    AcceptedParts host value parts := by
  unfold attributeParts at read
  split at read
  · cases read
  · next written split =>
    have decoded : List.Forall₂ (fun part result => part.decoded = result) written parts := by
      refine (mapM_eq_ok_iff.mp read).imp fun part result made => ?_
      cases part with
      | literal text => exact Except.ok.inj made
      | expression code =>
        obtain ⟨_, _, made⟩ := bind_ok.mp made
        exact Except.ok.inj made
    rw [← List.forall₂_map_left_iff, List.forall₂_eq_eq_eq] at decoded
    refine ⟨⟨written, split, decoded.symm⟩, ?_⟩
    intro code member
    obtain ⟨part, _, made⟩ := mem_of_mapM_ok read member
    cases part with
    | literal text => cases made
    | expression code =>
      obtain ⟨_, valid, made⟩ := bind_ok.mp made
      cases made
      exact HostLanguage.accepts_of_validate valid

theorem Style.entry_accepted {native : Bool} {declaration code : String}
    (read : Style.entry host native place declaration = .ok code) :
    ∃ property parts, (∃ value, AcceptedParts host value parts) ∧
      code = Style.key native property ++ ": " ++ Style.valueCode native parts := by
  unfold Style.entry at read
  split at read
  · cases read
  · obtain ⟨parts, accepted, made⟩ := bind_ok.mp read
    exact ⟨_, parts, ⟨_, attributeParts_accepted accepted⟩, (Except.ok.inj made).symm⟩

theorem Style.entries_accepted {native : Bool} {declarations codes : List String}
    (read : declarations.mapM (Style.entry host native place) = .ok codes) :
    ∃ accepted : List (String × List Part),
      (∀ declaration ∈ accepted, ∃ value, AcceptedParts host value declaration.2) ∧
      codes = accepted.map fun declaration =>
        Style.key native declaration.1 ++ ": " ++ Style.valueCode native declaration.2 := by
  have each := mapM_eq_ok_iff.mp read
  clear read
  induction each with
  | nil => exact ⟨[], by simp, rfl⟩
  | cons here _ ih =>
    obtain ⟨property, parts, accepted, rfl⟩ := Style.entry_accepted here
    obtain ⟨rest, later, rfl⟩ := ih
    exact ⟨(property, parts) :: rest, List.forall_mem_cons.mpr ⟨accepted, later⟩, rfl⟩

/-- The object of a style is put together of accepted declarations. -/
theorem Style.object_accepted {native : Bool} {value code : String}
    (read : Style.object host native value place = .ok code) :
    PropCode host native code := by
  obtain ⟨entries, mapped, made⟩ := bind_ok.mp read
  cases made
  obtain ⟨declarations, accepted, rfl⟩ := Style.entries_accepted mapped
  exact .style accepted

variable {setting : Setting} {scope : Scope}

/-- The value of an event was accepted: as a lambda with its body, or as code. -/
theorem handlerValue_accepted {attr : Attribute} {key text : String} {value : PropValue}
    (read : handlerValue setting scope attr key text = .ok value) :
    value.IsAccepted setting.host setting.target.isNative := by
  simp only [handlerValue] at read
  split at read
  · obtain ⟨_, valid, read⟩ := bind_ok.mp read
    cases read
    have accepted := HostLanguage.accepts_of_validate valid
    unfold PropValue.IsAccepted
    dsimp only
    split
    · next binds => exact .method accepted (Bool.and_eq_true_iff.mp binds).2
    · exact .handler accepted
  · obtain ⟨lambda, found, read⟩ := bind_ok.mp read
    cases read
    unfold HostLanguage.lambda at found
    split at found
    · cases found
    · cases found
    · next same =>
      cases found
      exact ⟨_, same⟩

/-- Whatever an attribute becomes, its code goes back to accepted expressions. -/
theorem attributeValue_accepted {attr : Attribute} {key : String} {value : PropValue}
    (read : attributeValue setting scope attr key = .ok value) :
    value.IsAccepted setting.host setting.target.isNative := by
  unfold attributeValue at read
  split at read
  · split at read
    · cases read
    · cases read
      exact .flag
  · split at read
    · exact handlerValue_accepted read
    · obtain ⟨parts, valid, read⟩ := bind_ok.mp read
      have accepted := attributeParts_accepted valid
      split at read
      · cases read
        exact .parts accepted
      · obtain ⟨code, object, read⟩ := bind_ok.mp read
        cases read
        exact Style.object_accepted object
      · cases read
        exact .parts accepted

/-- All that the attributes of an element set is put together of accepted code. -/
theorem attributeProps_accepted {found : Directives} {props : List RenderProp}
    (read : attributeProps setting scope found = .ok props) :
    ∀ prop ∈ props, prop.value.IsAccepted setting.host setting.target.isNative := by
  refine attributeProps_each (fun _ _ => attributeValue_accepted) ?_ ?_ read
  · intro object place valid
    exact .classes (HostLanguage.accepts_of_validate valid)
  · intro object place existing valid before
    exact .joined before (HostLanguage.accepts_of_validate valid)

end Attributes

/-- A node whose own code was accepted, and whose own names are identifiers. Code comes into a tree
on many ways: in directives, in text, and in attributes, whose values are put together of several
pieces. -/
def RenderNode.IsAccepted (host : HostLanguage) (native : Bool) : RenderNode → Prop
  | .element head _ =>
    (∀ spread ∈ head.spread, host.Trims spread) ∧
      ∀ prop ∈ head.props, prop.value.IsAccepted host native
  | .expression code => host.Trims code
  | .conditional test _ => host.Trims test
  | .iteration loop _ =>
    host.Trims loop.collection ∧ isIdentifier loop.item ∧ isIdentifier loop.index
  | .binding block _ => ∀ entry ∈ block.aliases, host.Trims entry.value ∧ isIdentifier entry.name
  | .group _ | .text _ | .comment _ => True

section Trees

variable {setting : Setting} {templates : List PropTemplate} {scope : Scope}

/-- What was read for a node was accepted. This carries the facts about the readers to all nodes of
a tree, by induction on where they come from. -/
theorem Arises.isAccepted {node : RenderNode} (arises : Arises setting templates scope node) :
    node.IsAccepted setting.host setting.target.isNative := by
  cases arises with
  | comment value => trivial
  | text value => trivial
  | group inside => trivial
  | expression valid => exact ⟨_, HostLanguage.accepts_of_validate valid, rfl⟩
  | conditional read inside => exact DirectiveValue.expression_trims read
  | iteration read inside =>
    obtain ⟨item, index, _⟩ := RepeatClause.read_names read
    exact ⟨RepeatClause.read_trims read, item, index⟩
  | binding read inside =>
    intro entry member
    exact ⟨ScopeClause.read_trims read entry member, ScopeClause.read_identifiers read entry member⟩
  | element read references bodies inside =>
    obtain ⟨_, spread⟩ := read.spread
    obtain ⟨_, written⟩ := read.props
    refine ⟨optionalExpression_trims spread, fun prop member => ?_⟩
    rcases List.mem_append.mp member with old | lifted
    · exact attributeProps_accepted written prop old
    · obtain ⟨index, template, rfl, _⟩ := references prop lifted
      trivial

variable {nodes : List Node} {tree : RenderTree} {warnings : List Warning}

/-- Each node of a resolved tree arises in some scope, in the root as in the templates. -/
theorem exists_arises_of_mem_nodes (resolved : resolve setting nodes = .ok (tree, warnings))
    {node : RenderNode} (member : node ∈ tree.nodes) :
    ∃ scope, Arises setting tree.templates scope node := by
  obtain ⟨_, scope, here⟩ := RenderTree.exists_reaches_of_mem_nodes (resolve_lifts resolved) member
  exact ⟨scope, (here.arises (resolve_arises resolved)).1⟩

theorem identifier_of_mem_dependencies :
    ∀ target : Target, ∀ dependency ∈ target.dependencies, isIdentifier dependency.localName :=
  Target.forall_iff.mpr (by decide)

/-- The local name of an import is checked where it is read. -/
theorem Dependency.identifier_of_ofElement {start : StartTag} {dependency : Dependency}
    (read : Dependency.ofElement start = .ok dependency) : isIdentifier dependency.localName := by
  have checked : ∀ found : Dependency,
      (if isIdentifier found.localName then (.ok found : Except CompileError Dependency)
      else .error ((Fault.invalidImportAlias found.localName).error start.location)) =
        .ok dependency →
      isIdentifier dependency.localName := by
    intro found made
    split at made
    · next identifier =>
      cases made
      exact identifier
    · cases made
  unfold Dependency.ofElement at read
  dsimp only at read
  split at read
  · obtain ⟨found, _, read⟩ := bind_ok.mp read
    exact checked found read
  · obtain ⟨found, _, read⟩ := bind_ok.mp read
    exact checked found read

/-- Nothing comes into a tree that was not accepted. In the root and in the bodies of all templates,
each test, collection, value of a scope, spread and expression is an accepted expression without the
blanks around it, and the code of each prop is put together of accepted expressions; and all names
that are bound are identifiers. -/
theorem resolved_code_accepted (valid : setting.options.validate = .ok ())
    (resolved : resolve setting nodes = .ok (tree, warnings)) :
    (∀ node ∈ tree.nodes, node.IsAccepted setting.host setting.target.isNative) ∧
      (∀ template ∈ tree.templates, ∀ name ∈ template.arguments, isIdentifier name) ∧
      ∀ dependency ∈ tree.imports.entries, isIdentifier dependency.localName := by
  refine ⟨?_, ?_, ?_⟩
  · intro node member
    obtain ⟨_, arises⟩ := exists_arises_of_mem_nodes resolved member
    exact arises.isAccepted
  · intro template member
    obtain ⟨start, specified⟩ := (resolve_lifts resolved).specified template member
    exact (isValid_of_childSpec? valid specified).arguments
  · intro dependency member
    rcases ((resolve_accounts resolved).imports.members dependency).mp member with runtime
      | ⟨start, _, described⟩
    · exact identifier_of_mem_dependencies setting.target dependency runtime
    · exact Dependency.identifier_of_ofElement described

end Trees

/-- A list in which code stands in every place that a template has for it. -/
def codedList : String :=
  "<ul rt-if=\" a \" rt-props=\"p\"><li rt-repeat=\"x in xs \" rt-scope=\"x.n as n\" " ++
    "class=\"c \x7bd\x7d\" rt-class=\"e: f\" " ++
    "style=\"width: \x7bw\x7d; top: 0\" onClick=\"\x7b this.g \x7d\">\x7b i \x7d" ++
    "<rt-template prop=\"row\" arguments=\"u\"><b title=\"\x7bu\x7d\"/></rt-template></li></ul>"

theorem codedList_accepted :
    ∃ nodes tree warnings, Options.validate { autobind := true } = .ok () ∧
      resolve (Setting.ofOptions .standard { autobind := true }) nodes = .ok (tree, warnings) ∧
      tree.codes =
        ["a", "p", "xs",
        "(\"c \" + d) + \" \" + _.keys(_.pick(\x7be: f\x7d, _.identity)).join(\" \")",
          "\x7b width: w, top: \"0\" \x7d", "this.g.bind(this)", "i", "u", "x.n"] ∧
      (∀ node ∈ tree.nodes, node.IsAccepted .standard false) ∧
      (∀ template ∈ tree.templates, ∀ name ∈ template.arguments, isIdentifier name) ∧
      ∀ dependency ∈ tree.imports.entries, isIdentifier dependency.localName := by
  have evaluated : ((renderTree .standard { autobind := true } codedList).toOption.map fun pair =>
      pair.1.codes) =
      some ["a", "p", "xs",
        "(\"c \" + d) + \" \" + _.keys(_.pick(\x7be: f\x7d, _.identity)).join(\" \")",
        "\x7b width: w, top: \"0\" \x7d", "this.g.bind(this)", "i", "u", "x.n"] := by
    decide +kernel
  obtain ⟨⟨tree, warnings⟩, rendered, codes⟩ := exists_ok_of_toOption evaluated
  obtain ⟨nodes, resolved⟩ := exists_resolve_of_renderTree rendered
  have valid : Options.validate { autobind := true } = .ok () := rfl
  exact ⟨nodes, tree, warnings, valid, resolved, codes, resolved_code_accepted valid resolved⟩

end RenderTemplate
