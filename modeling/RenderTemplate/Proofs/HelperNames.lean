import RenderTemplate.Proofs.Names

namespace RenderTemplate

namespace Construct

/-- What the name of the helper for a construct starts with. -/
def base : Construct → String
  | loop found => "repeat" ++ capitalize found.item
  | block found => "scope" ++ capitalize ((found.aliases.head?.map (·.name)).getD "")
  | template found => found.prop
  | handler found => found.event

/-- The names of helpers for constructs, which have the numbers after `start`. A name is a base with
a number, so two names can be equal although their numbers differ. -/
def names (start : Nat) : List Construct → List String
  | [] => []
  | construct :: rest => (construct.base ++ toString (start + 1)) :: names (start + 1) rest

/-- The names and the parameters of helpers for constructs, which have the numbers after `start`. -/
def signatures (start : Nat) : List Construct → List (String × List String)
  | [] => []
  | construct :: rest =>
    (construct.base ++ toString (start + 1), construct.parameters) :: signatures (start + 1) rest

theorem map_fst_signatures (start : Nat) (constructs : List Construct) :
    (signatures start constructs).map (·.1) = names start constructs := by
  induction constructs generalizing start with
  | nil => rfl
  | cons construct rest ih => rw [signatures, names, List.map_cons, ih]

theorem map_snd_signatures (start : Nat) (constructs : List Construct) :
    (signatures start constructs).map (·.2) = constructs.map (·.parameters) := by
  induction constructs generalizing start with
  | nil => rfl
  | cons construct rest ih => rw [signatures, List.map_cons, List.map_cons, ih]

theorem signatures_append (start : Nat) (constructs more : List Construct) :
    signatures start (constructs ++ more) =
      signatures start constructs ++ signatures (start + constructs.length) more := by
  induction constructs generalizing start with
  | nil => rfl
  | cons construct rest ih =>
    have number : start + (construct :: rest).length = start + 1 + rest.length := by
      rw [List.length_cons]
      omega
    rw [List.cons_append, signatures, signatures, ih, number, List.cons_append]

theorem getElem?_names (start : Nat) (constructs : List Construct) (position : Nat) :
    (names start constructs)[position]? =
      constructs[position]?.map fun construct =>
        construct.base ++ toString (start + position + 1) := by
  induction constructs generalizing start position with
  | nil => rfl
  | cons construct rest ih =>
    cases position with
    | zero => rfl
    | succ position =>
      have number : start + 1 + position = start + (position + 1) := by omega
      rw [names, List.getElem?_cons_succ, ih, List.getElem?_cons_succ, number]

end Construct

/-- The constructs of the value of a prop, with those of the templates that it refers to. -/
def PropValue.constructs (enter : Nat → List Construct) : PropValue → List Construct
  | .code _ => []
  | .handler found => [.handler found]
  | .template index => enter index

namespace RenderNode

mutual

/-- The constructs of a node in the order in which their helpers are numbered. `enter` gives those
of the template with an index. -/
def constructs (enter : Nat → List Construct) : RenderNode → List Construct
  | element head children =>
    head.props.flatMap (·.value.constructs enter) ++ constructsAll enter children
  | group children => constructsAll enter children
  | text _ | expression _ | comment _ => []
  | conditional _ body => constructs enter body
  | iteration loop body => .loop loop :: constructs enter body
  | binding block body => .block block :: constructs enter body

def constructsAll (enter : Nat → List Construct) : List RenderNode → List Construct
  | [] => []
  | node :: rest => constructs enter node ++ constructsAll enter rest

end

end RenderNode

namespace RenderTree

/-- The constructs of the template with an index, which refers to others at most `depth` deep. -/
def templateConstructs (templates : List PropTemplate) (depth index : Nat) : List Construct :=
  match depth, templates[index]? with
  | depth + 1, some found =>
    .template found :: found.body.constructs (templateConstructs templates depth)
  | _, _ => []

/-- The constructs of a tree in the order in which their helpers are numbered. -/
def constructs (tree : RenderTree) : List Construct :=
  tree.root.constructs (templateConstructs tree.templates tree.templates.length)

end RenderTree

/-- The name and the parameters of a helper. -/
def Helper.signature (helper : Helper) : String × List String :=
  (helper.name, helper.parameters)

/-- Whether a computation adds the helpers for some constructs, and gives them the next numbers. -/
def Emit.Numbers {α : Type} (work : Emit α) (constructs : List Construct) : Prop :=
  ∀ emitted, (work.run emitted).2.counter = emitted.counter + constructs.length ∧
    ((work.run emitted).2.helpers.map (·.signature)).Perm
      (emitted.helpers.map (·.signature) ++ Construct.signatures emitted.counter constructs)

namespace Emit.Numbers

variable {α β : Type}

theorem pure (value : α) : Numbers (Pure.pure value) [] := by
  intro emitted
  refine ⟨rfl, ?_⟩
  rw [Construct.signatures, List.append_nil]
  exact .refl _

/-- Two computations in a row number the constructs of the first and then those of the second. -/
theorem bind {work : Emit α} {next : α → Emit β} {constructs more : List Construct}
    (first : Numbers work constructs) (second : ∀ value, Numbers (next value) more) :
    Numbers (work >>= next) (constructs ++ more) := by
  intro emitted
  obtain ⟨counted, named⟩ := first emitted
  obtain ⟨countedMore, namedMore⟩ := second (work.run emitted).1 (work.run emitted).2
  refine ⟨?_, ?_⟩
  · rw [List.length_append, ← Nat.add_assoc, ← counted]
    exact countedMore
  · rw [Construct.signatures_append, ← List.append_assoc, ← counted]
    exact namedMore.trans (named.append_right _)

theorem map {work : Emit α} {constructs : List Construct} (numbers : Numbers work constructs)
    (make : α → β) :
    Numbers (work >>= fun value => Pure.pure (make value)) constructs := by
  have both := numbers.bind fun value => pure (make value)
  rwa [List.append_nil] at both

/-- A helper is numbered before those inside of it, and added after them. -/
theorem helper (construct : Construct) {work : Emit α} {inside : List Construct}
    (numbers : Numbers work inside) (make : String → α → Helper)
    (signed : ∀ name value, (make name value).signature = (name, construct.parameters))
    (result : String → α → β) :
    Numbers
      (do
        let name ← freshName construct.base
        let value ← work
        addHelper (make name value)
        return result name value)
      (construct :: inside) := by
  intro emitted
  obtain ⟨counted, inner⟩ := numbers { emitted with counter := emitted.counter + 1 }
  refine ⟨?_, ?_⟩
  · rw [List.length_cons, ← Nat.add_assoc, Nat.add_right_comm]
    exact counted
  · let name := construct.base ++ toString (emitted.counter + 1)
    let own := (name, construct.parameters)
    let run := work.run { emitted with counter := emitted.counter + 1 }
    have added : (run.2.helpers ++ [make name run.1]).map (·.signature) =
        run.2.helpers.map (·.signature) ++ [own] := by
      rw [List.map_append, List.map_singleton, signed]
    have moved :
        (emitted.helpers.map (·.signature) ++ Construct.signatures (emitted.counter + 1) inside ++
        [own]).Perm
        (emitted.helpers.map (·.signature) ++ own ::
          Construct.signatures (emitted.counter + 1) inside) := by
      rw [List.append_assoc]
      exact (List.perm_append_singleton _ _).append_left _
    have last := (inner.append_right [own]).trans moved
    rw [← added] at last
    exact last

/-- A handler has no construct inside of it, for its code is that of the host language. -/
theorem handler (found : Handler) : Numbers (Emit.handler found) [.handler found] := by
  have added (make : String → Helper)
      (signed : ∀ name, (make name).signature = (name, found.helperParameters)) :
      Numbers (do
        let name ← freshName found.event
        addHelper (make name)
        return boundReference name found.outer) [.handler found] :=
    helper (.handler found) (pure ()) (fun name _ => make name) (fun name _ => signed name)
      fun name _ => boundReference name found.outer
  unfold Emit.handler
  cases found.body with
  | expression code => exact added _ fun _ => rfl
  | block code => exact added _ fun _ => rfl

/-- Of the values of props, handlers and templates are numbered. -/
theorem propValue {enter : Nat → Emit String} {inside : Nat → List Construct}
    (numbers : ∀ index, Numbers (enter index) (inside index)) (value : PropValue) :
    Numbers (Emit.propValue enter value) (value.constructs inside) := by
  cases value with
  | code code => exact pure code
  | handler found => exact handler found
  | template index => exact numbers index

theorem entries {enter : Nat → Emit String} {inside : Nat → List Construct}
    (numbers : ∀ index, Numbers (enter index) (inside index)) (props : List RenderProp) :
    Numbers (Emit.entries enter props) (props.flatMap (·.value.constructs inside)) := by
  induction props with
  | nil => exact pure []
  | cons prop props ih =>
    unfold Emit.entries at ih ⊢
    rw [List.mapM_cons, List.flatMap_cons]
    exact ((propValue numbers prop.value).map _).bind fun entry => ih.map _

section

variable {target : Target} {enter : Nat → Emit String} {inside : Nat → List Construct}

mutual

/-- The helpers of a node are those for its constructs. -/
theorem node (numbers : ∀ index, Numbers (enter index) (inside index)) (found : RenderNode) :
    Numbers (Emit.node target enter found) (found.constructs inside) := by
  match found with
  | .element head children =>
    unfold Emit.node RenderNode.constructs
    exact (entries numbers head.props).bind fun _ => (all numbers children).map _
  | .group children =>
    unfold Emit.node RenderNode.constructs
    exact (all numbers children).map _
  | .text value => unfold Emit.node RenderNode.constructs; exact pure _
  | .expression code => unfold Emit.node RenderNode.constructs; exact pure _
  | .comment value => unfold Emit.node RenderNode.constructs; exact pure _
  | .conditional test body =>
    unfold Emit.node RenderNode.constructs
    exact (node numbers body).map _
  | .iteration loop body =>
    unfold Emit.node RenderNode.constructs
    exact helper (.loop loop) (node numbers body) _ (fun _ _ => rfl) _
  | .binding block body =>
    unfold Emit.node RenderNode.constructs
    exact helper (.block block) (node numbers body) _ (fun _ _ => rfl) _

theorem all (numbers : ∀ index, Numbers (enter index) (inside index)) (nodes : List RenderNode) :
    Numbers (Emit.all target enter nodes) (RenderNode.constructsAll inside nodes) := by
  match nodes with
  | [] => unfold Emit.all RenderNode.constructsAll; exact pure _
  | child :: rest =>
    unfold Emit.all RenderNode.constructsAll
    exact (node numbers child).bind fun _ => (all numbers rest).map _

end

end

/-- A template is numbered before what is in its body, wherever it is referred to. -/
theorem template (target : Target) (templates : List PropTemplate) (depth index : Nat) :
    Numbers (Emit.template target templates depth index)
      (RenderTree.templateConstructs templates depth index) := by
  induction depth generalizing index with
  | zero =>
    rw [Emit.template.eq_def, RenderTree.templateConstructs.eq_def]
    exact pure _
  | succ depth ih =>
    rw [Emit.template.eq_def, RenderTree.templateConstructs.eq_def]
    cases templates[index]? with
    | none => exact pure _
    | some found => exact helper (.template found) (node ih found.body) _ (fun _ _ => rfl) _

end Emit.Numbers

/-- The names of the helpers of a tree. -/
def RenderTree.helperNames (tree : RenderTree) (target : Target) : List String :=
  (tree.emit target).2.map (·.name)

theorem RenderTree.perm_signatures (tree : RenderTree) (target : Target) :
    ((tree.emit target).2.map (·.signature)).Perm (Construct.signatures 0 tree.constructs) :=
  (Emit.Numbers.node (Emit.Numbers.template target tree.templates tree.templates.length) tree.root
    {}).2

/-- The names of helpers are those of the constructs, in another order: a helper is added after
those in its body. -/
theorem RenderTree.perm_names (tree : RenderTree) (target : Target) :
    (tree.helperNames target).Perm (Construct.names 0 tree.constructs) := by
  have named := (tree.perm_signatures target).map (·.1)
  rwa [List.map_map, Construct.map_fst_signatures] at named

/-- The helpers of a tree have the parameters of its constructs. -/
theorem RenderTree.perm_parameters (tree : RenderTree) (target : Target) :
    ((tree.emit target).2.map (·.parameters)).Perm (tree.constructs.map (·.parameters)) := by
  have listed := (tree.perm_signatures target).map (·.2)
  rwa [List.map_map, Construct.map_snd_signatures] at listed

namespace RenderTree

variable {tree : RenderTree}

/-- What a template is made of is met wherever an element refers to it. -/
def IsMet (tree : RenderTree) (construct : Construct) : Prop :=
  ∃ environment scope, tree.Meets environment scope construct

section

variable {inside : Nat → List Construct} {environment : List String} {scope : Scope}

theorem isMet_of_mem_props {head : ElementHead} {children : List RenderNode}
    (here : tree.Reaches environment scope (.element head children))
    (entered : ∀ key index, ⟨key, .template index⟩ ∈ head.props →
      ∀ construct ∈ inside index, tree.IsMet construct)
    {construct : Construct} (member : construct ∈ head.props.flatMap (·.value.constructs inside)) :
    tree.IsMet construct := by
  obtain ⟨⟨key, value⟩, listed, found⟩ := List.mem_flatMap.mp member
  cases value with
  | code code => cases found
  | handler handler =>
    obtain rfl := List.mem_singleton.mp found
    exact ⟨_, _, .handler here listed⟩
  | template index => exact entered key index listed construct found

/-- What `inside` gives for an index is met, if it is met where an element refers to this index. -/
def IsMetInside (tree : RenderTree) (inside : Nat → List Construct) : Prop :=
  ∀ environment scope head children key index,
    tree.Reaches environment scope (.element head children) →
    ⟨key, .template index⟩ ∈ head.props → ∀ construct ∈ inside index, tree.IsMet construct

mutual

/-- What is numbered in a node that is reached is met in the tree. -/
theorem isMet_of_mem_constructs (entered : tree.IsMetInside inside) {environment : List String}
    {scope : Scope} (node : RenderNode) (here : tree.Reaches environment scope node)
    {construct : Construct} (member : construct ∈ node.constructs inside) :
    tree.IsMet construct := by
  match node with
  | .element head children =>
    rw [RenderNode.constructs] at member
    rcases List.mem_append.mp member with own | below
    · exact isMet_of_mem_props here (fun key index => entered _ _ _ _ key index here) own
    · exact isMet_of_mem_constructsAll entered children (fun child listed =>
        here.child listed) below
  | .group children =>
    rw [RenderNode.constructs] at member
    exact isMet_of_mem_constructsAll entered children (fun child listed =>
      here.grouped listed) member
  | .text value => rw [RenderNode.constructs] at member; cases member
  | .expression code => rw [RenderNode.constructs] at member; cases member
  | .comment value => rw [RenderNode.constructs] at member; cases member
  | .conditional test body =>
    rw [RenderNode.constructs] at member
    exact isMet_of_mem_constructs entered body here.tested member
  | .iteration loop body =>
    rw [RenderNode.constructs] at member
    rcases List.mem_cons.mp member with rfl | below
    · exact ⟨_, _, .loop here⟩
    · exact isMet_of_mem_constructs entered body here.repeated below
  | .binding block body =>
    rw [RenderNode.constructs] at member
    rcases List.mem_cons.mp member with rfl | below
    · exact ⟨_, _, .block here⟩
    · exact isMet_of_mem_constructs entered body here.bound below

theorem isMet_of_mem_constructsAll (entered : tree.IsMetInside inside) {environment : List String}
    {scope : Scope} (nodes : List RenderNode)
    (here : ∀ node ∈ nodes, tree.Reaches environment scope node) {construct : Construct}
    (member : construct ∈ RenderNode.constructsAll inside nodes) : tree.IsMet construct := by
  match nodes with
  | [] => rw [RenderNode.constructsAll] at member; cases member
  | node :: rest =>
    rw [RenderNode.constructsAll] at member
    rw [List.forall_mem_cons] at here
    rcases List.mem_append.mp member with first | later
    · exact isMet_of_mem_constructs entered node here.1 first
    · exact isMet_of_mem_constructsAll entered rest here.2 later

end

end

/-- Templates are entered from the elements that refer to them, to any depth. -/
theorem isMetInside_templateConstructs (depth : Nat) :
    tree.IsMetInside (templateConstructs tree.templates depth) := by
  induction depth with
  | zero =>
    intro _ _ _ _ _ index _ _ construct member
    rw [templateConstructs.eq_def] at member
    cases member
  | succ depth ih =>
    intro _ _ _ _ key index here referred construct member
    rw [templateConstructs.eq_def] at member
    cases known : tree.templates[index]? with
    | none =>
      rw [known] at member
      cases member
    | some found =>
      rw [known] at member
      rcases List.mem_cons.mp member with rfl | below
      · exact ⟨_, _, .template here referred known⟩
      · exact isMet_of_mem_constructs ih found.body (here.lifted referred known) below

theorem isMet_of_mem {construct : Construct} (member : construct ∈ tree.constructs) :
    tree.IsMet construct :=
  isMet_of_mem_constructs (isMetInside_templateConstructs _) tree.root .root member

end RenderTree

theorem isNameStart_of_isDigit {c : Char} (digit : c.isDigit) : isNameStart c = false := by
  rw [Bool.eq_false_iff]
  intro start
  have other := forall_isNameStart (motive := fun c => !c.isDigit) (by decide +kernel) start
  rw [digit] at other
  cases other

/-- No reserved word ends in a digit. -/
theorem not_reserved_numbered (base : String) (number : Nat) :
    base ++ toString number ∉ reservedWords := by
  intro reserved
  have checked : ∀ word ∈ reservedWords, word.toList.getLast?.all (!·.isDigit) := by decide +kernel
  have nonempty := toList_toString_ne_nil number
  have last : (base ++ toString number).toList.getLast? =
      some ((toString number).toList.getLast nonempty) := by
    rw [String.toList_append, List.getLast?_append, List.getLast?_eq_some_getLast nonempty,
      Option.some_or]
  have digit := isDigit_of_mem_toString (List.getLast_mem nonempty)
  have other := checked _ reserved
  rw [last, Option.all_some, digit] at other
  cases other

/-- A base with a number is an identifier exactly if it has the form of a name. -/
theorem isIdentifier_numbered (base : String) (number : Nat) :
    isIdentifier (base ++ toString number) = isNameForm base.toList := by
  have digits : (toString number).toList.all isNameChar := by
    rw [List.all_eq_true]
    intro c member
    exact isNameChar_of_isDigit (isDigit_of_mem_toString member)
  have free : reservedWords.contains (base ++ toString number) = false := by
    rw [List.contains_eq_mem, decide_eq_false_iff_not]
    exact not_reserved_numbered base number
  rw [isIdentifier, free, Bool.not_false, Bool.and_true, String.toList_append]
  cases chars : base.toList with
  | nil =>
    rw [List.nil_append]
    cases text : (toString number).toList with
    | nil => rfl
    | cons c rest =>
      have digit : c.isDigit := isDigit_of_mem_toString (text ▸ List.mem_cons_self)
      simp only [isNameForm, isNameStart_of_isDigit digit, Bool.false_and]
  | cons c rest => rw [isNameForm_append (by simp), digits, Bool.and_true]

namespace Construct

/-- Whether the base of a construct can stand in front of a number: the base of a template has no
blanks around it, and that of a handler has no other characters than names have. -/
def IsNamable : Construct → Prop
  | loop _ | block _ => True
  | template found => Text.trim found.prop = found.prop
  | handler found => found.event.toList.all isNameChar

/-- A word in front of a name gives a name, in which the first letter of the name is in
uppercase. -/
theorem isNameForm_prefixed {name : String} (identifier : isIdentifier name) (word : String)
    (form : isNameForm word.toList) : isNameForm (word ++ capitalize name).toList := by
  have nonempty : word.toList ≠ [] := by
    intro none
    rw [none] at form
    cases form
  rw [String.toList_append, isNameForm_append nonempty, form, all_capitalize identifier]
  rfl

/-- Bases of loops and scopes are names, since these bind identifiers. Those of templates and
handlers are as good as the prop or the event. -/
theorem isNameForm_base_iff {construct : Construct} (checked : construct.IsChecked) :
    isNameForm construct.base.toList ↔ construct.IsNamable := by
  cases construct with
  | loop found => exact iff_of_true (isNameForm_prefixed checked.1 "repeat" (by decide)) trivial
  | block found =>
    obtain ⟨entry, rest, same⟩ := List.exists_cons_of_ne_nil checked.1
    have first : (found.aliases.head?.map (·.name)).getD "" = entry.name := by
      rw [same]
      rfl
    rw [base, first]
    exact iff_of_true
      (isNameForm_prefixed (checked.2 entry (same ▸ List.mem_cons_self)) "scope" (by decide))
      trivial
  | template found =>
    constructor
    · exact trim_eq_self
    · intro trimmed
      have form := isNameForm_of_isIdentifier checked.prop
      rwa [trimmed] at form
  | handler found =>
    constructor
    · exact all_of_isNameForm
    · intro inName
      simp only [IsChecked, isEventName] at checked
      simp only [IsNamable] at inName
      show isNameForm found.event.toList
      split at checked
      · next chars =>
        rw [chars, List.all_cons, Bool.and_eq_true] at inName
        rw [chars, isNameForm, inName.2]
        rfl
      · cases checked

theorem isIdentifier_names_iff (start : Nat) (constructs : List Construct) :
    (∀ name ∈ names start constructs, isIdentifier name) ↔
      ∀ construct ∈ constructs, isNameForm construct.base.toList := by
  induction constructs generalizing start with
  | nil => simp [names]
  | cons construct rest ih =>
    rw [names, List.forall_mem_cons, List.forall_mem_cons, isIdentifier_numbered, ih]

end Construct

theorem length_toString_le {number more : Nat} (smaller : number < more) :
    (toString number).toList.length ≤ (toString more).toList.length := by
  simp only [Nat.toString_eq_repr, Nat.toList_repr]
  have positive : 0 < (Nat.toDigits 10 more).length := List.length_pos_iff.mpr Nat.toDigits_ne_nil
  have bound :=
    (Nat.length_toDigits_le_iff (b := 10) (n := more) (by decide) positive).mp (Nat.le_refl _)
  exact (Nat.length_toDigits_le_iff (by decide) positive).mpr (by omega)

theorem toString_inj {number other : Nat} (same : toString number = toString other) :
    number = other := by
  have digits : Nat.toDigits 10 number = Nat.toDigits 10 other := by
    rw [← Nat.toList_repr, ← Nat.toList_repr, ← Nat.toString_eq_repr, ← Nat.toString_eq_repr, same]
  rw [← Nat.ofDigitChars_toDigits (b := 10) (n := number) (by decide) (by decide), digits,
    Nat.ofDigitChars_toDigits (by decide) (by decide)]

/-- Two bases with different numbers make one name exactly if the base with the smaller number is
the other one with digits after it, which are those that the greater number has in front of the
smaller one. -/
theorem numbered_eq_iff {base other : String} {number more : Nat} (smaller : number < more) :
    base ++ toString number = other ++ toString more ↔
      ∃ front, base = other ++ front ∧ toString more = front ++ toString number := by
  constructor
  · intro same
    have chars : base.toList ++ (toString number).toList =
        other.toList ++ (toString more).toList := by
      rw [← String.toList_append, ← String.toList_append, same]
    rcases List.append_eq_append_iff.mp chars with ⟨extra, bases, numbers⟩ | ⟨front, bases, numbers⟩
    · have lengths := length_toString_le smaller
      rw [numbers, List.length_append] at lengths
      have none : extra = [] := List.eq_nil_of_length_eq_zero (by omega)
      rw [none, List.nil_append, String.toList_inj] at numbers
      exact absurd (toString_inj numbers) (by omega)
    · refine ⟨String.ofList front, ?_, ?_⟩
      · rw [← String.toList_inj, String.toList_append, String.toList_ofList, bases]
      · rw [← String.toList_inj, String.toList_append, String.toList_ofList, numbers]
  · rintro ⟨front, rfl, digits⟩
    rw [digits, String.append_assoc]

namespace Construct

/-- Whether two helpers have one name. The base of the earlier construct is that of the later one,
followed by the digits that the later number has in front of the earlier one. -/
def Clash (constructs : List Construct) : Prop :=
  ∃ (early late : Nat) (first second : Construct) (front : String), early < late ∧
    constructs[early]? = some first ∧
    constructs[late]? = some second ∧ first.base = second.base ++ front ∧
    toString (late + 1) = front ++ toString (early + 1)

/-- Two names are the same only if one base goes on with digits where the other one ends. -/
theorem nodup_names_iff (constructs : List Construct) :
    (names 0 constructs).Nodup ↔ ¬ Clash constructs := by
  rw [List.Nodup, List.pairwise_iff_getElem]
  constructor
  · rintro distinct ⟨early, late, first, second, front, before, atEarly, atLate, bases, numbers⟩
    have firstName := getElem?_names 0 constructs early
    have secondName := getElem?_names 0 constructs late
    rw [atEarly, Option.map_some, Nat.zero_add] at firstName
    rw [atLate, Option.map_some, Nat.zero_add] at secondName
    obtain ⟨earlyBound, earlyName⟩ := List.getElem?_eq_some_iff.mp firstName
    obtain ⟨lateBound, lateName⟩ := List.getElem?_eq_some_iff.mp secondName
    refine distinct early late earlyBound lateBound before ?_
    rw [earlyName, lateName]
    exact (numbered_eq_iff (by omega)).mpr ⟨front, bases, numbers⟩
  · intro apart early late earlyBound lateBound before same
    have firstName := getElem?_names 0 constructs early
    have secondName := getElem?_names 0 constructs late
    rw [List.getElem?_eq_getElem earlyBound, eq_comm, Option.map_eq_some_iff, Nat.zero_add]
      at firstName
    rw [List.getElem?_eq_getElem lateBound, eq_comm, Option.map_eq_some_iff, Nat.zero_add]
      at secondName
    obtain ⟨first, atEarly, firstName⟩ := firstName
    obtain ⟨second, atLate, secondName⟩ := secondName
    rw [← firstName, ← secondName] at same
    obtain ⟨front, bases, numbers⟩ := (numbered_eq_iff (by omega)).mp same
    exact apart ⟨early, late, first, second, front, before, atEarly, atLate, bases, numbers⟩

/-- Of two helpers with one name, the earlier one has a base that ends in a digit, and the later one
is not among the first ten. -/
theorem Clash.late {constructs : List Construct} (clash : Clash constructs) :
    10 < constructs.length ∧
      ∃ construct ∈ constructs, ∃ c ∈ construct.base.toList.getLast?, c.isDigit := by
  obtain ⟨early, late, first, second, front, before, atEarly, atLate, bases, numbers⟩ := clash
  have suffix : Nat.toDigits 10 (early + 1) <:+ Nat.toDigits 10 (late + 1) := by
    refine ⟨front.toList, ?_⟩
    rw [← Nat.toList_repr, ← Nat.toList_repr, ← Nat.toString_eq_repr, ← Nat.toString_eq_repr,
      numbers, String.toList_append]
  refine ⟨?_, first, List.mem_of_getElem? atEarly, ?_⟩
  · have small : ∀ late < 10, ∀ early < late, ¬ Nat.toDigits 10 (early + 1) <:+
        Nat.toDigits 10 (late + 1) := by
      decide
    have bound := (List.getElem?_eq_some_iff.mp atLate).1
    have large : ¬ late < 10 := fun few => small late few early before suffix
    omega
  · have nonempty : front.toList ≠ [] := by
      intro none
      rw [String.toList_eq_nil_iff.mp none, String.empty_append] at numbers
      have := toString_inj numbers
      omega
    refine ⟨front.toList.getLast nonempty, ?_, ?_⟩
    · rw [bases, String.toList_append, List.getLast?_append, List.getLast?_eq_some_getLast nonempty]
      rfl
    · have inNumber : front.toList.getLast nonempty ∈ (toString (late + 1)).toList := by
        rw [numbers, String.toList_append]
        exact List.mem_append_left _ (List.getLast_mem nonempty)
      exact isDigit_of_mem_toString inNumber

end Construct

/-- The helpers of a template are named by the bases of its constructs, numbered from one. All names
are identifiers exactly if all bases can stand in front of a number, and no two are equal exactly if
no base of an earlier construct is that of a later one with the digits after it by which their
numbers differ. So they are different if there are ten of them at most, or if no base ends in a
digit. -/
theorem helperNames_usable_iff {host : HostLanguage} {options : Options} {source : String}
    {tree : RenderTree} {warnings : List Warning} (valid : options.validate = .ok ())
    (rendered : renderTree host options source = .ok (tree, warnings)) (target : Target) :
    (tree.helperNames target).Perm (Construct.names 0 tree.constructs) ∧
    ((∀ name ∈ tree.helperNames target, isIdentifier name) ↔
      ∀ construct ∈ tree.constructs, construct.IsNamable) ∧
    ((tree.helperNames target).Nodup ↔ ¬ Construct.Clash tree.constructs) ∧
    (tree.constructs.length ≤ 10 ∨
      (∀ construct ∈ tree.constructs, ∀ c ∈ construct.base.toList.getLast?, c.isDigit = false) →
      (tree.helperNames target).Nodup) := by
  have named := tree.perm_names target
  have distinct : (tree.helperNames target).Nodup ↔ ¬ Construct.Clash tree.constructs := by
    rw [named.nodup_iff]
    exact Construct.nodup_names_iff tree.constructs
  refine ⟨named, ?_, distinct, ?_⟩
  · obtain ⟨nodes, resolved⟩ := exists_resolve_of_renderTree rendered
    have listed (name : String) : name ∈ tree.helperNames target ↔
        name ∈ Construct.names 0 tree.constructs :=
      named.mem_iff
    simp only [listed]
    rw [Construct.isIdentifier_names_iff]
    refine forall₂_congr fun construct member => ?_
    obtain ⟨environment, scope, met⟩ := RenderTree.isMet_of_mem member
    exact Construct.isNameForm_base_iff (met.isChecked valid resolved)
  · intro few
    rw [distinct]
    intro clash
    obtain ⟨many, construct, member, c, last, digit⟩ := clash.late
    rcases few with few | plain
    · omega
    · rw [plain construct member c last] at digit
      cases digit

/-- An element with a handler, in a loop and with a scope. -/
def namedConstructs : String :=
  "<ul><li rt-repeat=\"x1 in xs\" rt-scope=\"x1.y as y\" onClick=\"e => go(y, e)\"/></ul>"

theorem namedConstructs_usable :
    ∃ tree warnings, Options.validate {} = .ok () ∧
      renderTree .standard {} namedConstructs = .ok (tree, warnings) ∧
      tree.helperNames .web = ["onClick3", "scopeY2", "repeatX11"] ∧
      (tree.helperNames .web).Nodup ∧ ∀ construct ∈ tree.constructs, construct.IsNamable := by
  have evaluated : ((renderTree .standard {} namedConstructs).toOption.map fun pair =>
      (pair.1.helperNames .web, pair.1.constructs.length)) =
        some (["onClick3", "scopeY2", "repeatX11"], 3) := by
    decide +kernel
  obtain ⟨⟨tree, warnings⟩, rendered, seen⟩ := exists_ok_of_toOption evaluated
  have names : tree.helperNames .web = ["onClick3", "scopeY2", "repeatX11"] := (Prod.mk.inj seen).1
  have length : tree.constructs.length = 3 := (Prod.mk.inj seen).2
  have valid : Options.validate {} = .ok () := rfl
  obtain ⟨_, identifiers, _, few⟩ := helperNames_usable_iff valid rendered .web
  refine ⟨tree, warnings, valid, rendered, names, few (.inl (by omega)), identifiers.mp ?_⟩
  rw [names]
  decide

/-- Eleven handlers, the first of which has a name that ends in a digit. -/
def elevenHandlers : String :=
  "<a onX1=\"e=>0\" onA=\"e=>0\" onB=\"e=>0\" onC=\"e=>0\" onD=\"e=>0\" onE=\"e=>0\" " ++
    "onF=\"e=>0\" onG=\"e=>0\" onH=\"e=>0\" onI=\"e=>0\" onX=\"e=>1\"/>"

/-- The names of two helpers can be equal, and a name can be no identifier. -/
theorem helperNames_unusable :
    (∃ tree warnings, renderTree .standard {} elevenHandlers = .ok (tree, warnings) ∧
      tree.helperNames .web =
        ["onX11", "onA2", "onB3", "onC4", "onD5", "onE6", "onF7", "onG8", "onH9", "onI10",
          "onX11"] ∧
      ¬ (tree.helperNames .web).Nodup) ∧
    ∃ tree warnings, renderTree .standard {} "<a onA-b=\"() => 0\"/>" = .ok (tree, warnings) ∧
      tree.helperNames .web = ["onA-b1"] ∧ ¬ isIdentifier "onA-b1" := by
  have twice :
      ((renderTree .standard {} elevenHandlers).toOption.map fun pair => pair.1.helperNames .web) =
      some ["onX11", "onA2", "onB3", "onC4", "onD5", "onE6", "onF7", "onG8", "onH9", "onI10",
        "onX11"] := by
    decide +kernel
  have hyphened : ((renderTree .standard {} "<a onA-b=\"() => 0\"/>").toOption.map fun pair =>
      pair.1.helperNames .web) =
      some ["onA-b1"] := by
    decide +kernel
  obtain ⟨⟨tree, warnings⟩, rendered, names⟩ := exists_ok_of_toOption twice
  obtain ⟨⟨other, otherWarnings⟩, otherRendered, otherNames⟩ := exists_ok_of_toOption hyphened
  refine ⟨⟨tree, warnings, rendered, names, ?_⟩, other, otherWarnings, otherRendered, otherNames,
    by decide⟩
  rw [names]
  decide

end RenderTemplate
