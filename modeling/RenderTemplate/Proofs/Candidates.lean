import RenderTemplate.Proofs.Runs

namespace RenderTemplate

open Markup

/-- Each member of a list has a partner in the list that it corresponds to. -/
theorem exists_partner {α β : Type} {related : α → β → Prop} {items : List α} {partners : List β}
    (matched : List.Forall₂ related items partners) {item : α} (member : item ∈ items) :
    ∃ partner ∈ partners, related item partner := by
  induction matched with
  | nil => cases member
  | @cons first partner items partners here rest ih =>
    rcases List.mem_cons.mp member with rfl | later
    · exact ⟨partner, List.mem_cons_self, here⟩
    · obtain ⟨other, listed, found⟩ := ih later
      exact ⟨other, List.mem_cons_of_mem _ listed, found⟩

/-- Whether an element gets a child as a prop: the child is a template, or its tag is configured for
its owner in the options or, for native applications, in the native list. -/
def Markup.Node.isTrigger (options : Options) (owner : String) : Node → Bool
  | .element start _ =>
    start.name == "rt-template" || (options.templates.spec? owner start.name).isSome ||
      (options.native && owner == "ListView" && (listTemplates.lookup start.name).isSome)
  | _ => false

/-- The warnings about a child that becomes a prop. -/
def Markup.Node.triggerWarnings : Node → List Warning
  | .element start _ => childWarnings start
  | _ => []

/-- What an element gets for a child: the spec that the child declares or that is configured for it,
and the one element that it wraps. -/
def Candidate.IsFor (options : Options) (owner : String) (child : Node) (candidate : Candidate) :
    Prop :=
  ∃ start children, child = .element start children ∧
    childSpec? options owner start = some (.ok candidate.spec) ∧
    soleElement? children = some candidate.body ∧ candidate.location = start.location

theorem mem_of_lookup {α : Type} {entries : List (String × α)} {key : String} {value : α}
    (found : entries.lookup key = some value) : (key, value) ∈ entries := by
  induction entries with
  | nil => cases found
  | cons entry entries ih =>
    rw [List.lookup_cons] at found
    split at found
    · next same =>
      obtain ⟨name, first⟩ := entry
      cases found
      rw [beq_iff_eq] at same
      simp [same]
    · exact List.mem_cons_of_mem _ (ih found)

theorem declaresTemplate_eq (start : StartTag) :
    declaresTemplate start = (start.name == "rt-template") := by
  rw [Bool.eq_iff_iff, declaresTemplate, beq_iff_eq, beq_iff_eq]
  constructor
  · intro reserved
    have listed : (start.name, ReservedTag.template) ∈ ReservedTag.names := mem_of_lookup reserved
    simpa [ReservedTag.names] using listed
  · intro same
    rw [same]
    rfl

/-- What is configured for a child: the spec of the options, and only if they have none that of the
native list. -/
theorem Options.spec?_eq_some_iff {options : Options} {owner child : String} {spec : TemplateSpec} :
    options.spec? owner child = some spec ↔
      options.templates.spec? owner child = some spec ∨
      (options.templates.spec? owner child = none ∧ options.native ∧ owner = "ListView" ∧
        listTemplates.lookup child = some spec) := by
  unfold spec?
  split
  · next configured => simp [configured]
  · next unknown => simp [unknown, and_assoc]

theorem isTrigger_element (options : Options) (owner : String) (start : StartTag)
    (children : List Node) :
    (Node.element start children).isTrigger options owner =
      (childSpec? options owner start).isSome := by
  rw [Node.isTrigger, childSpec?, declaresTemplate_eq, Options.spec?]
  cases start.name == "rt-template" with
  | true => rfl
  | false =>
    cases options.templates.spec? owner start.name with
    | some spec => rfl
    | none =>
      cases options.native && owner == "ListView" with
      | true => simp
      | false => rfl

theorem isTrigger_of_childSpec? {options : Options} {owner : String} {start : StartTag}
    {spec : Except CompileError TemplateSpec} (known : childSpec? options owner start = some spec)
    (children : List Node) :
    (Node.element start children).isTrigger options owner := by
  rw [isTrigger_element, known]
  rfl

theorem staysInline_eq (options : Options) (owner : String) (node : Node) :
    staysInline options owner node = !node.isTrigger options owner := by
  cases node with
  | element start children => rw [staysInline, isTrigger_element, ← Option.not_isSome]
  | text parts place => rfl
  | comment value place => rfl

namespace Extraction

variable {options : Options} {owner : StartTag} {found next : Extraction}

/-- A child becomes a prop if no child before it has this prop, and no attribute of the owner. -/
theorem checkNew_eq_ok_iff {known : List Candidate} {candidate : Candidate} :
    checkNew owner known candidate = .ok () ↔
      candidate.spec.prop ∉ known.map (·.spec.prop) ∧
        owner.hasAttribute candidate.spec.prop = false := by
  unfold checkNew
  dsimp only
  split
  · next taken =>
    simp only [List.any_eq_true, beq_iff_eq] at taken
    simp [taken]
  · next free =>
    simp only [List.any_eq_true, beq_iff_eq, not_exists, not_and] at free
    split
    · next collides => simp [collides]
    · next apart => simpa [apart] using free

theorem add_inline {node : Node} (inline : node.isTrigger options owner.name = false) :
    add options owner found node = .ok { found with remaining := found.remaining ++ [node] } := by
  cases node with
  | text parts place => rfl
  | comment value place => rfl
  | element start children =>
    have none : childSpec? options owner.name start = none := by
      rwa [isTrigger_element, Option.isSome_eq_false_iff, Option.isNone_iff_eq_none] at inline
    simp only [add, none]

/-- A child becomes a prop that its owner does not have otherwise. -/
theorem add_trigger {node : Node} (trigger : node.isTrigger options owner.name) :
    add options owner found node = .ok next ↔
      ∃ candidate : Candidate, candidate.IsFor options owner.name node ∧
        candidate.spec.prop ∉ found.candidates.map (·.spec.prop) ∧
          owner.hasAttribute candidate.spec.prop = false ∧
        next = { found with
          candidates := found.candidates ++ [candidate]
          warnings := found.warnings ++ node.triggerWarnings } := by
  cases node with
  | text parts place => cases trigger
  | comment value place => cases trigger
  | element start children =>
    rw [isTrigger_element] at trigger
    obtain ⟨spec, known⟩ := Option.isSome_iff_exists.mp trigger
    simp only [add, known]
    constructor
    · intro added
      obtain ⟨spec, rfl, run⟩ := bind_ok.mp added
      cases sole : soleElement? children with
      | none =>
        rw [sole] at run
        cases run
      | some body =>
        rw [sole] at run
        obtain ⟨_, checked, made⟩ := bind_ok.mp run
        cases made
        obtain ⟨fresh, apart⟩ := checkNew_eq_ok_iff.mp checked
        exact ⟨⟨spec, body, start.location⟩, ⟨start, children, rfl, known, sole, rfl⟩, fresh, apart,
          rfl⟩
    · rintro ⟨⟨spec, body, place⟩, ⟨_, _, same, specified, sole, rfl⟩, fresh, apart, rfl⟩
      cases same
      cases known.symm.trans specified
      rw [sole]
      have checked := checkNew_eq_ok_iff.mpr ⟨fresh, apart⟩
      refine bind_ok.mpr ⟨spec, rfl, bind_ok.mpr ⟨(), checked, rfl⟩⟩

/-- Whether candidates can be added to those that are known: each is for a new prop. -/
def Admits (owner : StartTag) (known : List Candidate) (candidates : List Candidate) : Prop :=
  (candidates.map (·.spec.prop)).Nodup ∧
    ∀ candidate ∈ candidates, candidate.spec.prop ∉ known.map (·.spec.prop) ∧
      owner.hasAttribute candidate.spec.prop = false

theorem admits_cons {known candidates : List Candidate} {candidate : Candidate} :
    Admits owner known (candidate :: candidates) ↔
      candidate.spec.prop ∉ known.map (·.spec.prop) ∧
        owner.hasAttribute candidate.spec.prop = false ∧
        Admits owner (known ++ [candidate]) candidates := by
  unfold Admits
  simp only [List.map_cons, List.nodup_cons, List.forall_mem_cons, List.map_append, List.map_nil,
    List.mem_append, List.mem_singleton, not_or]
  constructor
  · rintro ⟨⟨new, distinct⟩, ⟨fresh, apart⟩, rest⟩
    refine ⟨fresh, apart, distinct, fun other member => ?_⟩
    have distinctProp : other.spec.prop ≠ candidate.spec.prop := by
      intro same
      exact new (same ▸ List.mem_map_of_mem member)
    exact ⟨⟨(rest other member).1, distinctProp⟩, (rest other member).2⟩
  · rintro ⟨fresh, apart, distinct, rest⟩
    refine ⟨⟨?_, distinct⟩, ⟨fresh, apart⟩, fun other member =>
      ⟨(rest other member).1.1, (rest other member).2⟩⟩
    intro member
    obtain ⟨other, listed, same⟩ := List.mem_map.mp member
    exact (rest other listed).1.2 same

/-- The children are taken one after the other, each beside those that were found before it. -/
theorem foldlM_add_eq_ok_iff {children : List Node} :
    children.foldlM (add options owner) found = .ok next ↔
      ∃ candidates, List.Forall₂ (Candidate.IsFor options owner.name)
          (children.filter (·.isTrigger options owner.name)) candidates ∧
        Admits owner found.candidates candidates ∧
        next =
          { candidates := found.candidates ++ candidates
            remaining := found.remaining ++ children.filter fun child =>
              !child.isTrigger options owner.name
            warnings := found.warnings ++
              (children.filter (·.isTrigger options owner.name)).flatMap Node.triggerWarnings
                } := by
  induction children generalizing found with
  | nil =>
    rw [List.foldlM_nil, pure_ok]
    constructor
    · rintro rfl
      exact ⟨[], .nil, ⟨List.nodup_nil, by simp⟩, by simp⟩
    · rintro ⟨candidates, matched, _, rfl⟩
      cases matched
      simp
  | cons child children ih =>
    rw [List.foldlM_cons, bind_ok]
    cases trigger : child.isTrigger options owner.name with
    | false =>
      rw [add_inline trigger]
      simp [trigger, ih]
    | true =>
      simp only [add_trigger trigger, List.filter_cons, trigger]
      constructor
      · rintro ⟨_, ⟨candidate, isFor, fresh, apart, rfl⟩, folded⟩
        obtain ⟨candidates, matched, admits, rfl⟩ := ih.mp folded
        exact ⟨candidate :: candidates, .cons isFor matched, admits_cons.mpr ⟨fresh, apart, admits⟩,
          by simp⟩
      · rintro ⟨_, matched, admits, rfl⟩
        cases matched with
        | @cons _ candidate _ candidates isFor matched =>
          obtain ⟨fresh, apart, admits⟩ := admits_cons.mp admits
          refine ⟨_, ⟨candidate, isFor, fresh, apart, rfl⟩,
            ih.mpr ⟨candidates, matched, admits, by simp⟩⟩

/-- When the children of an element can be taken apart, and how: each that becomes a prop gives a
candidate, in order and for different props, none of which is an attribute, and all others stay. -/
theorem ofElement_eq_ok_iff {children : List Node} :
    ofElement options owner children = .ok found ↔
      List.Forall₂ (Candidate.IsFor options owner.name)
        (children.filter (·.isTrigger options owner.name))
        found.candidates ∧
      (found.candidates.map (·.spec.prop)).Nodup ∧
      (∀ candidate ∈ found.candidates, owner.hasAttribute candidate.spec.prop = false) ∧
      found.remaining = children.filter (fun child => !child.isTrigger options owner.name) ∧
      found.warnings =
        (children.filter (·.isTrigger options owner.name)).flatMap Node.triggerWarnings := by
  rw [ofElement, foldlM_add_eq_ok_iff]
  constructor
  · rintro ⟨candidates, matched, ⟨distinct, apart⟩, rfl⟩
    exact ⟨matched, distinct, fun candidate member => (apart candidate member).2, rfl, rfl⟩
  · rintro ⟨matched, distinct, apart, remaining, warnings⟩
    refine ⟨found.candidates, matched,
      ⟨distinct, fun candidate member => ⟨by simp, apart candidate member⟩⟩, ?_⟩
    rw [← remaining, ← warnings]
    rfl

end Extraction

end RenderTemplate
