import RenderTemplate.Proofs.Whitespace

namespace RenderTemplate

/-- A part of a text before its white space is collapsed and after. -/
inductive Part.CollapsesTo (kept : Prop) : Part → Part → Prop where
  | expression (code : String) : CollapsesTo kept (.expression code) (.expression code)
  | kept (text : String) (inside : kept) : CollapsesTo kept (.literal text) (.literal text)
  | literal (text : String) (outside : ¬kept) :
      CollapsesTo kept (.literal text) (.literal (Text.singleSpaced text))

theorem Part.collapsesTo_self {kept : Prop} (inside : kept) (part : Part) :
    part.CollapsesTo kept part := by
  cases part with
  | expression code => exact .expression code
  | literal text => exact .kept text inside

namespace Markup

theorem collapsePart_collapsePart (part : Part) :
    collapsePart (collapsePart part) = collapsePart part := by
  cases part with
  | literal text =>
    have once := Text.collapseList_idem false text.toList
    simp [collapsePart, Text.collapseSpaces, once]
  | expression code => rfl

mutual

theorem Node.collapse_collapse (kept : Bool) (node : Node) :
    (node.collapse kept).collapse kept = node.collapse kept := by
  cases node with
  | element start children => rw [Node.collapse, Node.collapse, collapseAll_collapseAll]
  | text parts location =>
    rw [Node.collapse, Node.collapse]
    cases kept with
    | true => rfl
    | false =>
      have once : (parts.map collapsePart).map collapsePart = parts.map collapsePart := by
        simp [collapsePart_collapsePart]
      exact congrArg (Node.text · location) once
  | comment value location => rfl

theorem collapseAll_collapseAll (kept : Bool) (nodes : List Node) :
    collapseAll kept (collapseAll kept nodes) = collapseAll kept nodes := by
  cases nodes with
  | nil => rfl
  | cons node rest =>
    rw [collapseAll, collapseAll, node.collapse_collapse kept, collapseAll_collapseAll kept rest]

end

/-- What stands at a path in a node, and the opening tags of the elements around it, from the
outermost on. The node itself is at the empty path. -/
def Node.at? : List Nat → Node → Option (List StartTag × Node)
  | [], node => some ([], node)
  | index :: path, .element start children =>
    (children[index]?.bind (Node.at? path)).map fun found => (start :: found.1, found.2)
  | _ :: _, .text .. => none
  | _ :: _, .comment .. => none

/-- What stands at a path in a forest, and the opening tags of the elements around it, from the
outermost on. -/
def nodeAt? (nodes : List Node) : List Nat → Option (List StartTag × Node)
  | [] => none
  | index :: path => nodes[index]?.bind (Node.at? path)

/-- Collapsing can be done place by place, with the elements around a place in view. -/
theorem Node.at?_collapse (kept : Bool) (path : List Nat) (node : Node) :
    (node.collapse kept).at? path =
      (node.at? path).map fun found =>
        (found.1, found.2.collapse (kept || found.1.any StartTag.preserves)) := by
  induction path generalizing kept node with
  | nil => simp [Node.at?]
  | cons index path ih =>
    cases node with
    | text parts location => rfl
    | comment value location => rfl
    | element start children =>
      rw [Node.collapse, Node.at?, Node.at?, collapseAll_eq_map, List.getElem?_map]
      cases children[index]? with
      | none => rfl
      | some child =>
        rw [Option.map_some, Option.bind_some, Option.bind_some, ih]
        simp [Option.map_map, Function.comp_def, Bool.or_assoc]

/-- Whether an element keeps the white space of all text inside of it. -/
def StartTag.KeepsSpace (start : StartTag) : Prop :=
  start.name ∈ ["pre", "textarea", "script", "style"] ∨
    ∃ attr ∈ start.attributes, attr.name = "rt-pre"

/-- The elements that keep their white space are known by their tags. -/
theorem StartTag.preserves_iff (start : StartTag) : start.preserves ↔ start.KeepsSpace := by
  have named : isPreservingTag start.name ↔
      start.name ∈ ["pre", "textarea", "script", "style"] := by
    simp [isPreservingTag, isRawTag, or_assoc]
  have marked : start.hasAttribute "rt-pre" ↔ ∃ attr ∈ start.attributes, attr.name = "rt-pre" := by
    simp [hasAttribute, attribute?]
  rw [preserves, Bool.or_eq_true, named, marked, KeepsSpace]

theorem any_preserves_iff (around : List StartTag) :
    around.any StartTag.preserves ↔ ∃ start ∈ around, start.KeepsSpace := by
  simp [StartTag.preserves_iff]

/-- A node before white space is collapsed and after, apart from what is inside of it. At each path
there is the same kind of node before and after, and the elements around it decide about its
literals. -/
inductive Node.CollapsesTo (kept : Prop) : Node → Node → Prop where
  | element (start : StartTag) {children others : List Node}
      (length : others.length = children.length) :
      CollapsesTo kept (.element start children) (.element start others)
  | text (location : Location) {parts others : List Part}
      (each : List.Forall₂ (Part.CollapsesTo kept) parts others) :
      CollapsesTo kept (.text parts location) (.text others location)
  | comment (value : String) (location : Location) :
      CollapsesTo kept (.comment value location) (.comment value location)

theorem collapsePart_collapsesTo {kept : Prop} (outside : ¬kept) (part : Part) :
    part.CollapsesTo kept (collapsePart part) := by
  cases part with
  | expression code => exact .expression code
  | literal text =>
    rw [collapsePart, Text.collapseSpaces_eq_singleSpaced]
    exact .literal text outside

/-- A node collapses as its place says: elements and comments stay, and literals do unless an
element around them keeps white space. -/
theorem Node.collapse_collapsesTo {keeps : Bool} {kept : Prop} (same : keeps ↔ kept) (node : Node) :
    node.CollapsesTo kept (node.collapse keeps) := by
  cases node with
  | element start children =>
    rw [Node.collapse, collapseAll_eq_map]
    exact .element start (List.length_map _)
  | comment value location => exact .comment value location
  | text parts location =>
    rw [Node.collapse]
    refine .text location ?_
    cases keeps with
    | true => exact List.forall₂_same.mpr fun part _ => part.collapsesTo_self (same.mp rfl)
    | false =>
      have outside : ¬kept := fun inside => Bool.false_ne_true (same.mpr inside)
      rw [if_neg Bool.false_ne_true, List.forall₂_map_right_iff]
      exact List.forall₂_same.mpr fun part _ => collapsePart_collapsesTo outside part

/-- Collapsing white space twice is the same as doing it once. At each path of a forest it leaves
the same element with as many children, the same comment or a text with the same expressions, all at
the same location and inside the same elements. A literal stays as it is if one of these elements
keeps white space, however far up. In any other literal one space comes in the place of each run of
white space that could not be longer, and all other characters stay. -/
theorem whitespace_collapsed_in_place (nodes : List Node) :
    collapseWhitespace (collapseWhitespace nodes) = collapseWhitespace nodes ∧
    ∀ path, Option.Rel
      (fun found after => after.1 = found.1 ∧
        found.2.CollapsesTo (∃ start ∈ found.1, start.KeepsSpace) after.2)
      (nodeAt? nodes path) (nodeAt? (collapseWhitespace nodes) path) := by
  simp only [collapseWhitespace_eq_collapseAll]
  refine ⟨collapseAll_collapseAll false nodes, fun path => ?_⟩
  cases path with
  | nil => exact .none
  | cons index path =>
    rw [nodeAt?, nodeAt?, collapseAll_eq_map, List.getElem?_map]
    cases nodes[index]? with
    | none => exact .none
    | some node =>
      rw [Option.map_some, Option.bind_some, Option.bind_some, node.at?_collapse]
      cases node.at? path with
      | none => exact .none
      | some found =>
        refine .some ⟨rfl, found.2.collapse_collapsesTo ?_⟩
        rw [Bool.false_or, any_preserves_iff]

end Markup

end RenderTemplate
