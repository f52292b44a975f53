import RenderTemplate.Markup

namespace RenderTemplate.Markup

/-- Whether the text inside an element keeps its white space. -/
def StartTag.preserves (start : StartTag) : Bool :=
  isPreservingTag start.name || start.hasAttribute "rt-pre"

/-- A part of a text with its white space collapsed. -/
def collapsePart : Part → Part
  | .literal text => .literal (Text.collapseSpaces text)
  | .expression code => .expression code

mutual

/-- Collapses the white space of a node, unless an element is open that keeps it. `depth` is how
many such elements are open; how many there are after the node is given with it. -/
def Node.normalize (depth : Nat) : Node → Node × Nat
  | .element start children =>
    let inner := normalizeAll (if start.preserves then depth + 1 else depth) children
    (.element start inner.1, if start.preserves then inner.2 - 1 else inner.2)
  | .text parts location =>
    (.text (if 0 < depth then parts else parts.map collapsePart) location, depth)
  | .comment value location => (.comment value location, depth)

/-- The same for each node of a forest, one after another. -/
def normalizeAll (depth : Nat) : List Node → List Node × Nat
  | [] => ([], depth)
  | node :: rest =>
    let first := node.normalize depth
    let others := normalizeAll first.2 rest
    (first.1 :: others.1, others.2)

end

/-- A forest with its white space collapsed. The count of open elements comes back to what it was
before an element, so that at each text it is right about the elements around it. -/
def collapseWhitespace (nodes : List Node) : List Node :=
  (normalizeAll 0 nodes).1

mutual

/-- A node with its white space collapsed, unless it is inside an element that keeps it. -/
def Node.collapse (kept : Bool) : Node → Node
  | .element start children => .element start (collapseAll (kept || start.preserves) children)
  | .text parts location => .text (if kept then parts else parts.map collapsePart) location
  | .comment value location => .comment value location

/-- The same for each node of a forest. -/
def collapseAll (kept : Bool) : List Node → List Node
  | [] => []
  | node :: rest => node.collapse kept :: collapseAll kept rest

end

theorem collapseAll_eq_map (kept : Bool) (nodes : List Node) :
    collapseAll kept nodes = nodes.map (·.collapse kept) := by
  induction nodes with
  | nil => rfl
  | cons node nodes ih => rw [collapseAll, ih, List.map_cons]

mutual

/-- After a node the walk is back at the count that it had before, and it collapses what is in no
element that it counts. -/
theorem Node.normalize_eq (depth : Nat) (node : Node) :
    node.normalize depth = (node.collapse (0 < depth), depth) := by
  cases node with
  | element start children =>
    by_cases keeps : start.preserves
    · have inside := normalizeAll_eq (depth + 1) children
      simp [Node.normalize, Node.collapse, keeps, inside]
    · have inside := normalizeAll_eq depth children
      simp [Node.normalize, Node.collapse, keeps, inside]
  | text parts location => simp [Node.normalize, Node.collapse]
  | comment value location => rfl

/-- The count comes back to what it was before an element, so that it is right for the nodes after
it. -/
theorem normalizeAll_eq (depth : Nat) (nodes : List Node) :
    normalizeAll depth nodes = (collapseAll (0 < depth) nodes, depth) := by
  cases nodes with
  | nil => rfl
  | cons node rest =>
    have first := node.normalize_eq depth
    have others := normalizeAll_eq depth rest
    simp [normalizeAll, collapseAll, first, others]

end

/-- Counting the open elements that keep their white space is the same as asking each text about the
elements around it. -/
theorem collapseWhitespace_eq_collapseAll (nodes : List Node) :
    collapseWhitespace nodes = collapseAll false nodes := by
  rw [collapseWhitespace, normalizeAll_eq]
  rfl

end RenderTemplate.Markup
