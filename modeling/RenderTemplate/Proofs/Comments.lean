import RenderTemplate.Proofs.Commas
import RenderTemplate.Proofs.TreePass

namespace RenderTemplate

open Markup

/-- The pass that takes all comments out, those of the module too. -/
def withoutComments : TreePass where
  keepsComments := false

/-- Leaving out comments is a pass over the tree that can as well be made on the source. -/
theorem withoutComments_realizes (setting : Setting) :
    withoutComments.Realizes setting setting where
  host := rfl
  target := rfl
  format := rfl
  specs := rfl
  references _ _ := rfl
  props scope found := by
    cases attributeProps setting scope found with
    | error error => rfl
    | ok props => exact congrArg Except.ok (List.map_id props).symm

/-- The text of a comment. -/
def RenderNode.comment? : RenderNode → Option String
  | comment value => some value
  | _ => none

/-- An argument with the comments in front of it and those after it. -/
structure Commented where
  before : List String
  code : String
  after : List String

namespace Commented

def comments (piece : Commented) : List String :=
  piece.before ++ piece.after

def parts (piece : Commented) : List String :=
  piece.before ++ piece.code :: piece.after

/-- The code with its comments, with spaces between them. -/
def text (piece : Commented) : String :=
  " ".intercalate piece.parts

theorem parts_ne_nil (piece : Commented) : piece.parts ≠ [] :=
  List.append_ne_nil_of_right_ne_nil _ (List.cons_ne_nil _ _)

/-- An argument with further comments after it. -/
def followedBy (piece : Commented) (trailing : List String) : Commented :=
  { piece with after := piece.after ++ trailing }

theorem parts_followedBy (piece : Commented) (trailing : List String) :
    (piece.followedBy trailing).parts = piece.parts ++ trailing := by
  simp [parts, followedBy]

theorem comments_followedBy (piece : Commented) (trailing : List String) :
    (piece.followedBy trailing).comments = piece.comments ++ trailing := by
  simp [comments, followedBy]

theorem text_followedBy (piece : Commented) (trailing : List String) :
    (piece.followedBy trailing).text = " ".intercalate (piece.text :: trailing) := by
  cases trailing with
  | nil => simp [text, followedBy, parts]
  | cons first rest =>
    rw [text, parts_followedBy,
      String.intercalate_append_of_ne_nil piece.parts_ne_nil (List.cons_ne_nil _ _),
      String.intercalate_cons_of_ne_nil (List.cons_ne_nil _ _), text]

end Commented

namespace ChildCode

/-- The arguments of children that are in hand, with comments that are pending in front and others
that are left at the end. -/
structure Arranges (pending : List String) (children : List ChildCode) (pieces : List Commented)
    (left : List String) :
    Prop where
  codes : pieces.map (·.code) = (children.filter isArgument).map code
  comments : pieces.flatMap (·.comments) ++ left =
    pending ++ (children.filter (!·.isArgument)).map code
  parts : pieces.flatMap (·.parts) ++ left = pending ++ children.map code

/-- Arguments stand in their order, each behind the comments before it. -/
theorem exists_attach (pending : List String) (children : List ChildCode) :
    ∃ pieces left, attach pending children = (pieces.map (·.text), left) ∧
      Arranges pending children pieces left := by
  induction children generalizing pending with
  | nil => exact ⟨[], pending, rfl, rfl, by simp, by simp⟩
  | cons child rest ih =>
    cases child with
    | comment code =>
      obtain ⟨pieces, left, attached, arranged⟩ := ih (pending ++ [code])
      refine ⟨pieces, left, attached, arranged.codes, ?_, ?_⟩
      · simpa [isArgument, ChildCode.code] using arranged.comments
      · simpa [ChildCode.code] using arranged.parts
    | argument code =>
      obtain ⟨pieces, left, attached, arranged⟩ := ih []
      refine ⟨⟨pending, code, []⟩ :: pieces, left, by rw [attach, attached]; rfl, ?_, ?_, ?_⟩
      · rw [List.filter_cons_of_pos rfl, List.map_cons, List.map_cons, arranged.codes]
        rfl
      · simpa [isArgument, Commented.comments] using arranged.comments
      · simpa [ChildCode.code, Commented.parts] using arranged.parts

theorem appendLast_concat (trailing front : List String) (last : String) :
    appendLast trailing (front ++ [last]) = front ++ [" ".intercalate (last :: trailing)] := by
  induction front with
  | nil => rfl
  | cons first rest ih =>
    obtain ⟨second, more, split⟩ :=
      List.exists_cons_of_ne_nil (List.append_ne_nil_of_right_ne_nil rest
      (List.cons_ne_nil last []))
    rw [List.cons_append, List.cons_append, ← ih, split, appendLast]
    exact List.cons_ne_nil second more

/-- Comments that are left go after the last argument. -/
theorem exists_appendLast {children : List ChildCode} {pieces : List Commented} {left : List String}
    (arranged : Arranges [] children pieces left) (some : pieces ≠ []) :
    ∃ others, appendLast left (pieces.map (·.text)) = others.map (·.text) ∧
      Arranges [] children others [] := by
  obtain ⟨front, last, rfl⟩ := (List.eq_nil_or_concat pieces).resolve_left some
  obtain ⟨codes, comments, parts⟩ := arranged
  refine ⟨front ++ [last.followedBy left], ?_, ?_, ?_, ?_⟩
  · simp [appendLast_concat, Commented.text_followedBy]
  · simpa [Commented.followedBy] using codes
  · simpa [Commented.comments_followedBy] using comments
  · simpa [Commented.parts_followedBy] using parts

/-- The arguments for children are their codes with the comments around them. Comments alone stand
in front of `null`. -/
theorem exists_arguments (children : List ChildCode) :
    ∃ pieces : List Commented, arguments children = pieces.map (·.text) ∧
      if (children.filter isArgument).isEmpty && !children.isEmpty then pieces =
        [⟨children.map code, "null", []⟩]
      else Arranges [] children pieces [] := by
  obtain ⟨pieces, left, attached, arranged⟩ := exists_attach [] children
  have none_iff : pieces = [] ↔ (children.filter isArgument).isEmpty := by
    rw [← List.map_eq_nil_iff, arranged.codes, List.map_eq_nil_iff, List.isEmpty_iff]
  unfold arguments
  rw [attached]
  dsimp only
  by_cases none : pieces = []
  · subst none
    have only : left = children.map code := arranged.parts
    rw [none_iff.mp rfl, Bool.true_and, only, List.isEmpty_map]
    cases children with
    | nil => exact ⟨[], rfl, rfl, rfl, rfl⟩
    | cons child rest => exact ⟨[⟨(child :: rest).map code, "null", []⟩], rfl, rfl⟩
  · rw [Bool.eq_false_iff.mpr fun bare => none (none_iff.mpr bare), Bool.false_and]
    cases left with
    | nil => exact ⟨pieces, rfl, arranged⟩
    | cons first rest => exact exists_appendLast arranged none

theorem attach_of_all {children : List ChildCode} (each : ∀ child ∈ children, child.isArgument) :
    attach [] children = (children.map code, []) := by
  induction children with
  | nil => rfl
  | cons child rest ih =>
    rw [List.forall_mem_cons] at each
    cases child with
    | comment code => cases each.1
    | argument code =>
      rw [attach, ih each.2]
      simp [ChildCode.code]

/-- Arguments without comments stay as they are. -/
theorem arguments_of_all {children : List ChildCode} (each : ∀ child ∈ children, child.isArgument) :
    arguments children = children.map code := by
  rw [arguments, attach_of_all each]
  rfl

end ChildCode

/-- How the arguments for children are made of the codes of those that are no comments, and of the
codes of all: each has comments around it, and everything stays in its order. Comments alone stand
in front of `null`. -/
def Commented.Arrange (children : List RenderNode) (codes all : List String)
    (pieces : List Commented) : Prop :=
  let comments := (children.filterMap RenderNode.comment?).map blockComment
  if codes.isEmpty && !children.isEmpty then pieces = [⟨comments, "null", []⟩]
  else pieces.map (·.code) = codes ∧ pieces.flatMap (·.comments) = comments ∧
    pieces.flatMap (·.parts) = all

namespace Emit

variable {target : Target} {enter : Nat → Emit String}

/-- The codes of children, one after the other: the code of a comment changes nothing else. -/
inductive Children (target : Target) (enter : Nat → Emit String) :
    Emitted → List RenderNode → List ChildCode → Emitted → Prop where
  | nil (emitted : Emitted) : Children target enter emitted [] [] emitted
  | comment {emitted final : Emitted} {rest : List RenderNode} {codes : List ChildCode}
      (value : String)
      (later : Children target enter emitted rest codes final) :
      Children target enter emitted (.comment value :: rest) (.comment (blockComment value) ::
        codes) final
  | argument {emitted next final : Emitted} {child : RenderNode} {rest : List RenderNode}
      {code : String}
      {codes : List ChildCode}
      (other : child.isComment = false)
      (here : (node target enter child).run emitted = (code, next))
      (later : Children target enter next rest codes final) :
      Children target enter emitted (child :: rest) (.argument code :: codes) final

theorem run_bind {α β : Type} {work : Emit α} {more : α → Emit β} {emitted next : Emitted}
    {value : α} (here : work.run emitted = (value, next)) :
    (work >>= more).run emitted = (more value).run next := by
  rw [StateT.run_bind, here]
  rfl

theorem run_all_cons {child : RenderNode} {rest : List RenderNode} {emitted next final : Emitted}
    {code : String} {codes : List ChildCode}
    (here : (node target enter child).run emitted = (code, next))
    (later : (all target enter rest).run next = (codes, final)) :
    (all target enter (child :: rest)).run emitted =
      ((if child.isComment then .comment code else .argument code) :: codes, final) := by
  rw [all, run_bind here, run_bind later]
  rfl

theorem run_mapM_cons {child : RenderNode} {rest : List RenderNode} {emitted next final : Emitted}
    {code : String} {codes : List String}
    (here : (node target enter child).run emitted = (code, next))
    (later : (rest.mapM (node target enter)).run next = (codes, final)) :
    ((child :: rest).mapM (node target enter)).run emitted = (code :: codes, final) := by
  rw [List.mapM_cons, run_bind here, run_bind later]
  rfl

namespace Children

/-- The children of an element have one code each, and the helpers of one child come before those of
the next. -/
theorem exists_children (target : Target) (enter : Nat → Emit String) (children : List RenderNode)
    (emitted : Emitted) :
    ∃ codes final, Children target enter emitted children codes final := by
  induction children generalizing emitted with
  | nil => exact ⟨[], emitted, .nil emitted⟩
  | cons child rest ih =>
    cases isComment : child.isComment with
    | true =>
      cases child with
      | comment value =>
        obtain ⟨codes, final, later⟩ := ih emitted
        exact ⟨_, final, .comment value later⟩
      | _ => cases isComment
    | false =>
      obtain ⟨codes, final, later⟩ := ih ((node target enter child).run emitted).2
      exact ⟨_, final, .argument isComment rfl later⟩

variable {emitted final : Emitted} {children : List RenderNode} {codes : List ChildCode}

theorem run_all (found : Children target enter emitted children codes final) :
    (all target enter children).run emitted = (codes, final) := by
  induction found with
  | nil emitted => rfl
  | comment value later ih => exact run_all_cons rfl ih
  | argument other here later ih =>
    have tagged := run_all_cons here ih
    rwa [other] at tagged

theorem run_mapM (found : Children target enter emitted children codes final) :
    (children.mapM (node target enter)).run emitted = (codes.map ChildCode.code, final) := by
  induction found with
  | nil emitted => rfl
  | comment value later ih => exact run_mapM_cons rfl ih
  | argument other here later ih => exact run_mapM_cons here ih

/-- Without the comments, the others have the same codes and add the same helpers. -/
theorem rendered (found : Children target enter emitted children codes final) :
    Children target enter emitted (children.filter (!·.isComment))
      (codes.filter ChildCode.isArgument) final := by
  induction found with
  | nil emitted => exact .nil emitted
  | comment value later ih => exact ih
  | argument other here later ih =>
    rw [List.filter_cons_of_pos (by rw [other]; rfl), List.filter_cons_of_pos rfl]
    exact .argument other here ih

/-- The comments among the codes are those among the children, as block comments. -/
theorem comments (found : Children target enter emitted children codes final) :
    (codes.filter (!·.isArgument)).map ChildCode.code =
      (children.filterMap RenderNode.comment?).map blockComment := by
  induction found with
  | nil emitted => rfl
  | comment value later ih => exact congrArg (blockComment value :: ·) ih
  | @argument _ _ _ child _ _ _ other here later ih =>
    have none : child.comment? = none := by
      cases child with
      | comment value => cases other
      | _ => rfl
    rw [List.filter_cons_of_neg (by simp [ChildCode.isArgument]), List.filterMap_cons_none none, ih]

theorem run_arguments (found : Children target enter emitted children codes final) :
    (ChildCode.arguments <$> all target enter children).run emitted =
      (ChildCode.arguments codes, final) := by
  rw [map_eq_pure_bind, run_bind found.run_all]
  rfl

theorem isEmpty_eq (found : Children target enter emitted children codes final) :
    codes.isEmpty = children.isEmpty := by
  cases found with
  | nil emitted => rfl
  | comment value later => rfl
  | argument other here later => rfl

/-- An arrangement of the codes of children is one of the children. -/
theorem arrange (found : Children target enter emitted children codes final)
    {pieces : List Commented}
    (made : if (codes.filter ChildCode.isArgument).isEmpty && !codes.isEmpty then
        pieces = [⟨codes.map ChildCode.code, "null", []⟩]
      else ChildCode.Arranges [] codes pieces []) :
    Commented.Arrange children ((codes.filter ChildCode.isArgument).map ChildCode.code)
      (codes.map ChildCode.code)
      pieces := by
  unfold Commented.Arrange
  dsimp only
  rw [List.isEmpty_map, ← found.isEmpty_eq, ← found.comments]
  by_cases bare : (codes.filter ChildCode.isArgument).isEmpty && !codes.isEmpty
  · rw [if_pos bare] at made ⊢
    have none : codes.filter ChildCode.isArgument = [] :=
      List.isEmpty_iff.mp (Bool.and_eq_true_iff.mp bare).1
    have only : codes.filter (!·.isArgument) = codes := by
      rw [List.filter_eq_self]
      intro code member
      rw [Bool.not_eq_true', Bool.eq_false_iff]
      exact List.filter_eq_nil_iff.mp none code member
    rwa [only]
  · rw [if_neg bare] at made ⊢
    refine ⟨made.codes, ?_, ?_⟩
    · simpa using made.comments
    · simpa using made.parts

end Children

end Emit

/-- Comments are transparent. A template without its comments fails with the same error, or it gives
the same warnings and the same tree without comments. And the arguments for children are the codes
of those that are no comments, with block comments around them, and with the same helpers and names
as without the comments. -/
theorem comments_transparent (setting : Setting) (nodes : List Node) (target : Target)
    (enter : Nat → Emit String) (children : List RenderNode) (emitted : Emitted) :
    resolve setting (withoutComments.source nodes) =
      (resolve setting nodes).map withoutComments.result ∧
      ∃ codes all pieces final,
        ((children.filter (!·.isComment)).mapM (Emit.node target enter)).run emitted =
          (codes, final) ∧
        (ChildCode.arguments <$> Emit.all target enter (children.filter (!·.isComment))).run
          emitted = (codes, final) ∧
        (children.mapM (Emit.node target enter)).run emitted = (all, final) ∧
        (ChildCode.arguments <$> Emit.all target enter children).run emitted =
          (pieces.map Commented.text, final) ∧
        Commented.Arrange children codes all pieces := by
  refine ⟨(withoutComments_realizes setting).resolve_source nodes, ?_⟩
  obtain ⟨found, final, runs⟩ := Emit.Children.exists_children target enter children emitted
  obtain ⟨pieces, made, arranged⟩ := ChildCode.exists_arguments found
  have rendered := runs.rendered.run_arguments
  rw [ChildCode.arguments_of_all fun child member => (List.mem_filter.mp member).2] at rendered
  refine ⟨_, _, pieces, final, runs.rendered.run_mapM, rendered, runs.run_mapM, ?_,
    runs.arrange arranged⟩
  rw [runs.run_arguments, made]

end RenderTemplate
