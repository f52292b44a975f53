namespace RenderTemplate

/-- A kind of fault. Its spelling is fixed, and for some kinds there is a hint that tells how to
mend the fault. -/
inductive Code where
  | unterminatedTag
  | mismatchedClose
  | unclosedElement
  | unterminatedExpression
  | malformedExpression
  | unterminatedComment
  | malformedAttribute
  | embeddedInterpolation
  | noRoot
  | multipleRoots
  | conflictingImport
  | duplicateTemplate
  | invalidRepeat
  | invalidScope
  | invalidImport
  | invalidTemplate
  | invalidVirtual
  | invalidHandler
  | duplicateDirective
  | invalidTag
  | missingName
  | invalidOptions
  | unknownDirective
  | misplacedDirective
  | unemittedImport
  /-- A code outside the catalogue, with its spelling. -/
  | other (text : String)
deriving DecidableEq, Repr

namespace Code

/-- The codes of the catalogue and their spellings. -/
def catalogue : List (String × Code) := [
  ("RT-PARSE-001", unterminatedTag),
  ("RT-PARSE-002", mismatchedClose),
  ("RT-PARSE-003", unclosedElement),
  ("RT-PARSE-004", unterminatedExpression),
  ("RT-PARSE-005", malformedExpression),
  ("RT-PARSE-006", unterminatedComment),
  ("RT-PARSE-007", malformedAttribute),
  ("RT-PARSE-008", embeddedInterpolation),
  ("RT-RESOLVE-001", noRoot),
  ("RT-RESOLVE-002", multipleRoots),
  ("RT-RESOLVE-003", conflictingImport),
  ("RT-RESOLVE-004", duplicateTemplate),
  ("RT-RESOLVE-005", invalidRepeat),
  ("RT-RESOLVE-006", invalidScope),
  ("RT-RESOLVE-007", invalidImport),
  ("RT-RESOLVE-008", invalidTemplate),
  ("RT-RESOLVE-009", invalidVirtual),
  ("RT-RESOLVE-010", invalidHandler),
  ("RT-RESOLVE-011", duplicateDirective),
  ("RT-RESOLVE-012", invalidTag),
  ("RT-CONFIG-001", missingName),
  ("RT-CONFIG-002", invalidOptions),
  ("RT-WARN-001", unknownDirective),
  ("RT-WARN-002", misplacedDirective),
  ("RT-WARN-003", unemittedImport)]

/-- The code with a given spelling. -/
def ofText (text : String) : Code :=
  (catalogue.lookup text).getD (other text)

/-- The spelling of a code. -/
def text : Code → String
  | other text => text
  | code => ((catalogue.find? (·.2 = code)).map (·.1)).getD ""

/-- How to mend a fault of this kind, where there is general advice. -/
def hint? : Code → Option String
  | mismatchedClose => some "Every opened tag must be closed in reverse order."
  | unclosedElement => some "Close the element or write it as <tag />."
  | unterminatedExpression => some "Every '\x7b' opening an expression needs a matching '\x7d'."
  | noRoot | multipleRoots =>
    some "A template renders exactly one root element; wrap siblings in a container."
  | conflictingImport =>
    some "Each local name may be imported once; rename one of the aliases with 'as'."
  | duplicateTemplate => some "A component accepts at most one template per prop."
  | invalidRepeat => some "Use rt-repeat=\"item in collection\" or \"item, index in collection\"."
  | invalidScope => some "Use rt-scope=\"expression as alias; other as alias2\"."
  | invalidHandler =>
    some "Event handlers take a lambda '(p1, p2) => body' or an expression in \x7b\x7d."
  | missingName => some "Set the 'name' option for the amd and none module formats."
  | embeddedInterpolation =>
    some "Embedded templates are compiled statically; move runtime values into \x7bexpressions\x7d."
  | _ => none

end Code

end RenderTemplate
