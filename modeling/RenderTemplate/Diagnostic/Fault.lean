import RenderTemplate.Diagnostic

namespace RenderTemplate

/-- Why a template, an expression or a set of options is refused. -/
inductive Fault where
  | unterminatedTag (tag : String)
  | unterminatedClosingTag (name : String)
  | unclosedDeclaration
  | mismatchedClose (expected found : String)
  | unexpectedClose (found : String)
  | unclosedElement (tag : String)
  | unclosedComment
  | unclosedExpression
  | unclosedAttributeExpression (attr : String)
  | unclosedInterpolation
  | emptyExpression
  | invalidExpression (code : String)
  | unexpectedCharacter (tag : String)
  | unclosedValue (attr : String)
  | duplicateAttribute (attr tag : String)
  | repeatedProp (attr key : String)
  | invalidStyle (declaration : String)
  | runtimeInterpolation
  | noRoot
  | textOutsideRoot
  | secondRoot (tag : String)
  | conflictingImport (localName oldSource newSource : String)
  | duplicateTemplate (owner prop : String)
  | templateCollides (owner prop : String)
  | invalidRepeat (value detail : String)
  | invalidScopeEntry (entry : String)
  | invalidScopeAlias (name : String)
  | repeatedScopeAlias (name : String)
  | emptyScope
  | missingImportAttribute (tag attr : String)
  | invalidImportName (name : String)
  | invalidImportAlias (name : String)
  | misplacedTemplate
  | missingTemplateProp
  | invalidTemplateProp (prop : String)
  | invalidTemplateArgument (name : String)
  | invalidTemplateContent (tag : String)
  | emptyTemplate (prop : String)
  | invalidVirtual (found : String)
  | missingHandler (attr : String)
  | invalidHandler (code : String)
  | unsuitableHandler (code : String)
  | duplicateDirective (directive tag : String)
  | invalidTag (tag : String)
  | missingModuleName (format : String)
  | invalidModuleName (name : String)
  | invalidSpecProp (owner child prop : String)
  | invalidSpecArgument (owner child argument : String)
  | malformedOptions
deriving DecidableEq, Repr

namespace Fault

/-- The kind of a fault. -/
def code : Fault → Code
  | unterminatedTag _ | unterminatedClosingTag _ | unclosedDeclaration => .unterminatedTag
  | mismatchedClose _ _ | unexpectedClose _ => .mismatchedClose
  | unclosedElement _ => .unclosedElement
  | unclosedComment => .unterminatedComment
  | unclosedExpression | unclosedAttributeExpression _ | unclosedInterpolation =>
    .unterminatedExpression
  | emptyExpression | invalidExpression _ => .malformedExpression
  | unexpectedCharacter _ | unclosedValue _ | duplicateAttribute _ _ | repeatedProp _ _
  | invalidStyle _ =>
    .malformedAttribute
  | runtimeInterpolation => .embeddedInterpolation
  | noRoot => .noRoot
  | textOutsideRoot | secondRoot _ => .multipleRoots
  | conflictingImport _ _ _ => .conflictingImport
  | duplicateTemplate _ _ | templateCollides _ _ => .duplicateTemplate
  | invalidRepeat _ _ => .invalidRepeat
  | invalidScopeEntry _ | invalidScopeAlias _ | repeatedScopeAlias _ | emptyScope => .invalidScope
  | missingImportAttribute _ _ | invalidImportName _ | invalidImportAlias _ => .invalidImport
  | misplacedTemplate | missingTemplateProp | invalidTemplateProp _ | invalidTemplateArgument _
  | invalidTemplateContent _ | emptyTemplate _ => .invalidTemplate
  | invalidVirtual _ => .invalidVirtual
  | missingHandler _ | invalidHandler _ | unsuitableHandler _ => .invalidHandler
  | duplicateDirective _ _ => .duplicateDirective
  | invalidTag _ => .invalidTag
  | missingModuleName _ => .missingName
  | invalidModuleName _ | invalidSpecProp _ _ _ | invalidSpecArgument _ _ _ | malformedOptions =>
    .invalidOptions

/-- The text that tells a fault. -/
def message : Fault → String
  | unterminatedTag tag => "Tag <" ++ tag ++ "> is never terminated."
  | unterminatedClosingTag name => "Closing tag </" ++ name ++ "> is never terminated."
  | unclosedDeclaration => "Declaration is never closed."
  | mismatchedClose expected found => "Expected </" ++ expected ++ "> but found </" ++ found ++ ">."
  | unexpectedClose found => "Unexpected closing tag </" ++ found ++ ">."
  | unclosedElement tag => "Element <" ++ tag ++ "> is never closed."
  | unclosedComment => "Comment is never closed."
  | unclosedExpression => "Expression is never closed."
  | unclosedAttributeExpression attr =>
    "Expression in attribute '" ++ attr ++ "' is never closed."
  | unclosedInterpolation => "Expression in attribute is never closed."
  | emptyExpression => "Empty expression."
  | invalidExpression _ => "Invalid expression syntax"
  | unexpectedCharacter tag => "Unexpected character in <" ++ tag ++ "> tag."
  | unclosedValue attr => "Value of attribute '" ++ attr ++ "' is never closed."
  | duplicateAttribute attr tag => "Duplicate attribute '" ++ attr ++ "' on <" ++ tag ++ ">."
  | repeatedProp attr key => "Attribute '" ++ attr ++ "' sets '" ++ key ++ "' more than once."
  | invalidStyle declaration => "Invalid style declaration '" ++ declaration ++ "'."
  | runtimeInterpolation => "Embedded templates cannot contain runtime string interpolation."
  | noRoot => "Template has no root element."
  | textOutsideRoot => "Text is not allowed outside the root element."
  | secondRoot tag => "Template has more than one root element; found <" ++ tag ++ ">."
  | conflictingImport localName oldSource newSource =>
    "'" ++ localName ++ "' is already imported from '" ++ oldSource ++
      "', cannot import it again from '" ++
      newSource ++ "'."
  | duplicateTemplate owner prop =>
    "<" ++ owner ++ "> already has a template for prop '" ++ prop ++ "'."
  | templateCollides owner prop =>
    "Template for prop '" ++ prop ++ "' collides with the '" ++ prop ++ "' attribute of <" ++
      owner ++ ">."
  | invalidRepeat value detail => "Invalid rt-repeat '" ++ value ++ "': " ++ detail
  | invalidScopeEntry entry =>
    "Invalid rt-scope entry '" ++ entry ++ "', expected 'expression as name'."
  | invalidScopeAlias name => "'" ++ name ++ "' is not a valid rt-scope alias."
  | repeatedScopeAlias name => "rt-scope declares '" ++ name ++ "' twice."
  | emptyScope => "rt-scope declares no aliases."
  | missingImportAttribute tag attr =>
    "<" ++ tag ++ "> requires a '" ++ attr ++ "' attribute."
  | invalidImportName name => "'" ++ name ++ "' is not a valid import name."
  | invalidImportAlias name => "'" ++ name ++ "' is not a valid import alias."
  | misplacedTemplate => "<rt-template> must be a direct child of the element receiving the prop."
  | missingTemplateProp => "<rt-template> requires a 'prop' attribute."
  | invalidTemplateProp prop => "Template prop '" ++ prop ++ "' is not a valid identifier."
  | invalidTemplateArgument name => "Invalid template argument '" ++ name ++ "'."
  | invalidTemplateContent tag => "Template <" ++ tag ++ "> must contain exactly one element."
  | emptyTemplate prop => "Template for prop '" ++ prop ++ "' renders nothing."
  | invalidVirtual found =>
    "<rt-virtual> only accepts rt-if, rt-repeat and rt-scope; found '" ++ found ++ "'."
  | missingHandler attr => "Event attribute '" ++ attr ++ "' has no handler."
  | invalidHandler code => "'" ++ code ++ "' is not a valid event handler."
  | unsuitableHandler code => "Event handler '" ++ code ++ "' must be a synchronous arrow function."
  | duplicateDirective directive tag =>
    "Directive '" ++ directive ++ "' appears more than once on <" ++ tag ++ ">."
  | invalidTag tag => "<" ++ tag ++ "> is neither a known element nor a valid component reference."
  | missingModuleName format => "The '" ++ format ++ "' module format requires a 'name' option."
  | invalidModuleName name => "'" ++ name ++ "' is not a valid variable name."
  | invalidSpecProp owner child prop =>
    "Prop template " ++ owner ++ "." ++ child ++ " has invalid prop name '" ++ prop ++ "'."
  | invalidSpecArgument owner child argument =>
    "Prop template " ++ owner ++ "." ++ child ++ " has invalid argument '" ++ argument ++ "'."
  | malformedOptions => "Invalid compile options"

/-- Faults of the text itself belong to parsing, all others to resolution; a prop that two
attributes set counts as a fault of the text. -/
def phase (fault : Fault) : Phase :=
  match fault.code with
  | .unterminatedTag | .mismatchedClose | .unclosedElement | .unterminatedExpression
  | .malformedExpression | .unterminatedComment | .malformedAttribute | .embeddedInterpolation =>
    .parse
  | _ => .resolution

/-- The expression that an error about its form shows. -/
def context? : Fault → Option String
  | invalidExpression code => some code
  | _ => none

/-- The error for a fault at a place. -/
def error (fault : Fault) (place : Location) : CompileError :=
  ⟨fault.phase, { Diagnostic.new fault.code fault.message place with context := fault.context? }⟩

end Fault

/-- What a template does that is allowed and yet has no effect, or not the one it seems to have. -/
inductive Oddity where
  | unknownDirective (attr : String)
  | misplacedStateless
  | ignoredTemplateAttribute (attr : String)
  | ignoredTriggerDirective (attr tag : String)
  | unemittedImport (tag format : String)
deriving DecidableEq, Repr

namespace Oddity

/-- The kind of an oddity. -/
def code : Oddity → Code
  | unknownDirective _ => .unknownDirective
  | misplacedStateless | ignoredTemplateAttribute _ | ignoredTriggerDirective _ _ =>
    .misplacedDirective
  | unemittedImport _ _ => .unemittedImport

/-- The attribute or tag that an oddity is about. -/
def subject : Oddity → String
  | unknownDirective attr => attr
  | misplacedStateless => "rt-stateless"
  | ignoredTemplateAttribute attr => attr
  | ignoredTriggerDirective attr _ => attr
  | unemittedImport tag _ => tag

/-- The text that tells an oddity. -/
def message : Oddity → String
  | unknownDirective attr =>
    "Unknown directive '" ++ attr ++ "' is passed through as an attribute."
  | misplacedStateless => "rt-stateless only applies to the root element."
  | ignoredTemplateAttribute attr =>
    "Attribute '" ++ attr ++ "' has no effect on <rt-template>."
  | ignoredTriggerDirective attr tag =>
    "Directive '" ++ attr ++ "' on template trigger <" ++ tag ++
      "> is ignored; put it on the template body."
  | unemittedImport tag format =>
    "<" ++ tag ++ "> is not emitted by the '" ++ format ++ "' module format."

/-- The warning for an oddity at a place. -/
def warning (oddity : Oddity) (place : Location) : Warning :=
  ⟨oddity.subject, Diagnostic.new oddity.code oddity.message place⟩

end Oddity

end RenderTemplate
