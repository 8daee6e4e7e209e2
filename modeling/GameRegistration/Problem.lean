import GameRegistration.Identifier

/-! What can be wrong with a document. A problem names its cause; its wording, kind and number are
functions of it. -/
namespace GameRegistration

inductive ProblemKind where
  | missingRequiredAttribute
  | unexpectedAttributeOrElement
  | identifierConstraintViolation
  | missingParentContext
  | unimplementedFeature
  | illegalAttributeValue
deriving DecidableEq, Repr

def ProblemKind.name : ProblemKind → String
  | .missingRequiredAttribute => "MissingRequiredAttribute"
  | .unexpectedAttributeOrElement => "UnexpectedAttributeOrElement"
  | .identifierConstraintViolation => "IdentifierConstraintViolation"
  | .missingParentContext => "MissingParentContext"
  | .unimplementedFeature => "UnimplementedFeature"
  | .illegalAttributeValue => "IllegalAttributeValue"

inductive Problem where
  | expectedAttribute (element attr : String)
  | unexpectedAttribute (element attr : String)
  | unexpectedElement (parent child : String)
  | unhandledAttribute (element attr space : String)
  | unhandledElement (parent child space : String)
  | illegalTaskDirectory (identifier : String) (violation : Identifier.Violation)
  | parentNeedsAttribute (parent attr parentAttr : String)
  | missingContext (element key : String)
  | emptyAttribute (element attr : String)
  | illegalGuid (element attr value : String)
  | illegalIdentifier (element attr value : String)
  | illegalYesNo (element attr value : String)
  | identifierTooLong (element attr value : String)
  | noLinkEmitter (name directory : String)
  | linkFailed (directory reason : String)
deriving DecidableEq, Repr

namespace Problem

def kind : Problem → ProblemKind
  | .expectedAttribute .. => .missingRequiredAttribute
  | .unexpectedAttribute .. | .unexpectedElement .. => .unexpectedAttributeOrElement
  | .unhandledAttribute .. | .unhandledElement .. => .unexpectedAttributeOrElement
  | .illegalTaskDirectory .. | .identifierTooLong .. => .identifierConstraintViolation
  | .parentNeedsAttribute .. | .missingContext .. => .missingParentContext
  | .noLinkEmitter .. | .linkFailed .. => .unimplementedFeature
  | .emptyAttribute .. | .illegalGuid .. | .illegalIdentifier .. | .illegalYesNo .. =>
    .illegalAttributeValue

def taskDirectoryNumber : Nat := 6301

/-- Only rejected task directory identifiers have a number. -/
def number? : Problem → Option Nat
  | .illegalTaskDirectory .. => some taskDirectoryNumber
  | _ => none

def message : Problem → String
  | .expectedAttribute element attr =>
    s!"The {element}/@{attr} attribute was not found; it is required."
  | .unexpectedAttribute element attr =>
    s!"The {element} element contains an unexpected attribute '{attr}'."
  | .unexpectedElement parent child =>
    s!"The {parent} element contains an unexpected child element '{child}'."
  | .unhandledAttribute element attr space =>
    s!"The {element} element contains an unhandled extension attribute '{attr}'. " ++
    s!"Please ensure that the extension for attributes in the '{space}' namespace has been provided."
  | .unhandledElement parent child space =>
    s!"The {parent} element contains an unhandled extension element '{child}'. " ++
    s!"Please ensure that the extension for elements in the '{space}' namespace has been provided."
  | .illegalTaskDirectory identifier violation =>
    s!"The generated identifier ({identifier}) for the directory containing Game Explorer tasks is " ++
    violation.text ++ ". " ++
    "Shorten the component identifier of your game executable so that the prefix and component ID " ++
    "combined form a legal identifier of no more than 72 characters."
  | .parentNeedsAttribute parent attr parentAttr =>
    s!"The {parent}/@{attr} attribute requires the {parent}/@{parentAttr} attribute " ++
    "to be specified."
  | .missingContext element key =>
    s!"The {element} element was compiled without the '{key}' value from its parent context."
  | .emptyAttribute element attr =>
    s!"The {element}/@{attr} attribute's value cannot be an empty string."
  | .illegalGuid element attr value =>
    s!"The {element}/@{attr} attribute's value, '{value}', is not a legal guid value."
  | .illegalIdentifier element attr value =>
    s!"The {element}/@{attr} attribute's value, '{value}', is not a legal identifier. " ++
    "Identifiers may contain ASCII characters A-Z, a-z, digits, underscores (_), or periods (.). " ++
    "Every identifier must begin with either a letter or an underscore."
  | .illegalYesNo element attr value =>
    s!"The {element}/@{attr} attribute's value, '{value}', is not a legal yes/no value. " ++
    "The only legal values are 'no' and 'yes'."
  | .identifierTooLong element attr value =>
    s!"The {element}/@{attr} attribute's value, '{value}', is too long for an identifier. " ++
    "Standard identifiers are 72 characters long or less."
  | .noLinkEmitter name directory =>
    s!"The support task '{name}' cannot be registered: no link shortcut emitter is installed " ++
    s!"for task directory {directory}, and Game Explorer requires one shortcut per task directory."
  | .linkFailed directory reason =>
    s!"The link shortcut for support task directory {directory} could not be created: {reason}"

end Problem

end GameRegistration
