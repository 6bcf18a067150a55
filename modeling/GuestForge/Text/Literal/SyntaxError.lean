import GuestForge.Text.Literal.Formatted
import GuestForge.Text.Literal.QuotedText
set_option autoImplicit false

/-!
# Errors of expressions

The causes for which a text is no expression, and how each is reported.
-/
namespace GuestForge.Text.Literal

inductive SyntaxError where
  | scan (error : ScanError)
  | text (error : TextError)
  | format (error : FormatError)
  | formatted (error : SyntaxError)
  | tooManyDigits (count : Nat)
  | unexpectedIndent
  | unexpected
  | missingComma
  | missingElse
  | missingCall (name : String)
  | meantEquality
  | assigned (description : String)
  | assignedHere (description : String)
  | namedAssignment (description : String)
  | nothingStarred
  | starredGroup
  | doubleStarredGroup
  | unpackedComprehension
  | unpackedDictionary
  | unparenthesizedTarget
  | unparenthesizedGenerator
  | starredValue
  | missingValue
  | missingColon
  | assignedArgument
  | iterableAfterKeyword
  | positionalAfterKeyword (unpacks : Bool)
  | missingDefault
  | plainAfterDefault
  | parenthesizedParameters
  | nothingBeforeSlash
  | secondSlash
  | slashBehindStar
  | missingCommaAtSlash
  | nothingBehindStar
  | starDefault
  | secondStar
  | doubleStarDefault
  | parameterBehindDoubleStar
  deriving DecidableEq, Repr

def SyntaxError.message : SyntaxError → String
  | .scan error => error.message
  | .text error => error.message
  | .format error => error.message
  | .formatted error => "f-string: " ++ error.message
  | .tooManyDigits count =>
    "Exceeds the limit (4300 digits) for integer string conversion: value has " ++ toString count ++
      " digits; use sys.set_int_max_str_digits() to increase the limit - Consider hexadecimal for huge " ++
      "integer literals to avoid decimal conversion limits."
  | .unexpectedIndent => "unexpected indent"
  | .unexpected => "invalid syntax"
  | .missingComma => "invalid syntax. Perhaps you forgot a comma?"
  | .missingElse => "expected 'else' after 'if' expression"
  | .missingCall name =>
    "Missing parentheses in call to '" ++ name ++ "'. Did you mean " ++ name ++ "(...)?"
  | .meantEquality => "invalid syntax. Maybe you meant '==' or ':=' instead of '='?"
  | .assigned description => "cannot assign to " ++ description
  | .assignedHere description =>
    "cannot assign to " ++ description ++ " here. Maybe you meant '==' instead of '='?"
  | .namedAssignment description => "cannot use assignment expressions with " ++ description
  | .nothingStarred => "Invalid star expression"
  | .starredGroup => "cannot use starred expression here"
  | .doubleStarredGroup => "cannot use double starred expression here"
  | .unpackedComprehension => "iterable unpacking cannot be used in comprehension"
  | .unpackedDictionary => "dict unpacking cannot be used in dict comprehension"
  | .unparenthesizedTarget => "did you forget parentheses around the comprehension target?"
  | .unparenthesizedGenerator => "Generator expression must be parenthesized"
  | .starredValue => "cannot use a starred expression in a dictionary value"
  | .missingValue => "expression expected after dictionary key and ':'"
  | .missingColon => "':' expected after dictionary key"
  | .assignedArgument => "expression cannot contain assignment, perhaps you meant \"==\"?"
  | .iterableAfterKeyword => "iterable argument unpacking follows keyword argument unpacking"
  | .positionalAfterKeyword unpacks =>
    "positional argument follows keyword argument" ++ if unpacks then " unpacking" else ""
  | .missingDefault => "expected default value expression"
  | .plainAfterDefault => "non-default argument follows default argument"
  | .parenthesizedParameters => "Lambda expression parameters cannot be parenthesized"
  | .nothingBeforeSlash => "at least one argument must precede /"
  | .secondSlash => "/ may appear only once"
  | .slashBehindStar => "/ must be ahead of *"
  | .missingCommaAtSlash => "expected comma between / and *"
  | .nothingBehindStar => "named arguments must follow bare *"
  | .starDefault => "var-positional argument cannot have default value"
  | .secondStar => "* argument may appear only once"
  | .doubleStarDefault => "var-keyword argument cannot have default value"
  | .parameterBehindDoubleStar => "arguments cannot follow var-keyword argument"

/-- An error in an expression that stands in a formatted text. What keeps tokens from being read is reported as it is,
and so is an error from further inside. -/
def SyntaxError.inFormatted : SyntaxError → SyntaxError
  | .scan error => if error.isLoud then .scan error else .formatted (.scan error)
  | .formatted error => .formatted error
  | error => .formatted error

end GuestForge.Text.Literal
