import WasmText.Diagnostic.Quoted
import WasmText.Text.Position
import WasmText.Token.Kind

/-!
# Errors

An error is a cause and the place where it was noticed. A cause belongs to the lexer, which found
characters that are no token, or to the parser, which found tokens that are no module. The wording
is derived from the cause: a name, a message, and for most causes a tip.
-/

namespace WasmText

/-- Why a source is no module. Characters are carried as messages describe them, tokens as messages
show them. -/
inductive Cause where
  /-- No token begins with this character. -/
  | unexpectedCharacter (found : String)
  /-- A word that is no keyword. -/
  | unknownWord (word : String)
  /-- A dollar sign without a name, before this character. -/
  | unexpectedNameCharacter (found : String)
  /-- A number that runs into this letter, digit or underscore. -/
  | unexpectedNumberCharacter (found : String)
  /-- An escape in a string that breaks off at this character. -/
  | illegalEscape (found : String)
  /-- A control character in a string. -/
  | illegalControlCharacter (found : String)
  /-- A string without a closing quote on its line. -/
  | unclosedString
  /-- A literal with this character right after it. -/
  | missingDelimiter (found : String)
  /-- A token of none of the kinds that can follow. -/
  | unexpectedToken (expected : List Kind) (found : String)
  /-- The end of the tokens where one of these kinds has to follow. -/
  | unexpectedEnd (expected : List Kind)
  /-- A token that begins no field of a module. -/
  | unknownField (found : String)
  /-- A number that is no index. -/
  | malformedIndex (text : String)
  /-- A string whose escapes do not spell a text. -/
  | malformedString (text : String)
  /-- A token after the end of the module. -/
  | trailingToken (found : String)
  deriving DecidableEq

namespace Cause

/-- The name of a cause. -/
def name : Cause → String
  | .unexpectedCharacter _ => "UnexpectedCharacter"
  | .unknownWord _ => "UnrecognisedToken"
  | .unexpectedNameCharacter _ => "UnexpectedNameCharacter"
  | .unexpectedNumberCharacter _ => "UnexpectedNumberCharacter"
  | .illegalEscape _ => "IllegalEscape"
  | .illegalControlCharacter _ => "IllegalControlCharacter"
  | .unclosedString => "UnclosedString"
  | .missingDelimiter _ => "MalformedDelimiter"
  | .unexpectedToken _ _ => "UnexpectedToken"
  | .unexpectedEnd _ => "UnexpectedEof"
  | .unknownField _ => "MalformedModule"
  | .malformedIndex _ => "NumberParseError"
  | .malformedString _ => "MalformedString"
  | .trailingToken _ => "TrailingTokens"

/-- Whether a cause lies in the characters of the source and not in the order of its tokens. -/
def isLexical : Cause → Bool
  | .unexpectedCharacter _ | .unknownWord _ | .unexpectedNameCharacter _
  | .unexpectedNumberCharacter _ | .illegalEscape _ | .illegalControlCharacter _ | .unclosedString
  | .missingDelimiter _ => true
  | .unexpectedToken _ _ | .unexpectedEnd _ | .unknownField _ | .malformedIndex _
  | .malformedString _ | .trailingToken _ => false

/-- A list of kinds, by their labels between brackets. -/
def listKinds (kinds : List Kind) : String :=
  "[" ++ ", ".intercalate (kinds.map Kind.label) ++ "]"

/-- What is wrong, in one line. -/
def message : Cause → String
  | .unexpectedCharacter found => "unexpected character: " ++ found
  | .unknownWord word => "unexpected token: " ++ word
  | .unexpectedNameCharacter found => "unexpected character in name literal: " ++ found
  | .unexpectedNumberCharacter found => "unexpected character in number literal: " ++ found
  | .illegalEscape found => "illegal escape in string literal: " ++ found
  | .illegalControlCharacter found => "illegal control character in string literal: " ++ found
  | .unclosedString => "unclosed string literal"
  | .missingDelimiter found =>
    "unexpected character " ++ found ++ ", expected one of space/newline/tab/paren"
  | .unexpectedToken expected found =>
    "expected one of " ++ listKinds expected ++ ", found " ++ found
  | .unexpectedEnd expected => "expected one of " ++ listKinds expected ++ ", found end of input"
  | .unknownField found => "malformed module: " ++ found
  | .malformedIndex text => "malformed variable reference: " ++ Diagnostic.quoted text
  | .malformedString text => "malformed string literal: " ++ text
  | .trailingToken found => "unexpected " ++ found ++ " after the end of the module"

/-- What to do about it, where there is more to say than the message. -/
def tip : Cause → Option String
  | .unexpectedCharacter _ => none
  | .unknownWord word => some ("`" ++ word ++ "` is not a keyword, did you mean `$" ++ word ++ "`?")
  | .unexpectedNameCharacter _ => some "a name needs at least one character after `$`"
  | .unexpectedNumberCharacter _ => none
  | .illegalEscape _ => some "valid escapes are \\n, \\t, \\\\, \\', \\\" and \\hh"
  | .illegalControlCharacter _ => some "write control characters as \\hh escapes"
  | .unclosedString => some "string literals cannot span multiple lines"
  | .missingDelimiter _ => some "separate literals with whitespace or a parenthesis"
  | .unexpectedToken expected found =>
    some ("expected one of " ++ listKinds expected ++ ", found `" ++ found ++ "`")
  | .unexpectedEnd expected =>
    some ("expected one of " ++ listKinds expected ++ ", is a parenthesis missing?")
  | .unknownField found => some ("Unexpected module field: `" ++ found ++ "`")
  | .malformedIndex text =>
    some ("Invalid index: `" ++ text ++ "`, indices are non-negative decimal integers")
  | .malformedString _ => some "byte escapes must decode to valid UTF-8"
  | .trailingToken found => some ("Unexpected `" ++ found ++ "` after the module")

end Cause

/-- A cause and the place where it was noticed. -/
structure Error where
  /-- What is wrong. -/
  cause : Cause
  /-- Where. -/
  position : Position
  deriving DecidableEq

end WasmText
