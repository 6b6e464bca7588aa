import WasmText.Text.Position
import WasmText.Token.Kind

/-!
# Tokens

A token is a kind, the text it was written with and the stretch of the source where it stands. The
text of an error token is the message of the error. Two tokens say the same if they agree on kind
and text, wherever they stand.
-/

namespace WasmText

/-- A piece of a source text. -/
structure Token where
  /-- What the token is. -/
  kind : Kind
  /-- The exact text of the token, a dollar sign or quotes included. -/
  text : String
  /-- Where the token stands. -/
  span : Span
  deriving DecidableEq

namespace Token

/-- A token without its place: what two tokens that say the same agree on. -/
def content (t : Token) : Kind × String := (t.kind, t.text)

/-- Whether two tokens have the same kind and the same text. -/
def sameContent (s t : Token) : Bool := s.content == t.content

/-- A token as messages show it, its text in parentheses after its kind. -/
def display (t : Token) : String :=
  t.kind.label ++ "(" ++ t.text ++ ")"

/-- Whether the text of a token says more than its kind. -/
def hasOwnText (t : Token) : Bool :=
  t.kind ∈ [.string, .name, .number, .error]

/-- The line for a token in a listing, which shows a text only where the kind does not fix it. -/
def listing (t : Token) : String :=
  t.kind.label ++ " (" ++ (if t.hasOwnText then t.text else "") ++ ")\n"

/-- Whether a token can refer to a declaration. -/
def isVar (t : Token) : Bool := t.kind.isVar

end Token

end WasmText
