import WasmText.Text.Utf8
import WasmText.Token.Basic

/-!
# Lexemes

A source is a sequence of lexemes with layout between them. Most lexemes are one token; an operator
with a sign, such as the one for division of signed integers, is three: its keyword, an underscore,
and the letter of the sign.
-/

namespace WasmText

/-- What a source is cut into. -/
inductive Lexeme where
  /-- A mark of punctuation. -/
  | mark (m : Mark)
  /-- A keyword by itself. -/
  | word (k : Keyword)
  /-- A keyword with a sign. -/
  | operator (k : Keyword) (s : Sign)
  /-- A name, without its dollar sign. -/
  | name (chars : List Char)
  /-- A number, as it was written. -/
  | number (chars : List Char)
  /-- A string, without its quotes. -/
  | string (body : List Char)
  deriving DecidableEq

namespace Lexeme

/-- The tokens of a lexeme: their kinds and texts. -/
def pieces : Lexeme → List (Kind × List Char)
  | .mark m => [(.mark m, [m.char])]
  | .word k => [(.keyword k, k.spelling.toList)]
  | .operator k s =>
    [(.keyword k, k.spelling.toList), (.mark .underscore, ['_']), (.sign s, [s.letter])]
  | .name chars => [(.name, '$' :: chars)]
  | .number chars => [(.number, chars)]
  | .string body => [(.string, '"' :: body ++ ['"'])]

/-- The text of a lexeme in a source. -/
def text (l : Lexeme) : List Char :=
  l.pieces.flatMap Prod.snd

/-- Literals have to be followed by a delimiter, the other lexemes may be followed by anything. -/
def isLiteral : Lexeme → Bool
  | .name _ | .number _ | .string _ => true
  | .mark _ | .word _ | .operator _ _ => false

/-- Pieces of text as tokens that follow one another from a byte offset on. -/
def place (file : String) : Nat → List (Kind × List Char) → List Token
  | _, [] => []
  | start, (kind, chars) :: pieces =>
    ⟨kind, String.ofList chars, .ofBytes file start (start + Text.utf8Length chars)⟩ ::
      place file (start + Text.utf8Length chars) pieces

/-- The tokens of a lexeme that begins at a byte offset. -/
def tokens (file : String) (start : Nat) (l : Lexeme) : List Token :=
  place file start l.pieces

end Lexeme

end WasmText
