import WasmText.Unicode.DefaultIgnorable
import WasmText.Unicode.ExtendingMark
import WasmText.Unicode.Printable

/-!
# Characters and texts in messages

A message shows a character of the source between single quotes after its code point, and a text
between double quotes. What has no visible form of its own is written as an escape, so that a
message stays on one line and can be read: the quote in use, the backslash, the usual control
characters, and by its code point anything that is not printable, that is not drawn, or that would
be drawn together with the quote before it.
-/

namespace WasmText.Diagnostic

open Unicode

/-- A number in lower case hexadecimal digits. -/
def hex (n : Nat) : String :=
  String.ofList (Nat.toDigits 16 n)

/-- A code point in at least four upper case hexadecimal digits. -/
def codePoint (c : Char) : String :=
  String.ofList (((Nat.toDigits 16 c.toNat).map Char.toUpper).leftpad 4 '0')

/-- Whether a character can stand for itself between quotes. -/
def showsItself (c : Char) : Bool :=
  isPrintable c && !isDefaultIgnorable c && !isExtendingMark c

/-- A character as it is written between two quotes of the kind `quote`. -/
def escape (quote c : Char) : String :=
  if c = '\x00' then "\\0"
  else if c = '\t' then "\\t"
  else if c = '\n' then "\\n"
  else if c = '\r' then "\\r"
  else if c = '\\' ∨ c = quote then String.ofList ['\\', c]
  else if showsItself c then c.toString
  else "\\u\x7b" ++ hex c.toNat ++ "\x7d"

/-- A text between double quotes. -/
def quoted (text : String) : String :=
  "\"" ++ String.join (text.toList.map (escape '"')) ++ "\""

/-- A character of the source, or the end of the source, as messages call it. -/
def describe : Option Char → String
  | none => "EOF"
  | some c => "U+" ++ codePoint c ++ " '" ++ escape '\'' c ++ "'"

end WasmText.Diagnostic
