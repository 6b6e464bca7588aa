/-!
# Texts at the right of a field

A text is set at the right of a field by filling up the field before it. No field is wider than a
greatest width, and a layout that asks for a wider one fails as a whole.
-/

namespace WasmText.Text

/-- The greatest width of a field. -/
def maxWidth : Nat := 65535

/-- Why a text cannot be laid out. -/
inductive LayoutFault where
  /-- A field is wider than any can be. -/
  | fieldTooWide
  deriving DecidableEq

/-- What is wrong with a layout. -/
def LayoutFault.message : LayoutFault → String
  | .fieldTooWide => "Formatting argument out of range"

/-- A text at the right of a field, after as many fill characters as there is room for. -/
def alignRight (fill : Char) (width : Nat) (text : List Char) : Except LayoutFault (List Char) :=
  if width ≤ maxWidth then .ok (text.leftpad width fill) else .error .fieldTooWide

theorem alignRight_of_le {width : Nat} (fits : width ≤ maxWidth) (fill : Char) (text : List Char) :
    alignRight fill width text = .ok (text.leftpad width fill) :=
  if_pos fits

theorem alignRight_of_lt {width : Nat} (wide : maxWidth < width) (fill : Char) (text : List Char) :
    alignRight fill width text = .error .fieldTooWide :=
  if_neg (Nat.not_le.2 wide)

end WasmText.Text
