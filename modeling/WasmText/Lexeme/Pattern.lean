import WasmText.Lexeme.Number

/-!
# Patterns

A pattern is matched at the start of a text, and the first match that is found stands. Of two
alternatives the first is tried first, what is optional is rather taken than left, and a run is taken
as far as it goes before less of it is tried; what comes later in a pattern is tried after each choice
before the choice is given up. So the order of the matches decides, and not how long they are.

The pattern of numbers allows an exponent after hexadecimal digits as well as after decimal ones.
-/

namespace WasmText.Lexeme

/-- A pattern for texts. -/
inductive Pattern where
  /-- A character of a class. -/
  | one (belongs : Char → Bool)
  /-- Characters of a class, any number of them. -/
  | many (belongs : Char → Bool)
  /-- Nothing. -/
  | nothing
  /-- A text, and then another one. -/
  | seq (p q : Pattern)
  /-- A text of the first pattern, or else of the second. -/
  | alt (p q : Pattern)

namespace Pattern

/-- The ways to divide a text after a run of a class, the longest run first. -/
def runs (belongs : Char → Bool) : List Char → List (List Char × List Char)
  | [] => [([], [])]
  | c :: cs =>
    if belongs c then (runs belongs cs).map (fun parts => (c :: parts.1, parts.2)) ++ [([], c :: cs)]
    else [([], c :: cs)]

/-- The ways to divide a text after a match, in the order in which they are tried. -/
def ways : Pattern → List Char → List (List Char × List Char)
  | one belongs, c :: cs => if belongs c then [([c], cs)] else []
  | one _, [] => []
  | many belongs, cs => runs belongs cs
  | nothing, cs => [([], cs)]
  | seq p q, cs =>
    (p.ways cs).flatMap fun first =>
      (q.ways first.2).map fun second => (first.1 ++ second.1, second.2)
  | alt p q, cs => p.ways cs ++ q.ways cs

/-- The match that is found, and the rest. -/
def first? (p : Pattern) (cs : List Char) : Option (List Char × List Char) :=
  (p.ways cs).head?

/-- One of some characters. -/
def anyOf (chars : List Char) : Pattern := one chars.contains

/-- A text of a pattern, or else nothing. -/
def optional (p : Pattern) : Pattern := alt p nothing

/-- A sign, or nothing: `[+-]?`. -/
def sign : Pattern := optional (anyOf ['+', '-'])

/-- Digits, and perhaps a fraction: `digit*(.digit*)?`. -/
def digits (isDigit : Char → Bool) : Pattern :=
  seq (many isDigit) (optional (seq (anyOf ['.']) (many isDigit)))

/-- An exponent, or nothing: `([eE][+-]?dec*)?`. -/
def exponent : Pattern :=
  optional (seq (anyOf ['e', 'E']) (seq sign (many Char.isDigit)))

/-- Hexadecimal digits: `0[xX]hex*(.hex*)?`. -/
def hexadecimal : Pattern :=
  seq (anyOf ['0']) (seq (anyOf ['x', 'X']) (digits Char.isHexDigit))

/-- Numbers: `[+-]?(0[xX]hex*(.hex*)?|dec*(.dec*)?)([eE][+-]?dec*)?`. -/
def number : Pattern :=
  seq sign (seq (alt hexadecimal (digits Char.isDigit)) exponent)

end Pattern

end WasmText.Lexeme
