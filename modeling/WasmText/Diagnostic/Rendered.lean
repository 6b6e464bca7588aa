import WasmText.Error
import WasmText.Text.Alignment
import WasmText.Text.Line
import WasmText.Unicode.Whitespace

/-!
# Errors under their source

An error is shown with its name and tip, the file, and the line where it was noticed, with a caret
under the place:

    Error: MalformedModule (Unexpected module field: `LParen(()`)
    -> file
      |
    2 | (memory))
      | ^

The line is shown without the blanks that indent it and without white space at its end. The dashes
before the caret count bytes. The bars and the caret are set at the right of fields, whose width is
limited, so there is no report for a place that is too far to the right.
-/

namespace WasmText.Diagnostic

/-- The blanks that indent a line. -/
def isIndent (c : Char) : Bool :=
  c == ' ' || c == '\t'

/-- A text without the white space at its end. -/
def trimEnd (cs : List Char) : List Char :=
  (cs.reverse.dropWhile Unicode.isWhitespace).reverse

/-- The first line of a report: the name of the error, and its tip if it has one. -/
def headline (e : Error) : List Char :=
  match e.cause.tip with
  | none => "Error: ".toList ++ e.cause.name.toList
  | some tip => "Error: ".toList ++ e.cause.name.toList ++ " (".toList ++ tip.toList ++ ")".toList

/-- The digits of a line's number. -/
def lineNumber (place : Text.LinePlace) : List Char :=
  Nat.toDigits 10 place.number

/-- The margin of a line that has no number: a bar at the right of a field, with room for the digits
of the number and a blank. -/
def margin (place : Text.LinePlace) : Except Text.LayoutFault (List Char) :=
  Text.alignRight ' ' ((lineNumber place).length + 2) ['|']

/-- A line of the source as a report shows it. -/
def shownLine (line : List Char) : List Char :=
  trimEnd (line.dropWhile isIndent)

/-- The number of dashes before the caret. -/
def dashes (place : Text.LinePlace) : Nat :=
  place.offset - (place.line.takeWhile isIndent).length

/-- A caret after dashes. -/
def caret (place : Text.LinePlace) : Except Text.LayoutFault (List Char) :=
  Text.alignRight '-' (dashes place + 1) ['^']

/-- The lines of a report that show the place: an empty margin, the line, and the caret. -/
def excerpt (place : Text.LinePlace) : Except Text.LayoutFault (List (List Char)) := do
  let margin ← margin place
  let caret ← caret place
  return [margin, lineNumber place ++ " | ".toList ++ shownLine place.line, margin ++ ' ' :: caret]

/-- The lines of a report. There is no excerpt if the place lies after the end of the source, and no
report if its place cannot be shown. -/
def report (e : Error) (source : List Char) : Except Text.LayoutFault (List (List Char)) := do
  let excerpt ←
    match Text.placeAt? source e.position.offset.toNat with
    | none => pure []
    | some place => excerpt place
  return headline e :: ("-> ".toList ++ e.position.file.toList) :: excerpt

/-- An error under its source: the lines of its report, each ended by a newline. -/
def render (e : Error) (source : String) : Except Text.LayoutFault String := do
  let lines ← report e source.toList
  return String.ofList (lines.flatMap fun line => line ++ ['\n'])

end WasmText.Diagnostic
