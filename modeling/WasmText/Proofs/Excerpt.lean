import Mathlib.Data.Nat.Digits.Defs
import WasmText.Diagnostic.Rendered
import WasmText.Proofs.LineOfByte

/-!
# Which places can be shown

The excerpt of a report sets its bars and its caret at the right of fields. The bars always fit: a
place is found by an offset of one word, and the number of its line has ten digits at most. The caret
fits exactly if fewer bytes than the greatest width come before it. So a report can be laid out unless
its place lies too far to the right, and there is no text of it at all then.

## What is proved

* `number_le_of_placeAt?`: the number of a line is not larger than the offset that it is found by.
* `margin_of_placeAt?`: the bars of an excerpt fit.
* `excerpt_of_placeAt?`: the excerpt of a place that is found, and when there is none.
* `render_of_placeAt?_none`, `render_of_placeAt?_some`: a report, and when there is none.
-/

namespace WasmText

open Text

namespace Text

/-- Every line before a place takes a byte at least. -/
theorem number_le_of_placeAt? {source : List Char} {p : Nat} {place : LinePlace}
    (found : placeAt? source p = some place) : place.number ≤ p + 1 := by
  by_cases empty : source = []
  · subst empty
    have first : place.number = 1 := by
      unfold placeAt? at found
      split at found
      · obtain rfl := Option.some.inj found
        rfl
      · cases found
    omega
  · obtain ⟨-, earlier, -, -, number, offset⟩ := (placeAt?_eq_some_iff empty).1 found
    have newlines : earlier.count '\n' ≤ earlier.length := List.count_le_length
    have bytes := length_le_utf8Length earlier
    omega

end Text

namespace Diagnostic

/-! ### The excerpt -/

/-- The margin of an excerpt: a bar, in the column after the digits of the line's number and a
blank. -/
def bar (place : LinePlace) : List Char :=
  List.replicate ((lineNumber place).length + 1) ' ' ++ ['|']

/-- The three rows of an excerpt. -/
def rows (place : LinePlace) : List (List Char) :=
  [bar place,
   lineNumber place ++ " | ".toList ++ shownLine place.line,
   bar place ++ ' ' :: List.replicate (dashes place) '-' ++ ['^']]

section

variable {source : List Char} {p : Nat} {place : LinePlace} (found : placeAt? source p = some place)
  (word : p < UInt32.size)

include found word

theorem length_lineNumber_le : (lineNumber place).length ≤ 10 := by
  have number := number_le_of_placeAt? found
  have size : UInt32.size < 10 ^ 10 := by decide
  exact Nat.toDigits_length 10 place.number 10 (by decide) (by omega)

/-- The bars fit, since the number of the line is not large. -/
theorem margin_of_placeAt? : margin place = .ok (bar place) := by
  have short := length_lineNumber_le found word
  have fits : (lineNumber place).length + 2 ≤ maxWidth := by
    unfold maxWidth
    omega
  exact alignRight_of_le fits ' ' ['|']

/-- The excerpt of a place has three rows, if the caret fits. -/
theorem excerpt_of_placeAt? :
    excerpt place = if dashes place < maxWidth then .ok (rows place) else .error .fieldTooWide := by
  rw [excerpt, margin_of_placeAt? found word, caret]
  by_cases fits : dashes place < maxWidth
  · rw [alignRight_of_le fits, if_pos fits]
    refine congrArg Except.ok ?_
    simp [rows, List.leftpad]
  · rw [alignRight_of_lt (by omega), if_neg fits]
    rfl

end

/-! ### The report -/

/-- The two rows of every report. -/
def heading (e : Error) : List (List Char) :=
  [headline e, "-> ".toList ++ e.position.file.toList]

/-- Rows of characters as one text, each ended by a newline. -/
def unlines (rows : List (List Char)) : List Char :=
  rows.flatMap fun row => row ++ ['\n']

section

variable {e : Error} {source : String}

theorem render_of_placeAt?_none (after : placeAt? source.toList e.position.offset.toNat = none) :
    render e source = .ok (String.ofList (unlines (heading e))) := by
  unfold render report
  rw [after]
  rfl

variable {place : LinePlace} (found : placeAt? source.toList e.position.offset.toNat = some place)

include found

/-- A report of a place has its excerpt, if the caret fits. -/
theorem render_of_placeAt?_some :
    render e source =
      if dashes place < maxWidth then .ok (String.ofList (unlines (heading e ++ rows place)))
      else .error .fieldTooWide := by
  unfold render report
  rw [found]
  dsimp only
  rw [excerpt_of_placeAt? found e.position.offset.toNat_lt]
  split <;> rfl

theorem render_of_placeAt?_lt (fits : dashes place < maxWidth) :
    render e source = .ok (String.ofList (unlines (heading e ++ rows place))) :=
  (render_of_placeAt?_some found).trans (if_pos fits)

theorem render_of_placeAt?_le (wide : maxWidth ≤ dashes place) :
    render e source = .error .fieldTooWide :=
  (render_of_placeAt?_some found).trans (if_neg (Nat.not_lt.2 wide))

end

end Diagnostic

end WasmText
