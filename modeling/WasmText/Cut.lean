import WasmText.Lexeme.First

/-!
# Texts cut into lexemes

A text is cut into lexemes, one after the other, each with the layout before it. The cut ends where
the text does, or at the first fault: where the scan meets one, or after a literal that no delimiter
follows.

A cut says nothing about places: these follow from the lengths of its parts.

## What is proved

* `ofChars_of_end`, `ofChars_of_fault`, `ofChars_of_found`: the first step of a cut, by what the
  scan finds after the layout.
-/

namespace WasmText

/-- A text that is cut into lexemes. -/
inductive Cut where
  /-- Nothing but layout. -/
  | finished (layout : List Char)
  /-- Layout, and the characters that are passed before a fault. -/
  | stopped (layout passed : List Char) (cause : Cause)
  /-- Layout, a lexeme, and what follows it. -/
  | lexeme (layout : List Char) (l : Lexeme) (next : Cut)
  deriving DecidableEq

namespace Cut

open Lexeme

/-- Whether a lexeme may be followed by a text: a literal has to be delimited. -/
def endsBefore (l : Lexeme) (rest : List Char) : Bool :=
  !l.isLiteral || isDelimited rest

/-- Cuts a text. -/
def ofChars (cs : List Char) : Cut :=
  match _ : cs.dropWhile isLayout with
  | [] => .finished cs
  | c :: cs' =>
    match _ : scan c cs' with
    | .fault passed cause => .stopped (cs.takeWhile isLayout) passed cause
    | .found l rest =>
      .lexeme (cs.takeWhile isLayout) l
        (if endsBefore l rest then ofChars rest
        else .stopped [] [] (.missingDelimiter (Diagnostic.describe rest.head?)))
termination_by cs.length
decreasing_by
  rename_i after found _
  have shorter := scan_length_lt found
  have layout : (cs.dropWhile isLayout).length ≤ cs.length :=
    (List.dropWhile_suffix isLayout).length_le
  rw [after] at layout
  omega

/-! ### The first step -/

theorem ofChars_of_end {cs : List Char} (after : cs.dropWhile isLayout = []) :
    ofChars cs = .finished cs := by
  rw [ofChars]
  split
  · rfl
  · simp_all

theorem ofChars_of_fault {c : Char} {cs cs' passed : List Char} {cause : Cause}
    (after : cs.dropWhile isLayout = c :: cs') (fault : scan c cs' = .fault passed cause) :
    ofChars cs = .stopped (cs.takeWhile isLayout) passed cause := by
  rw [ofChars]
  split
  · simp_all
  · rename_i after'
    cases after'.symm.trans after
    split
    · rename_i fault'
      cases fault'.symm.trans fault
      rfl
    · simp_all

theorem ofChars_of_found {c : Char} {cs cs' rest : List Char} {l : Lexeme}
    (after : cs.dropWhile isLayout = c :: cs') (found : scan c cs' = .found l rest) :
    ofChars cs = .lexeme (cs.takeWhile isLayout) l
      (if endsBefore l rest then ofChars rest
      else .stopped [] [] (.missingDelimiter (Diagnostic.describe rest.head?))) := by
  rw [ofChars]
  split
  · simp_all
  · rename_i after'
    cases after'.symm.trans after
    split
    · simp_all
    · rename_i found'
      cases found'.symm.trans found
      rfl

end Cut

end WasmText
