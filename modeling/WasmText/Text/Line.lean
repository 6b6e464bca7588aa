import WasmText.Text.Utf8

/-!
# Lines of a source

A source is a row of lines, each with the newline that ends it; the last one may have none. A byte
offset belongs to the line that holds the byte there, and the end of the source to the last line.

## What is proved

* `flatten_lines`: the lines put together are the source.
-/

namespace WasmText.Text

/-- The lines of a text, each with the newline that ends it. -/
def lines : List Char → List (List Char)
  | [] => []
  | c :: cs =>
    if c = '\n' then [c] :: lines cs
    else
      match lines cs with
      | [] => [[c]]
      | line :: more => (c :: line) :: more

/-- A place in a source, by its line. -/
structure LinePlace where
  /-- The number of the line, counted from one. -/
  number : Nat
  /-- The line, with its newline. -/
  line : List Char
  /-- The number of bytes of the line before the place. -/
  offset : Nat
  deriving DecidableEq

/-- The place of a byte offset in lines that are numbered from `number` on. -/
def placeInLines (number offset : Nat) : List (List Char) → LinePlace
  | [] => ⟨number, [], offset⟩
  | [line] => ⟨number, line, offset⟩
  | line :: next :: more =>
    if offset < utf8Length line then ⟨number, line, offset⟩
    else placeInLines (number + 1) (offset - utf8Length line) (next :: more)

/-- The place of a byte offset in a source, unless it lies after the end. -/
def placeAt? (source : List Char) (offset : Nat) : Option LinePlace :=
  if offset ≤ utf8Length source then some (placeInLines 1 offset (lines source)) else none

theorem flatten_lines (cs : List Char) : (lines cs).flatten = cs := by
  fun_induction lines cs with
  | case1 => rfl
  | case2 cs ih => simp [ih]
  | case3 c cs _ empty ih => simp_all
  | case4 c cs _ line more cons ih => simp_all

end WasmText.Text
