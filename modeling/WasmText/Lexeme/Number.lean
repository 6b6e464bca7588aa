import WasmText.Lexeme.Alphabet

/-!
# The extent of a number

A number is a sign, if there is one, and then either `0x` with hexadecimal digits and perhaps a
fraction of such digits, or decimal digits with perhaps a fraction and perhaps an exponent. Each run
of digits may be empty. The scan takes each part as far as it goes: it answers what it took and what
is left.

## What is proved

* `run_append`, `sign_append`, `digits_append`, `exponent_append`, `split_append`: a scan loses
  nothing.
* `split_ne_nil`: at a character that may begin a number, the scan takes something.
-/

namespace WasmText.Lexeme.Number

/-- The longest run of characters in a class, and the rest. -/
def run (belongs : Char → Bool) (cs : List Char) : List Char × List Char :=
  (cs.takeWhile belongs, cs.dropWhile belongs)

/-- A sign, if the text begins with one, and the rest. -/
def sign : List Char → List Char × List Char
  | [] => ([], [])
  | c :: cs => if c = '+' ∨ c = '-' then ([c], cs) else ([], c :: cs)

/-- A run of digits and, if a point follows it, the point and another run. -/
def digits (isDigit : Char → Bool) (cs : List Char) : List Char × List Char :=
  match run isDigit cs with
  | (whole, '.' :: rest) => (whole ++ '.' :: (run isDigit rest).1, (run isDigit rest).2)
  | (whole, rest) => (whole, rest)

/-- An exponent, if the text begins with one: its mark, a sign if there is one, and decimal
digits. -/
def exponent : List Char → List Char × List Char
  | [] => ([], [])
  | c :: cs =>
    if c = 'e' ∨ c = 'E' then
      (c :: (sign cs).1 ++ (run Char.isDigit (sign cs).2).1, (run Char.isDigit (sign cs).2).2)
    else ([], c :: cs)

/-- Decimal digits with their fraction and their exponent. -/
def decimal (cs : List Char) : List Char × List Char :=
  ((digits Char.isDigit cs).1 ++ (exponent (digits Char.isDigit cs).2).1,
    (exponent (digits Char.isDigit cs).2).2)

/-- A number without its sign. Hexadecimal digits come after `0x` and have no exponent, since its
mark is one of them. -/
def magnitude : List Char → List Char × List Char
  | '0' :: x :: cs =>
    if x = 'x' ∨ x = 'X' then
      ('0' :: x :: (digits Char.isHexDigit cs).1, (digits Char.isHexDigit cs).2)
    else decimal ('0' :: x :: cs)
  | cs => decimal cs

/-- The number at the start of a text, and the rest. -/
def split (cs : List Char) : List Char × List Char :=
  ((sign cs).1 ++ (magnitude (sign cs).2).1, (magnitude (sign cs).2).2)

/-! ### Nothing is lost -/

theorem run_append (belongs : Char → Bool) (cs : List Char) :
    (run belongs cs).1 ++ (run belongs cs).2 = cs :=
  List.takeWhile_append_dropWhile

theorem sign_append (cs : List Char) : (sign cs).1 ++ (sign cs).2 = cs := by
  cases cs with
  | nil => rfl
  | cons c cs => simp only [sign]; split <;> simp

theorem digits_append (isDigit : Char → Bool) (cs : List Char) :
    (digits isDigit cs).1 ++ (digits isDigit cs).2 = cs := by
  have parts := run_append isDigit cs
  unfold digits
  split
  · rename_i whole rest h
    have fraction := run_append isDigit rest
    rw [h] at parts
    simp_all
  · rename_i whole rest _ h
    rw [h] at parts
    simpa using parts

theorem exponent_append (cs : List Char) : (exponent cs).1 ++ (exponent cs).2 = cs := by
  cases cs with
  | nil => rfl
  | cons c cs =>
    simp only [exponent]
    split
    · have parts := run_append Char.isDigit (sign cs).2
      have signs := sign_append cs
      simp_all
    · simp

theorem decimal_append (cs : List Char) : (decimal cs).1 ++ (decimal cs).2 = cs := by
  simp [decimal, exponent_append, digits_append]

theorem magnitude_append (cs : List Char) : (magnitude cs).1 ++ (magnitude cs).2 = cs := by
  unfold magnitude
  split
  · split
    · simp [digits_append]
    · exact decimal_append _
  · exact decimal_append _

theorem split_append (cs : List Char) : (split cs).1 ++ (split cs).2 = cs := by
  simp [split, magnitude_append, sign_append]

/-! ### Something is taken -/

theorem digits_ne_nil {isDigit : Char → Bool} {c : Char} (h : isDigit c = true) (cs : List Char) :
    (digits isDigit (c :: cs)).1 ≠ [] := by
  unfold digits
  split
  all_goals
    rename_i hrun
    simp only [run, List.takeWhile_cons, h, if_true, Prod.mk.injEq] at hrun
    simp [← hrun.1]

theorem magnitude_ne_nil {c : Char} (h : c.isDigit = true) (cs : List Char) :
    (magnitude (c :: cs)).1 ≠ [] := by
  unfold magnitude
  split
  · split
    · simp
    · simp [decimal, @digits_ne_nil Char.isDigit '0' rfl]
  · simp [decimal, digits_ne_nil h]

theorem split_ne_nil {c : Char} (h : isNumberStart c = true) (cs : List Char) :
    (split (c :: cs)).1 ≠ [] := by
  simp only [split, sign]
  split
  · simp
  · rename_i hsign
    have digit : c.isDigit = true := by
      simpa [isNumberStart, (not_or.1 hsign).1, (not_or.1 hsign).2] using h
    simpa using magnitude_ne_nil digit cs

end WasmText.Lexeme.Number
