import Mathlib.Data.List.DropRight
import WasmText.Text.Line

/-!
# Looking up a line

A byte of a text lies in one of its characters, and this character in one of its lines. The line has
a number, one more than the newlines before the character, and it reaches from after the last of
these newlines to the next one.

## What is proved

* `lines_induction`: a text is one line without a newline, or such a line with a newline and a text
  after it.
* `lines_line`, `lines_flatMap_line`: lines that are put together are found again.
* `placeAt?_char`: the line of a byte or of the end of a text, and its number.
-/

namespace WasmText.Text

/-- The rest of a line at the start of a text, with the newline that ends it. -/
def lineEnd : List Char → List Char
  | [] => []
  | c :: cs => if c = '\n' then [c] else c :: lineEnd cs

/-- The part of a text after its last newline: the start of the line that goes on after it. -/
def lineStart (cs : List Char) : List Char :=
  cs.rtakeWhile (· != '\n')

/-! ### Up to a character -/

section

variable {p : Char → Bool} {c : Char} (stops : p c = false) (xs cs : List Char)
include stops

theorem takeWhile_append_cons : (xs ++ c :: cs).takeWhile p = xs.takeWhile p := by
  rw [List.takeWhile_append, List.takeWhile_cons_of_neg (by simp [stops]), List.append_nil]
  split
  · rename_i whole
    exact ((List.takeWhile_prefix p).eq_of_length whole).symm
  · rfl

theorem dropWhile_append_cons : (xs ++ c :: cs).dropWhile p = xs.dropWhile p ++ c :: cs := by
  rw [List.dropWhile_append, List.dropWhile_cons_of_neg (by simp [stops])]
  split
  · rename_i nothing
    rw [List.isEmpty_iff.1 nothing, List.nil_append]
  · rfl

end

/-! ### The lines of a text -/

/-- A text is one line without a newline, or such a line with a newline and a text after it. -/
theorem lines_induction {motive : List Char → Prop} (last : ∀ line, '\n' ∉ line → motive line)
    (more : ∀ line rest, '\n' ∉ line → motive rest → motive (line ++ '\n' :: rest))
    (cs : List Char) : motive cs := by
  induction length : cs.length using Nat.strong_induction_on generalizing cs with
  | h n ih =>
    by_cases newline : '\n' ∈ cs
    · obtain ⟨line, rest, rfl, in_line⟩ := List.eq_append_cons_of_mem newline
      refine more line rest in_line (ih rest.length ?_ rest rfl)
      rw [← length, List.length_append, List.length_cons]
      omega
    · exact last cs newline

theorem lineStart_of_not_mem {cs : List Char} (h : '\n' ∉ cs) : lineStart cs = cs := by
  refine List.rtakeWhile_eq_self_iff.2 fun c member => ?_
  have not_newline : c ≠ '\n' := by
    rintro rfl
    exact h member
  simpa using not_newline

theorem lineStart_append_newline (line rest : List Char) :
    lineStart (line ++ '\n' :: rest) = lineStart rest := by
  have reversed : (line ++ '\n' :: rest).reverse = rest.reverse ++ '\n' :: line.reverse := by simp
  unfold lineStart List.rtakeWhile
  rw [reversed, takeWhile_append_cons (by decide)]

theorem newline_not_mem_lineStart (before : List Char) : '\n' ∉ lineStart before := by
  intro member
  simpa using List.mem_rtakeWhile_imp member

/-- The rest of a line begins a text, and ends with its only newline or with the text. -/
theorem exists_lineEnd_append (cs : List Char) :
    ∃ later, cs = lineEnd cs ++ later ∧
      ∃ text, '\n' ∉ text ∧ (lineEnd cs = text ++ ['\n'] ∨ lineEnd cs = text ∧ later = []) := by
  induction cs with
  | nil => exact ⟨[], rfl, [], List.not_mem_nil, Or.inr ⟨rfl, rfl⟩⟩
  | cons c cs ih =>
    by_cases newline : c = '\n'
    · exact ⟨cs, by rw [lineEnd, if_pos newline]; rfl, [], List.not_mem_nil,
        Or.inl (by rw [lineEnd, if_pos newline, newline]; rfl)⟩
    · obtain ⟨later, parts, text, in_text, ended⟩ := ih
      have line : lineEnd (c :: cs) = c :: lineEnd cs := by rw [lineEnd, if_neg newline]
      refine ⟨later, by rw [line, List.cons_append, ← parts], c :: text,
        by simp [Ne.symm newline, in_text], ?_⟩
      rw [line]
      rcases ended with ended | ⟨whole, nothing⟩
      · exact Or.inl (by rw [ended, List.cons_append])
      · exact Or.inr ⟨by rw [whole], nothing⟩

theorem lines_line {line : List Char} (h : '\n' ∉ line) (rest : List Char) :
    lines (line ++ '\n' :: rest) = (line ++ ['\n']) :: lines rest := by
  induction line with
  | nil => simp [lines]
  | cons c line ih =>
    have not_newline : c ≠ '\n' := (List.ne_of_not_mem_cons h).symm
    rw [List.cons_append, lines, if_neg not_newline, ih (List.not_mem_of_not_mem_cons h)]
    rfl

theorem lines_flatMap_line {ls : List (List Char)} (h : ∀ line ∈ ls, '\n' ∉ line) :
    lines (ls.flatMap fun line => line ++ ['\n']) = ls.map fun line => line ++ ['\n'] := by
  induction ls with
  | nil => rfl
  | cons line ls ih =>
    obtain ⟨here, others⟩ := List.forall_mem_cons.1 h
    rw [List.flatMap_cons, List.append_assoc, List.singleton_append, lines_line here, ih others]
    rfl

theorem exists_lines_eq_cons (c : Char) (cs : List Char) :
    ∃ more, lines (c :: cs) = lineEnd (c :: cs) :: more := by
  induction cs generalizing c with
  | nil =>
    by_cases newline : c = '\n' <;> simp [lines, lineEnd, newline]
  | cons d ds ih =>
    obtain ⟨more, found⟩ := ih d
    by_cases newline : c = '\n'
    · exact ⟨lines (d :: ds), by rw [lines, lineEnd, if_pos newline, if_pos newline]⟩
    · refine ⟨more, ?_⟩
      rw [lines, lineEnd, if_neg newline, if_neg newline, found]

theorem lines_append_singleton {line : List Char} (h : '\n' ∉ line) (c : Char) :
    lines (line ++ [c]) = [line ++ [c]] := by
  induction line with
  | nil => by_cases newline : c = '\n' <;> simp [lines, newline]
  | cons d line ih =>
    have not_newline : d ≠ '\n' := (List.ne_of_not_mem_cons h).symm
    rw [List.cons_append, lines, if_neg not_newline, ih (List.not_mem_of_not_mem_cons h)]

theorem exists_lines_append_eq_cons {line : List Char} (h : '\n' ∉ line) (c : Char)
    (cs : List Char) : ∃ more, lines (line ++ c :: cs) = (line ++ lineEnd (c :: cs)) :: more := by
  induction line with
  | nil => exact exists_lines_eq_cons c cs
  | cons d line ih =>
    have not_newline : d ≠ '\n' := (List.ne_of_not_mem_cons h).symm
    obtain ⟨more, found⟩ := ih (List.not_mem_of_not_mem_cons h)
    refine ⟨more, ?_⟩
    rw [List.cons_append, lines, if_neg not_newline, found]
    rfl

/-! ### The line of a byte -/

theorem placeInLines_of_lt {number offset : Nat} {line : List Char} (h : offset < utf8Length line)
    (more : List (List Char)) : placeInLines number offset (line :: more) = ⟨number, line, offset⟩ := by
  cases more with
  | nil => rfl
  | cons next more => rw [placeInLines, if_pos h]

theorem placeInLines_add (number offset : Nat) (line : List Char) {more : List (List Char)}
    (h : more ≠ []) :
    placeInLines number (utf8Length line + offset) (line :: more) =
      placeInLines (number + 1) offset more := by
  obtain ⟨next, more, rfl⟩ := List.exists_cons_of_ne_nil h
  rw [placeInLines, if_neg (by omega), Nat.add_sub_cancel_left]

theorem utf8Size_le_lineEnd (c : Char) (cs : List Char) :
    c.utf8Size ≤ utf8Length (lineEnd (c :: cs)) := by
  rw [lineEnd]
  split <;> simp

theorem placeInLines_char (before cs : List Char) {c : Char} {k : Nat}
    (inside : k < c.utf8Size ∨ cs = [] ∧ k = c.utf8Size) (number : Nat) :
    placeInLines number (utf8Length before + k) (lines (before ++ c :: cs)) =
      ⟨number + before.count '\n', lineStart before ++ lineEnd (c :: cs),
        utf8Length (lineStart before) + k⟩ := by
  induction before using lines_induction generalizing number with
  | last line in_line =>
    rw [lineStart_of_not_mem in_line, List.count_eq_zero.2 in_line, Nat.add_zero]
    rcases inside with inside | ⟨rfl, -⟩
    · obtain ⟨more, found⟩ := exists_lines_append_eq_cons in_line c cs
      have fits := utf8Size_le_lineEnd c cs
      rw [found, placeInLines_of_lt (by rw [utf8Length_append]; omega)]
    · have whole : lineEnd [c] = [c] := ite_self [c]
      rw [lines_append_singleton in_line, whole]
      rfl
  | more line rest in_line ih =>
    have nonempty : lines (rest ++ c :: cs) ≠ [] := by
      intro nothing
      have text := flatten_lines (rest ++ c :: cs)
      simp [nothing] at text
    have bytes : utf8Length (line ++ '\n' :: rest) + k =
        utf8Length (line ++ ['\n']) + (utf8Length rest + k) := by
      simp [Nat.add_assoc]
    have counted : number + 1 + rest.count '\n' = number + (line ++ '\n' :: rest).count '\n' := by
      rw [List.count_append, List.count_eq_zero.2 in_line, List.count_cons_self]
      omega
    rw [List.append_assoc, List.cons_append, lines_line in_line, bytes,
      placeInLines_add number _ _ nonempty, ih, lineStart_append_newline, counted]

/-- The line of a byte of a character, and its number: there are the newlines before the character,
and the line reaches from after the last of them to the next one. The end of a text lies in the line
of its last character. -/
theorem placeAt?_char (before cs : List Char) {c : Char} {k : Nat}
    (inside : k < c.utf8Size ∨ cs = [] ∧ k = c.utf8Size) :
    placeAt? (before ++ c :: cs) (utf8Length before + k) =
      some ⟨1 + before.count '\n', lineStart before ++ lineEnd (c :: cs),
        utf8Length (lineStart before) + k⟩ := by
  have within : k ≤ c.utf8Size := inside.elim Nat.le_of_lt fun last => Nat.le_of_eq last.2
  rw [placeAt?, if_pos (by rw [utf8Length_append, utf8Length_cons]; omega),
    placeInLines_char before cs inside]

end WasmText.Text
