import WasmText.Proofs.Lexeme.Stands

/-!
# Lexemes and the ends of lines

No lexeme goes past the end of a line, and no scan looks past it: what is scanned of a text that has
a newline stays the same, whatever is put after the text.

## What is proved

* `Longest.extend`: the longest text of a language without newlines.
* `newline_not_mem_text`: no lexeme holds a newline.
* `scan_extend`: a scan of a text with a newline does not depend on what comes after the text.
-/

namespace WasmText.Lexeme

open Number Quoted Diagnostic

/-- The result of a scan, if more follows the text that was scanned. -/
def Scan.followedBy {α : Type} (more : List Char) : Scan α → Scan α
  | .found item rest => .found item (rest ++ more)
  | .fault passed cause => .fault passed cause

/-! ### Parts of a line -/

theorem Longest.extend {belongs : List Char → Prop} {cs us vs : List Char}
    (h : Longest belongs cs us vs) (in_line : ∀ part, belongs part → '\n' ∉ part)
    (line : '\n' ∈ cs) (more : List Char) : Longest belongs (cs ++ more) us (vs ++ more) := by
  refine ⟨by rw [← List.append_assoc, h.append], h.taken, ?_⟩
  intro part member begins
  rcases List.prefix_or_prefix_of_prefix begins (List.prefix_append cs more) with inside | past
  · exact h.longest member inside
  · exact absurd (past.subset line) (in_line part member)

theorem run_extend {belongs : Char → Bool} (newline : belongs '\n' = false) {cs : List Char}
    (line : '\n' ∈ cs) (more : List Char) :
    (cs ++ more).takeWhile belongs = cs.takeWhile belongs ∧
      (cs ++ more).dropWhile belongs = cs.dropWhile belongs ++ more := by
  have in_line : ∀ part, IsRun belongs part → '\n' ∉ part := by
    intro part run member
    cases newline.symm.trans (run _ member)
  exact (longest_run belongs (cs ++ more)).unique ((longest_run belongs cs).extend in_line line more)

theorem newline_not_mem_number {cs : List Char} (h : IsNumber cs) : '\n' ∉ cs := by
  intro member
  rcases h.mem member with alphanumeric | point | sign | sign
  · cases alphanumeric
  · cases point
  · cases sign
  · cases sign

theorem split_extend {cs : List Char} (line : '\n' ∈ cs) (more : List Char) :
    Number.split (cs ++ more) = ((Number.split cs).1, (Number.split cs).2 ++ more) := by
  obtain ⟨taken, left⟩ := (longest_split (cs ++ more)).unique
    ((longest_split cs).extend (fun _ => newline_not_mem_number) line more)
  exact Prod.ext taken left

theorem newline_not_mem_items (items : List Item) : '\n' ∉ spellItems items := by
  intro member
  obtain ⟨i, -, inside⟩ := List.mem_flatMap.1 member
  cases i with
  | raw c plain =>
    obtain rfl := List.mem_singleton.1 inside
    cases plain
  | letter c escapes =>
    simp only [Item.text, List.mem_cons, List.not_mem_nil, or_false] at inside
    rcases inside with escape | rfl
    · cases escape
    · cases escapes
  | byte high low digits =>
    simp only [Item.text, List.mem_cons, List.not_mem_nil, or_false] at inside
    rcases inside with escape | rfl | rfl
    · cases escape
    · cases digits.1
    · cases digits.2

theorem head?_extend {cs : List Char} (line : '\n' ∈ cs) (more : List Char) :
    (cs ++ more).head? = cs.head? := by
  cases cs with
  | nil => cases line
  | cons c cs => rfl

theorem Breaks.extend {cs passed : List Char} {cause : Cause} (h : Breaks cs passed cause)
    (line : '\n' ∈ cs) (more : List Char) : Breaks (cs ++ more) passed cause := by
  cases h with
  | atEnd => cases line
  | atNewline => exact .atNewline
  | control control newline => exact .control control newline
  | @escape cs begins_none =>
    have line : '\n' ∈ cs := (List.mem_cons.1 line).resolve_left (by decide)
    rw [← head?_extend line more] at begins_none ⊢
    exact .escape begins_none
  | @byte d cs digit ends =>
    have other : '\n' ≠ d := by
      rintro rfl
      cases digit
    have line : '\n' ∈ cs :=
      (List.mem_cons.1 ((List.mem_cons.1 line).resolve_left (by decide))).resolve_left other
    rw [← head?_extend line more] at ends ⊢
    exact .byte digit ends

/-! ### The scans -/

theorem scanWord_extend {cs : List Char} (line : '\n' ∈ cs) (more : List Char) :
    scanWord (cs ++ more) = (scanWord cs).followedBy more := by
  have newline : isWordChar '\n' = false := rfl
  obtain ⟨taken, left⟩ := run_extend newline line more
  unfold scanWord
  rw [taken, left]
  split <;> rfl

theorem scanName_extend {cs : List Char} (line : '\n' ∈ cs) (more : List Char) :
    scanName (cs ++ more) = (scanName cs).followedBy more := by
  have newline : isNameChar '\n' = false := rfl
  obtain ⟨taken, left⟩ := run_extend newline line more
  unfold scanName
  rw [taken, left, head?_extend line]
  split <;> rfl

theorem scanBody_extend {cs : List Char} (line : '\n' ∈ cs) (more : List Char) :
    scanBody (cs ++ more) = (scanBody cs).followedBy more := by
  rcases items_cases cs with ⟨items, rest, rfl⟩ | ⟨items, rest, passed, cause, rfl, breaks⟩
  · rw [List.append_assoc, List.cons_append, scanBody_items, scanBody_items, scanBody_quote,
      scanBody_quote]
    rfl
  · have line : '\n' ∈ rest :=
      (List.mem_append.1 line).resolve_left (newline_not_mem_items items)
    rw [List.append_assoc, scanBody_items, scanBody_items, scanBody_of_breaks breaks,
      scanBody_of_breaks (breaks.extend line more)]
    rfl

theorem scanString_extend {cs : List Char} (line : '\n' ∈ cs) (more : List Char) :
    scanString (cs ++ more) = (scanString cs).followedBy more := by
  unfold scanString
  rw [scanBody_extend line]
  cases scanBody cs <;> rfl

theorem scanNumber_extend {cs : List Char} (line : '\n' ∈ cs) (more : List Char) :
    scanNumber (cs ++ more) = (scanNumber cs).followedBy more := by
  unfold scanNumber
  rw [split_extend line]
  have parts := split_append cs
  have number := (longest_split cs).taken
  generalize Number.split cs = scanned at parts number
  obtain ⟨chars, left⟩ := scanned
  cases left with
  | nil =>
    -- A number does not take the newline, so that something is left.
    have all : chars = cs := (List.append_nil chars).symm.trans parts
    exact absurd (all ▸ line) (newline_not_mem_number number)
  | cons c rest =>
    simp only [List.cons_append]
    split <;> rfl

/-- What is scanned of a text with a newline does not depend on what comes after the text. -/
theorem scan_extend {c : Char} {cs : List Char} (line : '\n' ∈ cs) (more : List Char) :
    scan c (cs ++ more) = (scan c cs).followedBy more := by
  unfold scan
  split
  · exact scanWord_extend (List.mem_cons_of_mem c line) more
  split
  · exact scanName_extend line more
  split
  · exact scanString_extend line more
  split
  · exact scanNumber_extend (List.mem_cons_of_mem c line) more
  split <;> rfl

/-- No lexeme holds a newline. -/
theorem newline_not_mem_text {c : Char} {cs rest : List Char} {l : Lexeme}
    (found : scan c cs = .found l rest) : '\n' ∉ l.text := by
  rcases scan_cases c cs with ⟨-, scanned⟩ | ⟨-, scanned⟩ | ⟨-, scanned⟩ | ⟨-, scanned⟩ |
    ⟨m, -, scanned⟩ | ⟨-, scanned⟩ <;> rw [scanned] at found
  · unfold scanWord at found
    split at found <;> cases found
    rename_i word
    rw [text_of_ofWord? word]
    exact fun member => absurd (List.mem_takeWhile_imp member) (by decide)
  · unfold scanName at found
    split at found <;> cases found
    intro member
    have inside : '\n' ∈ cs.takeWhile isNameChar := by simpa [text, pieces] using member
    exact absurd (List.mem_takeWhile_imp inside) (by decide)
  · unfold scanString at found
    split at found <;> cases found
    rename_i scanned
    obtain ⟨items, rfl, -⟩ := scanBody_eq_found_iff.1 scanned
    simpa [text_string] using newline_not_mem_items items
  · obtain ⟨rfl, -⟩ := split_of_scanNumber found
    simpa [text, pieces] using newline_not_mem_number (longest_split (c :: cs)).taken
  · cases found
    cases m <;> decide
  · cases found

end WasmText.Lexeme
