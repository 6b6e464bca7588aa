import WasmText.Proofs.Lexeme.Stands

/-!
# Texts without a lexeme

How a text begins with no lexeme, by its first character: each way has its own cause and its own
place. The scan meets a fault exactly in these ways.

## What is proved

* `scan_fault_iff`: the scan meets the fault that the text has.
-/

namespace WasmText.Lexeme

open Diagnostic Number Quoted

/-- A word that is a keyword, or a keyword with a sign. -/
def IsWord (word : List Char) : Prop :=
  (∃ k : Keyword, word = k.spelling.toList) ∨
    ∃ (k : Keyword) (s : Sign), word = k.spelling.toList ++ ['_', s.letter]

/-- A text that begins with no lexeme, after the characters that are passed before the fault. -/
inductive NoLexeme : List Char → List Char → Cause → Prop where
  /-- A word that is no lexeme, at its start. -/
  | word {c : Char} {word rest : List Char} :
      c.isAlpha = true → IsRun isWordChar (c :: word) → EndsWord rest → ¬ IsWord (c :: word) →
        NoLexeme (c :: word ++ rest) [] (.unknownWord (String.ofList (c :: word)))
  /-- A dollar sign before a character that is not of the alphabet of names, or before the end. -/
  | name {rest : List Char} :
      (∀ c ∈ rest.head?, isNameChar c = false) →
        NoLexeme ('$' :: rest) ['$'] (.unexpectedNameCharacter (describe rest.head?))
  /-- The longest number that a text begins with, before an underscore, a letter or a digit. -/
  | number {c d : Char} {text chars rest : List Char} :
      isNumberStart c = true → Longest IsNumber (c :: text) chars (d :: rest) →
        d = '_' ∨ Unicode.isAlphanumeric d = true →
        NoLexeme (c :: text) chars (.unexpectedNumberCharacter (describe (some d)))
  /-- A quote and some items before a text that breaks the string off. -/
  | string {items : List Item} {rest passed : List Char} {cause : Cause} :
      Breaks rest passed cause →
        NoLexeme ('"' :: (spellItems items ++ rest)) ('"' :: (spellItems items ++ passed)) cause
  /-- A character that begins nothing. -/
  | other {c : Char} {rest : List Char} :
      c.isAlpha = false → c ≠ '$' → c ≠ '"' → isNumberStart c = false → (∀ m : Mark, m.char ≠ c) →
        NoLexeme (c :: rest) [] (.unexpectedCharacter (describe (some c)))

theorem NoLexeme.begins {cs passed : List Char} {cause : Cause} (h : NoLexeme cs passed cause) :
    passed <+: cs := by
  cases h with
  | word => exact List.nil_prefix
  | name => exact List.prefix_append ['$'] _
  | number _ longest => exact ⟨_, longest.append⟩
  | string breaks =>
    rw [List.cons_prefix_cons]
    exact ⟨rfl, (List.prefix_append_right_inj _).2 breaks.begins⟩
  | other => exact List.nil_prefix

theorem isWord_iff {word : List Char} : IsWord word ↔ ∃ l, ofWord? word = some l := by
  simp only [ofWord?_eq_some_iff]
  constructor
  · intro h
    rcases h with ⟨k, spelled⟩ | ⟨k, s, spelled⟩
    · exact ⟨_, Or.inl ⟨k, rfl, spelled⟩⟩
    · exact ⟨_, Or.inr ⟨k, s, rfl, spelled⟩⟩
  · intro h
    obtain ⟨l, ⟨k, -, spelled⟩ | ⟨k, s, -, spelled⟩⟩ := h
    · exact Or.inl ⟨k, spelled⟩
    · exact Or.inr ⟨k, s, spelled⟩

theorem ofWord?_eq_none_iff {word : List Char} : ofWord? word = none ↔ ¬ IsWord word := by
  rw [isWord_iff, ← Option.isSome_iff_exists, Bool.not_eq_true, Option.isSome_eq_false_iff,
    Option.isNone_iff_eq_none]

theorem runsOn_iff {c : Char} : runsOn c = true ↔ c = '_' ∨ Unicode.isAlphanumeric c = true := by
  simp [runsOn]

/-! ### The scan -/

theorem noLexeme_of_scanWord {c : Char} {cs passed : List Char} {cause : Cause}
    (letter : c.isAlpha = true) (fault : scanWord (c :: cs) = .fault passed cause) :
    NoLexeme (c :: cs) passed cause := by
  have run := longest_run isWordChar (c :: cs)
  have taken : (c :: cs).takeWhile isWordChar = c :: cs.takeWhile isWordChar :=
    List.takeWhile_cons_of_pos (isWordChar_of_isAlpha letter)
  unfold scanWord at fault
  split at fault
  · cases fault
  · rename_i no_word
    cases fault
    have text := run.append
    have chars := run.taken
    rw [taken] at no_word text chars ⊢
    rw [← text]
    exact .word letter chars (dropWhile_stops isWordChar _) (ofWord?_eq_none_iff.1 no_word)

theorem noLexeme_of_scanName {cs passed : List Char} {cause : Cause}
    (fault : scanName cs = .fault passed cause) : NoLexeme ('$' :: cs) passed cause := by
  unfold scanName at fault
  split at fault
  · rename_i nothing
    cases fault
    have stops := dropWhile_stops isNameChar cs
    have rest := (longest_run isNameChar cs).append
    rw [nothing, List.nil_append] at rest
    rw [rest] at stops
    exact .name stops
  · cases fault

theorem noLexeme_of_scanString {cs passed : List Char} {cause : Cause}
    (fault : scanString cs = .fault passed cause) : NoLexeme ('"' :: cs) passed cause := by
  unfold scanString at fault
  split at fault
  · cases fault
  · rename_i scanned
    cases fault
    obtain ⟨items, rest, passed, rfl, breaks, rfl⟩ := scanBody_eq_fault_iff.1 scanned
    exact .string breaks

theorem noLexeme_of_scanNumber {c : Char} {cs passed : List Char} {cause : Cause}
    (start : isNumberStart c = true) (fault : scanNumber (c :: cs) = .fault passed cause) :
    NoLexeme (c :: cs) passed cause := by
  have longest := longest_split (c :: cs)
  unfold scanNumber at fault
  split at fault
  · rename_i parts
    split at fault
    · rename_i runs_on
      cases fault
      rw [parts] at longest
      exact .number start longest (runsOn_iff.1 runs_on)
    · cases fault
  · cases fault

theorem noLexeme_of_scan {c : Char} {cs passed : List Char} {cause : Cause}
    (fault : scan c cs = .fault passed cause) : NoLexeme (c :: cs) passed cause := by
  rcases scan_cases c cs with ⟨letter, scanned⟩ | ⟨rfl, scanned⟩ | ⟨rfl, scanned⟩ |
    ⟨start, scanned⟩ | ⟨m, -, scanned⟩ | ⟨nothing, scanned⟩ <;> rw [scanned] at fault
  · exact noLexeme_of_scanWord letter fault
  · exact noLexeme_of_scanName fault
  · exact noLexeme_of_scanString fault
  · exact noLexeme_of_scanNumber start fault
  · cases fault
  · cases fault
    obtain ⟨not_letter, not_dollar, not_quote, not_start, no_mark⟩ := nothing
    exact .other not_letter not_dollar not_quote not_start no_mark

theorem scan_of_noLexeme {c : Char} {cs passed : List Char} {cause : Cause}
    (h : NoLexeme (c :: cs) passed cause) : scan c cs = .fault passed cause := by
  generalize text_eq : c :: cs = text at h
  cases h with
  | @word d word rest letter run ends no_word =>
    obtain ⟨rfl, -⟩ := List.cons.inj text_eq
    rw [scan_of_isAlpha letter, text_eq]
    unfold scanWord
    rw [takeWhile_append_of_stops run ends, ofWord?_eq_none_iff.2 no_word]
  | @name rest stops =>
    obtain ⟨rfl, rfl⟩ := List.cons.inj text_eq
    have empty : IsRun isNameChar [] := by decide
    have nothing : cs.takeWhile isNameChar = [] := takeWhile_append_of_stops empty stops
    simp [scan, scanName, nothing]
  | @number d e text chars rest start longest runs_on =>
    obtain ⟨rfl, rfl⟩ := List.cons.inj text_eq
    obtain ⟨taken, left⟩ := (longest_split (c :: cs)).unique longest
    have parts : Number.split (c :: cs) = (passed, e :: rest) := Prod.ext taken left
    rw [scan_of_isNumberStart start]
    unfold scanNumber
    rw [parts]
    simp [runsOn_iff.2 runs_on]
  | @string items rest passed cause breaks =>
    obtain ⟨rfl, rfl⟩ := List.cons.inj text_eq
    have body := scanBody_eq_fault_iff.2 ⟨items, rest, passed, rfl, breaks, rfl⟩
    simp [scan, scanString, body]
  | @other d rest letter dollar quote start no_mark =>
    obtain ⟨rfl, rfl⟩ := List.cons.inj text_eq
    have none_found : Mark.ofChar? c = none := by
      rw [Option.eq_none_iff_forall_ne_some]
      intro m found
      exact no_mark m (Mark.ofChar?_eq_some_iff.1 found)
    simp [scan, letter, dollar, quote, start, none_found]

/-- The scan meets the fault that a text has. -/
theorem scan_fault_iff {c : Char} {cs passed : List Char} {cause : Cause} :
    scan c cs = .fault passed cause ↔ NoLexeme (c :: cs) passed cause :=
  ⟨noLexeme_of_scan, scan_of_noLexeme⟩

end WasmText.Lexeme
