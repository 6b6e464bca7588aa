import WasmText.Cut
import WasmText.Proofs.Lexeme.Item
import WasmText.Proofs.Lexeme.Number

/-!
# Lexemes before a text

Which lexemes there are, and before which texts they may stand: a word is not followed by another
letter, digit or underscore, and a literal is followed by a delimiter or by the end. The scan finds
a lexeme at the start of a text exactly if the text is that of the lexeme, followed by a text that
it may stand before.

## What is proved

* `ofWord?_eq_some_iff`: which words are lexemes.
* `Stands.head`: no lexeme begins with layout.
* `scan_cases`: the first character decides what is scanned.
* `scan_found_iff`: the scan finds just the lexemes that may stand where they are found.
-/

namespace WasmText.Lexeme

open Number Quoted Cut

/-- A text that a word may stand before. -/
def EndsWord (rest : List Char) : Prop :=
  ∀ c ∈ rest.head?, isWordChar c = false

instance (rest : List Char) : Decidable (EndsWord rest) :=
  decidable_of_iff (rest.head?.any isWordChar = false) (by cases rest <;> simp [EndsWord])

/-- A lexeme that may stand before a text. -/
inductive Stands : Lexeme → List Char → Prop where
  /-- One of the marks, before any text. -/
  | mark (m : Mark) (rest : List Char) : Stands (.mark m) rest
  /-- A keyword. -/
  | word (k : Keyword) {rest : List Char} : EndsWord rest → Stands (.word k) rest
  /-- A keyword with a sign. -/
  | operator (k : Keyword) (s : Sign) {rest : List Char} :
      EndsWord rest → Stands (.operator k s) rest
  /-- A dollar sign and at least one character of the alphabet of names. -/
  | name {chars rest : List Char} :
      chars ≠ [] → IsRun isNameChar chars → isDelimited rest = true → Stands (.name chars) rest
  /-- A number that begins with a sign or a digit. -/
  | number {c : Char} {chars rest : List Char} :
      isNumberStart c = true → IsNumber (c :: chars) → isDelimited rest = true →
        Stands (.number (c :: chars)) rest
  /-- A row of items between quotes. -/
  | string (items : List Item) {rest : List Char} :
      isDelimited rest = true → Stands (.string (spellItems items)) rest

/-! ### Words -/

theorem spelling_shape (k : Keyword) :
    (k.spelling.toList.head?.any Char.isAlpha && k.spelling.toList.all isWordChar &&
      (splitSign? k.spelling.toList).isNone) = true := by
  have shapes : ∀ k ∈ Keyword.all,
      (k.spelling.toList.head?.any Char.isAlpha && k.spelling.toList.all isWordChar &&
        (splitSign? k.spelling.toList).isNone) = true := by decide +kernel
  exact shapes k (Keyword.mem_all k)

theorem isRun_spelling (k : Keyword) : IsRun isWordChar k.spelling.toList := by
  have shape := spelling_shape k
  simp only [Bool.and_eq_true, List.all_eq_true] at shape
  exact shape.1.2

theorem splitSign?_spelling (k : Keyword) : splitSign? k.spelling.toList = none := by
  have shape := spelling_shape k
  simp only [Bool.and_eq_true, Option.isNone_iff_eq_none] at shape
  exact shape.2

theorem spelling_eq_cons (k : Keyword) :
    ∃ c cs, k.spelling.toList = c :: cs ∧ c.isAlpha = true := by
  have shape := spelling_shape k
  simp only [Bool.and_eq_true, Option.any_eq_true] at shape
  obtain ⟨c, first, letter⟩ := shape.1.1
  obtain ⟨cs, spelled⟩ := List.head?_eq_some_iff.1 first
  exact ⟨c, cs, spelled, letter⟩

/-- The words that are lexemes: the keywords, and the keywords with a sign. -/
theorem ofWord?_eq_some_iff {word : List Char} {l : Lexeme} :
    ofWord? word = some l ↔
      (∃ k, l = .word k ∧ word = k.spelling.toList) ∨
      ∃ k s, l = .operator k s ∧ word = k.spelling.toList ++ ['_', s.letter] := by
  unfold ofWord?
  constructor
  · intro h
    split at h
    · rename_i stem sign split
      obtain ⟨k, spelled, rfl⟩ := Option.map_eq_some_iff.1 h
      have stem_eq := congrArg String.toList (Keyword.ofSpelling?_eq_some_iff.1 spelled)
      rw [String.toList_ofList] at stem_eq
      exact Or.inr ⟨k, sign, rfl, stem_eq ▸ splitSign?_eq_some_iff.1 split⟩
    · obtain ⟨k, spelled, rfl⟩ := Option.map_eq_some_iff.1 h
      have word_eq := congrArg String.toList (Keyword.ofSpelling?_eq_some_iff.1 spelled)
      rw [String.toList_ofList] at word_eq
      exact Or.inl ⟨k, rfl, word_eq.symm⟩
  · intro h
    rcases h with ⟨k, rfl, rfl⟩ | ⟨k, s, rfl, rfl⟩
    · rw [splitSign?_spelling]
      simp [Keyword.ofSpelling?_spelling]
    · rw [splitSign?_append]
      simp [Keyword.ofSpelling?_spelling]

theorem isWordChar_letter (s : Sign) : isWordChar s.letter = true := by
  cases s <;> rfl

theorem scanWord_append_of_ends {word rest : List Char} {l : Lexeme} (h : ofWord? word = some l)
    (ends : EndsWord rest) : scanWord (word ++ rest) = .found l rest := by
  have run : IsRun isWordChar word := by
    rcases ofWord?_eq_some_iff.1 h with ⟨k, -, rfl⟩ | ⟨k, s, -, rfl⟩
    · exact isRun_spelling k
    · intro c member
      rcases List.mem_append.1 member with inside | inside
      · exact isRun_spelling k c inside
      · simp only [List.mem_cons, List.not_mem_nil, or_false] at inside
        rcases inside with rfl | rfl
        · rfl
        · exact isWordChar_letter s
  unfold scanWord
  rw [takeWhile_append_of_stops run ends, dropWhile_append_of_stops run ends, h]

/-! ### Delimiters -/

theorem isDelimiter_iff {c : Char} :
    isDelimiter c = true ↔ c = ' ' ∨ c = '\t' ∨ c = '\n' ∨ c = '(' ∨ c = ')' := by
  simp [isDelimiter, isLayout, or_assoc]

theorem isDelimited_iff {rest : List Char} :
    isDelimited rest = true ↔ ∀ c ∈ rest.head?, isDelimiter c = true := by
  cases rest with
  | nil => simp [isDelimited]
  | cons c rest => simp [isDelimited]

theorem endsWord_of_isDelimited {rest : List Char} (delimited : isDelimited rest = true) :
    EndsWord rest := by
  intro c next
  have delimiter := isDelimited_iff.1 delimited c next
  rcases isDelimiter_iff.1 delimiter with rfl | rfl | rfl | rfl | rfl <;> decide

/-- A lexeme that may stand somewhere may stand before every delimiter. -/
theorem Stands.of_isDelimited {l : Lexeme} {rest rest' : List Char} (h : Stands l rest)
    (delimited : isDelimited rest' = true) : Stands l rest' := by
  have ends := endsWord_of_isDelimited delimited
  cases h with
  | mark m => exact .mark m rest'
  | word k => exact .word k ends
  | operator k s => exact .operator k s ends
  | name nonempty run => exact .name nonempty run delimited
  | number start number => exact .number start number delimited
  | string items => exact .string items delimited

theorem scanName_of_stands {chars rest : List Char} (nonempty : chars ≠ [])
    (run : IsRun isNameChar chars) (delimited : isDelimited rest = true) :
    scanName (chars ++ rest) = .found (.name chars) rest := by
  have stops : ∀ c ∈ rest.head?, isNameChar c = false := by
    intro c next
    have delimiter := isDelimited_iff.1 delimited c next
    rcases isDelimiter_iff.1 delimiter with rfl | rfl | rfl | rfl | rfl <;> decide
  unfold scanName
  rw [takeWhile_append_of_stops run stops, dropWhile_append_of_stops run stops]
  split
  · contradiction
  · rfl

theorem split_of_stands {chars rest : List Char} (number : IsNumber chars)
    (delimited : isDelimited rest = true) : Number.split (chars ++ rest) = (chars, rest) := by
  have stops : ∀ c more, c ∈ rest.head? → ¬ IsNumber (chars ++ c :: more) := by
    intro c more next number
    have delimiter := isDelimited_iff.1 delimited c next
    have inside := number.mem (c := c) (by simp)
    rcases isDelimiter_iff.1 delimiter with rfl | rfl | rfl | rfl | rfl <;> revert inside <;> decide
  obtain ⟨taken, left⟩ := (longest_split (chars ++ rest)).eq_of_stops rfl number stops
  exact Prod.ext taken left

theorem not_runsOn_of_isDelimiter {c : Char} (h : isDelimiter c = true) : runsOn c = false := by
  rcases isDelimiter_iff.1 h with rfl | rfl | rfl | rfl | rfl <;> decide +kernel

theorem scanNumber_of_stands {chars rest : List Char} (number : IsNumber chars)
    (delimited : isDelimited rest = true) :
    scanNumber (chars ++ rest) = .found (.number chars) rest := by
  unfold scanNumber
  rw [split_of_stands number delimited]
  cases rest with
  | nil => rfl
  | cons c rest =>
    have delimiter := isDelimited_iff.1 delimited c rfl
    simp [not_runsOn_of_isDelimiter delimiter]

/-! ### First characters -/

theorem not_isLayout_of_isAlpha {c : Char} (h : c.isAlpha = true) : isLayout c = false := by
  rw [Bool.eq_false_iff]
  intro layout
  simp only [isLayout, Bool.or_eq_true, beq_iff_eq] at layout
  obtain (rfl | rfl) | rfl := layout <;> cases h

theorem not_isLayout_of_isNumberStart {c : Char} (h : isNumberStart c = true) :
    isLayout c = false := by
  rw [Bool.eq_false_iff]
  intro layout
  simp only [isLayout, Bool.or_eq_true, beq_iff_eq] at layout
  obtain (rfl | rfl) | rfl := layout <;> cases h

theorem not_isAlpha_of_isNumberStart {c : Char} (h : isNumberStart c = true) :
    c.isAlpha = false := by
  simp only [isNumberStart, Bool.or_eq_true, beq_iff_eq] at h
  obtain (rfl | rfl) | digit := h
  · rfl
  · rfl
  · exact not_isAlpha_of_isDigit digit

/-! ### The scan -/

theorem text_word (k : Keyword) : (Lexeme.word k).text = k.spelling.toList := by
  simp [text, pieces]

theorem text_operator (k : Keyword) (s : Sign) :
    (Lexeme.operator k s).text = k.spelling.toList ++ ['_', s.letter] := by
  simp [text, pieces]

theorem text_string (body : List Char) : (Lexeme.string body).text = '"' :: (body ++ ['"']) := by
  simp [text, pieces]

/-- A lexeme has some text, and it does not begin with layout. -/
theorem Stands.head {l : Lexeme} {rest : List Char} (h : Stands l rest) :
    ∃ c cs, l.text = c :: cs ∧ isLayout c = false := by
  cases h with
  | mark m =>
    refine ⟨m.char, [], by simp [text, pieces], ?_⟩
    cases m <;> rfl
  | word k =>
    obtain ⟨c, cs, spelled, letter⟩ := spelling_eq_cons k
    refine ⟨c, cs, by rw [text_word, spelled], not_isLayout_of_isAlpha letter⟩
  | operator k s =>
    obtain ⟨c, cs, spelled, letter⟩ := spelling_eq_cons k
    refine ⟨c, cs ++ ['_', s.letter], by simp [text_operator, spelled],
      not_isLayout_of_isAlpha letter⟩
  | @name chars => exact ⟨'$', chars, by simp [text, pieces], rfl⟩
  | @number c chars _ start =>
    exact ⟨c, chars, by simp [text, pieces], not_isLayout_of_isNumberStart start⟩
  | string items => exact ⟨'"', _, text_string _, rfl⟩

theorem split_of_scanNumber {cs rest : List Char} {l : Lexeme}
    (h : scanNumber cs = .found l rest) :
    l = .number (Number.split cs).1 ∧ rest = (Number.split cs).2 := by
  unfold scanNumber at h
  split at h
  · rename_i parts
    split at h
    · cases h
    · cases h
      rw [parts]
      exact ⟨rfl, rfl⟩
  · rename_i parts
    cases h
    rw [parts]
    exact ⟨rfl, rfl⟩

/-- The first character decides what is scanned. -/
theorem scan_cases (c : Char) (cs : List Char) :
    c.isAlpha = true ∧ scan c cs = scanWord (c :: cs) ∨
      c = '$' ∧ scan c cs = scanName cs ∨
      c = '"' ∧ scan c cs = scanString cs ∨
      isNumberStart c = true ∧ scan c cs = scanNumber (c :: cs) ∨
      (∃ m : Mark, m.char = c ∧ scan c cs = .found (.mark m) cs) ∨
      (c.isAlpha = false ∧ c ≠ '$' ∧ c ≠ '"' ∧ isNumberStart c = false ∧ (∀ m : Mark, m.char ≠ c)) ∧
        scan c cs = .fault [] (.unexpectedCharacter (Diagnostic.describe (some c))) := by
  unfold scan
  by_cases letter : c.isAlpha = true
  · exact Or.inl ⟨letter, if_pos letter⟩
  by_cases dollar : c = '$'
  · exact Or.inr (Or.inl ⟨dollar, by rw [if_neg letter, if_pos dollar]⟩)
  by_cases quote : c = '"'
  · exact Or.inr (Or.inr (Or.inl ⟨quote, by rw [if_neg letter, if_neg dollar, if_pos quote]⟩))
  rw [if_neg letter, if_neg dollar, if_neg quote]
  refine Or.inr (Or.inr (Or.inr ?_))
  by_cases start : isNumberStart c = true
  · exact Or.inl ⟨start, if_pos start⟩
  rw [if_neg start]
  refine Or.inr ?_
  cases mark : Mark.ofChar? c with
  | some m => exact Or.inl ⟨m, Mark.ofChar?_eq_some_iff.1 mark, rfl⟩
  | none =>
    refine Or.inr ⟨⟨Bool.eq_false_iff.2 letter, dollar, quote, Bool.eq_false_iff.2 start, ?_⟩, rfl⟩
    intro m of_char
    rw [Mark.ofChar?_eq_some_iff.2 of_char] at mark
    cases mark

theorem stands_of_scanWord {cs rest : List Char} {l : Lexeme}
    (found : scanWord cs = .found l rest) : Stands l rest := by
  unfold scanWord at found
  split at found
  · rename_i l' word
    cases found
    rcases ofWord?_eq_some_iff.1 word with ⟨k, rfl, -⟩ | ⟨k, s, rfl, -⟩
    · exact .word k (dropWhile_stops isWordChar _)
    · exact .operator k s (dropWhile_stops isWordChar _)
  · cases found

theorem stands_of_scanName {cs rest : List Char} {l : Lexeme}
    (found : scanName cs = .found l rest) (ends : endsBefore l rest = true) : Stands l rest := by
  unfold scanName at found
  split at found
  · cases found
  · rename_i chars nonempty
    cases found
    exact .name nonempty (longest_run isNameChar cs).taken ends

theorem stands_of_scanString {cs rest : List Char} {l : Lexeme}
    (found : scanString cs = .found l rest) (ends : endsBefore l rest = true) : Stands l rest := by
  unfold scanString at found
  split at found
  · rename_i body rest' scanned
    cases found
    obtain ⟨items, rfl, -⟩ := scanBody_eq_found_iff.1 scanned
    exact .string items ends
  · cases found

theorem stands_of_scanNumber {c : Char} {cs rest : List Char} {l : Lexeme}
    (start : isNumberStart c = true) (found : scanNumber (c :: cs) = .found l rest)
    (ends : endsBefore l rest = true) : Stands l rest := by
  obtain ⟨rfl, rfl⟩ := split_of_scanNumber found
  have number := (longest_split (c :: cs)).taken
  have parts := split_append (c :: cs)
  rcases taken : (Number.split (c :: cs)).1 with _ | ⟨d, chars⟩
  · exact absurd taken (split_ne_nil start cs)
  · rw [taken] at number parts ends
    obtain ⟨rfl, -⟩ := List.cons.inj parts
    exact .number start number ends

theorem stands_of_scan {c : Char} {cs rest : List Char} {l : Lexeme}
    (found : scan c cs = .found l rest) (ends : endsBefore l rest = true) : Stands l rest := by
  rcases scan_cases c cs with ⟨-, scanned⟩ | ⟨-, scanned⟩ | ⟨-, scanned⟩ | ⟨start, scanned⟩ |
    ⟨m, -, scanned⟩ | ⟨-, scanned⟩ <;> rw [scanned] at found
  · exact stands_of_scanWord found
  · exact stands_of_scanName found ends
  · exact stands_of_scanString found ends
  · exact stands_of_scanNumber start found ends
  · cases found
    exact .mark _ _
  · cases found

theorem scan_of_isAlpha {c : Char} (letter : c.isAlpha = true) (cs : List Char) :
    scan c cs = scanWord (c :: cs) := by
  simp [scan, letter]

theorem scan_of_isNumberStart {c : Char} (start : isNumberStart c = true) (cs : List Char) :
    scan c cs = scanNumber (c :: cs) := by
  have dollar : c ≠ '$' := by
    rintro rfl
    cases start
  have quote : c ≠ '"' := by
    rintro rfl
    cases start
  simp [scan, not_isAlpha_of_isNumberStart start, dollar, quote, start]

theorem scan_of_stands {c : Char} {cs rest : List Char} {l : Lexeme} (h : Stands l rest)
    (append : l.text ++ rest = c :: cs) : scan c cs = .found l rest := by
  cases h with
  | mark m =>
    simp only [text, pieces, List.flatMap_cons, List.flatMap_nil, List.append_nil,
      List.singleton_append, List.cons.injEq] at append
    obtain ⟨rfl, rfl⟩ := append
    cases m <;> rfl
  | word k ends =>
    rw [text_word] at append
    obtain ⟨d, ds, spelled, letter⟩ := spelling_eq_cons k
    obtain ⟨rfl, -⟩ := List.cons.inj ((congrArg (· ++ rest) spelled).symm.trans append)
    rw [scan_of_isAlpha letter, ← append]
    exact scanWord_append_of_ends (ofWord?_eq_some_iff.2 (Or.inl ⟨k, rfl, rfl⟩)) ends
  | operator k s ends =>
    rw [text_operator] at append
    obtain ⟨d, ds, spelled, letter⟩ := spelling_eq_cons k
    obtain ⟨rfl, -⟩ : d = c ∧ _ := List.cons.inj
      ((congrArg (· ++ ['_', s.letter] ++ rest) spelled).symm.trans append)
    rw [scan_of_isAlpha letter, ← append]
    exact scanWord_append_of_ends (ofWord?_eq_some_iff.2 (Or.inr ⟨k, s, rfl, rfl⟩)) ends
  | name nonempty run delimited =>
    obtain ⟨rfl, rfl⟩ := List.cons.inj append
    simpa [scan] using scanName_of_stands nonempty run delimited
  | number start number delimited =>
    obtain ⟨rfl, rfl⟩ := List.cons.inj append
    rw [scan_of_isNumberStart start]
    simpa using scanNumber_of_stands number delimited
  | string items delimited =>
    rw [text_string] at append
    obtain ⟨rfl, rfl⟩ := List.cons.inj append
    have body : scanBody (spellItems items ++ '"' :: rest) = .found (spellItems items) rest :=
      scanBody_eq_found_iff.2 ⟨items, rfl, rfl⟩
    simp [scan, scanString, body]

/-- The scan finds a lexeme that may stand where it is found exactly if the text begins so. -/
theorem scan_found_iff {c : Char} {cs rest : List Char} {l : Lexeme} :
    scan c cs = .found l rest ∧ endsBefore l rest = true ↔
      l.text ++ rest = c :: cs ∧ Stands l rest := by
  constructor
  · intro h
    obtain ⟨found, ends⟩ := h
    exact ⟨scan_append found, stands_of_scan found ends⟩
  · intro h
    obtain ⟨append, stands⟩ := h
    refine ⟨scan_of_stands stands append, ?_⟩
    cases stands <;> simp_all [endsBefore, isLiteral]

end WasmText.Lexeme
