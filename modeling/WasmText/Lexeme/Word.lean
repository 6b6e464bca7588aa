import WasmText.Lexeme.Basic

/-!
# Words

A word is read as a whole: it is a keyword, or, if it ends in an underscore and the letter of a
sign, an operator whose keyword stands before them. A word that ends so is never a keyword by
itself.

## What is proved

* `splitSign?_eq_some_iff`: the sign is split off exactly where it ends the word.
* `text_of_ofWord?`: the lexeme of a word has the word's text.
-/

namespace WasmText.Lexeme

/-- A word that ends in an underscore and a sign, taken apart. -/
def splitSign? : List Char → Option (List Char × Sign)
  | ['_', 's'] => some ([], .signed)
  | ['_', 'u'] => some ([], .unsigned)
  | [] => none
  | c :: cs => (splitSign? cs).map fun split => (c :: split.1, split.2)

/-- The lexeme that a word is. -/
def ofWord? (word : List Char) : Option Lexeme :=
  match splitSign? word with
  | some (stem, sign) => (Keyword.ofSpelling? (String.ofList stem)).map fun k => .operator k sign
  | none => (Keyword.ofSpelling? (String.ofList word)).map .word

theorem splitSign?_append (stem : List Char) (s : Sign) :
    splitSign? (stem ++ ['_', s.letter]) = some (stem, s) := by
  induction stem with
  | nil => cases s <;> rfl
  | cons c cs ih =>
    have step : splitSign? (c :: (cs ++ ['_', s.letter])) =
        (splitSign? (cs ++ ['_', s.letter])).map fun split => (c :: split.1, split.2) := by
      rcases cs with _ | ⟨d, _ | ⟨e, cs⟩⟩ <;> simp [splitSign?]
    simpa [ih] using step

theorem splitSign?_eq_some_iff {word stem : List Char} {s : Sign} :
    splitSign? word = some (stem, s) ↔ word = stem ++ ['_', s.letter] := by
  constructor
  · intro h
    fun_induction splitSign? word generalizing stem with
    | case1 => cases h; rfl
    | case2 => cases h; rfl
    | case3 => cases h
    | case4 c cs _ _ ih =>
      obtain ⟨split, found, h⟩ := Option.map_eq_some_iff.1 h
      cases h
      simp [ih found]
  · rintro rfl
    exact splitSign?_append stem s

theorem text_of_ofWord? {word : List Char} {l : Lexeme} (h : ofWord? word = some l) :
    l.text = word := by
  unfold ofWord? at h
  split at h
  · rename_i stem sign split
    obtain ⟨k, spelled, rfl⟩ := Option.map_eq_some_iff.1 h
    have word_eq := splitSign?_eq_some_iff.1 split
    simp [text, pieces, Keyword.ofSpelling?_eq_some_iff.1 spelled, word_eq]
  · obtain ⟨k, spelled, rfl⟩ := Option.map_eq_some_iff.1 h
    simp [text, pieces, Keyword.ofSpelling?_eq_some_iff.1 spelled]

end WasmText.Lexeme
