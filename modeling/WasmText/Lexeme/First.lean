import WasmText.Lexeme.Number
import WasmText.Lexeme.Quoted
import WasmText.Lexeme.Word
import WasmText.Unicode.Alphanumeric

/-!
# The first lexeme of a text

The first character decides which kind of lexeme a text begins with, and every kind is taken as far
as it goes. A number must not run into a letter, a digit or an underscore.

## What is proved

* `scan_append`: the text of the lexeme and the rest are the text that was scanned.
* `text_ne_nil_of_scan`, `scan_length_lt`: the lexeme has some text, so the rest is shorter than
  what was scanned.
-/

namespace WasmText.Lexeme

open Diagnostic

/-- A word, which is taken as far as letters, digits and underscores go. -/
def scanWord (cs : List Char) : Scan Lexeme :=
  match ofWord? (cs.takeWhile isWordChar) with
  | some l => .found l (cs.dropWhile isWordChar)
  | none => .fault [] (.unknownWord (String.ofList (cs.takeWhile isWordChar)))

/-- A name, whose dollar sign has been passed. -/
def scanName (cs : List Char) : Scan Lexeme :=
  match cs.takeWhile isNameChar with
  | [] => .fault ['$'] (.unexpectedNameCharacter (describe cs.head?))
  | chars => .found (.name chars) (cs.dropWhile isNameChar)

/-- A string, whose opening quote has been passed. -/
def scanString (cs : List Char) : Scan Lexeme :=
  match Quoted.scanBody cs with
  | .found body rest => .found (.string body) rest
  | .fault passed cause => .fault ('"' :: passed) cause

/-- The letters, digits and underscores that a number must not run into. -/
def runsOn (c : Char) : Bool :=
  c == '_' || Unicode.isAlphanumeric c

/-- A number. -/
def scanNumber (cs : List Char) : Scan Lexeme :=
  match Number.split cs with
  | (chars, c :: rest) =>
    if runsOn c then .fault chars (.unexpectedNumberCharacter (describe (some c)))
    else .found (.number chars) (c :: rest)
  | (chars, []) => .found (.number chars) []

/-- The lexeme at the start of a text that begins with a character other than layout. -/
def scan (c : Char) (cs : List Char) : Scan Lexeme :=
  if c.isAlpha then scanWord (c :: cs)
  else if c = '$' then scanName cs
  else if c = '"' then scanString cs
  else if isNumberStart c then scanNumber (c :: cs)
  else
    match Mark.ofChar? c with
    | some m => .found (.mark m) cs
    | none => .fault [] (.unexpectedCharacter (describe (some c)))

/-! ### Nothing is lost -/

theorem scanWord_append {cs rest : List Char} {l : Lexeme} (h : scanWord cs = .found l rest) :
    l.text ++ rest = cs := by
  unfold scanWord at h
  split at h
  · cases h
    rename_i word
    simp [text_of_ofWord? word]
  · cases h

theorem scanName_append {cs rest : List Char} {l : Lexeme} (h : scanName cs = .found l rest) :
    l.text ++ rest = '$' :: cs := by
  unfold scanName at h
  split at h
  · cases h
  · cases h
    simp [text, pieces]

theorem scanString_append {cs rest : List Char} {l : Lexeme} (h : scanString cs = .found l rest) :
    l.text ++ rest = '"' :: cs := by
  unfold scanString at h
  split at h
  · cases h
    rename_i body
    simp [text, pieces, ← Quoted.scanBody_append body]
  · cases h

theorem scanNumber_append {cs rest : List Char} {l : Lexeme} (h : scanNumber cs = .found l rest) :
    l.text ++ rest = cs := by
  have parts := Number.split_append cs
  unfold scanNumber at h
  split at h
  · split at h
    · cases h
    · cases h
      simp_all [text, pieces]
  · cases h
    simp_all [text, pieces]

theorem scan_append {c : Char} {cs rest : List Char} {l : Lexeme} (h : scan c cs = .found l rest) :
    l.text ++ rest = c :: cs := by
  unfold scan at h
  split at h
  · exact scanWord_append h
  split at h
  · simp_all [scanName_append h]
  split at h
  · simp_all [scanString_append h]
  split at h
  · exact scanNumber_append h
  split at h
  · cases h
    rename_i mark
    simp [text, pieces, Mark.ofChar?_eq_some_iff.1 mark]
  · cases h

/-! ### Something is taken -/

theorem isWordChar_of_isAlpha {c : Char} (h : c.isAlpha = true) : isWordChar c = true := by
  simp [isWordChar, Char.isAlphanum, h]

theorem text_ne_nil_of_scan {c : Char} {cs rest : List Char} {l : Lexeme}
    (h : scan c cs = .found l rest) : l.text ≠ [] := by
  unfold scan at h
  split at h
  · rename_i letter
    unfold scanWord at h
    split at h
    · cases h
      rename_i word
      simp [text_of_ofWord? word, isWordChar_of_isAlpha letter]
    · cases h
  split at h
  · unfold scanName at h
    split at h <;> cases h
    simp [text, pieces]
  split at h
  · unfold scanString at h
    split at h <;> cases h
    simp [text, pieces]
  split at h
  · rename_i start
    have taken := Number.split_ne_nil start cs
    unfold scanNumber at h
    split at h
    · split at h <;> cases h
      simp_all [text, pieces]
    · cases h
      simp_all [text, pieces]
  split at h <;> cases h
  simp [text, pieces]

theorem scan_length_lt {c : Char} {cs rest : List Char} {l : Lexeme}
    (h : scan c cs = .found l rest) : rest.length < (c :: cs).length := by
  have taken := List.length_pos_iff.2 (text_ne_nil_of_scan h)
  rw [← scan_append h, List.length_append]
  omega

end WasmText.Lexeme
