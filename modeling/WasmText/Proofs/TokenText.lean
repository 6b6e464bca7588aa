import WasmText.Proofs.Lossless
import WasmText.Proofs.Lexeme.Line
import WasmText.Unicode.Whitespace

/-!
# The texts of tokens

Every token of a source but the one for an error is seen on the page, and on one line: its text begins
with a character of ASCII that is neither a blank nor a control character, and holds no newline.

## What is proved

* `exists_scan_of_mem_place`: every token but an error token is a piece of a lexeme that is scanned.
* `IsGraphic.not_isWhitespace`: a character that is seen is no white space in any script.
* `isSeen_of_mem_lex`: the tokens of a source are seen on one line.
-/

namespace WasmText

open Text Lexeme Cut

/-! ### Characters that are seen -/

/-- A character of ASCII that is neither a blank nor a control character. -/
def Lexeme.IsGraphic (c : Char) : Prop :=
  ' '.toNat < c.toNat ∧ c.toNat < '\x7f'.toNat

instance (c : Char) : Decidable (IsGraphic c) :=
  inferInstanceAs (Decidable (_ ∧ _))

namespace Lexeme

theorem isGraphic_of_isAlpha {c : Char} (h : c.isAlpha = true) : IsGraphic c := by
  have upper : ' '.toNat < 'A'.toNat ∧ 'Z'.toNat < '\x7f'.toNat := by decide
  have lower : ' '.toNat < 'a'.toNat ∧ 'z'.toNat < '\x7f'.toNat := by decide
  rw [isAlpha_iff, isUpper_iff_toNat, isLower_iff_toNat] at h
  unfold IsGraphic
  omega

theorem isGraphic_of_isNumberStart {c : Char} (h : isNumberStart c = true) : IsGraphic c := by
  simp only [isNumberStart, Bool.or_eq_true, beq_iff_eq] at h
  obtain (rfl | rfl) | digit := h
  · decide
  · decide
  · have codes : ' '.toNat < '0'.toNat ∧ '9'.toNat < '\x7f'.toNat := by decide
    have digit := Char.isDigit_iff_toNat.1 digit
    unfold IsGraphic
    omega

theorem IsGraphic.not_isWhitespace {c : Char} (h : IsGraphic c) :
    Unicode.isWhitespace c = false := by
  have codes : ' '.toNat = 0x20 ∧ '\x7f'.toNat = 0x7F := by decide
  unfold IsGraphic at h
  rw [Bool.eq_false_iff]
  intro white
  obtain ⟨r, member, inside⟩ := (Unicode.Ranges.covers_iff _ _).1 white
  have outside : ∀ r ∈ Unicode.whitespaceRanges, r.2 ≤ 0x20 ∨ 0x7F ≤ r.1 := by decide
  have apart := outside r member
  omega

theorem IsGraphic.ne_newline {c : Char} (h : IsGraphic c) : c ≠ '\n' := by
  rintro rfl
  exact absurd h (by decide)

/-- A scan finds a lexeme only at a character that is seen. -/
theorem isGraphic_of_scan {c : Char} {cs rest : List Char} {l : Lexeme}
    (found : scan c cs = .found l rest) : IsGraphic c := by
  rcases scan_cases c cs with ⟨letter, -⟩ | ⟨rfl, -⟩ | ⟨rfl, -⟩ | ⟨start, -⟩ | ⟨m, rfl, -⟩ |
    ⟨-, scanned⟩
  · exact isGraphic_of_isAlpha letter
  · decide
  · decide
  · exact isGraphic_of_isNumberStart start
  · cases m <;> decide
  · rw [scanned] at found
    cases found

end Lexeme

/-! ### Texts that are seen -/

/-- A text that is seen on one line. -/
structure IsSeen (text : List Char) : Prop where
  /-- It begins with a character that is seen. -/
  head : ∃ c cs, text = c :: cs ∧ IsGraphic c
  /-- It has no newline. -/
  line : '\n' ∉ text

theorem isGraphic_text_of_scan {c : Char} {cs rest : List Char} {l : Lexeme}
    (found : scan c cs = .found l rest) : ∃ d ds, l.text = d :: ds ∧ IsGraphic d := by
  obtain ⟨d, ds, text⟩ := List.exists_cons_of_ne_nil (text_ne_nil_of_scan found)
  have append := scan_append found
  rw [text] at append
  obtain ⟨rfl, -⟩ := List.cons.inj append
  exact ⟨d, ds, text, isGraphic_of_scan found⟩

theorem isSeen_of_mem_pieces {c : Char} {cs rest : List Char} {l : Lexeme}
    (found : scan c cs = .found l rest) {p : Kind × List Char} (member : p ∈ l.pieces) :
    IsSeen p.2 := by
  have text := isGraphic_text_of_scan found
  refine ⟨?_, fun newline => newline_not_mem_text found (List.mem_flatMap.2 ⟨p, member, newline⟩)⟩
  cases l with
  | operator k s =>
    -- Only an operator has several pieces, of which the text begins with the first.
    obtain ⟨d, ds, spelled, letter⟩ := spelling_eq_cons k
    simp only [pieces, List.mem_cons, List.not_mem_nil, or_false] at member
    rcases member with rfl | rfl | rfl
    · exact ⟨d, ds, spelled, isGraphic_of_isAlpha letter⟩
    · exact ⟨'_', [], rfl, by decide⟩
    · exact ⟨s.letter, [], rfl, by cases s <;> decide⟩
  | _ =>
    obtain rfl := List.mem_singleton.1 member
    simpa [Lexeme.text, pieces] using text

/-- Every token of a text is a piece of a lexeme that is scanned, but for the token of an error. -/
theorem exists_scan_of_mem_place {cs : List Char} {file : String} {offset : Nat} {t : Token}
    (member : t ∈ ((ofChars cs).place file offset).tokens) (no_error : t.kind ≠ .error) :
    ∃ c ds l rest, scan c ds = .found l rest ∧ (t.kind, t.text.toList) ∈ l.pieces := by
  induction cs using scan_induction generalizing offset with
  | finished w layout =>
    rw [ofChars_layout layout] at member
    cases member
  | fault w c cs passed cause layout not_layout scanned =>
    rw [ofChars_fault layout not_layout scanned] at member
    obtain rfl := List.mem_singleton.1 member
    exact absurd rfl no_error
  | found w c cs l rest layout not_layout scanned ih =>
    rw [ofChars_found layout not_layout scanned] at member
    rcases List.mem_append.1 member with here | later
    · exact ⟨c, cs, l, rest, scanned, mem_place here⟩
    · by_cases ends : endsBefore l rest = true
      · rw [if_pos ends] at later
        exact ih later
      · rw [if_neg ends] at later
        obtain rfl := List.mem_singleton.1 later
        exact absurd rfl no_error

/-- The tokens of a source are seen on one line. -/
theorem isSeen_of_mem_lex {source file : String} {t : Token}
    (member : t ∈ (lex source file).tokens) (no_error : t.kind ≠ .error) :
    IsSeen t.text.toList := by
  obtain ⟨c, ds, l, rest, found, piece⟩ := exists_scan_of_mem_place member no_error
  exact isSeen_of_mem_pieces found piece

end WasmText
