import Mathlib.Tactic.Common
import WasmText.Lexeme.Quoted

/-!
# The items of a string

The body of a string is a row of items: plain characters, letters after a backslash, and bytes of
two hexadecimal digits after a backslash. A text that is neither at an item nor at a closing quote
breaks the string off.

## What is proved

* `item_cases`: a text begins with a closing quote, with an item, or breaks the string off.
* `scanBody_eq_found_iff`: the scan of a body takes a row of items with a quote after it.
* `scanBody_eq_fault_iff`: the scan of a body fails where, after a row of items, a text breaks the
  string off.
-/

namespace WasmText.Lexeme

open Diagnostic Quoted

/-- Whether a character stands for itself in a string. -/
def isPlain (c : Char) : Bool :=
  c != '"' && c != '\\' && !isControl c

/-- An item of the body of a string. -/
inductive Item where
  /-- A character that stands for itself. -/
  | raw (c : Char) (plain : isPlain c = true)
  /-- A backslash and a letter. -/
  | letter (c : Char) (escapes : isEscapeLetter c = true)
  /-- A backslash and two hexadecimal digits. -/
  | byte (high low : Char) (digits : high.isHexDigit = true ∧ low.isHexDigit = true)

/-- The text of an item. -/
def Item.text : Item → List Char
  | .raw c _ => [c]
  | .letter c _ => ['\\', c]
  | .byte high low _ => ['\\', high, low]

/-- The text of a row of items. -/
def spellItems (items : List Item) : List Char :=
  items.flatMap Item.text

/-- A text that breaks off a string, after the characters that are passed before the fault is
noticed. -/
inductive Breaks : List Char → List Char → Cause → Prop where
  /-- The end of the source. -/
  | atEnd : Breaks [] [] .unclosedString
  /-- The end of the line, which is passed. -/
  | atNewline {cs : List Char} : Breaks ('\n' :: cs) ['\n'] .unclosedString
  /-- A control character, which is passed. -/
  | control {c : Char} {cs : List Char} :
      isControl c = true → c ≠ '\n' →
        Breaks (c :: cs) [c] (.illegalControlCharacter (describe (some c)))
  /-- A backslash before a character that begins no escape, or before the end. -/
  | escape {cs : List Char} :
      (∀ d ∈ cs.head?, isEscapeLetter d = false ∧ d.isHexDigit = false) →
        Breaks ('\\' :: cs) ['\\'] (.illegalEscape (describe cs.head?))
  /-- A backslash and one hexadecimal digit before a character that is no other, or before the
  end. -/
  | byte {d : Char} {cs : List Char} :
      d.isHexDigit = true → (∀ e ∈ cs.head?, e.isHexDigit = false) →
        Breaks ('\\' :: d :: cs) ['\\', d] (.illegalEscape (describe cs.head?))

theorem Breaks.begins {cs passed : List Char} {cause : Cause} (h : Breaks cs passed cause) :
    passed <+: cs := by
  cases h with
  | atEnd => exact List.nil_prefix
  | byte => exact List.prefix_append ['\\', _] _
  | _ => exact List.prefix_append [_] _

/-! ### What a text begins with -/

/-- A text begins with a closing quote, with an item, or breaks the string off. -/
theorem item_cases (cs : List Char) :
    (∃ rest, cs = '"' :: rest) ∨ (∃ (i : Item) (rest : List Char), cs = i.text ++ rest) ∨
      ∃ passed cause, Breaks cs passed cause := by
  rcases cs with _ | ⟨c, cs⟩
  · exact Or.inr (Or.inr ⟨_, _, .atEnd⟩)
  by_cases quote : c = '"'
  · exact Or.inl ⟨cs, by rw [quote]⟩
  by_cases backslash : c = '\\'
  · subst backslash
    rcases cs with _ | ⟨d, cs⟩
    · exact Or.inr (Or.inr ⟨_, _, .escape (by simp)⟩)
    by_cases letter : isEscapeLetter d = true
    · exact Or.inr (Or.inl ⟨.letter d letter, cs, rfl⟩)
    by_cases high : d.isHexDigit = true
    · rcases cs with _ | ⟨e, cs⟩
      · exact Or.inr (Or.inr ⟨_, _, .byte high (by simp)⟩)
      by_cases low : e.isHexDigit = true
      · exact Or.inr (Or.inl ⟨.byte d e ⟨high, low⟩, cs, rfl⟩)
      · exact Or.inr (Or.inr ⟨_, _, .byte high (by simpa using low)⟩)
    · exact Or.inr (Or.inr ⟨_, _, .escape (by simp [letter, high])⟩)
  by_cases newline : c = '\n'
  · subst newline
    exact Or.inr (Or.inr ⟨_, _, .atNewline⟩)
  by_cases control : isControl c = true
  · exact Or.inr (Or.inr ⟨_, _, .control control newline⟩)
  · exact Or.inr (Or.inl ⟨.raw c (by simp [isPlain, quote, backslash, control]), cs, rfl⟩)

/-- A text is a row of items and then a closing quote, or a row of items and then breaks the string
off. -/
theorem items_cases (cs : List Char) :
    (∃ items rest, cs = spellItems items ++ '"' :: rest) ∨
      ∃ items rest passed cause, cs = spellItems items ++ rest ∧ Breaks rest passed cause := by
  -- Items differ in length, so the induction is on the length and not on the text.
  induction size : cs.length using Nat.strongRecOn generalizing cs with
  | _ n ih =>
  rcases item_cases cs with ⟨rest, rfl⟩ | ⟨i, rest, rfl⟩ | ⟨passed, cause, breaks⟩
  · exact Or.inl ⟨[], rest, rfl⟩
  · have shorter : rest.length < n := by
      rw [← size, List.length_append]
      cases i <;> simp [Item.text]
    rcases ih _ shorter rest rfl with ⟨items, rest', rfl⟩ |
      ⟨items, rest', passed, cause, rfl, breaks⟩
    · exact Or.inl ⟨i :: items, rest', by simp [spellItems]⟩
    · exact Or.inr ⟨i :: items, rest', passed, cause, by simp [spellItems], breaks⟩
  · exact Or.inr ⟨[], cs, passed, cause, rfl, breaks⟩

/-! ### What the scan does -/

theorem Scan.after_append (s : Scan (List Char)) (before before' : List Char) :
    (s.after before').after before = s.after (before ++ before') := by
  cases s <;> simp [Scan.after]

theorem not_isEscapeLetter_of_isHexDigit {c : Char} (h : c.isHexDigit = true) :
    isEscapeLetter c = false := by
  rw [Bool.eq_false_iff]
  intro letter
  simp only [isEscapeLetter, Bool.or_eq_true, beq_iff_eq] at letter
  obtain (((rfl | rfl) | rfl) | rfl) | rfl := letter <;> cases h

theorem scanBody_item (i : Item) (cs : List Char) :
    scanBody (i.text ++ cs) = (scanBody cs).after i.text := by
  rw [scanBody.eq_def]
  cases i with
  | raw c plain =>
    simp only [isPlain, Bool.and_eq_true, bne_iff_ne, Bool.not_eq_true'] at plain
    obtain ⟨⟨quote, backslash⟩, control⟩ := plain
    have newline : c ≠ '\n' := by
      rintro rfl
      cases control
    simp [Item.text, quote, backslash, newline, control]
  | letter c escapes => simp [Item.text, escapes]
  | byte high low digits =>
    have not_letter := not_isEscapeLetter_of_isHexDigit digits.1
    simp [Item.text, not_letter, digits.1, digits.2]

theorem scanBody_items (items : List Item) (cs : List Char) :
    scanBody (spellItems items ++ cs) = (scanBody cs).after (spellItems items) := by
  induction items with
  | nil => cases h : scanBody cs <;> simp [spellItems, Scan.after, h]
  | cons i items ih =>
    have spelled : spellItems (i :: items) = i.text ++ spellItems items := rfl
    rw [spelled, List.append_assoc, scanBody_item, ih, Scan.after_append]

theorem scanBody_quote (rest : List Char) : scanBody ('"' :: rest) = .found [] rest := by
  rw [scanBody.eq_def]
  simp

theorem scanBody_of_breaks {cs passed : List Char} {cause : Cause} (h : Breaks cs passed cause) :
    scanBody cs = .fault passed cause := by
  rw [scanBody.eq_def]
  cases h with
  | atEnd => rfl
  | atNewline => simp
  | @control c cs control newline =>
    have quote : c ≠ '"' := by
      rintro rfl
      cases control
    have backslash : c ≠ '\\' := by
      rintro rfl
      cases control
    simp [quote, backslash, newline, control]
  | @escape cs begins_none =>
    rcases cs with _ | ⟨d, cs⟩
    · simp
    · obtain ⟨letter, digit⟩ := begins_none d rfl
      simp [letter, digit]
  | @byte d cs digit ends =>
    have letter := not_isEscapeLetter_of_isHexDigit digit
    rcases cs with _ | ⟨e, cs⟩
    · simp [letter, digit]
    · simp [letter, digit, ends e rfl]

theorem scanBody_eq_found_iff {cs body rest : List Char} :
    scanBody cs = .found body rest ↔
      ∃ items, spellItems items = body ∧ body ++ '"' :: rest = cs := by
  constructor
  · intro found
    rcases items_cases cs with ⟨items, rest', rfl⟩ | ⟨items, rest', passed, cause, rfl, breaks⟩
    · rw [scanBody_items, scanBody_quote, Scan.after, List.append_nil] at found
      cases found
      exact ⟨items, rfl, rfl⟩
    · rw [scanBody_items, scanBody_of_breaks breaks] at found
      cases found
  · intro h
    obtain ⟨items, rfl, rfl⟩ := h
    rw [scanBody_items, scanBody_quote, Scan.after, List.append_nil]

theorem scanBody_eq_fault_iff {cs passed : List Char} {cause : Cause} :
    scanBody cs = .fault passed cause ↔
      ∃ items rest passed', cs = spellItems items ++ rest ∧ Breaks rest passed' cause ∧
        passed = spellItems items ++ passed' := by
  constructor
  · intro fault
    rcases items_cases cs with ⟨items, rest, rfl⟩ | ⟨items, rest, passed', cause', rfl, breaks⟩
    · rw [scanBody_items, scanBody_quote] at fault
      cases fault
    · rw [scanBody_items, scanBody_of_breaks breaks] at fault
      cases fault
      exact ⟨items, rest, passed', rfl, breaks, rfl⟩
  · intro h
    obtain ⟨items, rest, passed', rfl, breaks, rfl⟩ := h
    rw [scanBody_items, scanBody_of_breaks breaks]
    rfl

end WasmText.Lexeme
