import WasmText.Proofs.Reading.Signature

/-!
# What a reference refers to

A reference is a name or an index, and an index is written in decimal digits. Digits are taken one by
one into a word of 32 bits, and no step of this can go wrong unnoticed: a number that has outgrown
the word can only grow further. So zeros in front never matter, and an index is refused exactly if
its value does not fit.

## What is proved

* `appendDigit?_eq_some_iff`, `foldlM_appendDigit?_eq_some_iff`: one digit, and any number of them.
* `isNumeral_iff_foldlM`: the value of a numeral is what its digits add up to in a word.
* `index?_eq_none_iff`: when a text is no index.
* `reference_exact`: what a reference is read as, and how reading one fails.
-/

namespace WasmText

open TokenCursor Parse

/-! ### Words -/

/-- The product of two words, unless it takes more than a word. -/
def mulWord? (a b : UInt32) : Option UInt32 :=
  if a.toNat * b.toNat < UInt32.size then some (a * b) else none

/-- The sum of two words, unless it takes more than a word. -/
def addWord? (a b : UInt32) : Option UInt32 :=
  if a.toNat + b.toNat < UInt32.size then some (a + b) else none

/-- A word with one more decimal digit at its end, unless a step on the way takes more than a
word. -/
def appendDigit? (n : UInt32) (c : Char) : Option UInt32 :=
  (mulWord? n 10).bind fun tens => addWord? tens (c.toNat - '0'.toNat).toUInt32

theorem mulWord?_eq_some_iff {a b m : UInt32} :
    mulWord? a b = some m ↔ m.toNat = a.toNat * b.toNat := by
  unfold mulWord?
  constructor
  · intro h
    split at h
    · rename_i fits
      cases h
      rw [UInt32.toNat_mul]
      exact Nat.mod_eq_of_lt fits
    · cases h
  · intro h
    have fits : a.toNat * b.toNat < UInt32.size := h ▸ m.toNat_lt_size
    rw [if_pos fits, Option.some.injEq, ← UInt32.toNat_inj, UInt32.toNat_mul, h]
    exact Nat.mod_eq_of_lt fits

theorem addWord?_eq_some_iff {a b m : UInt32} :
    addWord? a b = some m ↔ m.toNat = a.toNat + b.toNat := by
  unfold addWord?
  constructor
  · intro h
    split at h
    · rename_i fits
      cases h
      rw [UInt32.toNat_add]
      exact Nat.mod_eq_of_lt fits
    · cases h
  · intro h
    have fits : a.toNat + b.toNat < UInt32.size := h ▸ m.toNat_lt_size
    rw [if_pos fits, Option.some.injEq, ← UInt32.toNat_inj, UInt32.toNat_add, h]
    exact Nat.mod_eq_of_lt fits

theorem toNat_digit {c : Char} (digit : c.isDigit = true) :
    (c.toNat - '0'.toNat).toUInt32.toNat = c.toNat - '0'.toNat := by
  have bounds : '0'.toNat ≤ c.toNat ∧ c.toNat ≤ '9'.toNat := by
    simpa [Char.isDigit, UInt32.le_iff_toNat_le] using digit
  have nine : '9'.toNat - '0'.toNat < UInt32.size := by decide
  exact UInt32.toNat_ofNat_of_lt' (by omega)

/-- A digit is appended exactly if the number that it makes fits. -/
theorem appendDigit?_eq_some_iff {n m : UInt32} {c : Char} (digit : c.isDigit = true) :
    appendDigit? n c = some m ↔ m.toNat = 10 * n.toNat + (c.toNat - '0'.toNat) := by
  unfold appendDigit?
  rw [Option.bind_eq_some_iff]
  simp only [mulWord?_eq_some_iff, addWord?_eq_some_iff, toNat_digit digit]
  rw [show (10 : UInt32).toNat = 10 from rfl]
  constructor
  · intro h
    obtain ⟨tens, product, sum⟩ := h
    omega
  · intro h
    have bound := m.toNat_lt_size
    have tens : (10 * n.toNat).toUInt32.toNat = 10 * n.toNat :=
      UInt32.toNat_ofNat_of_lt' (by omega)
    exact ⟨(10 * n.toNat).toUInt32, by omega, by omega⟩

/-- Digits at the end of a number never make it smaller. -/
theorem le_foldl_digits (digits : List Char) (n : Nat) :
    n ≤ digits.foldl (fun value c => 10 * value + (c.toNat - '0'.toNat)) n := by
  induction digits generalizing n with
  | nil => exact Nat.le_refl n
  | cons c digits ih =>
    have more := ih (10 * n + (c.toNat - '0'.toNat))
    rw [List.foldl_cons]
    omega

/-- Digits are appended to a word exactly if the number that they all make fits: where it does, no
step on the way takes more than a word. -/
theorem foldlM_appendDigit?_eq_some_iff {digits : List Char}
    (all : ∀ c ∈ digits, c.isDigit = true) (n m : UInt32) :
    digits.foldlM appendDigit? n = some m ↔
      m.toNat = digits.foldl (fun value c => 10 * value + (c.toNat - '0'.toNat)) n.toNat := by
  induction digits generalizing n with
  | nil => simp [← UInt32.toNat_inj, eq_comm]
  | cons c digits ih =>
    obtain ⟨digit, all⟩ := List.forall_mem_cons.1 all
    rw [List.foldlM_cons, Option.bind_eq_bind, Option.bind_eq_some_iff, List.foldl_cons]
    simp only [appendDigit?_eq_some_iff digit, ih all]
    constructor
    · intro h
      obtain ⟨next, value, final⟩ := h
      rw [final, value]
    · intro h
      have grown := le_foldl_digits digits (10 * n.toNat + (c.toNat - '0'.toNat))
      have fits : 10 * n.toNat + (c.toNat - '0'.toNat) < UInt32.size :=
        lt_of_le_of_lt (h ▸ grown) m.toNat_lt_size
      have next : (10 * n.toNat + (c.toNat - '0'.toNat)).toUInt32.toNat = _ :=
        UInt32.toNat_ofNat_of_lt' fits
      exact ⟨_, next, by rw [next, h]⟩

/-! ### Numerals -/

/-- A text is a numeral for a word exactly if its digits can be put into a word one by one, and the
word is what they make. -/
theorem isNumeral_iff_foldlM {text : String} {n : UInt32} :
    IsNumeral text n.toNat ↔ text ≠ "" ∧ (∀ c ∈ text.toList, c.isDigit = true) ∧
      text.toList.foldlM appendDigit? 0 = some n := by
  unfold IsNumeral
  rw [← decimalValue_eq_ofDigits, eq_comm]
  constructor
  · intro h
    obtain ⟨nonempty, all, value⟩ := h
    exact ⟨nonempty, all, (foldlM_appendDigit?_eq_some_iff all 0 n).2 value⟩
  · intro h
    obtain ⟨nonempty, all, value⟩ := h
    exact ⟨nonempty, all, (foldlM_appendDigit?_eq_some_iff all 0 n).1 value⟩

/-- A text is no index if it is empty, if it holds a character that is no digit, or if its value does
not fit in a word. -/
theorem index?_eq_none_iff {text : String} :
    index? text = none ↔ text = "" ∨ (∃ c ∈ text.toList, c.isDigit = false) ∨
      ∃ n, IsNumeral text n ∧ UInt32.size ≤ n := by
  constructor
  · intro refused
    by_cases nonempty : text = ""
    · exact Or.inl nonempty
    by_cases all : ∀ c ∈ text.toList, c.isDigit = true
    · refine Or.inr (Or.inr ⟨_, ⟨nonempty, all, rfl⟩, ?_⟩)
      by_contra fits
      have value := UInt32.toNat_ofNat_of_lt' (not_le.1 fits)
      rw [index?_eq_some_iff.2 ⟨nonempty, all, value.symm⟩] at refused
      cases refused
    · simp only [not_forall, Bool.not_eq_true] at all
      obtain ⟨c, member, no_digit⟩ := all
      exact Or.inr (Or.inl ⟨c, member, no_digit⟩)
  · intro h
    rw [Option.eq_none_iff_forall_ne_some]
    intro n is_index
    obtain ⟨nonempty, all, value⟩ := index?_eq_some_iff.1 is_index
    rcases h with empty | ⟨c, member, no_digit⟩ | ⟨m, ⟨-, -, value'⟩, too_large⟩
    · exact nonempty empty
    · cases no_digit.symm.trans (all c member)
    · have bound := n.toNat_lt_size
      omega

/-! ### References -/

/-- What is wrong where a token of some kinds has to stand: another token does, or there is none. -/
theorem unexpected_eq_iff {c : TokenCursor} {kinds : List Kind} {e : Error} :
    (∀ t ∈ c.current?, t.kind ∉ kinds) ∧ c.unexpected kinds = e ↔
      (∃ t, c.current? = some t ∧ t.kind ∉ kinds ∧
        e = ⟨.unexpectedToken kinds t.display, t.span.start⟩) ∨
      c.current? = none ∧ e = ⟨.unexpectedEnd kinds, c.position⟩ := by
  unfold TokenCursor.unexpected
  cases next : c.current? with
  | none => simp [eq_comm]
  | some t => simp [position_of_current? next, eq_comm]

theorem answers_index_iff {c c' : TokenCursor} {n : UInt32} :
    Answers reference c (.index n) c' ↔
      ∃ t, c.Passes [t] c' ∧ t.kind = .number ∧ IsNumeral t.text n.toNat := by
  rw [answers_reference_iff]
  constructor
  · intro h
    obtain ⟨_, said, passed⟩ := h
    cases said with
    | @index t n is_number numeral => exact ⟨t, passed, is_number, numeral⟩
  · intro h
    obtain ⟨t, passed, is_number, numeral⟩ := h
    exact ⟨[t], .index is_number numeral, passed⟩

theorem answers_name_iff {c c' : TokenCursor} {x : String} :
    Answers reference c (.name x) c' ↔ ∃ t, c.Passes [t] c' ∧ t.kind = .name ∧ t.Declares x := by
  rw [answers_reference_iff]
  constructor
  · intro h
    obtain ⟨_, said, passed⟩ := h
    cases said with
    | @name t x is_name declares => exact ⟨t, passed, is_name, declares⟩
  · intro h
    obtain ⟨t, passed, is_name, declares⟩ := h
    exact ⟨[t], .name is_name declares, passed⟩

/-- What a reference is read as, and how reading one fails. An index is read exactly from a number
whose text is a numeral for a word, and its digits can be put into the word one by one; a name is read
from a name. Any other number is passed and then named by the error; any other token, or the end of
the tokens, is not passed. -/
theorem reference_exact (c c' : TokenCursor) :
    (∀ n, Answers reference c (.index n) c' ↔
      ∃ t, c.Passes [t] c' ∧ t.kind = .number ∧ IsNumeral t.text n.toNat) ∧
    (∀ text n, IsNumeral text n.toNat ↔ text ≠ "" ∧ (∀ d ∈ text.toList, d.isDigit = true) ∧
      text.toList.foldlM appendDigit? 0 = some n) ∧
    (∀ x, Answers reference c (.name x) c' ↔ ∃ t, c.Passes [t] c' ∧ t.kind = .name ∧
      (t.text.toList = '$' :: x.toList ∨ t.text = x ∧ x.toList.head? ≠ some '$')) ∧
    ∀ e, FailsWith reference c e c' ↔
      (∃ t, c.Passes [t] c' ∧ t.kind = .number ∧
        (t.text = "" ∨ (∃ d ∈ t.text.toList, d.isDigit = false) ∨
          ∃ n, IsNumeral t.text n ∧ UInt32.size ≤ n) ∧
        e = ⟨.malformedIndex t.text, t.span.start⟩) ∨
      ((∃ t, c.current? = some t ∧ t.kind ∉ [Kind.name, .number] ∧
          e = ⟨.unexpectedToken [.name, .number] t.display, t.span.start⟩) ∨
        c.current? = none ∧ e = ⟨.unexpectedEnd [.name, .number], c.position⟩) ∧ c' = c := by
  refine ⟨fun n => answers_index_iff, fun text n => isNumeral_iff_foldlM,
    fun x => answers_name_iff, fun e => ?_⟩
  rw [failsWith_reference_iff, ← unexpected_eq_iff, or_comm, and_assoc, eq_comm (a := c)]
  refine or_congr_left (exists_congr fun t => ?_)
  rw [index?_eq_none_iff]
  constructor
  · intro h
    obtain ⟨is_number, refused, passed, named⟩ := h
    exact ⟨passed, is_number, refused, named⟩
  · intro h
    obtain ⟨passed, is_number, refused, named⟩ := h
    exact ⟨is_number, refused, passed, named⟩

/-- Zeros in front of the largest word change nothing, and the number after it is refused. -/
theorem reference_exact_largest :
    (∃ c, Answers reference
      (.ofTokens [⟨.number, "00000000000004294967295", .ofBytes defaultFile 0 23⟩] defaultFile)
      (.index 4294967295) c) ∧
    ∃ c, FailsWith reference
      (.ofTokens [⟨.number, "4294967296", .ofBytes defaultFile 7 17⟩] defaultFile)
      ⟨.malformedIndex "4294967296", .ofBytes defaultFile 7⟩ c := by
  have largest : IsNumeral "00000000000004294967295" (4294967295 : UInt32).toNat :=
    index?_eq_some_iff.1 (by decide +kernel)
  have next : IsNumeral "4294967296" 4294967296 :=
    ⟨by decide, List.all_eq_true.1 (by decide), by decide⟩
  refine ⟨⟨_, ((reference_exact _ _).1 _).2 ⟨_, passes_of_current? rfl, rfl, largest⟩⟩, _,
    ((reference_exact _ _).2.2.2 _).2 (Or.inl ⟨_, passes_of_current? rfl, rfl, ?_, rfl⟩)⟩
  exact Or.inr (Or.inr ⟨_, next, by decide⟩)

end WasmText
