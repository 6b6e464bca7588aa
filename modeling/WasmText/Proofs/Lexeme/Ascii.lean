import WasmText.Lexeme.Alphabet

/-!
# Letters and digits

The classes of ASCII by the codes of their characters, for arithmetic on them.

## What is proved

* `isUpper_iff_toNat`, `isLower_iff_toNat`, `isAlpha_iff`: the letters.
* `isAlphanum_of_isDigit`, `isAlphanum_of_isHexDigit`: digits are letters or digits.
-/

namespace WasmText.Lexeme

theorem isUpper_iff_toNat {c : Char} :
    c.isUpper = true ↔ 'A'.toNat ≤ c.toNat ∧ c.toNat ≤ 'Z'.toNat := by
  show decide (c.val ≥ 'A'.val ∧ c.val ≤ 'Z'.val) = true ↔ _
  rw [decide_eq_true_iff]
  exact Iff.rfl

theorem isLower_iff_toNat {c : Char} :
    c.isLower = true ↔ 'a'.toNat ≤ c.toNat ∧ c.toNat ≤ 'z'.toNat := by
  show (decide (c.val ≥ 'a'.val) && decide (c.val ≤ 'z'.val)) = true ↔ _
  rw [Bool.and_eq_true, decide_eq_true_iff, decide_eq_true_iff]
  exact Iff.rfl

theorem isAlpha_iff {c : Char} : c.isAlpha = true ↔ c.isUpper = true ∨ c.isLower = true := by
  show (c.isUpper || c.isLower) = true ↔ _
  rw [Bool.or_eq_true]

theorem isAlphanum_iff {c : Char} : c.isAlphanum = true ↔ c.isAlpha = true ∨ c.isDigit = true := by
  show (c.isAlpha || c.isDigit) = true ↔ _
  rw [Bool.or_eq_true]

theorem isHexDigit_iff_toNat {c : Char} :
    c.isHexDigit = true ↔ (c.isDigit = true ∨ 'a'.toNat ≤ c.toNat ∧ c.toNat ≤ 'f'.toNat) ∨
      'A'.toNat ≤ c.toNat ∧ c.toNat ≤ 'F'.toNat := by
  show (c.isDigit || (decide (c.val ≥ 'a'.val) && decide (c.val ≤ 'f'.val)) ||
    (decide (c.val ≥ 'A'.val) && decide (c.val ≤ 'F'.val))) = true ↔ _
  simp only [Bool.or_eq_true, Bool.and_eq_true, decide_eq_true_iff]
  exact Iff.rfl

theorem isAlphanum_of_isDigit {c : Char} (h : c.isDigit = true) : c.isAlphanum = true :=
  isAlphanum_iff.2 (Or.inr h)

theorem isAlphanum_of_isHexDigit {c : Char} (h : c.isHexDigit = true) : c.isAlphanum = true := by
  have upper : 'F'.toNat ≤ 'Z'.toNat := by decide
  have lower : 'f'.toNat ≤ 'z'.toNat := by decide
  rw [isAlphanum_iff, isAlpha_iff, isUpper_iff_toNat, isLower_iff_toNat]
  rcases isHexDigit_iff_toNat.1 h with (digit | small) | capital
  · exact Or.inr digit
  · exact Or.inl (Or.inr ⟨small.1, Nat.le_trans small.2 lower⟩)
  · exact Or.inl (Or.inl ⟨capital.1, Nat.le_trans capital.2 upper⟩)

theorem not_isAlpha_of_isDigit {c : Char} (h : c.isDigit = true) : c.isAlpha = false := by
  have upper : '9'.toNat < 'A'.toNat := by decide
  have lower : '9'.toNat < 'a'.toNat := by decide
  have digit := Char.isDigit_iff_toNat.1 h
  rw [Bool.eq_false_iff, ne_eq, isAlpha_iff, isUpper_iff_toNat, isLower_iff_toNat]
  omega

end WasmText.Lexeme
