import WasmText.Error

/-!
# Results of a scan

A scan looks at the start of a text. It finds an item, and leaves the rest of the text; or it meets
a fault after some characters, which are what lies between the start of the scan and the place of
the fault.
-/

namespace WasmText.Lexeme

/-- What a scan finds at the start of a text. -/
inductive Scan (α : Type) where
  /-- An item, and the text after it. -/
  | found (item : α) (rest : List Char)
  /-- A fault, after the characters that were passed. -/
  | fault (passed : List Char) (cause : Cause)
  deriving DecidableEq

/-- The result of a scan of characters that began after some characters more. -/
def Scan.after (before : List Char) : Scan (List Char) → Scan (List Char)
  | .found item rest => .found (before ++ item) rest
  | .fault passed cause => .fault (before ++ passed) cause

theorem Scan.after_eq_found_iff {before item rest : List Char} {s : Scan (List Char)} :
    s.after before = .found item rest ↔ ∃ tail, item = before ++ tail ∧ s = .found tail rest := by
  cases s with
  | found item' rest' =>
    constructor
    · rintro h
      cases h
      exact ⟨item', rfl, rfl⟩
    · rintro ⟨tail, rfl, h⟩
      cases h
      rfl
  | fault passed cause => simp [after]

end WasmText.Lexeme
