import WasmText.Text.Utf8

/-!
# Slices by bytes

A part of a text that begins and ends at byte offsets. There is one only if the offsets are where
characters begin, or the end of the text.

## What is proved

* `splitBytes?_eq_some_iff`: a text is divided at a number of bytes exactly if whole characters take
  that many.
* `splitBytes?_append`, `sliceFrom?_append`, `slice?_append`: the parts of a text that is put
  together.
-/

namespace WasmText.Text

/-- The characters that take `n` bytes at the start of a text, and the rest. -/
def splitBytes? : Nat → List Char → Option (List Char × List Char)
  | 0, cs => some ([], cs)
  | _ + 1, [] => none
  | n + 1, c :: cs =>
    if c.utf8Size ≤ n + 1 then
      (splitBytes? (n + 1 - c.utf8Size) cs).map fun parts => (c :: parts.1, parts.2)
    else none

/-- The part of a text from a byte offset on. -/
def sliceFrom? (start : Nat) (cs : List Char) : Option (List Char) :=
  (splitBytes? start cs).map Prod.snd

/-- The part of a text from one byte offset to another. -/
def slice? (start stop : Nat) (cs : List Char) : Option (List Char) :=
  if start ≤ stop then
    (sliceFrom? start cs).bind fun rest => (splitBytes? (stop - start) rest).map Prod.fst
  else none

theorem splitBytes?_append (us vs : List Char) :
    splitBytes? (utf8Length us) (us ++ vs) = some (us, vs) := by
  induction us with
  | nil => cases vs <;> rfl
  | cons c us ih =>
    obtain ⟨n, size⟩ := Nat.exists_eq_succ_of_ne_zero (Nat.pos_iff_ne_zero.1 c.utf8Size_pos)
    have more : utf8Length (c :: us) = n + utf8Length us + 1 := by
      rw [utf8Length_cons, size, Nat.succ_add]
    have fits : c.utf8Size ≤ n + utf8Length us + 1 := by omega
    have left : n + utf8Length us + 1 - c.utf8Size = utf8Length us := by omega
    rw [more, List.cons_append, splitBytes?, if_pos fits, left, ih]
    rfl

theorem splitBytes?_eq_some_iff {n : Nat} {cs us vs : List Char} :
    splitBytes? n cs = some (us, vs) ↔ us ++ vs = cs ∧ utf8Length us = n := by
  constructor
  · intro h
    induction cs generalizing n us with
    | nil =>
      cases n with
      | zero =>
        cases h
        exact ⟨rfl, rfl⟩
      | succ n => cases h
    | cons c cs ih =>
      cases n with
      | zero =>
        cases h
        exact ⟨rfl, rfl⟩
      | succ n =>
        rw [splitBytes?] at h
        split at h
        · rename_i fits
          obtain ⟨⟨ws, rest⟩, found, same⟩ := Option.map_eq_some_iff.1 h
          cases same
          obtain ⟨append, length⟩ := ih found
          exact ⟨congrArg (c :: ·) append, by rw [utf8Length_cons, length]; omega⟩
        · cases h
  · rintro ⟨rfl, rfl⟩
    exact splitBytes?_append us vs

theorem sliceFrom?_append (us vs : List Char) :
    sliceFrom? (utf8Length us) (us ++ vs) = some vs := by
  rw [sliceFrom?, splitBytes?_append]
  rfl

theorem slice?_append (us vs ws : List Char) :
    slice? (utf8Length us) (utf8Length us + utf8Length vs) (us ++ (vs ++ ws)) = some vs := by
  rw [slice?, if_pos (Nat.le_add_right _ _), sliceFrom?_append, Nat.add_sub_cancel_left,
    Option.bind_some, splitBytes?_append]
  rfl

theorem sliceFrom?_eq_some {start : Nat} {cs vs : List Char} (h : sliceFrom? start cs = some vs) :
    ∃ us, us ++ vs = cs ∧ utf8Length us = start := by
  obtain ⟨⟨us, vs⟩, found, rfl⟩ := Option.map_eq_some_iff.1 h
  exact ⟨us, splitBytes?_eq_some_iff.1 found⟩

end WasmText.Text
