/-!
# Byte lengths

A place in a source text is a number of bytes of its UTF-8 form, while the text itself is taken
apart character by character. `utf8Length` is the bridge: the bytes that a list of characters takes.

## What is proved

* `utf8Length_append`: the bytes of two texts in a row are the sum of theirs.
* `utf8Length_eq_zero_iff`: only the empty text takes no bytes.
* `utf8Length_eq_length_iff`: a text takes as many bytes as characters if each of them takes one.
* `utf8Length_toList`: it is the byte size of the string with these characters.
* `length_utf8Bytes`: it is the number of the bytes themselves.
-/

namespace WasmText.Text

/-- The number of bytes that a list of characters takes in UTF-8. -/
def utf8Length : List Char → Nat
  | [] => 0
  | c :: cs => c.utf8Size + utf8Length cs

@[simp] theorem utf8Length_nil : utf8Length [] = 0 := rfl

@[simp] theorem utf8Length_cons (c : Char) (cs : List Char) :
    utf8Length (c :: cs) = c.utf8Size + utf8Length cs := rfl

@[simp] theorem utf8Length_append (xs ys : List Char) :
    utf8Length (xs ++ ys) = utf8Length xs + utf8Length ys := by
  induction xs with
  | nil => simp
  | cons c cs ih => simp [ih, Nat.add_assoc]

@[simp] theorem utf8Length_reverse (cs : List Char) : utf8Length cs.reverse = utf8Length cs := by
  induction cs with
  | nil => rfl
  | cons c cs ih => simp [ih, Nat.add_comm]

theorem utf8Length_eq_zero_iff (cs : List Char) : utf8Length cs = 0 ↔ cs = [] := by
  cases cs with
  | nil => simp
  | cons c cs => simpa using fun h => absurd h (Nat.pos_iff_ne_zero.1 c.utf8Size_pos)

theorem length_le_utf8Length (cs : List Char) : cs.length ≤ utf8Length cs := by
  induction cs with
  | nil => exact Nat.le_refl 0
  | cons c cs ih =>
    have positive := c.utf8Size_pos
    rw [List.length_cons, utf8Length_cons]
    omega

/-- A text takes as many bytes as it has characters exactly if each of them takes one. -/
theorem utf8Length_eq_length_iff (cs : List Char) :
    utf8Length cs = cs.length ↔ ∀ c ∈ cs, c.utf8Size = 1 := by
  induction cs with
  | nil => simp
  | cons c cs ih =>
    have positive := c.utf8Size_pos
    have others := length_le_utf8Length cs
    rw [List.forall_mem_cons, ← ih, List.length_cons, utf8Length_cons]
    omega

/-- The bytes of a list of characters in UTF-8. -/
def utf8Bytes (cs : List Char) : List UInt8 := cs.flatMap String.utf8EncodeChar

@[simp] theorem utf8Bytes_append (xs ys : List Char) :
    utf8Bytes (xs ++ ys) = utf8Bytes xs ++ utf8Bytes ys :=
  List.flatMap_append

@[simp] theorem length_utf8Bytes (cs : List Char) : (utf8Bytes cs).length = utf8Length cs := by
  induction cs with
  | nil => rfl
  | cons c cs ih =>
    rw [utf8Length_cons, ← ih, ← String.length_utf8EncodeChar]
    exact List.length_append

theorem utf8Length_toList (s : String) : utf8Length s.toList = s.utf8ByteSize := by
  obtain ⟨cs, rfl⟩ : ∃ cs, s = String.ofList cs := ⟨s.toList, by simp⟩
  rw [String.toList_ofList]
  induction cs with
  | nil => rfl
  | cons c cs ih => simp [String.ofList_cons, String.utf8ByteSize_append, ih]

end WasmText.Text
