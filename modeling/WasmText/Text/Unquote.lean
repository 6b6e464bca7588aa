/-!
# The contents of a string

A string literal spells a text between two quotes. Every character stands for its own bytes, except
that a backslash begins an escape: with one letter it stands for one byte, and with two hexadecimal
digits for the byte of that value. The bytes of the literal, put one after the other, have to be a
text in UTF-8; so escapes can spell a character of several bytes together.

## What is proved

* `isHexDigit_iff`: the characters with a hexadecimal value are the hexadecimal digits.
* `decodeBytes?_eq_some_iff`: decoding accepts exactly the UTF-8 form of its answer.
-/

namespace WasmText.Text

/-- The value of a hexadecimal digit, in lower or upper case. -/
def hexValue? (c : Char) : Option Nat :=
  if '0' ≤ c ∧ c ≤ '9' then some (c.toNat - '0'.toNat)
  else if 'a' ≤ c ∧ c ≤ 'f' then some (c.toNat - 'a'.toNat + 10)
  else if 'A' ≤ c ∧ c ≤ 'F' then some (c.toNat - 'A'.toNat + 10)
  else none

/-- The byte that a letter stands for after a backslash. -/
def escapeByte? : Char → Option UInt8
  | 'n' => some 0x0A
  | 't' => some 0x09
  | '\\' => some 0x5C
  | '\'' => some 0x27
  | '"' => some 0x22
  | _ => none

/-- The byte that two hexadecimal digits stand for after a backslash. -/
def hexByte? (high low : Char) : Option UInt8 :=
  match hexValue? high, hexValue? low with
  | some h, some l => some (h * 16 + l).toUInt8
  | _, _ => none

/-- The bytes that the body of a string stands for, unless an escape in it is broken. -/
def bodyBytes? : List Char → Option (List UInt8)
  | [] => some []
  | c :: cs =>
    if c = '\\' then
      match cs with
      | [] => none
      | d :: ds =>
        match escapeByte? d with
        | some byte => (bodyBytes? ds).map (byte :: ·)
        | none =>
          match ds with
          | [] => none
          | e :: es => (hexByte? d e).bind fun byte => (bodyBytes? es).map (byte :: ·)
    else (bodyBytes? cs).map (String.utf8EncodeChar c ++ ·)

/-- The body of a literal: what stands between its first and its last character, which have to be
two quotes. -/
def body? : List Char → Option (List Char)
  | '"' :: cs => if cs.getLast? = some '"' then some cs.dropLast else none
  | _ => none

/-- The text that bytes are the UTF-8 form of. -/
def decodeBytes? (bytes : List UInt8) : Option String :=
  String.fromUTF8? bytes.toByteArray

/-- The text that a literal spells. -/
def unquote? (literal : String) : Option String :=
  ((body? literal.toList).bind bodyBytes?).bind decodeBytes?

theorem isHexDigit_iff (c : Char) : c.isHexDigit = true ↔ ∃ v, hexValue? c = some v := by
  have cases_of : c.isHexDigit = true ↔
      ('0' ≤ c ∧ c ≤ '9' ∨ 'a' ≤ c ∧ c ≤ 'f') ∨ 'A' ≤ c ∧ c ≤ 'F' := by
    simp [Char.isHexDigit, Char.isDigit, Char.le_def]
  rw [cases_of]
  unfold hexValue?
  split
  · simp_all
  split
  · simp_all
  split
  · simp_all
  · simp_all

theorem decodeBytes?_eq_some_iff {bytes : List UInt8} {s : String} :
    decodeBytes? bytes = some s ↔ s.toByteArray = bytes.toByteArray := by
  unfold decodeBytes? String.fromUTF8?
  constructor
  · intro h
    split at h
    · cases h
      rfl
    · cases h
  · intro h
    simp [← h, s.isValidUTF8, String.fromUTF8]

end WasmText.Text
