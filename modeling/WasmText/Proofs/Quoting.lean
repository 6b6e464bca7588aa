import WasmText.Proofs.Lexeme.Ascii
import WasmText.Proofs.Lexeme.Item
import WasmText.Text.Unquote

/-!
# Quoting

What the items of a string stand for: a plain character for its bytes in UTF-8, a letter after a
backslash for one byte, and two hexadecimal digits for the byte of that value. A literal whose items
stand for the bytes of a text is read as this text, and every text has such items.

## What is proved

* `bodyBytes?_spellItems`: the bytes of a body are those of its items.
* `unquote?_quoted_iff`: a literal spells a text exactly if its items stand for the bytes of the
  text.
* `quotes_quoteItems`: the items chosen for a text stand for its bytes.
-/

namespace WasmText.Lexeme

open Text

/-- The value of a hexadecimal digit. -/
def digitValue (c : Char) : Nat :=
  if c.isDigit then c.toNat - '0'.toNat
  else if c.isUpper then 10 + (c.toNat - 'A'.toNat)
  else 10 + (c.toNat - 'a'.toNat)

/-- The bytes that an item stands for. -/
def Item.bytes : Item → List UInt8
  | .raw c _ => String.utf8EncodeChar c
  | .letter c _ => [if c = 'n' then 10 else if c = 't' then 9 else c.toNat.toUInt8]
  | .byte high low _ => [(16 * digitValue high + digitValue low).toUInt8]

/-- The bytes that a row of items stands for. -/
def itemBytes (items : List Item) : List UInt8 :=
  items.flatMap Item.bytes

/-- Whether a row of items stands for the bytes of a text. -/
def Quotes (items : List Item) (s : String) : Prop :=
  (itemBytes items).toByteArray = s.toByteArray

/-! ### Reading items -/

theorem hexValue?_of_isHexDigit {c : Char} (h : c.isHexDigit = true) :
    hexValue? c = some (digitValue c) := by
  have digits : '9'.toNat < 'A'.toNat := by decide
  have capitals : 'F'.toNat ≤ 'Z'.toNat := by decide
  have small : 'Z'.toNat < 'a'.toNat := by decide
  have of_digit := isHexDigit_iff_toNat.1 h
  have le_iff : ∀ a b : Char, a ≤ b ↔ a.toNat ≤ b.toNat := fun _ _ => Iff.rfl
  unfold hexValue? digitValue
  simp only [le_iff, isUpper_iff_toNat, Char.isDigit_iff_toNat] at of_digit ⊢
  split_ifs <;> first | omega | exact congrArg some (by omega)

theorem bodyBytes?_raw {c : Char} (not_escape : c ≠ '\\') (cs : List Char) :
    bodyBytes? (c :: cs) = (bodyBytes? cs).map (String.utf8EncodeChar c ++ ·) := by
  rw [bodyBytes?.eq_def]
  simp [not_escape]

theorem bodyBytes?_letter {c : Char} (escapes : isEscapeLetter c = true) (cs : List Char) :
    bodyBytes? ('\\' :: c :: cs) = (bodyBytes? cs).map ((Item.letter c escapes).bytes ++ ·) := by
  rw [bodyBytes?.eq_def]
  simp only [isEscapeLetter, Bool.or_eq_true, beq_iff_eq] at escapes
  obtain (((rfl | rfl) | rfl) | rfl) | rfl := escapes <;> rfl

theorem escapeByte?_of_isHexDigit {c : Char} (h : c.isHexDigit = true) : escapeByte? c = none := by
  have not_letter := not_isEscapeLetter_of_isHexDigit h
  unfold escapeByte?
  split <;> first | rfl | cases not_letter

theorem bodyBytes?_byte {high low : Char} (digits : high.isHexDigit = true ∧ low.isHexDigit = true)
    (cs : List Char) : bodyBytes? ('\\' :: high :: low :: cs) =
      (bodyBytes? cs).map ((Item.byte high low digits).bytes ++ ·) := by
  rw [bodyBytes?.eq_def]
  simp [Item.bytes, escapeByte?_of_isHexDigit digits.1, hexByte?, hexValue?_of_isHexDigit digits.1,
    hexValue?_of_isHexDigit digits.2, Nat.mul_comm]

theorem bodyBytes?_item (i : Item) (cs : List Char) :
    bodyBytes? (i.text ++ cs) = (bodyBytes? cs).map (i.bytes ++ ·) := by
  cases i with
  | raw c plain =>
    have not_escape : c ≠ '\\' := by
      rintro rfl
      cases plain
    exact bodyBytes?_raw not_escape cs
  | letter c escapes => exact bodyBytes?_letter escapes cs
  | byte high low digits => exact bodyBytes?_byte digits cs

theorem bodyBytes?_spellItems (items : List Item) :
    bodyBytes? (spellItems items) = some (itemBytes items) := by
  induction items with
  | nil => rfl
  | cons i items ih =>
    have spelled : spellItems (i :: items) = i.text ++ spellItems items := rfl
    rw [spelled, bodyBytes?_item, ih]
    rfl

theorem body?_quoted (body : List Char) : body? ('"' :: (body ++ ['"'])) = some body := by
  simp [body?]

/-- A literal spells a text exactly if its items stand for the bytes of the text. -/
theorem unquote?_quoted_iff {items : List Item} {s : String} :
    unquote? (String.ofList ('"' :: (spellItems items ++ ['"']))) = some s ↔ Quotes items s := by
  unfold unquote? Quotes
  rw [String.toList_ofList, body?_quoted, Option.bind_some, bodyBytes?_spellItems, Option.bind_some,
    decodeBytes?_eq_some_iff, eq_comm]

/-! ### Items for a text -/

/-- The hexadecimal digit of a value. -/
def hexDigit (n : Nat) : Char :=
  if n < 10 then Char.ofNat ('0'.toNat + n) else Char.ofNat ('a'.toNat + (n - 10))

theorem isHexDigit_hexDigit {n : Nat} (h : n < 16) :
    (hexDigit n).isHexDigit = true ∧ digitValue (hexDigit n) = n := by
  revert n
  decide

theorem isHexDigit_digits (b : UInt8) :
    (hexDigit (b.toNat / 16)).isHexDigit = true ∧ (hexDigit (b.toNat % 16)).isHexDigit = true := by
  have bounded := b.toNat_lt
  exact ⟨(isHexDigit_hexDigit (by omega)).1, (isHexDigit_hexDigit (by omega)).1⟩

/-- A byte, as two hexadecimal digits. -/
def byteItem (b : UInt8) : Item :=
  .byte (hexDigit (b.toNat / 16)) (hexDigit (b.toNat % 16)) (isHexDigit_digits b)

/-- A character as itself if it may stand so, and else by its bytes. -/
def charItems (c : Char) : List Item :=
  if plain : isPlain c = true then [.raw c plain] else (String.utf8EncodeChar c).map byteItem

/-- The items for a text. -/
def quoteItems (s : String) : List Item :=
  s.toList.flatMap charItems

theorem bytes_byteItem (b : UInt8) : (byteItem b).bytes = [b] := by
  have bounded := b.toNat_lt
  have high := (isHexDigit_hexDigit (n := b.toNat / 16) (by omega)).2
  have low := (isHexDigit_hexDigit (n := b.toNat % 16) (by omega)).2
  simp only [byteItem, Item.bytes, high, low, Nat.div_add_mod]
  simp

theorem itemBytes_map_byteItem (bs : List UInt8) : itemBytes (bs.map byteItem) = bs := by
  induction bs with
  | nil => rfl
  | cons b bs ih =>
    rw [itemBytes, List.map_cons, List.flatMap_cons, bytes_byteItem]
    exact congrArg (b :: ·) ih

theorem itemBytes_charItems (c : Char) : itemBytes (charItems c) = String.utf8EncodeChar c := by
  unfold charItems
  split
  · simp [itemBytes, Item.bytes]
  · exact itemBytes_map_byteItem _

/-- The items chosen for a text stand for its bytes. -/
theorem quotes_quoteItems (s : String) : Quotes (quoteItems s) s := by
  have bytes : itemBytes (quoteItems s) = s.toList.flatMap String.utf8EncodeChar := by
    unfold quoteItems
    induction s.toList with
    | nil => rfl
    | cons c cs ih =>
      rw [List.flatMap_cons, List.flatMap_cons, ← ih, ← itemBytes_charItems]
      exact List.flatMap_append
  unfold Quotes
  rw [bytes]
  exact String.utf8Encode_toList

end WasmText.Lexeme
