import WasmText.Proofs.Quoting

/-!
# Unquoting

The text of a literal is read without regard to where the literal comes from; it need not be a
string token. Then a body may hold any characters, a quote or a newline too. It is a row of items: a
backslash begins an escape, and every other character stands for itself. What the items stand for is
put together as bytes, so escapes may spell a character byte by byte. But a character that stands for
itself begins and ends with its own bytes, and what is before it and after it has to be a text.

## What is proved

* `bodyBytes?_eq_some_iff`: a body has bytes exactly if it is a row of items, and then those of
  the items.
* `spellBody_injective`: it is a row of items in one way only.
* `exists_append_of_flatMap_utf8EncodeChar`: the bytes of a character in a text are the character.
* `unquote_exact`: which literals spell which texts.
-/

namespace WasmText.Text

/-! ### Characters in bytes -/

theorem toByteArray_eq_iff {bytes : List UInt8} {s : String} :
    bytes.toByteArray = s.toByteArray ↔ bytes = s.toList.flatMap String.utf8EncodeChar := by
  have text : (s.toList.flatMap String.utf8EncodeChar).toByteArray = s.toByteArray :=
    String.utf8Encode_toList
  constructor
  · intro h
    have data := congrArg (·.data.toList) (h.trans text.symm)
    simpa using data
  · rintro rfl
    exact text

theorem eq_and_eq_of_utf8EncodeChar_append {c d : Char} {after after' : List UInt8}
    (h : String.utf8EncodeChar c ++ after = String.utf8EncodeChar d ++ after') :
    c = d ∧ after = after' := by
  have first : some c = some d := by
    rw [← ByteArray.utf8DecodeChar?_utf8EncodeChar_append (b := after.toByteArray),
      ← ByteArray.utf8DecodeChar?_utf8EncodeChar_append (b := after'.toByteArray),
      ← List.toByteArray_append, ← List.toByteArray_append, h]
  obtain rfl := Option.some.inj first
  exact ⟨rfl, List.append_cancel_left h⟩

/-- What the bytes of a character begin with: a byte that stands nowhere else in a character. -/
theorem exists_cons_utf8EncodeChar (c : Char) :
    ∃ b bs, String.utf8EncodeChar c = b :: bs ∧ b.IsUTF8FirstByte := by
  have first := UInt8.isUTF8FirstByte_getElem_zero_utf8EncodeChar (c := c)
  cases bytes : String.utf8EncodeChar c with
  | nil =>
    have length := String.length_utf8EncodeChar c
    have positive := c.utf8Size_pos
    rw [bytes, List.length_nil] at length
    omega
  | cons b bs =>
    simp only [bytes, List.getElem_cons_zero] at first
    exact ⟨b, bs, rfl, first⟩

theorem eq_nil_of_utf8EncodeChar_eq_append {d : Char} {b : UInt8} {before bs : List UInt8}
    (h : String.utf8EncodeChar d = before ++ b :: bs) (first : b.IsUTF8FirstByte) : before = [] := by
  have inside : before.length < (String.utf8EncodeChar d).length := by simp [h]
  have there : (String.utf8EncodeChar d)[before.length] = b := by simp [h]
  rw [← there, UInt8.isUTF8FirstByte_getElem_utf8EncodeChar] at first
  exact List.length_eq_zero_iff.1 first

/-- The bytes of a character in a text are the character, and before and after them are texts. -/
theorem exists_append_of_flatMap_utf8EncodeChar {cs : List Char} {c : Char}
    {before after : List UInt8}
    (h : cs.flatMap String.utf8EncodeChar = before ++ (String.utf8EncodeChar c ++ after)) :
    ∃ ds es, cs = ds ++ c :: es ∧ ds.flatMap String.utf8EncodeChar = before ∧
      es.flatMap String.utf8EncodeChar = after := by
  obtain ⟨b, bs, bytes, first⟩ := exists_cons_utf8EncodeChar c
  induction cs generalizing before with
  | nil => simp [bytes] at h
  | cons d cs ih =>
    rw [List.flatMap_cons] at h
    -- The character may begin after `d`, in it, or with it; in it no character begins.
    rcases List.append_eq_append_iff.1 h with ⟨before', rfl, rest⟩ | ⟨_ | ⟨x, inside⟩, split, rest⟩
    · obtain ⟨ds, es, rfl, rfl, rfl⟩ := ih rest
      exact ⟨d :: ds, es, rfl, rfl, rfl⟩
    · rw [List.append_nil] at split
      obtain ⟨ds, es, rfl, nothing, rfl⟩ := @ih [] rest.symm
      exact ⟨d :: ds, es, rfl, by rw [List.flatMap_cons, nothing, split, List.append_nil], rfl⟩
    · rw [bytes] at rest
      obtain ⟨rfl, -⟩ := List.cons.inj rest
      obtain rfl := eq_nil_of_utf8EncodeChar_eq_append split first
      obtain ⟨rfl, rfl⟩ := eq_and_eq_of_utf8EncodeChar_append h
      exact ⟨[], cs, rfl, rfl, rfl⟩

end WasmText.Text

namespace WasmText.Lexeme

open Text

/-! ### Items -/

/-- An item of the body of any literal. -/
inductive BodyItem where
  /-- A character that stands for itself: any but a backslash. -/
  | raw (c : Char) (not_escape : c ≠ '\\')
  /-- A backslash and a letter. -/
  | letter (c : Char) (escapes : isEscapeLetter c = true)
  /-- A backslash and two hexadecimal digits. -/
  | byte (high low : Char) (digits : high.isHexDigit = true ∧ low.isHexDigit = true)

namespace BodyItem

/-- The text of an item. -/
def text : BodyItem → List Char
  | .raw c _ => [c]
  | .letter c _ => ['\\', c]
  | .byte high low _ => ['\\', high, low]

/-- The bytes that an item stands for. An escape stands for the same byte as in a string token. -/
def bytes : BodyItem → List UInt8
  | .raw c _ => String.utf8EncodeChar c
  | .letter c escapes => (Item.letter c escapes).bytes
  | .byte high low digits => (Item.byte high low digits).bytes

/-- A byte, as two hexadecimal digits. -/
def ofByte (b : UInt8) : BodyItem :=
  .byte (hexDigit (b.toNat / 16)) (hexDigit (b.toNat % 16)) (isHexDigit_digits b)

/-- No two items begin the same text. -/
theorem eq_of_text_append {i j : BodyItem} {cs ds : List Char}
    (h : i.text ++ cs = j.text ++ ds) : i = j ∧ cs = ds := by
  cases i <;> cases j <;>
    simp only [text, List.cons_append, List.nil_append, List.cons.injEq, raw.injEq, letter.injEq,
      byte.injEq, reduceCtorEq, false_and, true_and] at h ⊢
  case raw.raw => exact h
  case raw.letter not_escape _ _ => exact not_escape h.1
  case raw.byte not_escape _ _ _ => exact not_escape h.1
  case letter.raw not_escape => exact not_escape h.1.symm
  case letter.letter => exact h
  case letter.byte escapes _ _ digits =>
    obtain ⟨rfl, -⟩ := h
    rw [not_isEscapeLetter_of_isHexDigit digits.1] at escapes
    cases escapes
  case byte.raw not_escape => exact not_escape h.1.symm
  case byte.letter digits _ escapes =>
    obtain ⟨rfl, -⟩ := h
    rw [not_isEscapeLetter_of_isHexDigit digits.1] at escapes
    cases escapes
  case byte.byte => exact and_assoc.2 h

end BodyItem

/-- The text of a row of items. -/
def spellBody (items : List BodyItem) : List Char :=
  items.flatMap BodyItem.text

/-- The bytes that a row of items stands for. -/
def bodyItemBytes (items : List BodyItem) : List UInt8 :=
  items.flatMap BodyItem.bytes

/-- A row of items between quotes. -/
def quotedBody (items : List BodyItem) : List Char :=
  '"' :: (spellBody items ++ ['"'])

/-- A body is a row of items in one way only. -/
theorem spellBody_injective : Function.Injective spellBody := by
  intro items
  induction items with
  | nil =>
    rintro (_ | ⟨j, js⟩) h
    · rfl
    · cases j <;> cases h
  | cons i items ih =>
    rintro (_ | ⟨j, js⟩) h
    · cases i <;> cases h
    · obtain ⟨rfl, same⟩ := BodyItem.eq_of_text_append
        (show i.text ++ spellBody items = j.text ++ spellBody js from h)
      rw [ih same]

theorem quotedBody_injective : Function.Injective quotedBody := by
  intro items items' h
  exact spellBody_injective (List.append_cancel_right (List.cons.inj h).2)

/-! ### Bodies -/

theorem bodyBytes?_spellBody (items : List BodyItem) :
    bodyBytes? (spellBody items) = some (bodyItemBytes items) := by
  induction items with
  | nil => rfl
  | cons i items ih =>
    have first : bodyBytes? (i.text ++ spellBody items) =
        (bodyBytes? (spellBody items)).map (i.bytes ++ ·) := by
      cases i with
      | raw c not_escape => exact bodyBytes?_raw not_escape _
      | letter c escapes => exact bodyBytes?_letter escapes _
      | byte high low digits => exact bodyBytes?_byte digits _
    rw [ih] at first
    exact first

theorem isEscapeLetter_of_escapeByte? {c : Char} {b : UInt8} (h : escapeByte? c = some b) :
    isEscapeLetter c = true := by
  unfold escapeByte? at h
  split at h <;> first | rfl | cases h

theorem isHexDigit_of_hexByte? {high low : Char} {b : UInt8} (h : hexByte? high low = some b) :
    high.isHexDigit = true ∧ low.isHexDigit = true := by
  unfold hexByte? at h
  split at h
  · rename_i found found'
    exact ⟨(isHexDigit_iff _).2 ⟨_, found⟩, (isHexDigit_iff _).2 ⟨_, found'⟩⟩
  · cases h

/-- What has bytes is a row of items. -/
theorem exists_items_of_bodyBytes? {cs : List Char} {bytes : List UInt8}
    (h : bodyBytes? cs = some bytes) : ∃ items, spellBody items = cs := by
  fun_induction bodyBytes? cs generalizing bytes with
  | case1 => exact ⟨[], rfl⟩
  | case2 => cases h
  | case3 d ds byte escape ih =>
    obtain ⟨_, rest, -⟩ := Option.map_eq_some_iff.1 h
    obtain ⟨items, rfl⟩ := ih rest
    exact ⟨.letter d (isEscapeLetter_of_escapeByte? escape) :: items, rfl⟩
  | case4 => cases h
  | case5 d _ e es ih =>
    obtain ⟨byte, found, rest⟩ := Option.bind_eq_some_iff.1 h
    obtain ⟨_, rest, -⟩ := Option.map_eq_some_iff.1 rest
    obtain ⟨items, rfl⟩ := ih rest
    exact ⟨.byte d e (isHexDigit_of_hexByte? found) :: items, rfl⟩
  | case6 c cs not_escape ih =>
    obtain ⟨_, rest, -⟩ := Option.map_eq_some_iff.1 h
    obtain ⟨items, rfl⟩ := ih rest
    exact ⟨.raw c not_escape :: items, rfl⟩

/-- A body has bytes exactly if it is a row of items, and then those of the items. -/
theorem bodyBytes?_eq_some_iff {cs : List Char} {bytes : List UInt8} :
    bodyBytes? cs = some bytes ↔ ∃ items, spellBody items = cs ∧ bodyItemBytes items = bytes := by
  constructor
  · intro h
    obtain ⟨items, rfl⟩ := exists_items_of_bodyBytes? h
    rw [bodyBytes?_spellBody] at h
    exact ⟨items, rfl, Option.some.inj h⟩
  · rintro ⟨items, rfl, rfl⟩
    exact bodyBytes?_spellBody items

/-! ### Literals -/

theorem body?_eq_some_iff {cs body : List Char} : body? cs = some body ↔ cs = '"' :: (body ++ ['"']) := by
  constructor
  · intro h
    unfold body? at h
    split at h
    · rename_i rest
      split at h
      · rename_i ends
        obtain ⟨init, rfl⟩ := List.getLast?_eq_some_iff.1 ends
        rw [List.dropLast_concat] at h
        rw [Option.some.inj h]
      · cases h
    · cases h
  · rintro rfl
    exact body?_quoted body

/-- A literal spells a text exactly if it is a row of items between quotes that stand for the bytes
of the text. -/
theorem unquote?_eq_some_iff {literal s : String} :
    unquote? literal = some s ↔
      ∃ items, literal.toList = quotedBody items ∧
        (bodyItemBytes items).toByteArray = s.toByteArray := by
  unfold unquote? quotedBody
  constructor
  · intro h
    obtain ⟨bytes, found, decoded⟩ := Option.bind_eq_some_iff.1 h
    obtain ⟨body, between, found⟩ := Option.bind_eq_some_iff.1 found
    obtain ⟨items, rfl, rfl⟩ := bodyBytes?_eq_some_iff.1 found
    exact ⟨items, body?_eq_some_iff.1 between, (decodeBytes?_eq_some_iff.1 decoded).symm⟩
  · rintro ⟨items, spelled, bytes⟩
    rw [spelled, body?_quoted, Option.bind_some, bodyBytes?_spellBody, Option.bind_some]
    exact decodeBytes?_eq_some_iff.2 bytes.symm

theorem unquote?_quotedBody_iff {items : List BodyItem} {s : String} :
    unquote? (String.ofList (quotedBody items)) = some s ↔
      bodyItemBytes items = s.toList.flatMap String.utf8EncodeChar := by
  rw [unquote?_eq_some_iff, String.toList_ofList]
  constructor
  · rintro ⟨items', same, bytes⟩
    obtain rfl := quotedBody_injective same
    exact toByteArray_eq_iff.1 bytes
  · intro bytes
    exact ⟨items, rfl, toByteArray_eq_iff.2 bytes⟩

theorem bodyItemBytes_append (items items' : List BodyItem) :
    bodyItemBytes (items ++ items') = bodyItemBytes items ++ bodyItemBytes items' :=
  List.flatMap_append

/-- An item that stands for a whole character parts a literal: what is before it and what is after
it are read apart. -/
theorem unquote?_around_iff {before after : List BodyItem} {i : BodyItem} {c : Char}
    (whole : i.bytes = String.utf8EncodeChar c) {s : String} :
    unquote? (String.ofList (quotedBody (before ++ i :: after))) = some s ↔
      ∃ s₁ s₂, s = s₁ ++ String.singleton c ++ s₂ ∧
        unquote? (String.ofList (quotedBody before)) = some s₁ ∧
        unquote? (String.ofList (quotedBody after)) = some s₂ := by
  simp only [unquote?_quotedBody_iff]
  have bytes : bodyItemBytes (before ++ i :: after) =
      bodyItemBytes before ++ (String.utf8EncodeChar c ++ bodyItemBytes after) := by
    rw [bodyItemBytes_append, ← whole]
    rfl
  rw [bytes]
  constructor
  · intro h
    obtain ⟨ds, es, text, first, second⟩ := exists_append_of_flatMap_utf8EncodeChar h.symm
    refine ⟨String.ofList ds, String.ofList es, ?_, ?_, ?_⟩
    · rw [← String.toList_inj, text]
      simp
    · rw [String.toList_ofList, first]
    · rw [String.toList_ofList, second]
  · rintro ⟨s₁, s₂, rfl, first, second⟩
    simp [first, second]

/-! ### Byte by byte -/

theorem bodyItemBytes_map_ofByte (bs : List UInt8) : bodyItemBytes (bs.map .ofByte) = bs := by
  induction bs with
  | nil => rfl
  | cons b bs ih =>
    have first : (BodyItem.ofByte b).bytes = [b] := bytes_byteItem b
    rw [bodyItemBytes, List.map_cons, List.flatMap_cons, first]
    exact congrArg (b :: ·) ih

/-- Which literals spell which texts, wherever the literals come from. A literal spells a text exactly
if it is a row of items between two quotes and the items stand for the bytes of the text. The items
are the only ones, and any items for the bytes of a text spell it, its escaped bytes too. But a
character that stands for itself is read by itself: what is before it spells a text, and so does what
is after it. -/
theorem unquote_exact (literal s : String) :
    (unquote? literal = some s ↔ ∃ items, literal.toList = quotedBody items ∧
      (bodyItemBytes items).toByteArray = s.toByteArray) ∧
    (∀ items items', literal.toList = quotedBody items → literal.toList = quotedBody items' →
      items = items') ∧
    (∀ items, (bodyItemBytes items).toByteArray = s.toByteArray →
      unquote? (String.ofList (quotedBody items)) = some s) ∧
    unquote? (String.ofList (quotedBody
      ((s.toList.flatMap String.utf8EncodeChar).map .ofByte))) = some s ∧
    ∀ before c not_escape after,
      unquote? (String.ofList (quotedBody (before ++ .raw c not_escape :: after))) = some s ↔
        ∃ s₁ s₂, s = s₁ ++ String.singleton c ++ s₂ ∧
          unquote? (String.ofList (quotedBody before)) = some s₁ ∧
          unquote? (String.ofList (quotedBody after)) = some s₂ := by
  refine ⟨unquote?_eq_some_iff, ?_, ?_, ?_, ?_⟩
  · intro items items' spelled spelled'
    exact quotedBody_injective (spelled.symm.trans spelled')
  · intro items bytes
    exact unquote?_quotedBody_iff.2 (toByteArray_eq_iff.1 bytes)
  · exact unquote?_quotedBody_iff.2 (bodyItemBytes_map_ofByte _)
  · intro before c not_escape after
    exact unquote?_around_iff rfl

/-- Two escapes may spell a character together, but an escape and a character may not. -/
theorem unquote_exact_joint :
    unquote? "\"\\C3\\a9\"" = some "é" ∧ ∀ s, unquote? "\"\\C3é\"" ≠ some s := by
  constructor
  · exact (unquote_exact _ "é").1.2 ⟨[.byte 'C' '3' (by decide), .byte 'a' '9' (by decide)],
      by decide +kernel, by decide +kernel⟩
  · intro s joined
    have spelled : String.ofList (quotedBody
        ([.byte 'C' '3' (by decide)] ++ .raw 'é' (by decide) :: [])) = "\"\\C3é\"" := by
      decide +kernel
    obtain ⟨s₁, -, -, apart, -⟩ :=
      ((unquote_exact "" s).2.2.2.2 _ _ _ _).1 ((congrArg unquote? spelled).trans joined)
    have no_text : unquote? (String.ofList (quotedBody [.byte 'C' '3' (by decide)])) = none := by
      decide +kernel
    rw [no_text] at apart
    cases apart

end WasmText.Lexeme
