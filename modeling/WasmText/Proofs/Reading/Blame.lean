import WasmText.Parse.Signature
import WasmText.Proofs.Reading.Passing

/-!
# What an error says of its token

The error of a reader blames the token at which it stands, or the end of the row if there is none.
What it says of the token is true: that it is of none of the kinds that can follow, that it is a
number and no index, that it is a string and spells no text.

## What is proved

* `Blames.end_iff`, `Blames.isLexical`: only the end of a row is blamed for ending it, and the
  characters of the source are never to blame.
* `Blames.of_expected`: an error that tells which kinds could have followed is at a token of another
  kind, or at the end.
* `blames_unexpected`: what the error of an unexpected token says.
-/

namespace WasmText

/-- The kinds that could have followed, if a cause tells them. -/
def Cause.expected? : Cause → Option (List Kind)
  | .unexpectedToken expected _ => some expected
  | .unexpectedEnd expected => some expected
  | _ => none

/-- A cause that says something true of a token, or of the end of a row if there is none. -/
inductive Blames : Option Token → Cause → Prop where
  /-- It is of none of the kinds that can follow. -/
  | unexpectedToken {expected : List Kind} {t : Token} :
      t.kind ∉ expected → Blames (some t) (.unexpectedToken expected t.display)
  /-- There is no token. -/
  | unexpectedEnd {expected : List Kind} : Blames none (.unexpectedEnd expected)
  /-- It does not end the module, and begins no field of it. -/
  | unknownField {t : Token} : t.kind ≠ .rightParen → Blames (some t) (.unknownField t.display)
  /-- It is a number, but no index. -/
  | malformedIndex {t : Token} :
      t.kind = .number → index? t.text = none → Blames (some t) (.malformedIndex t.text)
  /-- It is a string, but spells no text. -/
  | malformedString {t : Token} :
      t.kind = .string → Text.unquote? t.text = none → Blames (some t) (.malformedString t.text)
  /-- It comes after the end of the module. -/
  | trailingToken {t : Token} : Blames (some t) (.trailingToken t.display)

theorem Blames.end_iff {t : Option Token} {cause : Cause} (h : Blames t cause) :
    (∃ expected, cause = .unexpectedEnd expected) ↔ t = none := by
  cases h <;> simp

theorem Blames.isLexical {t : Option Token} {cause : Cause} (h : Blames t cause) :
    cause.isLexical = false := by
  cases h <;> rfl

/-- What an error blames that tells which kinds could have followed. -/
theorem Blames.of_expected {t : Option Token} {cause : Cause} {expected : List Kind}
    (h : Blames t cause) (tells : cause.expected? = some expected) :
    t = none ∧ cause = .unexpectedEnd expected ∨
      ∃ u, t = some u ∧ cause = .unexpectedToken expected u.display ∧ u.kind ∉ expected := by
  cases h with
  | unexpectedToken no_member =>
    cases tells
    exact Or.inr ⟨_, rfl, rfl, no_member⟩
  | unexpectedEnd =>
    cases tells
    exact Or.inl ⟨rfl, rfl⟩
  | unknownField | malformedIndex | malformedString | trailingToken => cases tells

/-- A string that is blamed for its text is a string that spells none. -/
theorem Blames.string {t : Option Token} {text : String} (h : Blames t (.malformedString text)) :
    ∃ u, t = some u ∧ u.kind = .string ∧ u.text = text ∧ Text.unquote? u.text = none := by
  cases h with
  | malformedString is_string no_text => exact ⟨_, rfl, is_string, rfl, no_text⟩

theorem expected?_unexpected (c : TokenCursor) (expected : List Kind) :
    (c.unexpected expected).cause.expected? = some expected := by
  unfold TokenCursor.unexpected
  split <;> rfl

theorem blames_unexpected {c : TokenCursor} {expected : List Kind}
    (no_member : ∀ t ∈ c.ahead.head?, t.kind ∉ expected) :
    Blames c.current? (c.unexpected expected).cause := by
  unfold TokenCursor.unexpected
  cases next : c.current? with
  | none => exact .unexpectedEnd
  | some t => exact .unexpectedToken (no_member t next)

end WasmText
