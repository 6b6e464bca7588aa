import WasmText.Cut

/-!
# Lexed sources

Lexing answers the tokens of a source, each with its place. At the first fault it stops: the tokens
then end with one of kind `error`, which stands at the place of the fault and whose text is the
message.

## What is proved

* `after_append`: tokens that are known can be put before the others in two steps.
-/

namespace WasmText

/-- The tokens of a source, and the error that ended it, if one did. -/
structure Lexed where
  /-- The tokens, in the order of the source. -/
  tokens : List Token
  /-- Why the source was not read to its end. -/
  error : Option Error
  deriving DecidableEq

namespace Lexed

/-- A source without anything more to read. -/
def finished : Lexed := ⟨[], none⟩

/-- A source that cannot be read on, for a cause, at a byte offset. -/
def stopped (file : String) (offset : Nat) (cause : Cause) : Lexed :=
  ⟨[⟨.error, cause.message, .ofBytes file offset offset⟩], some ⟨cause, .ofBytes file offset⟩⟩

/-- What is lexed after some tokens that are known. -/
def after (tokens : List Token) (l : Lexed) : Lexed :=
  ⟨tokens ++ l.tokens, l.error⟩

theorem after_append (ts us : List Token) (l : Lexed) : after (ts ++ us) l = after ts (after us l) := by
  simp [after]

end Lexed

/-- The tokens of a cut that begins at a byte offset. -/
def Cut.place (file : String) (offset : Nat) : Cut → Lexed
  | .finished _ => .finished
  | .stopped layout passed cause =>
    .stopped file (offset + Text.utf8Length layout + Text.utf8Length passed) cause
  | .lexeme layout l next =>
    let start := offset + Text.utf8Length layout
    .after (l.tokens file start) (next.place file (start + Text.utf8Length l.text))

/-- Lexes the rest of a source, which begins at a byte offset. -/
def lexFrom (file : String) (offset : Nat) (cs : List Char) : Lexed :=
  (Cut.ofChars cs).place file offset

/-- Lexes a source. -/
def lex (source : String) (file : String) : Lexed :=
  lexFrom file 0 source.toList

/-- The tokens of a source that has no lexical fault. -/
def tokenize (source : String) (file : String) : Except Error (List Token) :=
  match (lex source file).error with
  | some error => .error error
  | none => .ok (lex source file).tokens

end WasmText
