import WasmText.Error
import WasmText.Token.Basic

/-!
# A cursor in a row of tokens

A cursor divides a row of tokens into those it has passed and those ahead of it. It looks ahead any
number of tokens, moves on, and moves back; it never changes the row. The place of the cursor is
where the next token begins; at the end of the row, where the last token ends.

## What is proved

* `tokens_skip`, `tokens_rewind`: moving keeps the row.
* `skip_skip`: moving on twice is moving on once.
* `ahead_skip`, `rewind_skip`: moving on passes as many tokens as it is told, and moving back
  returns to them.
-/

namespace WasmText

/-- A row of tokens from one file, divided at the place of the cursor. -/
structure TokenCursor where
  /-- The tokens that were passed, the nearest one first. -/
  behind : List Token
  /-- The tokens that come next. -/
  ahead : List Token
  /-- The name of the file, for errors where there is no token to point at. -/
  file : String
  deriving DecidableEq

namespace TokenCursor

/-- The cursor before the first token. -/
def ofTokens (tokens : List Token) (file : String) : TokenCursor := ⟨[], tokens, file⟩

/-- The whole row, whatever the place of the cursor. -/
def tokens (c : TokenCursor) : List Token := c.behind.reverse ++ c.ahead

/-- The next token. -/
def current? (c : TokenCursor) : Option Token := c.ahead.head?

/-- The kind of the token that comes after `n` others. -/
def kindAt? (c : TokenCursor) (n : Nat) : Option Kind := c.ahead[n]?.map Token.kind

/-- The kind of the next token. -/
def kind? (c : TokenCursor) : Option Kind := c.kindAt? 0

/-- Whether there is a next token. -/
def hasNext (c : TokenCursor) : Bool := !c.ahead.isEmpty

/-- Whether the next tokens have these kinds, in this order. -/
def startsWith (c : TokenCursor) (kinds : List Kind) : Bool :=
  (c.ahead.take kinds.length).map Token.kind == kinds

/-- The cursor `n` tokens further on, or at the end. -/
def skip (c : TokenCursor) (n : Nat) : TokenCursor :=
  ⟨(c.ahead.take n).reverse ++ c.behind, c.ahead.drop n, c.file⟩

/-- The cursor `n` tokens further back, or at the start. -/
def rewind (c : TokenCursor) (n : Nat) : TokenCursor :=
  ⟨c.behind.drop n, (c.behind.take n).reverse ++ c.ahead, c.file⟩

/-- The place of the cursor in the source. -/
def position (c : TokenCursor) : Position :=
  match c.ahead, c.behind with
  | t :: _, _ => t.span.start
  | [], t :: _ => t.span.stop
  | [], [] => .ofBytes c.file 0

/-- The error that the next token is of none of the kinds that can follow. -/
def unexpected (c : TokenCursor) (expected : List Kind) : Error :=
  match c.current? with
  | some t => ⟨.unexpectedToken expected t.display, c.position⟩
  | none => ⟨.unexpectedEnd expected, c.position⟩

/-! ### The row is kept -/

@[simp] theorem tokens_ofTokens (tokens : List Token) (file : String) :
    (ofTokens tokens file).tokens = tokens := by
  simp [ofTokens, TokenCursor.tokens]

@[simp] theorem tokens_skip (c : TokenCursor) (n : Nat) : (c.skip n).tokens = c.tokens := by
  simp [skip, tokens, List.append_assoc]

@[simp] theorem tokens_rewind (c : TokenCursor) (n : Nat) : (c.rewind n).tokens = c.tokens := by
  have parts : (c.behind.drop n).reverse ++ (c.behind.take n).reverse = c.behind.reverse := by
    rw [← List.reverse_append, List.take_append_drop]
  simp [rewind, tokens, ← List.append_assoc, parts]

@[simp] theorem skip_zero (c : TokenCursor) : c.skip 0 = c := by
  simp [skip]

theorem skip_skip (c : TokenCursor) (m n : Nat) : (c.skip m).skip n = c.skip (m + n) := by
  simp [skip, List.take_add, List.drop_drop]

@[simp] theorem ahead_skip (c : TokenCursor) (n : Nat) : (c.skip n).ahead = c.ahead.drop n := rfl

theorem rewind_skip (c : TokenCursor) {n : Nat} (h : n ≤ c.ahead.length) :
    (c.skip n).rewind n = c := by
  have taken : (c.ahead.take n).reverse.length = n := by simp [h]
  simp [skip, rewind, taken]

end TokenCursor

end WasmText
