import WasmText.Proofs.FirstWrong
import WasmText.Proofs.Layout

/-!
# What reading does not depend on

Places, files and the spelling of keywords and marks take no part in reading. Two rows of tokens of
the same kinds, in which the literals have the same texts, are read as the same module, or have
errors that differ only where they show places and tokens.

## What is proved

* `position_skip`: the place of a cursor after some tokens of a row.
* `SameBlame.name`, `SameBlame.expected?`, `SameBlame.eq_of_literal`: what two causes share that
  blame two tokens for the same thing.
* `ofTokens_noninterference`: two rows that say the same to a reader are read alike.
-/

namespace WasmText

open TokenCursor

/-- Whether the text of a token is read. -/
def Token.isLiteral (t : Token) : Bool :=
  t.kind ∈ [Kind.name, .number, .string]

/-- Errors of two rows that differ only in what the tokens look like: they stand at tokens of the
same number, or at the ends of the rows. -/
structure AgreeAt (left right : List Token) (leftFile rightFile : String) (i : Nat) (e f : Error) :
    Prop where
  /-- There are as many tokens. -/
  within : i ≤ left.length
  /-- The place in the one row. -/
  leftPlace : e.position = placeAfter left leftFile i
  /-- The place in the other row. -/
  rightPlace : f.position = placeAfter right rightFile i
  /-- The causes have one name. -/
  name : e.cause.name = f.cause.name
  /-- They tell the same kinds. -/
  expected : e.cause.expected? = f.cause.expected?
  /-- A literal is shown in the same way, so that the causes are the same. -/
  literal : ∀ t, left[i]? = some t → t.isLiteral = true → e.cause = f.cause

/-! ### Places -/

/-- The place of a cursor after some tokens of a row. -/
theorem position_skip (tokens : List Token) (file : String) (i : Nat) :
    ((ofTokens tokens file).skip i).position = placeAfter tokens file (min i tokens.length) := by
  have place := position_eq_placeAfter (tokens.take i) (tokens.drop i) file
  rw [List.take_append_drop, List.length_take] at place
  rw [← place, skip, ofTokens, List.append_nil]

theorem getElem?_min_length (tokens : List Token) (i : Nat) :
    tokens[min i tokens.length]? = tokens[i]? := by
  by_cases inside : i ≤ tokens.length
  · rw [min_eq_left inside]
  · rw [min_eq_right (by omega), List.getElem?_length, List.getElem?_eq_none (by omega)]

/-! ### Causes -/

theorem SameBlame.name {t u : Option Token} {cause cause' : Cause}
    (h : SameBlame t u cause cause') : cause.name = cause'.name := by
  cases h <;> rfl

theorem SameBlame.expected? {t u : Option Token} {cause cause' : Cause}
    (h : SameBlame t u cause cause') : cause.expected? = cause'.expected? := by
  cases h <;> rfl

/-- A literal is blamed in the same words as one that says the same to a reader. -/
theorem SameBlame.eq_of_literal {t u : Token} {cause cause' : Cause}
    (h : SameBlame (some t) (some u) cause cause') (same : t.ReadsAs u)
    (is_literal : t.isLiteral = true) : cause = cause' := by
  refine h.eq_of_content ?_
  have text := same.text (by simpa [Token.isLiteral] using is_literal)
  simp [Token.content, same.kind, text]

theorem TwoRows.SameError.agreeAt {r : TwoRows} {e f : Error} (h : r.SameError e f) :
    ∃ i, AgreeAt r.left r.right r.leftFile r.rightFile i e f := by
  obtain ⟨i, leftPlace, rightPlace, blame⟩ := h
  have lengths : r.left.length = r.right.length := r.same.length_eq
  refine ⟨min i r.left.length, min_le_right _ _, ?_, ?_, blame.name, blame.expected?, ?_⟩
  · rw [leftPlace, TwoRows.leftAt, position_skip]
  · rw [rightPlace, TwoRows.rightAt, position_skip, lengths]
  · intro t left is_literal
    rw [getElem?_min_length] at left
    rcases r.current?_cases i with ⟨nothing, -⟩ | ⟨t', u, left', right', pair⟩
    · rw [r.current?_leftAt, left] at nothing
      cases nothing
    · rw [r.current?_leftAt] at left'
      rw [r.current?_rightAt] at right'
      rw [left', right'] at blame
      obtain rfl := Option.some.inj (left.symm.trans left')
      exact blame.eq_of_literal pair.readsAs is_literal

/-- Two rows of tokens that agree on the kinds of the tokens and on the texts of the literals are
read as the same module, or have errors that differ only in what the tokens look like, whatever the
places, the files and the other texts are. -/
theorem ofTokens_noninterference {left right : List Token}
    (same : List.Forall₂ Token.ReadsAs left right) (leftFile rightFile : String) :
    (∃ m, Module.ofTokens left leftFile = .ok m ∧ Module.ofTokens right rightFile = .ok m) ∨
      ∃ e f i, Module.ofTokens left leftFile = .error e ∧
        Module.ofTokens right rightFile = .error f ∧
        AgreeAt left right leftFile rightFile i e f := by
  rcases TwoRows.ofTokens_agree ⟨left, right, leftFile, rightFile, same⟩ with
    read | ⟨e, f, failed, failed', error⟩
  · exact Or.inl read
  · obtain ⟨i, agree⟩ := error.agreeAt
    exact Or.inr ⟨e, f, i, failed, failed', agree⟩

/-- A number in the place of a keyword, after a parenthesis that is spelled in two ways. -/
theorem ofTokens_noninterference_number :
    List.Forall₂ Token.ReadsAs
        [⟨.leftParen, "(", .ofBytes "a" 0 1⟩, ⟨.number, "7", .ofBytes "a" 1 2⟩]
        [⟨.leftParen, "", .ofBytes "b" 5 5⟩, ⟨.number, "7", .ofBytes "c" 9 8⟩] ∧
      ∃ e f i, Module.ofTokens
          [⟨.leftParen, "(", .ofBytes "a" 0 1⟩, ⟨.number, "7", .ofBytes "a" 1 2⟩] "a" = .error e ∧
        Module.ofTokens
          [⟨.leftParen, "", .ofBytes "b" 5 5⟩, ⟨.number, "7", .ofBytes "c" 9 8⟩] "b" = .error f ∧
        AgreeAt [⟨.leftParen, "(", .ofBytes "a" 0 1⟩, ⟨.number, "7", .ofBytes "a" 1 2⟩]
          [⟨.leftParen, "", .ofBytes "b" 5 5⟩, ⟨.number, "7", .ofBytes "c" 9 8⟩] "a" "b" i e f := by
  have same : List.Forall₂ Token.ReadsAs
      [⟨.leftParen, "(", .ofBytes "a" 0 1⟩, ⟨.number, "7", .ofBytes "a" 1 2⟩]
      [⟨.leftParen, "", .ofBytes "b" 5 5⟩, ⟨.number, "7", .ofBytes "c" 9 8⟩] :=
    .cons ⟨rfl, by simp⟩ (.cons ⟨rfl, fun _ => rfl⟩ .nil)
  refine ⟨same, (ofTokens_noninterference same "a" "b").resolve_left ?_⟩
  rintro ⟨m, read, -⟩
  cases read

end WasmText
