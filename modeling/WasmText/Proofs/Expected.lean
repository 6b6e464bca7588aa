import WasmText.Proofs.FirstWrong

/-!
# What could have followed

An error that stands where a row of tokens went wrong tells which kinds could have come there. Each
of them could: with a token of this kind in the place of the wrong one, the tokens begin a module.
The wrong token is of another kind, and the error shows it.

## What is proved

* `FailsAt.next`, `FailsAt.place`: the token where a row fails, and its place, by its number.
* `FailsAt.beginsModule`: with a token of a kind that the error tells, the tokens before it begin a
  module.
* `ofTokens_expected_truthful`: what an error of a row of tokens says of the token where it stands,
  and of those that could have come in its place.
-/

namespace WasmText

open TokenCursor Grammar Parse

namespace Parse

variable {α : Type} {p : Parse α} {item : List Token → α → Prop} {tokens passed : List Token}
  {file : String} {e : Error} {c : TokenCursor}

/-- The token at which a row fails is the one with the number of the tokens before it. -/
theorem FailsAt.next (h : FailsAt p item (ofTokens tokens file) e passed c) :
    tokens[passed.length]? = c.current? := by
  have row : tokens = passed ++ c.ahead := h.passes.ahead
  rw [row, List.getElem?_append_right le_rfl, Nat.sub_self, current?, List.head?_eq_getElem?]

/-- The error of a row stands at this token, or at the end of the row. -/
theorem FailsAt.place (h : FailsAt p item (ofTokens tokens file) e passed c) :
    e.position = placeAfter tokens file passed.length := by
  have row : tokens = passed ++ c.ahead := h.passes.ahead
  have at_cut : c = ⟨passed.reverse, c.ahead, file⟩ := by
    have passed' := passes_ofTokens passed c.ahead file
    rw [← row] at passed'
    exact h.passes.eq_skip.trans passed'.eq_skip.symm
  have place := position_eq_placeAfter passed c.ahead file
  rw [← at_cut, ← row] at place
  exact h.position.trans place

/-- With a token of a kind that the error of a row tells, the tokens before it begin a module. -/
theorem FailsAt.beginsModule (h : FailsAt wholeModule IsModule (ofTokens tokens file) e passed c)
    {expected : List Kind} (tells : e.cause.expected? = some expected) {kind : Kind}
    (member : kind ∈ expected) : ∃ t, t.kind = kind ∧ BeginsModule (passed ++ [t]) := by
  obtain ⟨t, more, m, of_kind, derived⟩ := h.welcomes expected tells kind member
  refine ⟨t, of_kind, beginsModule_iff.2 ⟨more, m, ?_⟩⟩
  rwa [List.append_assoc]

end Parse

/-- An error that tells which kinds could have followed tells the truth. It stands at a token, which
it shows as it is and which is of none of these kinds, or at the end of the row if it says so. The
tokens before it begin a module, and with a token of any of these kinds they still do. -/
theorem ofTokens_expected_truthful {tokens : List Token} {file : String} {e : Error}
    {expected : List Kind} (failed : Module.ofTokens tokens file = .error e)
    (tells : e.cause.expected? = some expected) :
    ∃ k ≤ tokens.length, e.position = placeAfter tokens file k ∧
      (k = tokens.length ∧ e.cause = .unexpectedEnd expected ∨
        ∃ t, tokens[k]? = some t ∧ e.cause = .unexpectedToken expected t.display ∧
          t.kind ∉ expected) ∧
      BeginsModule (tokens.take k) ∧
      ∀ kind ∈ expected, ∃ t, t.kind = kind ∧ BeginsModule (tokens.take k ++ [t]) := by
  obtain ⟨passed, c, fails⟩ := exists_failsAt failed
  have row : tokens = passed ++ c.ahead := fails.passes.ahead
  have before : tokens.take passed.length = passed := by rw [row, List.take_left]
  have within : passed.length ≤ tokens.length := by simp [row]
  refine ⟨passed.length, within, fails.place, ?_, ?_, ?_⟩
  · rw [fails.next]
    rcases fails.blames.of_expected tells with ⟨nothing, cause⟩ | blamed
    · have at_end : c.ahead = [] := List.head?_eq_none_iff.1 nothing
      exact Or.inl ⟨by rw [row, at_end, List.append_nil], cause⟩
    · exact Or.inr blamed
  · rw [before]
    exact beginsModule_iff.2 fails.goesOn
  · rw [before]
    exact fun kind member => fails.beginsModule tells member

/-- After a local with a name, only the parenthesis that closes the function can come. -/
theorem ofTokens_expected_truthful_local :
    Module.ofTokens (lex "(module (func (local $x i32) (local)))" defaultFile).tokens defaultFile =
        .error ⟨.unexpectedToken [.rightParen] "LParen(()", .ofBytes defaultFile 29⟩ ∧
      ∃ t, t.kind = .rightParen ∧ BeginsModule
        ((lex "(module (func (local $x i32) (local)))" defaultFile).tokens.take 9 ++ [t]) := by
  have failed : Module.ofTokens (lex "(module (func (local $x i32) (local)))" defaultFile).tokens
      defaultFile = .error ⟨.unexpectedToken [.rightParen] "LParen(()", .ofBytes defaultFile 29⟩ := by
    decide +kernel
  obtain ⟨k, within, place, -, -, welcome⟩ := ofTokens_expected_truthful failed rfl
  have length : (lex "(module (func (local $x i32) (local)))" defaultFile).tokens.length = 14 := by
    decide +kernel
  have only_there : ∀ k ≤ 14, Position.ofBytes defaultFile 29 = placeAfter
      (lex "(module (func (local $x i32) (local)))" defaultFile).tokens defaultFile k → k = 9 := by
    decide +kernel
  obtain rfl := only_there k (length ▸ within) place
  exact ⟨failed, welcome _ (List.mem_singleton_self _)⟩

end WasmText
