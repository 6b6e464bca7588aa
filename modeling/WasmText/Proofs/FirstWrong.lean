import WasmText.Lexed
import WasmText.Proofs.Reading.Module

/-!
# The first token that is wrong

A row of tokens that is no module has a first token that is wrong: the tokens before it are those
that some module begins with, and with it they are not. Where the wrong token is an opening
parenthesis, it may take the token after it to see that. The error of a row stands at this token; if
there is none, since the row only ends too early, it stands at the end.

## What is proved

* `Reads.wholeModule`: a whole row of tokens against the grammar.
* `exists_blamed`: an error that does not blame the end stands at a token, and is right about it.
* `beginsModule_iff`: what modules begin with, by the grammar.
* `ofTokens_error_exact`: the error of a row stands at the first token that is wrong.
-/

namespace WasmText

open TokenCursor Grammar Parse

/-- Tokens that some module begins with. -/
def BeginsModule (ts : List Token) : Prop :=
  ∃ more file m, Module.ofTokens (ts ++ more) file = .ok m

/-- The place after `k` tokens of a row from a file: where the next one begins, or where the last one
ends if there is no other. -/
def placeAfter (tokens : List Token) (file : String) (k : Nat) : Position :=
  match tokens[k]?, tokens.getLast? with
  | some t, _ => t.span.start
  | none, some t => t.span.stop
  | none, none => .ofBytes file 0

/-! ### Whole rows -/

namespace Parse

theorem failsWith_endOfTokens_iff {c c' : TokenCursor} {e : Error} :
    FailsWith endOfTokens c e c' ↔
      ∃ t, c.current? = some t ∧ e = ⟨.trailingToken t.display, c.position⟩ ∧ c' = c := by
  constructor
  · intro failed
    rcases failsWith_bind.1 failed with failed | ⟨_, _, got, failed⟩
    · cases failed
    cases got
    cases next : c.current? with
    | none =>
      rw [next] at failed
      exact absurd failed not_failsWith_pure
    | some t =>
      rw [next] at failed
      obtain ⟨rfl, rfl⟩ := failsWith_throw.1 failed
      exact ⟨t, rfl, rfl, rfl⟩
  · rintro ⟨t, next, rfl, rfl⟩
    refine failsWith_bind.2 (Or.inr ⟨c', c', rfl, ?_⟩)
    rw [next]
    exact failsWith_throw.2 ⟨rfl, rfl⟩

theorem Reads.endOfTokens : Reads endOfTokens (fun ts _ => ts = []) (fun rest => rest = []) := by
  refine Reads.of_answers (fun _ rest => rest = []) ?_ ?_ (fun after => after) ⟨[], (), rfl⟩ ?_
  · intro c c' u
    rw [answers_endOfTokens_iff]
    constructor
    · rintro ⟨rfl, at_end⟩
      exact ⟨[], rfl, passes_nil_iff.2 rfl, at_end⟩
    · rintro ⟨_, rfl, passed, at_end⟩
      obtain rfl := passes_nil_iff.1 passed
      exact ⟨rfl, at_end⟩
  · rintro u ts us same rfl
    cases same
  · intro c c' e failed
    obtain ⟨t, next, rfl, rfl⟩ := failsWith_endOfTokens_iff.1 failed
    refine ⟨[], c', failsAt_token next (position_of_current? next) .trailingToken rfl
      ⟨[], (), rfl⟩ fun c₁ same => ?_⟩
    exact ⟨_, _, failsWith_endOfTokens_iff.2 ⟨t, same.head?_eq.symm.trans next, rfl, rfl⟩⟩

/-- A module and nothing after it. -/
theorem Reads.wholeModule : Reads wholeModule IsModule (fun rest => rest = []) := by
  refine ((Reads.module hasRule_standard).bind (fun m => Reads.endOfTokens.bind (fun _ => Reads.pure m _) ?_)
    ?_).congr fun ts m => ?_
  · rintro _ ts m' rest ⟨rfl, -⟩ at_end
    exact at_end
  · intro _ _ _ _ _ _
    trivial
  · constructor
    · rintro ⟨m, us, _, rfl, ⟨ho, hk, ⟨said, closes⟩⟩, _, _, _, rfl, rfl, rfl, rfl⟩
      rw [List.append_nil, List.append_nil]
      exact .intro ho hk (.intro (isBodyBy_standard_iff.1 said) closes)
    · rintro ⟨ho, hk, ⟨said, closes⟩⟩
      exact ⟨_, _, [], (List.append_nil _).symm,
        .intro ho hk (.intro (isBodyBy_standard_iff.2 said) closes), (), [], [], rfl, rfl, rfl, rfl⟩

end Parse

theorem ofTokens_eq_error_iff {tokens : List Token} {file : String} {e : Error} :
    Module.ofTokens tokens file = .error e ↔
      ∃ c, FailsWith wholeModule (ofTokens tokens file) e c := by
  unfold Module.ofTokens FailsWith
  split
  · rename_i answered
    simp [answered]
  · rename_i failed
    simp [failed]

/-- A row of tokens that is no module fails at a place, for a reason. -/
theorem exists_failsAt {tokens : List Token} {file : String} {e : Error}
    (failed : Module.ofTokens tokens file = .error e) :
    ∃ passed c, FailsAt wholeModule IsModule (ofTokens tokens file) e passed c := by
  obtain ⟨c, failed⟩ := ofTokens_eq_error_iff.1 failed
  exact Reads.wholeModule.fails failed

/-- An error that does not blame the end of a row stands at a token of the row, and says something
true of it. -/
theorem exists_blamed {tokens : List Token} {file : String} {e : Error}
    (failed : Module.ofTokens tokens file = .error e)
    (not_end : ∀ expected, e.cause ≠ .unexpectedEnd expected) :
    ∃ before t after, tokens = before ++ t :: after ∧ Blames (some t) e.cause ∧
      e.position = t.span.start := by
  obtain ⟨passed, c, fails⟩ := exists_failsAt failed
  have blames := fails.blames
  cases next : c.current? with
  | none =>
    obtain ⟨expected, at_end⟩ := blames.end_iff.2 next
    exact absurd at_end (not_end expected)
  | some t =>
    rw [next] at blames
    obtain ⟨rest, ahead⟩ := List.head?_eq_some_iff.1 next
    have row : tokens = passed ++ t :: rest := fails.passes.ahead.trans (by rw [ahead])
    exact ⟨passed, t, rest, row, blames, fails.position.trans (position_of_current? next)⟩

theorem not_accepted_of_failsWith {tokens : List Token} {file : String} {e : Error} {c : TokenCursor}
    {m : Module} (failed : FailsWith wholeModule (ofTokens tokens file) e c) :
    Module.ofTokens tokens file ≠ .ok m := by
  intro accepted
  cases (ofTokens_eq_error_iff.2 ⟨c, failed⟩).symm.trans accepted

theorem position_eq_placeAfter (ts rest : List Token) (file : String) :
    position ⟨ts.reverse, rest, file⟩ = placeAfter (ts ++ rest) file ts.length := by
  unfold position placeAfter
  cases rest with
  | cons t rest => simp
  | nil =>
    rcases List.eq_nil_or_concat ts with rfl | ⟨us, u, rfl⟩
    · rfl
    · simp

/-- Modules begin with the tokens that the grammar lets go on. -/
theorem beginsModule_iff {ts : List Token} :
    BeginsModule ts ↔ ∃ more m, IsModule (ts ++ more) m := by
  have accepted {tokens : List Token} {file : String} {m : Module} :
      Module.ofTokens tokens file = .ok m ↔ IsModule tokens m :=
    ofTokens_eq_ok_iff_answers.trans answers_module_iff
  constructor
  · rintro ⟨more, file, m, read⟩
    exact ⟨more, m, accepted.1 read⟩
  · rintro ⟨more, m, derived⟩
    exact ⟨more, defaultFile, m, accepted.2 derived⟩

/-- What a reader of whole rows sees after some tokens lets no module begin with them. -/
theorem not_beginsModule {ts seen : List Token}
    (again : ∀ more file, ∃ e c, FailsWith wholeModule (ofTokens (ts ++ (seen ++ more)) file) e c) :
    ¬ BeginsModule (ts ++ seen) := by
  rintro ⟨more, file, m, accepted⟩
  obtain ⟨e, c, failed⟩ := again more file
  rw [List.append_assoc] at accepted
  exact not_accepted_of_failsWith failed accepted

/-- The error of a row of tokens that is no module stands at the first token that is wrong: some
module begins with the tokens before it, and none with it or, if it is an opening parenthesis, with
it and the next one. The error stands at the end of the row exactly if it says that the row ends too
early. -/
theorem ofTokens_error_exact {tokens : List Token} {file : String} {e : Error}
    (failed : Module.ofTokens tokens file = .error e) :
    ∃ k ≤ tokens.length, e.position = placeAfter tokens file k ∧
      BeginsModule (tokens.take k) ∧
      (∀ t, tokens[k]? = some t → t.kind ≠ .leftParen → ¬ BeginsModule (tokens.take (k + 1))) ∧
      (∀ t, tokens[k]? = some t → t.kind = .leftParen →
        k + 1 = tokens.length ∨ ¬ BeginsModule (tokens.take (k + 2))) ∧
      (k = tokens.length ↔ ∃ expected, e.cause = .unexpectedEnd expected) ∧
      e.cause.isLexical = false := by
  obtain ⟨c, failed⟩ := ofTokens_eq_error_iff.1 failed
  obtain ⟨passed, c₂, fails⟩ := Reads.wholeModule.fails failed
  -- The row is cut in two at the cursor where the error points.
  obtain ⟨rest, rfl⟩ : ∃ rest, tokens = passed ++ rest := ⟨c₂.ahead, fails.passes.ahead⟩
  have at_cut : c₂ = ⟨passed.reverse, rest, file⟩ :=
    fails.passes.eq_skip.trans (passes_ofTokens passed rest file).eq_skip.symm
  subst at_cut
  have again {seen : List Token} (same : ∀ more, Alike rest (seen ++ more)) :
      ¬ BeginsModule (passed ++ seen) :=
    not_beginsModule fun more file' =>
      fails.again (passes_ofTokens passed (seen ++ more) file') (same more)
  have next : (passed ++ rest)[passed.length]? = rest.head? := by
    rw [List.getElem?_append_right le_rfl, Nat.sub_self, List.head?_eq_getElem?]
  refine ⟨passed.length, by simp, fails.position.trans (position_eq_placeAfter passed rest file), ?_, ?_,
    ?_, ?_, fails.syntactic⟩
  · rw [List.take_left]
    exact beginsModule_iff.2 fails.goesOn
  · intro t current not_opening
    rw [next] at current
    obtain ⟨us, rfl⟩ := List.head?_eq_some_iff.1 current
    rw [List.take_length_add_append]
    exact again fun more => .token not_opening
  · intro t current opening
    rw [next] at current
    obtain ⟨us, rfl⟩ := List.head?_eq_some_iff.1 current
    cases us with
    | nil => exact Or.inl (by simp)
    | cons u us =>
      rw [List.take_length_add_append]
      exact Or.inr (again fun more => .pair)
  · rw [fails.atEnd]
    simp

/-- A name after an opening parenthesis begins no field, so that the parenthesis is wrong. -/
theorem ofTokens_error_exact_unknown_field :
    Module.ofTokens (lex "(module ($f))" defaultFile).tokens defaultFile =
        .error ⟨.unknownField "LParen(()", .ofBytes defaultFile 8⟩ ∧
      BeginsModule ((lex "(module ($f))" defaultFile).tokens.take 2) ∧
      ¬ BeginsModule ((lex "(module ($f))" defaultFile).tokens.take 4) := by
  have failed : Module.ofTokens (lex "(module ($f))" defaultFile).tokens defaultFile =
      .error ⟨.unknownField "LParen(()", .ofBytes defaultFile 8⟩ := by decide +kernel
  obtain ⟨k, within, place, before, -, opening, -⟩ := ofTokens_error_exact failed
  have length : (lex "(module ($f))" defaultFile).tokens.length = 6 := by decide +kernel
  have only_there : ∀ k ≤ 6, Position.ofBytes defaultFile 8 =
      placeAfter (lex "(module ($f))" defaultFile).tokens defaultFile k → k = 2 := by decide +kernel
  obtain rfl := only_there k (length ▸ within) place
  refine ⟨failed, before, ?_⟩
  have third : (lex "(module ($f))" defaultFile).tokens[2]? =
      some ⟨.leftParen, "(", .ofBytes defaultFile 8 9⟩ := by decide +kernel
  rcases opening _ third rfl with at_end | after
  · rw [length] at at_end
    cases at_end
  · exact after

end WasmText
