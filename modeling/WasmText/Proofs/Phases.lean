import WasmText.Source
import WasmText.Proofs.Failing
import WasmText.Proofs.FirstWrong
import WasmText.Proofs.Openings

/-!
# The two phases of reading a source

A source is cut into tokens first, and the tokens are read as a module then. A fault of the first
phase lies in the characters and comes before any fault of the second, which lies in the order of
the tokens. The tokens of a source with a lexical fault end with an error token. Such a row is no
module, so that the fault is noticed even if nobody asks the lexer for it.

## What is proved

* `Fails.isLexical`: the faults of the first phase are lexical.
* `ofTokens_of_error_token`: the error of a row with an error token stands at this token or before.
* `mem_lex_isIn`, `ofTokens_error_file`: the places of tokens and errors are in the file of the
  source.
* `phases_agree`: how the two phases go together.
-/

namespace WasmText

open Text Lexeme Cut TokenCursor Grammar Parse

/-! ### Lexical faults -/

theorem Lexeme.Breaks.isLexical {cs passed : List Char} {cause : Cause}
    (h : Breaks cs passed cause) : cause.isLexical = true := by
  cases h <;> rfl

theorem Lexeme.NoLexeme.isLexical {cs passed : List Char} {cause : Cause}
    (h : NoLexeme cs passed cause) : cause.isLexical = true := by
  cases h with
  | string breaks => exact breaks.isLexical
  | _ => rfl

theorem Fails.isLexical {literal : Bool} {cs skipped : List Char} {cause : Cause}
    (h : Fails literal cs skipped cause) : cause.isLexical = true := by
  cases h with
  | undelimited => rfl
  | noLexeme _ _ _ fault => exact fault.isLexical

/-- A source with a lexical fault has tokens up to one that stands for the fault. -/
theorem tokens_of_lex_error {source file : String} {e : Error}
    (failed : (lex source file).error = some e) :
    ∃ known, (lex source file).tokens = known ++ [e.token] ∧ (∀ t ∈ known, t.kind ≠ .error) ∧
      e.cause.isLexical = true ∧ e.position.file = file := by
  have failure : EndsInFailure file 0 false source.toList (lex source file) :=
    endsInFailure_place (by simp) failed
  obtain ⟨e', known, before, rest, skipped, literal, error, tokens, no_error, -, -, fails, place⟩ :=
    failure.tokens
  obtain rfl : e = e' := Option.some.inj (failed.symm.trans error)
  exact ⟨known, tokens, no_error, fails.isLexical, by rw [place]; rfl⟩

/-! ### Error tokens -/

/-- A row of tokens with an error token is no module. Its error is not lexical, does not blame the
end of the row, and stands at the error token or at a token before it. -/
theorem ofTokens_of_error_token (before after : List Token) {t : Token} (is_error : t.kind = .error)
    (file : String) :
    ∃ e, Module.ofTokens (before ++ t :: after) file = .error e ∧ e.cause.isLexical = false ∧
      (∀ expected, e.cause ≠ .unexpectedEnd expected) ∧
      ∃ u ∈ before ++ [t], e.position = u.span.start := by
  cases read : Module.ofTokens (before ++ t :: after) file with
  | ok m =>
    have derived := answers_module_iff.1 (ofTokens_eq_ok_iff_answers.1 read)
    exact absurd is_error (derived.no_error t (by simp))
  | error e =>
    obtain ⟨passed, c, fails⟩ := exists_failsAt read
    obtain ⟨more, m, derived⟩ := fails.goesOn
    -- The error token was not passed, since a module begins with the tokens that were.
    obtain ⟨left, rfl, ahead⟩ : ∃ left, before = passed ++ left ∧ c.ahead = left ++ t :: after := by
      rcases cut_of_append fails.passes.ahead.symm with ⟨left, rfl, -⟩ | found
      · exact absurd is_error (derived.no_error t (by simp))
      · exact found
    obtain ⟨u, us, next⟩ : ∃ u us, left ++ [t] = u :: us := by
      cases left <;> exact ⟨_, _, rfl⟩
    have row : c.ahead = u :: (us ++ after) := by
      rw [ahead, ← List.singleton_append, ← List.append_assoc, next, List.cons_append]
    have current : c.current? = some u := by rw [current?, row, List.head?_cons]
    refine ⟨e, rfl, fails.syntactic, fun expected at_end => ?_, u, ?_, ?_⟩
    · have nothing := fails.atEnd.1 ⟨expected, at_end⟩
      rw [row] at nothing
      cases nothing
    · rw [List.append_assoc, next]
      simp
    · exact fails.position.trans (position_of_current? current)

/-! ### Places -/

/-- A token that stands in a file. -/
structure Token.IsIn (t : Token) (file : String) : Prop where
  /-- It begins there. -/
  start : t.span.start.file = file
  /-- It ends there. -/
  stop : t.span.stop.file = file

theorem mem_place_isIn {file : String} {start : Nat} {pieces : List (Kind × List Char)} :
    ∀ t ∈ Lexeme.place file start pieces, t.IsIn file := by
  induction pieces generalizing start with
  | nil => simp [Lexeme.place]
  | cons piece pieces ih => exact List.forall_mem_cons.2 ⟨⟨rfl, rfl⟩, ih⟩

theorem Cut.mem_place_isIn {file : String} {offset : Nat} {cut : Cut} :
    ∀ t ∈ (cut.place file offset).tokens, t.IsIn file := by
  induction cut generalizing offset with
  | finished => simp [Cut.place, Lexed.finished]
  | stopped => exact List.forall_mem_singleton.2 ⟨rfl, rfl⟩
  | lexeme layout l next ih =>
    intro t member
    exact (List.mem_append.1 member).elim (WasmText.mem_place_isIn t) (ih t)

/-- The tokens of a source stand in its file. -/
theorem mem_lex_isIn {source file : String} : ∀ t ∈ (lex source file).tokens, t.IsIn file :=
  Cut.mem_place_isIn

theorem TokenCursor.position_file {c : TokenCursor} (row : ∀ t ∈ c.tokens, t.IsIn c.file) :
    c.position.file = c.file := by
  unfold TokenCursor.position
  cases ahead : c.ahead with
  | cons t rest => exact (row t (by simp [TokenCursor.tokens, ahead])).start
  | nil =>
    cases behind : c.behind with
    | cons t rest => exact (row t (by simp [TokenCursor.tokens, behind])).stop
    | nil => rfl

/-- The error of a row of tokens that stand in a file is in that file. -/
theorem ofTokens_error_file {tokens : List Token} {file : String} {e : Error}
    (row : ∀ t ∈ tokens, t.IsIn file) (failed : Module.ofTokens tokens file = .error e) :
    e.position.file = file := by
  obtain ⟨passed, c, fails⟩ := exists_failsAt failed
  have same_row : c.tokens = tokens := by
    rw [fails.passes.eq_skip, tokens_skip, tokens_ofTokens]
  have same_file : c.file = file := fails.passes.file
  rw [← same_row, ← same_file] at row
  rw [fails.position, position_file row, same_file]

/-! ### The two phases -/

/-- How the two phases of reading a source from a file go together. -/
structure PhasesAgree (source file : String) : Prop where
  /-- If the source has no lexical fault, it says what its tokens say. -/
  same : (lex source file).error = none →
    Module.ofSource source file = Module.ofTokens (lex source file).tokens file
  /-- What is wrong then is not lexical. -/
  syntactic : (lex source file).error = none →
    ∀ e, Module.ofSource source file = .error e → e.cause.isLexical = false
  /-- If it has a lexical fault, this is its error, whatever else is wrong. -/
  lexical : ∀ e, (lex source file).error = some e →
    Module.ofSource source file = .error e ∧ e.cause.isLexical = true
  /-- Its tokens then end with one that stands for the fault. They are no module, and their error is
  not lexical, does not blame the end of the row, and stands where one of them begins. -/
  noticed : ∀ e, (lex source file).error = some e →
    ∃ known e', (lex source file).tokens = known ++ [e.token] ∧ (∀ t ∈ known, t.kind ≠ .error) ∧
      Module.ofTokens (lex source file).tokens file = .error e' ∧ e'.cause.isLexical = false ∧
      (∀ expected, e'.cause ≠ .unexpectedEnd expected) ∧
      ∃ t ∈ (lex source file).tokens, e'.position = t.span.start
  /-- All errors are in the file. -/
  file : ∀ e, (lex source file).error = some e ∨ Module.ofSource source file = .error e ∨
    Module.ofTokens (lex source file).tokens file = .error e → e.position.file = file

theorem ofSource_of_lex_none {source file : String} (whole : (lex source file).error = none) :
    Module.ofSource source file = Module.ofTokens (lex source file).tokens file := by
  unfold Module.ofSource tokenize
  rw [whole]
  rfl

theorem ofSource_of_lex_some {source file : String} {e : Error}
    (failed : (lex source file).error = some e) : Module.ofSource source file = .error e := by
  unfold Module.ofSource tokenize
  rw [failed]
  rfl

theorem ofSource_error_file {source file : String} {e : Error}
    (failed : Module.ofSource source file = .error e) : e.position.file = file := by
  cases lexed : (lex source file).error with
  | none =>
    rw [ofSource_of_lex_none lexed] at failed
    exact ofTokens_error_file mem_lex_isIn failed
  | some e' =>
    rw [ofSource_of_lex_some lexed] at failed
    cases failed
    obtain ⟨-, -, -, -, in_file⟩ := tokens_of_lex_error lexed
    exact in_file

/-- The two phases of reading a source agree, and no lexical fault is overlooked: a source whose
lexing succeeds is read as its tokens are, and fails for no lexical reason; a source whose lexing
fails has just this error, and its tokens are no module either. No row with an error token is. -/
theorem phases_agree (source : String) (given : Option String) :
    PhasesAgree source (fileName given) ∧
      ∀ (tokens : List Token) (file : String), (∃ t ∈ tokens, t.kind = .error) →
        ∃ e, Module.ofTokens tokens file = .error e := by
  refine ⟨⟨ofSource_of_lex_none, ?_, ?_, ?_, ?_⟩, ?_⟩
  · intro whole e failed
    rw [ofSource_of_lex_none whole] at failed
    obtain ⟨_, _, fails⟩ := exists_failsAt failed
    exact fails.syntactic
  · intro e failed
    obtain ⟨-, -, -, lexical, -⟩ := tokens_of_lex_error failed
    exact ⟨ofSource_of_lex_some failed, lexical⟩
  · intro e failed
    obtain ⟨known, tokens, no_error, -, -⟩ := tokens_of_lex_error failed
    obtain ⟨e', failed', syntactic, not_end, place⟩ :=
      ofTokens_of_error_token known [] (t := e.token) rfl (fileName given)
    rw [tokens]
    exact ⟨known, e', rfl, no_error, failed', syntactic, not_end, place⟩
  · rintro e (failed | failed | failed)
    · exact ofSource_error_file (ofSource_of_lex_some failed)
    · exact ofSource_error_file failed
    · exact ofTokens_error_file mem_lex_isIn failed
  · rintro tokens file ⟨t, member, is_error⟩
    obtain ⟨before, after, rfl⟩ := List.append_of_mem member
    obtain ⟨e, failed, -⟩ := ofTokens_of_error_token before after is_error file
    exact ⟨e, failed⟩

/-- A character that begins no token, where the module is not closed either. -/
theorem phases_agree_unexpected_character :
    (lex "(module (func $f) @" defaultFile).error =
        some ⟨.unexpectedCharacter "U+0040 '@'", .ofBytes defaultFile 18⟩ ∧
      Module.ofSource "(module (func $f) @" defaultFile =
        .error ⟨.unexpectedCharacter "U+0040 '@'", .ofBytes defaultFile 18⟩ ∧
      ∃ e', Module.ofTokens (lex "(module (func $f) @" defaultFile).tokens defaultFile = .error e' ∧
        e'.cause.isLexical = false ∧ e'.position.file = defaultFile := by
  have failed : (lex "(module (func $f) @" defaultFile).error =
      some ⟨.unexpectedCharacter "U+0040 '@'", .ofBytes defaultFile 18⟩ := by decide +kernel
  have agree : PhasesAgree "(module (func $f) @" defaultFile := (phases_agree _ none).1
  obtain ⟨-, e', -, -, failed', syntactic, -⟩ := agree.noticed _ failed
  exact ⟨failed, (agree.lexical _ failed).1, e', failed', syntactic,
    agree.file e' (Or.inr (Or.inr failed'))⟩

end WasmText
