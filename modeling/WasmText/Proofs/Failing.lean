import WasmText.Proofs.Cutting
import WasmText.Proofs.Lexeme.Fault

/-!
# Lexical failures

Where and why a source with a lexical fault is not read on. The tokens before the fault say where it
has to be looked for: right after the last of them, if that is a literal without a delimiter, and
else after the layout that follows it, where a text begins with no lexeme.

## What is proved

* `Fails.unique`: a text fails in one way.
* `endsInFailure_place`: what is lexed, if there is an error, ends in a failure.
* `EndsInFailure.tokens`: the tokens before a failure, and the text that is left for it.
* `lex_error_exact`: the error of a source is the one failure of the text after its last token, at
  the place of this failure.
-/

namespace WasmText

open Text Lexeme Cut Diagnostic

/-- How a text fails after a token, which is a literal or not, and what is skipped before the place
of the failure. -/
inductive Fails (literal : Bool) : List Char → List Char → Cause → Prop where
  /-- No delimiter after a literal. -/
  | undelimited {c : Char} {rest : List Char} :
      literal = true → isDelimiter c = false →
        Fails literal (c :: rest) [] (.missingDelimiter (describe (some c)))
  /-- No lexeme after the layout. -/
  | noLexeme {w rest passed : List Char} {c : Char} {cause : Cause} :
      (literal = true → isDelimited (w ++ c :: rest) = true) → IsRun isLayout w →
        isLayout c = false → NoLexeme (c :: rest) passed cause →
        Fails literal (w ++ c :: rest) (w ++ passed) cause

/-- The last token that is no error. -/
def lastToken? (ts : List Token) : Option Token :=
  (ts.filter fun t => t.kind ≠ .error).getLast?

/-- Where the last token that is no error ends, in bytes; at the start if there is none. -/
def lastEnd (ts : List Token) : Nat :=
  match lastToken? ts with
  | some t => t.span.stop.offset.toNat
  | none => 0

/-- Whether a kind is one of literals. -/
def isLiteralKind (k : Kind) : Bool :=
  k = .name ∨ k = .string ∨ k = .number

/-- Whether the last token that is no error is a literal. -/
def endsInLiteral (ts : List Token) : Bool :=
  match lastToken? ts with
  | some t => isLiteralKind t.kind
  | none => false

/-! ### Failures of a text -/

theorem Fails.begins {literal : Bool} {cs skipped : List Char} {cause : Cause}
    (h : Fails literal cs skipped cause) : skipped <+: cs := by
  cases h with
  | undelimited => exact List.nil_prefix
  | noLexeme _ _ _ fault => exact (List.prefix_append_right_inj _).2 fault.begins

/-- A text fails in one way. -/
theorem Fails.unique {literal : Bool} {cs skipped skipped' : List Char} {cause cause' : Cause}
    (h : Fails literal cs skipped cause) (h' : Fails literal cs skipped' cause') :
    skipped = skipped' ∧ cause = cause' := by
  generalize text_eq : cs = text at h'
  cases h with
  | @undelimited c rest is_literal not_delimiter =>
    cases h' with
    | undelimited =>
      obtain ⟨rfl, -⟩ := List.cons.inj text_eq
      exact ⟨rfl, rfl⟩
    | noLexeme delimited =>
      -- After a literal, a lexeme is looked for only if a delimiter comes next.
      rw [← text_eq] at delimited
      have delimiter : isDelimiter c = true := delimited is_literal
      rw [not_delimiter] at delimiter
      cases delimiter
  | @noLexeme w rest passed c cause delimited layout not_layout fault =>
    cases h' with
    | @undelimited d rest' is_literal not_delimiter =>
      have delimiter := delimited is_literal
      rw [text_eq] at delimiter
      have delimiter : isDelimiter d = true := delimiter
      rw [not_delimiter] at delimiter
      cases delimiter
    | @noLexeme w' rest' passed' d cause' _ layout' not_layout' fault' =>
      have same : w = w' := by
        rw [← takeWhile_append_of_stops layout (stops_of_cons not_layout rest), text_eq,
          takeWhile_append_of_stops layout' (stops_of_cons not_layout' rest')]
      subst same
      obtain ⟨rfl, rfl⟩ := List.cons.inj (List.append_cancel_left text_eq)
      have scanned := (scan_fault_iff.2 fault).symm.trans (scan_fault_iff.2 fault')
      cases scanned
      exact ⟨rfl, rfl⟩

/-- What is lexed of a text from a byte offset on, after a token that is a literal or not, if it
ends in a failure. -/
inductive EndsInFailure (file : String) : Nat → Bool → List Char → Lexed → Prop where
  /-- The failure comes next. -/
  | here {offset : Nat} {literal : Bool} {cs skipped : List Char} {cause : Cause} :
      Fails literal cs skipped cause →
        EndsInFailure file offset literal cs
          (.stopped file (offset + utf8Length skipped) cause)
  /-- A lexeme comes first. -/
  | later {offset : Nat} {literal : Bool} {w rest : List Char} {l : Lexeme} {lexed : Lexed} :
      EndsInFailure file (offset + utf8Length w + utf8Length l.text) l.isLiteral rest lexed →
        EndsInFailure file offset literal (w ++ (l.text ++ rest))
          (.after (l.tokens file (offset + utf8Length w)) lexed)

theorem undelimited_of_not_endsBefore {l : Lexeme} {rest : List Char}
    (h : endsBefore l rest = false) :
    ∃ c cs, rest = c :: cs ∧ l.isLiteral = true ∧ isDelimiter c = false := by
  simp only [endsBefore, Bool.or_eq_false_iff, Bool.not_eq_false'] at h
  cases rest with
  | nil => exact absurd h.2 (by simp [isDelimited])
  | cons c cs => exact ⟨c, cs, rfl, h.1, h.2⟩

theorem endsInFailure_place {file : String} {offset : Nat} {literal : Bool} {cs : List Char}
    {e : Error} (delimited : literal = true → isDelimited cs = true)
    (failed : ((ofChars cs).place file offset).error = some e) :
    EndsInFailure file offset literal cs ((ofChars cs).place file offset) := by
  induction cs using scan_induction generalizing offset literal with
  | finished w layout =>
    rw [ofChars_layout layout] at failed
    cases failed
  | fault w c cs passed cause layout not_layout scanned =>
    have fails : Fails literal (w ++ c :: cs) (w ++ passed) cause :=
      .noLexeme delimited layout not_layout (scan_fault_iff.1 scanned)
    have here : EndsInFailure file offset literal _ _ := .here fails
    rw [utf8Length_append, ← Nat.add_assoc] at here
    rw [ofChars_fault layout not_layout scanned]
    exact here
  | found w c cs l rest layout not_layout scanned ih =>
    rw [ofChars_found layout not_layout scanned] at failed ⊢
    rw [← scan_append scanned]
    by_cases ends : endsBefore l rest = true
    · rw [if_pos ends] at failed ⊢
      have delimited' : l.isLiteral = true → isDelimited rest = true := by
        intro is_literal
        simpa [endsBefore, is_literal] using ends
      exact .later (ih delimited' failed)
    · rw [if_neg ends]
      obtain ⟨d, ds, rfl, is_literal, not_delimiter⟩ :=
        undelimited_of_not_endsBefore (Bool.eq_false_iff.2 ends)
      have fails : Fails l.isLiteral (d :: ds) [] _ := .undelimited is_literal not_delimiter
      exact .later (.here fails)

/-! ### The last token -/

/-- The place where a token ends, and whether it is a literal. -/
def Token.ending (t : Token) : Position × Bool :=
  (t.span.stop, isLiteralKind t.kind)

/-- The ending of the last of some tokens, or an ending before them. -/
def endingAfter (before : Position × Bool) (ts : List Token) : Position × Bool :=
  ts.foldl (fun _ t => t.ending) before

theorem endingAfter_append (before : Position × Bool) (ts us : List Token) :
    endingAfter before (ts ++ us) = endingAfter (endingAfter before ts) us :=
  List.foldl_append

theorem endingAfter_eq (before : Position × Bool) (ts : List Token) :
    endingAfter before ts = (ts.getLast?.map Token.ending).getD before := by
  rcases List.eq_nil_or_concat ts with rfl | ⟨ts, t, rfl⟩
  · rfl
  · simp [endingAfter]

theorem endingAfter_tokens (before : Position × Bool) (file : String) (start : Nat) (l : Lexeme) :
    endingAfter before (l.tokens file start) =
      (.ofBytes file (start + utf8Length l.text), l.isLiteral) := by
  cases l with
  | operator k s =>
    simp [endingAfter, Lexeme.tokens, Lexeme.place, pieces, Lexeme.text, Token.ending,
      isLiteralKind, Lexeme.isLiteral, Span.ofBytes, Nat.add_assoc]
  | _ =>
    simp [endingAfter, Lexeme.tokens, Lexeme.place, pieces, Lexeme.text, Token.ending,
      isLiteralKind, Lexeme.isLiteral, Span.ofBytes]

theorem kind_ne_error_of_mem_tokens {file : String} {start : Nat} {l : Lexeme} {t : Token}
    (member : t ∈ l.tokens file start) : t.kind ≠ .error := by
  intro is_error
  have piece := mem_place member
  rw [is_error] at piece
  cases l <;> simp [pieces] at piece

/-- The token that stands for an error: its message, at its place. -/
def Error.token (e : Error) : Token :=
  ⟨.error, e.cause.message, ⟨e.position, e.position⟩⟩

/-- A failure, seen from the tokens before it: after them comes the text that fails, and the error
stands at the place of its failure. -/
theorem EndsInFailure.tokens {file : String} {offset : Nat} {literal : Bool} {cs : List Char}
    {lexed : Lexed} (h : EndsInFailure file offset literal cs lexed) :
    ∃ (e : Error) (known : List Token) (before rest skipped : List Char) (literal' : Bool),
      lexed.error = some e ∧
      lexed.tokens = known ++ [e.token] ∧
      (∀ t ∈ known, t.kind ≠ .error) ∧ cs = before ++ rest ∧
      endingAfter (.ofBytes file offset, literal) known =
        (.ofBytes file (offset + utf8Length before), literal') ∧
      Fails literal' rest skipped e.cause ∧
      e.position = .ofBytes file (offset + utf8Length before + utf8Length skipped) := by
  induction h with
  | @here offset literal cs skipped cause fails =>
    exact ⟨_, [], [], cs, skipped, literal, rfl, rfl, by simp, rfl, rfl, fails, rfl⟩
  | @later offset literal w rest l lexed _ ih =>
    obtain ⟨e, known, before, rest', skipped, literal', failed, tokens, no_error, rfl, ending, fails,
      place⟩ := ih
    refine ⟨e, l.tokens file (offset + utf8Length w) ++ known, w ++ (l.text ++ before), rest', skipped,
      literal', failed, ?_, ?_, by simp, ?_, fails, ?_⟩
    · simp [Lexed.after, tokens]
    · intro t member
      rcases List.mem_append.1 member with inside | inside
      · exact kind_ne_error_of_mem_tokens inside
      · exact no_error t inside
    · rw [endingAfter_append, endingAfter_tokens, ending]
      simp [Nat.add_assoc]
    · rw [place]
      simp [Nat.add_assoc]

/-! ### The error of a source -/

theorem lastToken?_of_no_error {known : List Token} {t : Token} (is_error : t.kind = .error)
    (no_error : ∀ t ∈ known, t.kind ≠ .error) : lastToken? (known ++ [t]) = known.getLast? := by
  have kept : known.filter (fun t => t.kind ≠ .error) = known := by
    simpa [List.filter_eq_self] using no_error
  unfold lastToken?
  rw [List.filter_append, kept, List.filter_cons_of_neg (by simp [is_error]), List.filter_nil,
    List.append_nil]

/-- The text before the failure ends where the last token does. -/
theorem last_of_endingAfter {file : String} {known : List Token} {bytes : Nat} {literal : Bool}
    (fits : bytes < UInt32.size)
    (ending : endingAfter (.ofBytes file 0, false) known = (.ofBytes file bytes, literal)) :
    (match known.getLast? with | some t => t.span.stop.offset.toNat | none => 0) = bytes ∧
      (match known.getLast? with | some t => isLiteralKind t.kind | none => false) = literal := by
  rw [endingAfter_eq] at ending
  have offset := congrArg (fun end_ => end_.1.offset.toNat) ending
  simp only [Cut.toNat_offset_ofBytes fits] at offset
  cases last : known.getLast? with
  | none =>
    rw [last] at ending offset
    obtain ⟨-, rfl⟩ := Prod.mk.inj ending
    exact ⟨offset, rfl⟩
  | some t =>
    rw [last] at ending offset
    obtain ⟨-, rfl⟩ := Prod.mk.inj ending
    exact ⟨offset, rfl⟩

/-- The error of a source is the one failure of the text after its last token, at the place of this
failure. -/
theorem lex_error_exact {source : String} (fits : source.utf8ByteSize < UInt32.size) (file : String)
    {e : Error} (failed : (lex source file).error = some e) :
    ∃ before skipped after, source.toList = before ++ (skipped ++ after) ∧
      utf8Length before = lastEnd (lex source file).tokens ∧
      Fails (endsInLiteral (lex source file).tokens) (skipped ++ after) skipped e.cause ∧
      (∀ skipped' cause, Fails (endsInLiteral (lex source file).tokens) (skipped ++ after) skipped'
        cause → skipped' = skipped ∧ cause = e.cause) ∧
      e.position.file = file ∧
      e.position.offset.toNat = utf8Length before + utf8Length skipped := by
  have failure : EndsInFailure file 0 false source.toList (lex source file) :=
    endsInFailure_place (by simp) failed
  obtain ⟨e', known, before, rest, skipped, literal, error, tokens, no_error, text, ending, fails,
    place⟩ := failure.tokens
  obtain rfl : e = e' := Option.some.inj (failed.symm.trans error)
  obtain ⟨after, rfl⟩ := fails.begins
  have bytes := congrArg utf8Length text
  rw [utf8Length_toList, utf8Length_append, utf8Length_append] at bytes
  have last : lastToken? (lex source file).tokens = known.getLast? := by
    rw [tokens]
    exact lastToken?_of_no_error rfl no_error
  have before_fits : 0 + utf8Length before < UInt32.size := by omega
  have place_fits : 0 + utf8Length before + utf8Length skipped < UInt32.size := by omega
  obtain ⟨last_end, ends_in_literal⟩ := last_of_endingAfter before_fits ending
  have fails :
      Fails (endsInLiteral (lex source file).tokens) (skipped ++ after) skipped e.cause := by
    rwa [endsInLiteral, last, ends_in_literal]
  refine ⟨before, skipped, after, text, ?_, fails, ?_, ?_, ?_⟩
  · rw [lastEnd, last, last_end, Nat.zero_add]
  · intro skipped' cause fails'
    exact fails'.unique fails
  · rw [place]
    rfl
  · rw [place, Cut.toNat_offset_ofBytes place_fits, Nat.zero_add]

/-- A number, which ends after one byte, and a dollar sign without a name, which ends after
three. -/
theorem lex_error_exact_name :
    (lex "1 $" defaultFile).error =
        some ⟨.unexpectedNameCharacter "EOF", .ofBytes defaultFile 3⟩ ∧
      ∃ before skipped after, "1 $".toList = before ++ (skipped ++ after) ∧ utf8Length before = 1 ∧
        Fails true (skipped ++ after) skipped (.unexpectedNameCharacter "EOF") ∧
        3 = utf8Length before + utf8Length skipped := by
  have fits : "1 $".utf8ByteSize < UInt32.size := by decide
  have failed : (lex "1 $" defaultFile).error =
      some ⟨.unexpectedNameCharacter "EOF", .ofBytes defaultFile 3⟩ := by decide +kernel
  have last_end : lastEnd (lex "1 $" defaultFile).tokens = 1 := by decide +kernel
  have literal : endsInLiteral (lex "1 $" defaultFile).tokens = true := by decide +kernel
  obtain ⟨before, skipped, after, text, ends, fails, -, -, place⟩ :=
    lex_error_exact fits defaultFile failed
  rw [last_end] at ends
  rw [literal] at fails
  exact ⟨failed, before, skipped, after, text, ends, fails, place⟩

end WasmText
