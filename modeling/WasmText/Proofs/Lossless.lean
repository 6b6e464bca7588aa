import WasmText.Proofs.Failing

/-!
# Nothing of a source is lost

The tokens of a source are pieces of it, in its order and with nothing but layout between them: from
the gaps and the texts of the tokens the source can be written again. An error leaves the text after
the last token, and adds one token of its own, which takes no text.

## What is proved

* `lossless_place`, `lossless_lex`: from any byte offset on, what is lexed loses nothing of the text.
* `Lossless.known`: the tokens are pieces of the text and with the gaps they spell it; there is an
  error token exactly if there is an error, at the end.
* `Lossless.pairwise`: they do not overlap, and stand in the order of the text.
* `Lossless.error`: an error stands somewhere in the text.
* `lex_lossless`: what is lexed of a whole source.
-/

namespace WasmText

open Text Lexeme Cut

/-- A token that is a piece of a text of a file: it has the text between its two places. -/
structure Token.IsPieceOf (t : Token) (text : List Char) (file : String) : Prop where
  /-- It does not stand for an error. -/
  kind : t.kind ≠ .error
  /-- It takes some text. -/
  nonempty : t.span.start.offset < t.span.stop.offset
  /-- Its text is found at its place. -/
  stands : ∃ before after, text = before ++ (t.text.toList ++ after) ∧ t.StandsAfter file before

/-- A place in a file that is found right after a text. -/
structure Position.IsAfter (p : Position) (file : String) (before : List Char) : Prop where
  /-- Its offset is the length of the text. -/
  offset : p.offset.toNat = utf8Length before
  /-- It is in the file. -/
  file : p.file = file

/-- The texts of some tokens, each after a gap. -/
def spellWith (gaps : List (List Char)) (ts : List Token) : List Char :=
  (List.zipWith (fun gap t => gap ++ t.text.toList) gaps ts).flatten

@[simp] theorem spellWith_nil (gaps : List (List Char)) : spellWith gaps [] = [] := by
  simp [spellWith]

@[simp] theorem spellWith_cons (gap : List Char) (gaps : List (List Char)) (t : Token)
    (ts : List Token) :
    spellWith (gap :: gaps) (t :: ts) = gap ++ (t.text.toList ++ spellWith gaps ts) := by
  simp [spellWith]

/-- What is lexed of a text that follows another one in a file, if nothing is lost: the text is
layout, or tokens with layout before each, up to a fault. -/
inductive Lossless (file : String) : List Char → List Char → Lexed → Prop where
  /-- Nothing but layout. -/
  | finished {before w : List Char} : IsRun isLayout w → Lossless file before w .finished
  /-- A fault somewhere in the text. -/
  | stopped {before skipped rest : List Char} {e : Error} :
      e.position.IsAfter file (before ++ skipped) →
        Lossless file before (skipped ++ rest) ⟨[e.token], some e⟩
  /-- Layout, the text of a token, and the rest. -/
  | token {before w rest : List Char} {t : Token} {lexed : Lexed} :
      IsRun isLayout w → t.kind ≠ .error → t.text.toList ≠ [] → t.StandsAfter file (before ++ w) →
        Lossless file (before ++ w ++ t.text.toList) rest lexed →
        Lossless file before (w ++ (t.text.toList ++ rest)) (.after [t] lexed)

/-! ### Lexing loses nothing -/

/-- The tokens of some pieces of text take just these pieces. -/
theorem Lossless.pieces {file : String} {before w rest : List Char} {lexed : Lexed}
    {pieces : List (Kind × List Char)} {ts : List Token} (some_piece : pieces ≠ [])
    (said : SaysPieces file (before ++ w) pieces ts) (layout : IsRun isLayout w)
    (proper : ∀ p ∈ pieces, p.1 ≠ .error ∧ p.2 ≠ [])
    (others : Lossless file (before ++ w ++ pieces.flatMap Prod.snd) rest lexed) :
    Lossless file before (w ++ (pieces.flatMap Prod.snd ++ rest)) (.after ts lexed) := by
  induction pieces generalizing before w ts with
  | nil => contradiction
  | cons piece pieces ih =>
    obtain ⟨no_error, nonempty⟩ := proper piece List.mem_cons_self
    rcases said with _ | ⟨rfl, rfl, stands, said⟩
    rename_i t us
    rw [List.flatMap_cons] at others ⊢
    rw [List.append_assoc, ← List.singleton_append, Lexed.after_append]
    refine .token layout no_error nonempty stands ?_
    rw [← List.append_assoc] at others
    by_cases last : pieces = []
    · subst last
      cases said
      simpa [Lexed.after] using others
    · -- Between the pieces of a lexeme there is no layout.
      refine ih (w := []) last (by rwa [List.append_nil]) (by decide) ?_ ?_
      · exact fun p member => proper p (List.mem_cons_of_mem _ member)
      · rwa [List.append_nil]

theorem pieces_ne_nil (l : Lexeme) : l.pieces ≠ [] := by
  cases l <;> exact List.cons_ne_nil _ _

theorem spelling_ne_nil (k : Keyword) : k.spelling.toList ≠ [] := by
  obtain ⟨c, cs, spelled, -⟩ := spelling_eq_cons k
  rw [spelled]
  exact List.cons_ne_nil c cs

theorem proper_of_mem_pieces {l : Lexeme} (nonempty : l.text ≠ []) {p : Kind × List Char}
    (member : p ∈ l.pieces) : p.1 ≠ .error ∧ p.2 ≠ [] := by
  cases l with
  | word k =>
    obtain rfl := List.mem_singleton.1 member
    exact ⟨by simp, spelling_ne_nil k⟩
  | operator k s =>
    simp only [Lexeme.pieces, List.mem_cons, List.not_mem_nil, or_false] at member
    rcases member with rfl | rfl | rfl
    · exact ⟨by simp, spelling_ne_nil k⟩
    · simp
    · simp
  | _ => simp_all [Lexeme.pieces, Lexeme.text]

/-- The tokens of a lexeme take its text, with layout before it. -/
theorem Lossless.lexeme {file : String} {before w rest : List Char} {l : Lexeme} {lexed : Lexed}
    (layout : IsRun isLayout w) (nonempty : l.text ≠ [])
    (fits : utf8Length (before ++ w) + utf8Length l.text < UInt32.size)
    (others : Lossless file (before ++ w ++ l.text) rest lexed) :
    Lossless file before (w ++ (l.text ++ rest))
      (.after (l.tokens file (utf8Length (before ++ w))) lexed) :=
  Lossless.pieces (pieces_ne_nil l) (saysPieces_place fits) layout
    (fun _ member => proper_of_mem_pieces nonempty member) others

theorem lossless_stopped {file : String} {before cs skipped : List Char} {cause : Cause}
    (fits : utf8Length before + utf8Length cs < UInt32.size) (begins : skipped <+: cs) :
    Lossless file before cs (.stopped file (utf8Length before + utf8Length skipped) cause) := by
  obtain ⟨rest, rfl⟩ := begins
  rw [utf8Length_append] at fits
  refine .stopped (e := ⟨cause, _⟩) ⟨?_, rfl⟩
  rw [utf8Length_append]
  exact toNat_offset_ofBytes (by omega)

/-- What is lexed of a text that begins at a byte offset loses nothing of the text. -/
theorem lossless_place {file : String} {before cs : List Char}
    (fits : utf8Length before + utf8Length cs < UInt32.size) :
    Lossless file before cs ((ofChars cs).place file (utf8Length before)) := by
  induction cs using scan_induction generalizing before with
  | finished w layout =>
    rw [ofChars_layout layout]
    exact .finished layout
  | fault w c cs passed cause layout not_layout scanned =>
    have begins : w ++ passed <+: w ++ c :: cs :=
      (List.prefix_append_right_inj w).2 (scan_fault_iff.1 scanned).begins
    rw [ofChars_fault layout not_layout scanned, Cut.place, Nat.add_assoc, ← utf8Length_append]
    exact lossless_stopped fits begins
  | found w c cs l rest layout not_layout scanned ih =>
    rw [ofChars_found layout not_layout scanned]
    rw [← scan_append scanned] at fits ⊢
    simp only [utf8Length_append] at fits
    have fits_text : utf8Length (before ++ w) + utf8Length l.text < UInt32.size := by
      rw [utf8Length_append]
      omega
    have fits_rest : utf8Length (before ++ w ++ l.text) + utf8Length rest < UInt32.size := by
      simp only [utf8Length_append]
      omega
    rw [Cut.place, ← utf8Length_append, ← utf8Length_append]
    refine Lossless.lexeme layout (text_ne_nil_of_scan scanned) fits_text ?_
    by_cases ends : endsBefore l rest = true
    · rw [if_pos ends]
      exact ih fits_rest
    · rw [if_neg ends]
      exact lossless_stopped fits_rest List.nil_prefix

/-! ### What it means to lose nothing -/

namespace Lossless

variable {file : String} {before cs : List Char} {lexed : Lexed}

/-- The tokens are pieces of the text with gaps of layout before them, but for the token of the error
if there is one. Without an error the rest is layout too. -/
theorem known (h : Lossless file before cs lexed) :
    ∃ known gaps rest, lexed.tokens = known ++ (lexed.error.map Error.token).toList ∧
      (∀ t ∈ known, t.IsPieceOf (before ++ cs) file) ∧
      cs = spellWith gaps known ++ rest ∧ gaps.length = known.length ∧
      (∀ gap ∈ gaps, IsRun isLayout gap) ∧ (lexed.error = none → IsRun isLayout rest) := by
  induction h with
  | @finished before w layout =>
    exact ⟨[], [], w, rfl, by simp, rfl, rfl, by simp, fun _ => layout⟩
  | @stopped before skipped rest e =>
    exact ⟨[], [], skipped ++ rest, rfl, by simp, rfl, rfl, by simp, by simp⟩
  | @token before w rest t lexed layout no_error nonempty stands _ ih =>
    obtain ⟨known, gaps, last, tokens, pieces, text, lengths, layouts, last_layout⟩ := ih
    have whole : before ++ (w ++ (t.text.toList ++ rest)) = before ++ w ++ t.text.toList ++ rest := by
      simp
    rw [whole]
    refine ⟨t :: known, w :: gaps, last, by simp [Lexed.after, tokens], ?_, ?_, by simp [lengths],
      List.forall_mem_cons.2 ⟨layout, layouts⟩, last_layout⟩
    case refine_2 => simp [text]
    intro u member
    rcases List.mem_cons.1 member with rfl | inside
    · refine ⟨no_error, ?_, before ++ w, rest, by simp, stands⟩
      have taken : utf8Length u.text.toList ≠ 0 := mt (utf8Length_eq_zero_iff _).1 nonempty
      rw [UInt32.lt_iff_toNat_lt, stands.start, stands.stop]
      omega
    · exact pieces u inside

theorem begins (h : Lossless file before cs lexed) :
    ∀ t ∈ lexed.tokens, utf8Length before ≤ t.span.start.offset.toNat := by
  induction h with
  | finished => simp [Lexed.finished]
  | @stopped before skipped rest e after =>
    intro t member
    obtain rfl := List.mem_singleton.1 member
    have offset := after.offset
    rw [utf8Length_append] at offset
    exact le_of_le_of_eq (Nat.le_add_right _ _) offset.symm
  | @token before w rest t lexed _ _ _ stands _ ih =>
    intro u member
    rcases List.mem_cons.1 member with rfl | inside
    · rw [stands.start, utf8Length_append]
      exact Nat.le_add_right _ _
    · have later := ih u inside
      simp only [utf8Length_append] at later
      omega

/-- No token begins before the ones before it have ended. -/
theorem pairwise (h : Lossless file before cs lexed) :
    lexed.tokens.Pairwise fun s t => s.span.stop.offset ≤ t.span.start.offset := by
  induction h with
  | finished => exact .nil
  | stopped => exact List.pairwise_singleton _ _
  | @token before w rest t lexed _ _ _ stands others ih =>
    refine .cons (fun u member => ?_) ih
    have later := others.begins u member
    rw [utf8Length_append, ← stands.stop] at later
    exact UInt32.le_iff_toNat_le.2 later

/-- The error stands somewhere in the text. -/
theorem error (h : Lossless file before cs lexed) {e : Error} (failed : lexed.error = some e) :
    ∃ passed rest, before ++ cs = passed ++ rest ∧ e.position.IsAfter file passed := by
  induction h with
  | finished => cases failed
  | @stopped before skipped rest e' after =>
    obtain rfl := Option.some.inj failed
    exact ⟨before ++ skipped, rest, by simp, after⟩
  | token _ _ _ _ _ ih =>
    obtain ⟨passed, rest, text, after⟩ := ih failed
    exact ⟨passed, rest, by simpa using text, after⟩

end Lossless

theorem lossless_lex {source : String} (fits : source.utf8ByteSize < UInt32.size) (file : String) :
    Lossless file [] source.toList (lex source file) :=
  lossless_place (by rw [utf8Length_toList]; simpa using fits)

/-- What is lexed of a source loses nothing of it: its tokens are pieces of the source, with only
layout between them, and do not overlap; an error adds one token at the end, which stands for it at
its place in the source. -/
theorem lex_lossless {source : String} (fits : source.utf8ByteSize < UInt32.size) (file : String) :
    Lossless file [] source.toList (lex source file) ∧
      (∃ known gaps rest,
        (lex source file).tokens = known ++ ((lex source file).error.map Error.token).toList ∧
        (∀ t ∈ known, t.IsPieceOf source.toList file) ∧
        source.toList = spellWith gaps known ++ rest ∧ gaps.length = known.length ∧
        (∀ gap ∈ gaps, IsRun isLayout gap) ∧
        ((lex source file).error = none → IsRun isLayout rest)) ∧
      (lex source file).tokens.Pairwise (fun s t => s.span.stop.offset ≤ t.span.start.offset) ∧
      ∀ e, (lex source file).error = some e →
        ∃ passed rest, source.toList = passed ++ rest ∧ e.position.IsAfter file passed := by
  have lossless := lossless_lex fits file
  exact ⟨lossless, lossless.known, lossless.pairwise, fun e failed => lossless.error failed⟩

/-- A source with an operator, whose three tokens have nothing between them, and with a dollar sign
that no name follows. -/
theorem lex_lossless_operator :
    "(div_s $)".utf8ByteSize < UInt32.size ∧
      Lossless defaultFile [] "(div_s $)".toList (lex "(div_s $)" defaultFile) ∧
      (lex "(div_s $)" defaultFile).error =
        some ⟨.unexpectedNameCharacter "U+0029 ')'", .ofBytes defaultFile 8⟩ ∧
      ∃ passed rest, "(div_s $)".toList = passed ++ rest ∧
        (Position.ofBytes defaultFile 8).IsAfter defaultFile passed := by
  have fits : "(div_s $)".utf8ByteSize < UInt32.size := by decide
  have failed : (lex "(div_s $)" defaultFile).error =
      some ⟨.unexpectedNameCharacter "U+0029 ')'", .ofBytes defaultFile 8⟩ := by decide +kernel
  obtain ⟨lossless, -, -, error⟩ := lex_lossless fits defaultFile
  exact ⟨fits, lossless, failed, error _ failed⟩

end WasmText
