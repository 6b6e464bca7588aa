import WasmText.Proofs.Lexeme.Line
import WasmText.Proofs.Lossless

/-!
# Sources line by line

A source can be lexed line by line. What is lexed of some lines is the beginning of what is lexed of
the whole source: nothing depends on the text after the next newline. If there is no error in the
lines, the rest of the source is lexed as if it stood alone, only that its places lie further on.

## What is proved

* `lexFrom_shift`: what is lexed further on in a file is what is lexed at its start, moved.
* `lexFrom_lines`: a text that ends a line is lexed first, and then the rest.
* `Lossless.place_le`: every place lies in the source.
* `lex_line`: a source with a newline is lexed up to it and, if there is no error, after it.
-/

namespace WasmText

open Text Lexeme Cut

/-! ### Moving -/

/-- A place that is some bytes further on. -/
def Position.shift (bytes : Nat) (p : Position) : Position :=
  ⟨p.offset + bytes.toUInt32, p.file⟩

/-- A stretch that is some bytes further on. -/
def Span.shift (bytes : Nat) (s : Span) : Span :=
  ⟨s.start.shift bytes, s.stop.shift bytes⟩

/-- A token that stands some bytes further on. -/
def Token.shift (bytes : Nat) (t : Token) : Token :=
  { t with span := t.span.shift bytes }

/-- An error that is noticed some bytes further on. -/
def Error.shift (bytes : Nat) (e : Error) : Error :=
  { e with position := e.position.shift bytes }

namespace Lexed

/-- What is lexed of a source that stands some bytes further on. -/
def shift (bytes : Nat) (l : Lexed) : Lexed :=
  ⟨l.tokens.map (Token.shift bytes), l.error.map (Error.shift bytes)⟩

/-- The places that what is lexed speaks of. -/
def places (l : Lexed) : List Position :=
  l.tokens.flatMap (fun t => [t.span.start, t.span.stop]) ++ (l.error.map Error.position).toList

/-- What is lexed first, and then more, unless there is an error before. -/
def andThen (l more : Lexed) : Lexed :=
  match l.error with
  | some _ => l
  | none => .after l.tokens more

theorem shift_after (bytes : Nat) (ts : List Token) (l : Lexed) :
    (after ts l).shift bytes = after (ts.map (Token.shift bytes)) (l.shift bytes) := by
  simp [after, shift]

theorem after_andThen (ts : List Token) (l more : Lexed) :
    (after ts l).andThen more = after ts (l.andThen more) := by
  unfold andThen
  cases failed : l.error with
  | some e => simp [after, failed]
  | none => simp [after, failed]

end Lexed

theorem shift_ofBytes (file : String) (bytes more : Nat) :
    (Position.ofBytes file bytes).shift more = .ofBytes file (bytes + more) := by
  simp [Position.shift, Position.ofBytes, Nat.toUInt32, UInt32.ofNat_add]

theorem toNat_offset_shift {p : Position} {bytes : Nat}
    (fits : p.offset.toNat + bytes < UInt32.size) :
    (p.shift bytes).offset.toNat = p.offset.toNat + bytes := by
  have bytes_fit : bytes < UInt32.size := by omega
  rw [Position.shift, UInt32.toNat_add, Nat.toUInt32, UInt32.toNat_ofNat_of_lt' bytes_fit]
  exact Nat.mod_eq_of_lt fits

theorem lexeme_place_shift (file : String) (start bytes : Nat) (pieces : List (Kind × List Char)) :
    Lexeme.place file (start + bytes) pieces =
      (Lexeme.place file start pieces).map (Token.shift bytes) := by
  induction pieces generalizing start with
  | nil => rfl
  | cons piece pieces ih =>
    have next := ih (start + utf8Length piece.2)
    rw [Nat.add_right_comm] at next
    simp [Lexeme.place, Token.shift, Span.shift, Span.ofBytes, shift_ofBytes, Nat.add_right_comm, next]

theorem cut_place_shift (file : String) (offset bytes : Nat) (cut : Cut) :
    cut.place file (offset + bytes) = (cut.place file offset).shift bytes := by
  induction cut generalizing offset with
  | finished => rfl
  | stopped layout passed cause =>
    simp [Cut.place, Lexed.stopped, Lexed.shift, Token.shift, Error.shift, Span.shift, Span.ofBytes,
      shift_ofBytes, Nat.add_right_comm]
  | lexeme layout l next ih =>
    simp only [Cut.place, Lexed.shift_after, Lexeme.tokens]
    rw [Nat.add_right_comm, lexeme_place_shift, Nat.add_right_comm, ih]

/-- What is lexed further on in a file is what is lexed at its start, moved. -/
theorem lexFrom_shift (file : String) (offset bytes : Nat) (cs : List Char) :
    lexFrom file (offset + bytes) cs = (lexFrom file offset cs).shift bytes :=
  cut_place_shift file offset bytes (ofChars cs)

/-! ### Up to a newline -/

/-- Layout before a text only moves what is lexed of it. -/
theorem lexFrom_layout {w : List Char} (layout : IsRun isLayout w) (file : String) (offset : Nat)
    (cs : List Char) : lexFrom file offset (w ++ cs) = lexFrom file (offset + utf8Length w) cs := by
  have run_append {v : List Char} (run : IsRun isLayout v) : IsRun isLayout (w ++ v) := by
    intro c member
    rcases List.mem_append.1 member with inside | inside
    · exact layout c inside
    · exact run c inside
  unfold lexFrom
  induction cs using scan_induction with
  | finished v run =>
    rw [ofChars_layout run, ofChars_layout (run_append run)]
    rfl
  | fault v c cs passed cause run not_layout scanned =>
    rw [ofChars_fault run not_layout scanned, ← List.append_assoc,
      ofChars_fault (run_append run) not_layout scanned]
    simp [Cut.place, Nat.add_assoc]
  | found v c cs l rest run not_layout scanned =>
    rw [ofChars_found run not_layout scanned, ← List.append_assoc,
      ofChars_found (run_append run) not_layout scanned]
    simp [Cut.place, Nat.add_assoc]

/-- Where a text ends a line, so does its last part if it has some. -/
theorem newline_mem_of_ended {before part : List Char}
    (ended : (before ++ part).getLast? = some '\n') (nonempty : part ≠ []) : '\n' ∈ part := by
  obtain ⟨c, last⟩ := Option.ne_none_iff_exists'.1 (mt List.getLast?_eq_none_iff.1 nonempty)
  rw [List.getLast?_append, last, Option.some_or] at ended
  exact List.mem_of_getLast? (last.trans ended)

theorem newline_mem_of_ended_cons {w cs : List Char} {c : Char}
    (ended : (w ++ c :: cs).getLast? = some '\n') (not_layout : isLayout c = false) :
    '\n' ∈ cs := by
  rcases List.mem_cons.1 (newline_mem_of_ended ended (List.cons_ne_nil c cs)) with rfl | inside
  · cases not_layout
  · exact inside

/-- What follows a part without a newline ends the line. -/
theorem ended_of_append {before part rest : List Char}
    (ended : (before ++ (part ++ rest)).getLast? = some '\n') (nonempty : part ≠ [])
    (in_line : '\n' ∉ part) : rest.getLast? = some '\n' := by
  rw [← List.append_assoc, List.getLast?_append] at ended
  cases last : rest.getLast? with
  | some c => simpa [last] using ended
  | none =>
    rw [last, Option.none_or] at ended
    exact absurd (newline_mem_of_ended ended nonempty) in_line

/-- The lines before a text are lexed first, and then the text, unless there is an error before. -/
theorem lexFrom_lines {file : String} {offset : Nat} {lines : List Char}
    (ended : lines.getLast? = some '\n') (cs : List Char) :
    lexFrom file offset (lines ++ cs) =
      (lexFrom file offset lines).andThen (lexFrom file (offset + utf8Length lines) cs) := by
  -- The induction is on the lexemes of the lines: after each of them, the rest still ends a line.
  induction lines using scan_induction generalizing offset with
  | finished w layout =>
    rw [lexFrom_layout layout]
    simp [lexFrom, ofChars_layout layout, Cut.place, Lexed.andThen, Lexed.finished, Lexed.after]
  | fault w c us passed cause layout not_layout scanned =>
    have scanned' : scan c (us ++ cs) = .fault passed cause := by
      rw [scan_extend (newline_mem_of_ended_cons ended not_layout), scanned]
      rfl
    unfold lexFrom
    rw [List.append_assoc, List.cons_append, ofChars_fault layout not_layout scanned',
      ofChars_fault layout not_layout scanned]
    rfl
  | found w c us l rest layout not_layout scanned ih =>
    have scanned' : scan c (us ++ cs) = .found l (rest ++ cs) := by
      rw [scan_extend (newline_mem_of_ended_cons ended not_layout), scanned]
      rfl
    have parts := scan_append scanned
    have ended : rest.getLast? = some '\n' := by
      rw [← parts] at ended
      exact ended_of_append ended (text_ne_nil_of_scan scanned) (newline_not_mem_text scanned)
    obtain ⟨d, ds, rfl⟩ := List.exists_cons_of_ne_nil
      (show rest ≠ [] by rintro rfl; cases ended)
    have ends_same : endsBefore l (d :: ds ++ cs) = endsBefore l (d :: ds) := rfl
    unfold lexFrom at ih ⊢
    rw [List.append_assoc, List.cons_append, ofChars_found layout not_layout scanned',
      ofChars_found layout not_layout scanned, ends_same, ← parts]
    by_cases ends : endsBefore l (d :: ds) = true
    · rw [if_pos ends, if_pos ends]
      simp only [Cut.place, Lexed.after_andThen]
      rw [ih ended]
      simp [Nat.add_assoc]
    · rw [if_neg ends, if_neg ends]
      rfl

/-! ### Sources -/

/-- Every place that is lexed lies in the text. -/
theorem Lossless.place_le {file : String} {cs : List Char} {lexed : Lexed}
    (h : Lossless file [] cs lexed) {p : Position} (member : p ∈ lexed.places) :
    p.offset.toNat ≤ utf8Length cs := by
  have error_le {e : Error} (failed : lexed.error = some e) :
      e.position.offset.toNat ≤ utf8Length cs := by
    obtain ⟨passed, rest, text, after⟩ := h.error failed
    rw [after.offset, show cs = passed ++ rest from text, utf8Length_append]
    exact Nat.le_add_right _ _
  rcases List.mem_append.1 member with inside | inside
  · obtain ⟨known, -, -, tokens, pieces, -⟩ := h.known
    obtain ⟨t, is_token, is_place⟩ := List.mem_flatMap.1 inside
    rw [tokens] at is_token
    rcases List.mem_append.1 is_token with is_known | is_error
    · obtain ⟨before, after, text, stands⟩ := (pieces t is_known).stands
      have bytes : utf8Length cs = _ := congrArg utf8Length text
      simp only [utf8Length_append] at bytes
      have start := stands.start
      have stop := stands.stop
      simp only [List.mem_cons, List.not_mem_nil, or_false] at is_place
      rcases is_place with rfl | rfl <;> omega
    · obtain ⟨e, failed, rfl⟩ := Option.map_eq_some_iff.1 (Option.mem_toList.1 is_error)
      simp only [Error.token, List.mem_cons, List.not_mem_nil, or_false, or_self] at is_place
      rw [is_place]
      exact error_le failed
  · obtain ⟨e, failed, rfl⟩ := Option.map_eq_some_iff.1 (Option.mem_toList.1 inside)
    exact error_le failed

/-- A source with a newline is lexed up to the newline and, if there is no error, after it, where it
is lexed as if it stood alone but for its places, which lie further on. -/
theorem lex_line {s t : String} (fits : (s ++ "\n" ++ t).utf8ByteSize < UInt32.size)
    (file : String) :
    (∀ e, (lex (s ++ "\n") file).error = some e →
      lex (s ++ "\n" ++ t) file = lex (s ++ "\n") file) ∧
    ((lex (s ++ "\n") file).error = none →
      lex (s ++ "\n" ++ t) file =
        .after (lex (s ++ "\n") file).tokens ((lex t file).shift (s.utf8ByteSize + 1)) ∧
      ∀ p ∈ (lex t file).places,
        (p.shift (s.utf8ByteSize + 1)).offset.toNat = p.offset.toNat + (s.utf8ByteSize + 1)) := by
  have ended : (s ++ "\n").toList.getLast? = some '\n' := by simp
  have bytes : utf8Length (s ++ "\n").toList = s.utf8ByteSize + 1 := by
    rw [utf8Length_toList, String.utf8ByteSize_append]
    rfl
  have lines : lexFrom file 0 ((s ++ "\n").toList ++ t.toList) = _ := lexFrom_lines ended t.toList
  rw [bytes, lexFrom_shift, ← String.toList_append] at lines
  have lines : lex (s ++ "\n" ++ t) file =
      (lex (s ++ "\n") file).andThen ((lex t file).shift (s.utf8ByteSize + 1)) := lines
  rw [String.utf8ByteSize_append, ← utf8Length_toList (s ++ "\n"), bytes] at fits
  refine ⟨?_, ?_⟩
  · intro e failed
    rw [lines, Lexed.andThen, failed]
  · intro no_error
    refine ⟨by rw [lines, Lexed.andThen, no_error], ?_⟩
    intro p member
    have inside := (lossless_lex (by omega) file).place_le member
    rw [utf8Length_toList] at inside
    exact toNat_offset_shift (by omega)

/-- An open string ends with its line, whatever follows; a line without an error is followed by what
the next one holds. -/
theorem lex_line_string :
    ("\"a" ++ "\n" ++ "\"").utf8ByteSize < UInt32.size ∧
      lex ("\"a" ++ "\n" ++ "\"") defaultFile = lex ("\"a" ++ "\n") defaultFile ∧
      ("$f" ++ "\n" ++ ")").utf8ByteSize < UInt32.size ∧
      lex ("$f" ++ "\n" ++ ")") defaultFile =
        .after [⟨.name, "$f", .ofBytes defaultFile 0 2⟩]
          ⟨[⟨.mark .rightParen, ")", .ofBytes defaultFile 3 4⟩], none⟩ := by
  have fits : ("\"a" ++ "\n" ++ "\"").utf8ByteSize < UInt32.size := by decide
  have fits' : ("$f" ++ "\n" ++ ")").utf8ByteSize < UInt32.size := by decide
  have failed : (lex ("\"a" ++ "\n") defaultFile).error =
      some ⟨.unclosedString, .ofBytes defaultFile 3⟩ := by decide +kernel
  have line : lex ("$f" ++ "\n") defaultFile = ⟨[⟨.name, "$f", .ofBytes defaultFile 0 2⟩], none⟩ := by
    decide +kernel
  have next : (lex ")" defaultFile).shift ("$f".utf8ByteSize + 1) =
      ⟨[⟨.mark .rightParen, ")", .ofBytes defaultFile 3 4⟩], none⟩ := by decide +kernel
  have no_error : (lex ("$f" ++ "\n") defaultFile).error = none := by rw [line]
  have joined := ((lex_line fits' defaultFile).2 no_error).1
  rw [line, next] at joined
  exact ⟨fits, (lex_line fits defaultFile).1 _ failed, fits', joined⟩

end WasmText
