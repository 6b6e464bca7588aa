import WasmText.CharCursor
import WasmText.Proofs.Lines

/-!
# Scanning is lexing

A scanner that is started at a cursor pushes the tokens that are lexed of the rest of the source,
each at its place, after those that were pushed before. It does not matter how the cursor came to its
place: the first step drops what is pending, and no step takes back a character that it has not read.

## What is proved

* `run_settle`, `run_ignore`: what can be taken back and what is pending have no effect.
* `run_word`, `run_name`, `run_number`, `run_body`, `run_string`: the steps for one lexeme do what
  its scan finds.
* `run_scan`, `run_any`: so does a scanner where a lexeme begins, and hence it lexes the rest.
* `lex_eq`, `lex_ofSource`: what is lexed from a cursor, and from the start of a source.
* `performAll_keeps`: moves keep the source, the file and what was pushed.
* `lex_after_moves`: what is lexed after any moves.
-/

namespace WasmText

open Text Lexeme Diagnostic

namespace Scanner

/-! ### What has no effect -/

theorem run_congr {s : State} {c c' : CharCursor} (h : step s c = step s c') :
    run s c = run s c' := by
  rw [run_eq, run_eq, h]

/-- Whether a character could be taken back has no effect. -/
theorem run_settle (s : State) (c : CharCursor) : run s c.settle = run s c := by
  cases s with
  | delimiter =>
    rw [run_eq, run_eq]
    show (stepDelimiter c.settle).lexed = (stepDelimiter c).lexed
    have rest : c.settle.rest = c.rest := rfl
    unfold stepDelimiter
    rw [rest]
    by_cases ends : isDelimited c.rest = true
    · rw [if_pos ends, if_pos ends]
      exact run_congr rfl
    · rw [if_neg ends, if_neg ends]
      rfl
  | _ => exact run_congr rfl

/-- What is pending has no effect where a lexeme begins. -/
theorem run_ignore (c : CharCursor) : run .any c.ignore = run .any c :=
  run_congr rfl

section

variable (passed : List Char) (pushed : List Token) (file : String)

/-! ### Layout -/

/-- Blanks before a character are passed, and the character is read. -/
theorem stepAny_cons (d : Char) (no_blank : [' ', '\t'].contains d = false) (rest : List Char) :
    stepAny ⟨passed, [], none, d :: rest, pushed, file⟩ =
      if d.isAlpha then .next .word ⟨passed, [], some d, rest, pushed, file⟩
      else if d = '$' then .next .name ⟨passed, [], some d, rest, pushed, file⟩
      else if d = '"' then .next .string ⟨passed, [], some d, rest, pushed, file⟩
      else if isNumberStart d then .next .number ⟨passed, [], none, d :: rest, pushed, file⟩
      else if d = '\n' then .next .any ⟨d :: passed, [], none, rest, pushed, file⟩
      else
        match Mark.ofChar? d with
        | some m =>
          .next .any (CharCursor.emit ⟨passed, [], some d, rest, pushed, file⟩ (.mark m))
        | none =>
          fail ⟨passed, [], none, d :: rest, pushed, file⟩
            (.unexpectedCharacter (describe (some d))) := by
  unfold stepAny
  rw [CharCursor.discardRun_eq, CharCursor.accept_eq,
    CharCursor.acceptIf_false (by simpa using no_blank)]
  rfl

theorem run_layout_cons {d : Char} (layout : isLayout d = true) (rest : List Char) :
    run .any ⟨passed, [], none, d :: rest, pushed, file⟩ =
      run .any ⟨d :: passed, [], none, rest, pushed, file⟩ := by
  by_cases blank : [' ', '\t'].contains d = true
  · have together :
        CharCursor.discardRun [' ', '\t'] ⟨passed, [], none, d :: rest, pushed, file⟩ =
          CharCursor.discardRun [' ', '\t'] ⟨d :: passed, [], none, rest, pushed, file⟩ := by
      rw [CharCursor.discardRun_eq, CharCursor.accept_eq, CharCursor.acceptIf_cons_true rfl blank]
      rfl
    exact run_congr (show stepAny _ = stepAny _ by rw [stepAny, together]; rfl)
  · have newline : d = '\n' := by simp_all [isLayout]
    subst newline
    rw [run_eq]
    exact congrArg Step.lexed (stepAny_cons passed pushed file '\n' rfl rest)

/-- Layout is passed. -/
theorem run_layout {w : List Char} (layout : IsRun isLayout w) (rest : List Char) :
    run .any ⟨passed, [], none, w ++ rest, pushed, file⟩ =
      run .any ⟨w.reverse ++ passed, [], none, rest, pushed, file⟩ := by
  induction w generalizing passed with
  | nil => rfl
  | cons d w ih =>
    rw [List.cons_append, run_layout_cons passed pushed file (layout d List.mem_cons_self),
      ih (d :: passed) fun c member => layout c (List.mem_cons_of_mem d member), List.reverse_cons,
      List.append_assoc]
    rfl

/-! ### The end of a lexeme -/

/-- What is pushed after a scan of the rest: the tokens of the lexeme that was found, and more if it
may end there; or the error for the fault. -/
def afterScan : Scan Lexeme → Lexed
  | .found l rest =>
    if Cut.endsBefore l rest then
      run .any ⟨l.text.reverse ++ passed, [], none, rest,
        pushed ++ l.tokens file (utf8Length passed), file⟩
    else
      .after (pushed ++ l.tokens file (utf8Length passed))
        (.stopped file (utf8Length passed + utf8Length l.text)
          (.missingDelimiter (describe rest.head?)))
  | .fault taken cause =>
    .after pushed (.stopped file (utf8Length passed + utf8Length taken) cause)

/-- A lexeme that is no literal may end anywhere. -/
theorem afterScan_found {l : Lexeme} (no_literal : l.isLiteral = false) (rest : List Char) :
    afterScan passed pushed file (.found l rest) =
      run .any ⟨l.text.reverse ++ passed, [], none, rest,
        pushed ++ l.tokens file (utf8Length passed), file⟩ :=
  if_pos (by rw [Cut.endsBefore, no_literal]; rfl)

/-- After a literal a delimiter is looked for. -/
theorem afterScan_literal {l : Lexeme} (literal : l.isLiteral = true) (rest : List Char) :
    afterScan passed pushed file (.found l rest) =
      run .delimiter ⟨l.text.reverse ++ passed, [], none, rest,
        pushed ++ l.tokens file (utf8Length passed), file⟩ := by
  have ends : Cut.endsBefore l rest = isDelimited rest := by rw [Cut.endsBefore, literal]; rfl
  have offset : utf8Length passed + utf8Length l.text = utf8Length (l.text.reverse ++ passed) := by
    rw [utf8Length_append, utf8Length_reverse, Nat.add_comm]
  rw [run_eq]
  show _ = (stepDelimiter _).lexed
  rw [afterScan, ends, offset, stepDelimiter]
  split
  · rfl
  · rfl

/-- What is pending is pushed as one token, and the mark comes after it. -/
theorem emit_eq {c : CharCursor} (chars : List Char) (pending : c.sinceMark = chars.reverse)
    (kind : Kind) :
    c.emit kind = ⟨chars.reverse ++ c.passed, [], none, c.rest,
      c.pushed ++ Lexeme.place c.file (utf8Length c.passed) [(kind, chars)], c.file⟩ := by
  have text : c.pendingText = chars := by rw [CharCursor.pendingText, pending, List.reverse_reverse]
  have offset : c.offset = utf8Length c.passed + utf8Length chars := by
    rw [CharCursor.offset, pending, utf8Length_reverse]
    rfl
  rw [CharCursor.emit, text, offset, ← pending]
  rfl

/-- A pending operator is pushed as its three tokens, and the mark comes after them. -/
theorem emitOperator_eq {c : CharCursor} {k : Keyword} {stem : List Char} {s : Sign}
    (pending : c.sinceMark = (stem ++ ['_', s.letter]).reverse)
    (spelled : k.spelling = String.ofList stem) :
    emitOperator c k stem s = ⟨(stem ++ ['_', s.letter]).reverse ++ c.passed, [], none, c.rest,
      c.pushed ++ (Lexeme.operator k s).tokens c.file (utf8Length c.passed), c.file⟩ := by
  have letter : s.letter.utf8Size = 1 := by cases s <;> rfl
  have underscore : '_'.utf8Size = 1 := rfl
  have offset : c.offset = c.start + utf8Length stem + 1 + 1 := by
    rw [CharCursor.offset, pending, utf8Length_reverse, utf8Length_append]
    simp [letter, underscore, Nat.add_assoc]
  have tokens : (Lexeme.operator k s).tokens c.file (utf8Length c.passed) =
      [⟨.keyword k, String.ofList stem, .ofBytes c.file c.start (c.start + utf8Length stem)⟩,
        ⟨.mark .underscore, String.ofList ['_'],
          .ofBytes c.file (c.start + utf8Length stem) (c.start + utf8Length stem + 1)⟩,
        ⟨.sign s, String.ofList [s.letter],
          .ofBytes c.file (c.start + utf8Length stem + 1) c.offset⟩] := by
    simp [Lexeme.tokens, pieces, Lexeme.place, spelled, letter, underscore, offset,
      CharCursor.start]
  rw [tokens, ← pending]
  simp [emitOperator, CharCursor.pushAt, CharCursor.push, CharCursor.ignore, CharCursor.start,
    CharCursor.sinceMark, CharCursor.offset]

/-! ### Marks, words, names and numbers -/

theorem run_mark {d : Char} {m : Mark} (mark : Mark.ofChar? d = some m) (rest : List Char) :
    run .any (CharCursor.emit ⟨passed, [], some d, rest, pushed, file⟩ (.mark m)) =
      afterScan passed pushed file (.found (.mark m) rest) := by
  obtain rfl := Mark.ofChar?_eq_some_iff.1 mark
  rw [afterScan_found passed pushed file rfl, emit_eq [m.char] rfl]
  rfl

theorem lexed_endWord (word rest : List Char) :
    (endWord ⟨passed, word.reverse, none, rest, pushed, file⟩ word).lexed =
      afterScan passed pushed file
        (match ofWord? word with
        | some l => .found l rest
        | none => .fault [] (.unknownWord (String.ofList word))) := by
  unfold endWord ofWord?
  cases parts : splitSign? word with
  | some split =>
    obtain ⟨stem, s⟩ := split
    obtain rfl := splitSign?_eq_some_iff.1 parts
    dsimp only
    cases known : Keyword.ofSpelling? (String.ofList stem) with
    | some k =>
      have spelled := Keyword.ofSpelling?_eq_some_iff.1 known
      have text : (Lexeme.operator k s).text = stem ++ ['_', s.letter] := by
        simp [Lexeme.text, pieces, spelled]
      dsimp only [Option.map_some]
      rw [afterScan_found passed pushed file rfl, text, emitOperator_eq rfl spelled]
      rfl
    | none => rfl
  | none =>
    dsimp only
    cases known : Keyword.ofSpelling? (String.ofList word) with
    | some k =>
      have spelled := Keyword.ofSpelling?_eq_some_iff.1 known
      have text : (Lexeme.word k).text = word := by simp [Lexeme.text, pieces, spelled]
      dsimp only [Option.map_some]
      rw [afterScan_found passed pushed file rfl, text, emit_eq word rfl]
      simp [Step.lexed, Lexeme.tokens, pieces, spelled]
    | none => rfl

theorem run_word {d : Char} (letter : d.isAlpha = true) (cs : List Char) :
    run .word ⟨passed, [], some d, cs, pushed, file⟩ =
      afterScan passed pushed file (scanWord (d :: cs)) := by
  have word : (d :: cs).takeWhile isWordChar = d :: cs.takeWhile isWordChar :=
    List.takeWhile_cons_of_pos (isWordChar_of_isAlpha letter)
  have rest : (d :: cs).dropWhile isWordChar = cs.dropWhile isWordChar :=
    List.dropWhile_cons_of_pos (isWordChar_of_isAlpha letter)
  have read := lexed_endWord passed pushed file ((d :: cs).takeWhile isWordChar)
    ((d :: cs).dropWhile isWordChar)
  rw [run_eq]
  refine Eq.trans ?_ read
  rw [word, rest, List.reverse_cons]
  show (stepWord _).lexed = _
  simp [stepWord, CharCursor.advance, CharCursor.pendingText, CharCursor.sinceMark, Number.run]

theorem run_name (cs : List Char) :
    run .name ⟨passed, [], some '$', cs, pushed, file⟩ =
      afterScan passed pushed file (scanName cs) := by
  rw [run_eq]
  show (stepName _).lexed = _
  unfold stepName scanName Number.run
  dsimp only
  cases chars : cs.takeWhile isNameChar with
  | nil => rfl
  | cons c others =>
    dsimp only
    have pending : CharCursor.sinceMark (CharCursor.advance
        ⟨passed, [], some '$', cs, pushed, file⟩ (c :: others, cs.dropWhile isNameChar)) =
          ('$' :: c :: others).reverse := by
      simp [CharCursor.advance, CharCursor.sinceMark]
    rw [afterScan_literal passed pushed file rfl, emit_eq _ pending]
    simp [Step.lexed, CharCursor.advance, Lexeme.text, Lexeme.tokens, pieces]

theorem run_number (cs : List Char) :
    run .number ⟨passed, [], none, cs, pushed, file⟩ =
      afterScan passed pushed file (scanNumber cs) := by
  rw [run_eq]
  show (stepNumber _).lexed = _
  unfold stepNumber scanNumber
  obtain ⟨chars, rest⟩ := Number.split cs
  have pending : CharCursor.sinceMark (CharCursor.advance ⟨passed, [], none, cs, pushed, file⟩
      (chars, rest)) = chars.reverse := by
    simp [CharCursor.advance, CharCursor.sinceMark]
  have found : (Step.next .delimiter (CharCursor.emit (CharCursor.advance
      ⟨passed, [], none, cs, pushed, file⟩ (chars, rest)) .number)).lexed =
      afterScan passed pushed file (.found (.number chars) rest) := by
    rw [afterScan_literal passed pushed file rfl, emit_eq _ pending]
    simp [Step.lexed, CharCursor.advance, Lexeme.text, Lexeme.tokens, pieces]
  cases rest with
  | nil => exact found
  | cons d rest =>
    have offset : CharCursor.offset (CharCursor.advance ⟨passed, [], none, cs, pushed, file⟩
        (chars, d :: rest)) = utf8Length passed + utf8Length chars := by
      rw [CharCursor.offset, pending, utf8Length_reverse]
      rfl
    by_cases joined : runsOn d = true
    · simp only [CharCursor.peek, CharCursor.advance, List.head?_cons, if_pos joined] at offset ⊢
      rw [fail, offset]
      rfl
    · simp only [CharCursor.peek, CharCursor.advance, List.head?_cons, if_neg joined] at found ⊢
      exact found

/-! ### Strings -/

section

variable (since : List Char)

/-- What is pushed after a scan of a body, some of whose string is pending. -/
def afterBody : Scan (List Char) → Lexed
  | .found body rest =>
    run .delimiter ⟨'"' :: body.reverse ++ since ++ passed, [], none, rest,
      pushed ++ Lexeme.place file (utf8Length passed) [(.string, since.reverse ++ body ++ ['"'])],
      file⟩
  | .fault taken cause =>
    .after pushed (.stopped file (utf8Length passed + utf8Length since + utf8Length taken) cause)

theorem afterBody_after (before : List Char) (s : Scan (List Char)) :
    afterBody passed pushed file since (s.after before) =
      afterBody passed pushed file (before.reverse ++ since) s := by
  cases s with
  | found body rest => simp [afterBody, Scan.after]
  | fault taken cause =>
    have bytes : utf8Length passed + (utf8Length before + utf8Length since) + utf8Length taken =
        utf8Length passed + utf8Length since + (utf8Length before + utf8Length taken) := by
      omega
    simp [afterBody, Scan.after, bytes]

/-- A fault after some more of the string. -/
theorem lexed_fail_body (taken rest : List Char) (cause : Cause) :
    (fail ⟨passed, taken.reverse ++ since, none, rest, pushed, file⟩ cause).lexed =
      afterBody passed pushed file since (.fault taken cause) := by
  have bytes : utf8Length passed + (utf8Length taken + utf8Length since) =
      utf8Length passed + utf8Length since + utf8Length taken := by
    omega
  simp [fail, Step.lexed, afterBody, CharCursor.offset, CharCursor.sinceMark, CharCursor.start,
    bytes]

theorem accept_escape (c : CharCursor) :
    c.accept ['n', 't', '\\', '\'', '"'] = c.acceptIf isEscapeLetter := by
  rw [CharCursor.accept_eq]
  refine congrArg (CharCursor.acceptIf · c) (funext fun d => ?_)
  simp [isEscapeLetter, Bool.or_assoc, beq_eq_decide]

theorem stepString_cons (d : Char) (rest : List Char) :
    stepString ⟨passed, since, none, d :: rest, pushed, file⟩ =
      if d = '"' then
        .next .delimiter (CharCursor.emit ⟨passed, since, some d, rest, pushed, file⟩ .string)
      else if d = '\\' then stepEscape ⟨passed, since, some d, rest, pushed, file⟩
      else if d = '\n' then fail ⟨passed, since, some d, rest, pushed, file⟩ .unclosedString
      else if isControl d then
        fail ⟨passed, since, some d, rest, pushed, file⟩
          (.illegalControlCharacter (describe (some d)))
      else .next .string ⟨passed, since, some d, rest, pushed, file⟩ :=
  rfl

theorem run_backslash (rest : List Char) :
    run .string ⟨passed, since, none, '\\' :: rest, pushed, file⟩ =
      (stepEscape ⟨passed, since, some '\\', rest, pushed, file⟩).lexed := by
  rw [run_eq]
  show (stepString ⟨passed, since, none, '\\' :: rest, pushed, file⟩).lexed = _
  rw [stepString_cons, if_neg (by decide), if_pos rfl]

theorem stepEscape_letter {d : Char} (letter : isEscapeLetter d = true) (b : Char)
    (rest : List Char) :
    stepEscape ⟨passed, since, some b, d :: rest, pushed, file⟩ =
      .next .string ⟨passed, b :: since, some d, rest, pushed, file⟩ := by
  rw [stepEscape, accept_escape, CharCursor.acceptIf_cons_true rfl letter]
  rfl

section

variable {d : Char} (no_letter : isEscapeLetter d = false) (high : d.isHexDigit = true)

include no_letter high

theorem stepEscape_byte {e : Char} (low : e.isHexDigit = true) (b : Char) (rest : List Char) :
    stepEscape ⟨passed, since, some b, d :: e :: rest, pushed, file⟩ =
      .next .string ⟨passed, d :: b :: since, some e, rest, pushed, file⟩ := by
  rw [stepEscape, accept_escape, CharCursor.acceptIf_false (by simpa using no_letter)]
  dsimp only
  rw [CharCursor.acceptIf_cons_true rfl high]
  dsimp only
  rw [CharCursor.acceptIf_cons_true rfl low]
  rfl

theorem stepEscape_half (b : Char) (rest : List Char)
    (no_low : ∀ e ∈ rest.head?, e.isHexDigit = false) :
    stepEscape ⟨passed, since, some b, d :: rest, pushed, file⟩ =
      fail ⟨passed, d :: b :: since, none, rest, pushed, file⟩
        (.illegalEscape (describe rest.head?)) := by
  rw [stepEscape, accept_escape, CharCursor.acceptIf_false (by simpa using no_letter)]
  dsimp only
  rw [CharCursor.acceptIf_cons_true rfl high]
  dsimp only
  rw [CharCursor.acceptIf_false no_low]
  rfl

end

theorem stepEscape_none (b : Char) (rest : List Char)
    (no_letter : ∀ d ∈ rest.head?, isEscapeLetter d = false)
    (no_high : ∀ d ∈ rest.head?, d.isHexDigit = false) :
    stepEscape ⟨passed, since, some b, rest, pushed, file⟩ =
      fail ⟨passed, b :: since, none, rest, pushed, file⟩
        (.illegalEscape (describe rest.head?)) := by
  rw [stepEscape, accept_escape, CharCursor.acceptIf_false no_letter]
  dsimp only
  rw [CharCursor.acceptIf_false no_high]
  rfl

theorem run_body (rest : List Char) :
    run .string ⟨passed, since, none, rest, pushed, file⟩ =
      afterBody passed pushed file since (Quoted.scanBody rest) := by
  have here (since rest : List Char) : run .string ⟨passed, since, none, rest, pushed, file⟩ =
    (stepString ⟨passed, since, none, rest, pushed, file⟩).lexed := run_eq _ _
  have on (since rest : List Char) (d : Char) : (Step.next .string
      ⟨passed, since, some d, rest, pushed, file⟩).lexed =
      run .string ⟨passed, d :: since, none, rest, pushed, file⟩ :=
    (run_settle .string ⟨passed, since, some d, rest, pushed, file⟩).symm
  have broken := lexed_fail_body passed pushed file
  fun_induction Quoted.scanBody rest generalizing since with
  | case1 => exact (here since []).trans (broken since [] [] _)
  | case2 rest =>
    have pending : CharCursor.sinceMark ⟨passed, since, some '"', rest, pushed, file⟩ =
        (since.reverse ++ [] ++ ['"']).reverse := by
      simp [CharCursor.sinceMark]
    rw [here, stepString_cons, if_pos rfl, emit_eq _ pending]
    simp [Step.lexed, afterBody]
  | case3 =>
    rw [run_backslash, stepEscape_none _ _ _ _ _ [] (by simp) (by simp)]
    exact broken since ['\\'] [] _
  | case4 d rest letter _ ih =>
    rw [run_backslash, stepEscape_letter _ _ _ _ letter, on, ih, afterBody_after]
    rfl
  | case5 d no_letter high =>
    rw [run_backslash, stepEscape_half _ _ _ _ (eq_false_of_ne_true no_letter) high _ [] (by simp)]
    exact broken since ['\\', d] [] _
  | case6 d no_letter high e rest low _ ih =>
    rw [run_backslash, stepEscape_byte _ _ _ _ (eq_false_of_ne_true no_letter) high low, on, ih,
      afterBody_after]
    rfl
  | case7 d no_letter high e rest no_low =>
    rw [run_backslash, stepEscape_half _ _ _ _ (eq_false_of_ne_true no_letter) high _ (e :: rest)
      (by simpa using no_low)]
    exact broken since ['\\', d] (e :: rest) _
  | case8 d rest no_letter no_high =>
    rw [run_backslash, stepEscape_none _ _ _ _ _ (d :: rest) (by simpa using no_letter) (by simpa using no_high)]
    exact broken since ['\\'] (d :: rest) _
  | case9 rest =>
    rw [here, stepString_cons, if_neg (by decide), if_neg (by decide), if_pos rfl]
    exact broken since ['\n'] rest _
  | case10 d rest no_quote no_escape no_newline control =>
    rw [here, stepString_cons, if_neg no_quote, if_neg no_escape, if_neg no_newline, if_pos control]
    exact broken since [d] rest _
  | case11 d rest no_quote no_escape no_newline no_control ih =>
    rw [here, stepString_cons, if_neg no_quote, if_neg no_escape, if_neg no_newline,
      if_neg no_control, on, ih, afterBody_after]
    rfl

end

theorem run_string (cs : List Char) :
    run .string ⟨passed, [], some '"', cs, pushed, file⟩ =
      afterScan passed pushed file (scanString cs) := by
  rw [← run_settle]
  show run .string ⟨passed, ['"'], none, cs, pushed, file⟩ = _
  rw [run_body]
  unfold scanString
  cases Quoted.scanBody cs with
  | found body rest =>
    dsimp only
    rw [afterScan_literal passed pushed file rfl]
    simp [afterBody, Lexeme.text, Lexeme.tokens, pieces]
  | fault taken cause => simp [afterBody, afterScan, Nat.add_assoc]

/-! ### The rest of a source -/

/-- A scanner where a lexeme begins does what the scan of the rest finds. -/
theorem run_scan {d : Char} (not_layout : isLayout d = false) (cs : List Char) :
    run .any ⟨passed, [], none, d :: cs, pushed, file⟩ =
      afterScan passed pushed file (scan d cs) := by
  have not_blank : [' ', '\t'].contains d = false := by simp_all [isLayout]
  have not_newline : d ≠ '\n' := by rintro rfl; cases not_layout
  rw [run_eq]
  show (stepAny _).lexed = _
  rw [stepAny_cons passed pushed file d not_blank, if_neg not_newline, scan]
  split
  · rename_i letter
    exact run_word passed pushed file letter cs
  split
  · rename_i dollar
    subst dollar
    exact run_name passed pushed file cs
  split
  · rename_i quote
    subst quote
    exact run_string passed pushed file cs
  split
  · exact run_number passed pushed file (d :: cs)
  cases mark : Mark.ofChar? d with
  | some m => exact run_mark passed pushed file mark cs
  | none => rfl

/-- A scanner between lexemes lexes the rest. -/
theorem run_any (cs : List Char) :
    run .any ⟨passed, [], none, cs, pushed, file⟩ =
      .after pushed (lexFrom file (utf8Length passed) cs) := by
  -- The induction is on the lexemes of the rest: each moves the mark and is pushed.
  induction cs using Cut.scan_induction generalizing passed pushed with
  | finished w layout =>
    have nothing_left := run_layout passed pushed file layout []
    rw [List.append_nil] at nothing_left
    rw [nothing_left, run_eq, lexFrom, Cut.ofChars_layout layout]
    rfl
  | fault w d cs taken cause layout not_layout scanned =>
    rw [run_layout passed pushed file layout, run_scan _ pushed file not_layout, scanned, lexFrom,
      Cut.ofChars_fault layout not_layout scanned]
    simp [afterScan, Cut.place, Nat.add_comm]
  | found w d cs l rest layout not_layout scanned ih =>
    have start : utf8Length (w.reverse ++ passed) = utf8Length passed + utf8Length w := by
      rw [utf8Length_append, utf8Length_reverse, Nat.add_comm]
    have stop : utf8Length (l.text.reverse ++ (w.reverse ++ passed)) =
        utf8Length passed + utf8Length w + utf8Length l.text := by
      rw [utf8Length_append, utf8Length_reverse, start, Nat.add_comm]
    rw [run_layout passed pushed file layout, run_scan _ pushed file not_layout, scanned, lexFrom,
      Cut.ofChars_found layout not_layout scanned, afterScan, start]
    split
    · rw [ih, stop, Lexed.after_append]
      rfl
    · rw [Lexed.after_append]
      rfl

end

end Scanner

/-! ### Cursors -/

namespace CharCursor

/-- What a scanner pushes from a cursor on is what the rest of the source is cut into, at its place. -/
theorem lex_eq (c : CharCursor) : c.lex = .after c.pushed (lexFrom c.file c.offset c.rest) := by
  have bytes : utf8Length (c.sinceMark ++ c.passed) = c.offset := by
    rw [utf8Length_append, Nat.add_comm]
    rfl
  rw [lex, ← Scanner.run_ignore, ← bytes]
  exact Scanner.run_any (c.sinceMark ++ c.passed) c.pushed c.file c.rest

theorem lex_ofSource (source file : String) : (ofSource source file).lex = WasmText.lex source file :=
  lex_eq (ofSource source file)

/-! ### Moves -/

/-- The token that a move pushes. -/
def Move.pushed? : Move → Option Token
  | .push t => some t
  | .read | .peek | .unread | .accept _ | .discardRun _ | .ignore | .lex => none

theorem read_keeps (c : CharCursor) : c.read.2.file = c.file ∧ c.read.2.pushed = c.pushed := by
  unfold read
  split
  · exact ⟨rfl, rfl⟩
  · exact ⟨rfl, rfl⟩

theorem accept_keeps (valid : List Char) (c : CharCursor) :
    (c.accept valid).2.file = c.file ∧ (c.accept valid).2.pushed = c.pushed := by
  have read := read_keeps c
  unfold accept
  split
  · rename_i d c' taken
    rw [taken] at read
    split
    · exact read
    · exact read
  · rename_i c' taken
    rw [taken] at read
    exact read

/-- A move keeps the source and the file, and what was pushed before. -/
theorem perform_keeps (c : CharCursor) (move : Move) :
    (c.perform move).2.source = c.source ∧ (c.perform move).2.file = c.file ∧
      (c.perform move).2.pushed = c.pushed ++ move.pushed?.toList := by
  refine ⟨source_perform c move, ?_⟩
  cases move with
  | read => simpa [perform, Move.pushed?] using read_keeps c
  | accept valid => simpa [perform, Move.pushed?] using accept_keeps valid c
  | push t => exact ⟨rfl, rfl⟩
  | _ => exact ⟨rfl, (List.append_nil _).symm⟩

theorem performAll_keeps (c : CharCursor) (moves : List Move) :
    (c.performAll moves).source = c.source ∧ (c.performAll moves).file = c.file ∧
      (c.performAll moves).pushed = c.pushed ++ moves.filterMap Move.pushed? := by
  induction moves generalizing c with
  | nil => exact ⟨rfl, rfl, (List.append_nil _).symm⟩
  | cons move moves ih =>
    obtain ⟨source, file, pushed⟩ := perform_keeps c move
    obtain ⟨all_source, all_file, all_pushed⟩ := ih (c.perform move).2
    refine ⟨all_source.trans source, all_file.trans file, all_pushed.trans ?_⟩
    rw [pushed, List.append_assoc]
    cases found : move.pushed? <;> simp [found]

/-- The source ends in what comes after the cursor, and the offset is the length of what is before. -/
theorem source_eq_append_rest (c : CharCursor) :
    ∃ before, c.source = before ++ c.rest ∧ utf8Length before = c.offset :=
  ⟨c.passed.reverse ++ c.pendingText, rfl, by simp [pendingText, offset, start]⟩

end CharCursor

/-- What is lexed after some moves is what is lexed of the rest of the source alone, further on by the
bytes that were passed, after the tokens that the moves pushed. Two cursors with the same rest at the
same offset, where the same was pushed, are not told apart, whatever is pending and can be taken
back. -/
theorem lex_after_moves {source : String} (fits : source.utf8ByteSize < UInt32.size) (file : String)
    (moves : List CharCursor.Move) :
    let c := (CharCursor.ofSource source file).performAll moves
    let fresh := (CharCursor.ofSource (String.ofList c.rest) file).lex
    c.lex = .after (moves.filterMap CharCursor.Move.pushed?) (fresh.shift c.offset) ∧
      (∀ p ∈ fresh.places, (p.shift c.offset).offset.toNat = p.offset.toNat + c.offset) ∧
      (∃ before, source.toList = before ++ c.rest ∧ utf8Length before = c.offset) ∧
      ∀ c' : CharCursor, c'.rest = c.rest → c'.offset = c.offset → c'.pushed = c.pushed →
        c'.file = c.file → c'.lex = c.lex := by
  intro c fresh
  obtain ⟨same_source, same_file, all_pushed⟩ :=
    CharCursor.performAll_keeps (CharCursor.ofSource source file) moves
  have same_file : c.file = file := same_file
  have all_pushed : c.pushed = moves.filterMap CharCursor.Move.pushed? := all_pushed
  obtain ⟨before, text, bytes⟩ := c.source_eq_append_rest
  have text : source.toList = before ++ c.rest := by
    rw [← text, same_source, CharCursor.source_ofSource]
  have lengths := congrArg utf8Length text
  rw [utf8Length_append, utf8Length_toList, bytes] at lengths
  have fresh_eq : fresh = lex (String.ofList c.rest) file := CharCursor.lex_ofSource _ file
  refine ⟨?_, ?_, ⟨before, text, bytes⟩, ?_⟩
  · rw [CharCursor.lex_eq, all_pushed, same_file, fresh_eq, lex, String.toList_ofList,
      ← lexFrom_shift, Nat.zero_add]
  · intro p member
    rw [fresh_eq] at member
    have short : (String.ofList c.rest).utf8ByteSize = utf8Length c.rest := by
      rw [← utf8Length_toList, String.toList_ofList]
    have inside := (lossless_lex (by omega) file).place_le member
    rw [String.toList_ofList] at inside
    exact toNat_offset_shift (by omega)
  · intro c' rest offset pushed file
    rw [CharCursor.lex_eq, CharCursor.lex_eq, rest, offset, pushed, file]

/-- A parenthesis after a letter of two bytes is pending and can be taken back, and a token from
elsewhere was pushed. The keyword and the fault after it stand where they do in the source. -/
theorem lex_after_moves_pending :
    let moves : List CharCursor.Move :=
      [.read, .unread, .accept ['é'], .push ⟨.number, "7", .ofBytes "other" 9 10⟩, .read]
    let c := (CharCursor.ofSource "é(func $" defaultFile).performAll moves
    "é(func $".utf8ByteSize < UInt32.size ∧ (c.pendingText, c.held) = (['é', '('], some '(') ∧
      c.lex = .after
        [⟨.number, "7", .ofBytes "other" 9 10⟩, ⟨.keyword .func, "func", .ofBytes defaultFile 3 7⟩]
        (.stopped defaultFile 9 (.unexpectedNameCharacter "EOF")) := by
  intro moves c
  have fits : "é(func $".utf8ByteSize < UInt32.size := by decide
  have fresh : (CharCursor.ofSource "func $" defaultFile).lex =
      .after [⟨.keyword .func, "func", .ofBytes defaultFile 0 4⟩]
        (.stopped defaultFile 6 (.unexpectedNameCharacter "EOF")) := by
    rw [CharCursor.lex_ofSource]
    decide +kernel
  have rest : String.ofList c.rest = "func $" := by decide +kernel
  have offset : c.offset = 3 := by decide +kernel
  have moved := (lex_after_moves fits defaultFile moves).1
  rw [rest, fresh, offset] at moved
  refine ⟨fits, by decide +kernel, moved.trans ?_⟩
  decide +kernel

end WasmText
