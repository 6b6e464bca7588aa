import WasmText.Proofs.Excerpt
import WasmText.Proofs.Phases
import WasmText.Proofs.TokenText

/-!
# The caret under a token

The report of an error that names a token shows the line where the token begins, and on the next line
a caret after dashes. The dashes count the bytes of what the report shows of the line before the
token. A string before the token may hold characters of several bytes, and then the caret stands too
far to the right. It stands under the token exactly if there are none. If there are as many dashes as
a field is wide at most, the caret has no room, and there is no report.

## What is proved

* `rows_of_place`, `dashes_of_place`: the excerpt for a character that is seen.
* `length_dashed_eq_iff`: when a caret stands under its place.
* `Error.Names.render_of_lt`, `Error.Names.render_of_le`: the report of an error that names a token, and
  when there is none.
* `caret_exact`: how the report of an error shows the token that it names.
-/

namespace WasmText

open Text Lexeme TokenCursor Parse

/-! ### Labels -/

theorem Kind.newline_not_mem_label (k : Kind) : '\n' ∉ k.label.toList := by
  have labels : ∀ k ∈ Kind.all, '\n' ∉ k.label.toList := by decide +kernel
  exact labels k (Kind.mem_all k)

theorem Cause.newline_not_mem_listKinds (kinds : List Kind) :
    '\n' ∉ (listKinds kinds).toList := by
  have inside : '\n' ∉ (", ".intercalate (kinds.map Kind.label)).toList := by
    induction kinds with
    | nil => simp
    | cons k kinds ih =>
      cases kinds with
      | nil => simpa using k.newline_not_mem_label
      | cons k' kinds =>
        rw [List.map_cons, List.map_cons, String.intercalate_cons_cons, ← List.map_cons]
        simpa [k.newline_not_mem_label] using ih
  simpa [listKinds] using inside

namespace Diagnostic

/-! ### The line of a place -/

/-- What a report shows of a line before a place in it. -/
def shownBefore (before : List Char) : List Char :=
  (lineStart before).dropWhile isIndent

/-- What stands before a place on the line of a report that shows it. -/
def numbered (before : List Char) : List Char :=
  Nat.toDigits 10 (1 + before.count '\n') ++ " | ".toList ++ shownBefore before

/-- The margin of the report for a place. -/
def gutter (before : List Char) : List Char :=
  List.replicate ((Nat.toDigits 10 (1 + before.count '\n')).length + 1) ' ' ++ ['|']

/-- What stands before the caret in the report for a place. -/
def dashed (before : List Char) : List Char :=
  gutter before ++ ' ' :: List.replicate (utf8Length (shownBefore before)) '-'

theorem not_isIndent_of_isGraphic {c : Char} (h : IsGraphic c) : isIndent c = false := by
  rw [Bool.eq_false_iff]
  intro indent
  simp only [isIndent, Bool.or_eq_true, beq_iff_eq] at indent
  rcases indent with rfl | rfl <;> exact absurd h (by decide)

theorem lineEnd_cons_of_isGraphic {c : Char} (h : IsGraphic c) (cs : List Char) :
    lineEnd (c :: cs) = c :: lineEnd cs := by
  rw [lineEnd, if_neg h.ne_newline]

theorem trimEnd_append_cons {c : Char} (h : Unicode.isWhitespace c = false) (xs cs : List Char) :
    trimEnd (xs ++ c :: cs) = xs ++ c :: trimEnd cs := by
  have reversed : (xs ++ c :: cs).reverse = cs.reverse ++ c :: xs.reverse := by simp
  unfold trimEnd
  rw [reversed, dropWhile_append_cons h]
  simp

theorem mem_of_mem_trimEnd {cs : List Char} {c : Char} (h : c ∈ trimEnd cs) : c ∈ cs := by
  have begins : trimEnd cs <+: cs := List.rdropWhile_prefix Unicode.isWhitespace cs
  exact begins.subset h

/-- The blanks that indent a line take one byte each. -/
theorem utf8Length_takeWhile_isIndent (cs : List Char) :
    utf8Length (cs.takeWhile isIndent) = (cs.takeWhile isIndent).length := by
  refine (utf8Length_eq_length_iff _).2 fun c member => ?_
  have indent := List.mem_takeWhile_imp member
  simp only [isIndent, Bool.or_eq_true, beq_iff_eq] at indent
  rcases indent with rfl | rfl <;> decide

/-- The dashes of an excerpt count the bytes that are shown before the place. -/
theorem utf8Length_shownBefore (before : List Char) :
    utf8Length (lineStart before) - ((lineStart before).takeWhile isIndent).length =
      utf8Length (shownBefore before) := by
  have bytes := congrArg utf8Length ((lineStart before).takeWhile_append_dropWhile (p := isIndent))
  rw [utf8Length_append, utf8Length_takeWhile_isIndent] at bytes
  unfold shownBefore
  omega

/-- The rows for a character that is seen show the character, after what its line has before it, and a
caret after dashes. -/
theorem rows_of_place {c : Char} (graphic : IsGraphic c) (before cs : List Char) :
    rows ⟨1 + before.count '\n', lineStart before ++ lineEnd (c :: cs),
        utf8Length (lineStart before)⟩ =
      [gutter before, numbered before ++ c :: trimEnd (lineEnd cs), dashed before ++ ['^']] := by
  have not_indent := not_isIndent_of_isGraphic graphic
  have shown : shownLine (lineStart before ++ c :: lineEnd cs) =
      shownBefore before ++ c :: trimEnd (lineEnd cs) := by
    rw [shownLine, dropWhile_append_cons not_indent, trimEnd_append_cons graphic.not_isWhitespace]
    rfl
  rw [lineEnd_cons_of_isGraphic graphic]
  simp only [rows, dashes, shown, takeWhile_append_cons not_indent, utf8Length_shownBefore]
  simp [bar, gutter, dashed, numbered, lineNumber]

/-- The dashes count the bytes that are shown before the character. -/
theorem dashes_of_place {c : Char} (graphic : IsGraphic c) (before cs : List Char) :
    dashes ⟨1 + before.count '\n', lineStart before ++ lineEnd (c :: cs),
        utf8Length (lineStart before)⟩ = utf8Length (shownBefore before) := by
  rw [dashes, lineEnd_cons_of_isGraphic graphic,
    takeWhile_append_cons (not_isIndent_of_isGraphic graphic), utf8Length_shownBefore]

/-- A caret stands as many places too far to the right as there are bytes more than characters
before its place. -/
theorem length_dashed (before : List Char) :
    (dashed before).length + (shownBefore before).length =
      (numbered before).length + utf8Length (shownBefore before) := by
  have bar : " | ".toList.length = 3 := rfl
  simp only [dashed, gutter, numbered, List.length_append, List.length_cons, List.length_nil,
    List.length_replicate, bar]
  omega

/-- A caret stands under its place exactly if every character that is shown before it takes one
byte. -/
theorem length_dashed_eq_iff (before : List Char) :
    (dashed before).length = (numbered before).length ↔ ∀ c ∈ shownBefore before, c.utf8Size = 1 := by
  have lengths := length_dashed before
  rw [← utf8Length_eq_length_iff]
  omega

/-! ### The lines of a report -/

theorem newline_not_mem_headline {e : Error} {t : Token} (blames : Blames (some t) e.cause)
    (line : '\n' ∉ t.text.toList) : '\n' ∉ headline e := by
  obtain ⟨cause, position⟩ := e
  have shown : '\n' ∉ t.display.toList := by
    simp [Token.display, line, t.kind.newline_not_mem_label]
  cases blames <;>
    simp [headline, Cause.tip, Cause.name, Cause.newline_not_mem_listKinds, line, shown]

/-- Where only a newline ends a line, it is trimmed. -/
theorem newline_not_mem_trimEnd {line text : List Char} (in_text : '\n' ∉ text)
    (ends : line = text ++ ['\n'] ∨ line = text) : '\n' ∉ trimEnd line := by
  have trimmed : trimEnd line = trimEnd text := by
    rcases ends with rfl | rfl
    · exact List.rdropWhile_concat_pos Unicode.isWhitespace text '\n' (by decide)
    · rfl
  rw [trimmed]
  exact fun member => in_text (mem_of_mem_trimEnd member)

theorem newline_not_mem_trimEnd_lineEnd (cs : List Char) : '\n' ∉ trimEnd (lineEnd cs) := by
  obtain ⟨_, -, text, in_text, ends⟩ := exists_lineEnd_append cs
  exact newline_not_mem_trimEnd in_text (ends.imp_right And.left)

theorem shownBefore_suffix (before : List Char) : shownBefore before <:+ before :=
  (List.dropWhile_suffix isIndent).trans (List.rtakeWhile_suffix _ before)

theorem newline_not_mem_shownBefore (before : List Char) : '\n' ∉ shownBefore before := by
  intro member
  exact newline_not_mem_lineStart before ((List.dropWhile_sublist isIndent).subset member)

theorem newline_not_mem_toDigits (n : Nat) : '\n' ∉ Nat.toDigits 10 n := by
  intro member
  exact absurd (Nat.isDigit_of_mem_toDigits (by decide) (by decide) member) (by decide)

theorem newline_not_mem_numbered (before : List Char) : '\n' ∉ numbered before := by
  simp [numbered, newline_not_mem_toDigits, newline_not_mem_shownBefore]

theorem newline_not_mem_dashed (before : List Char) : '\n' ∉ dashed before := by
  simp [dashed, gutter]

end Diagnostic

/-! ### The token that an error names -/

open Diagnostic

/-- The token of a source that an error names, after a text and before another one. -/
structure Error.Names (e : Error) (source file : String) (t : Token) (before after : List Char) :
    Prop where
  /-- It is one of the tokens. -/
  member : t ∈ (lex source file).tokens
  /-- The error says something true of it. -/
  blames : Blames (some t) e.cause
  /-- The error stands where it begins. -/
  position : e.position = t.span.start
  /-- Its text is found in the source. -/
  text : source.toList = before ++ (t.text.toList ++ after)
  /-- There it stands. -/
  stands : t.StandsAfter file before

theorem exists_names {source file : String} {e : Error} (fits : source.utf8ByteSize < UInt32.size)
    (lexed : (lex source file).error = none) (failed : Module.ofSource source file = .error e)
    (not_end : ∀ expected, e.cause ≠ .unexpectedEnd expected) :
    ∃ t before after, e.Names source file t before after ∧ t.kind ≠ .error := by
  rw [ofSource_of_lex_none lexed] at failed
  obtain ⟨others, t, rest, row, blames, position⟩ := exists_blamed failed not_end
  have member : t ∈ (lex source file).tokens := by simp [row]
  obtain ⟨known, gaps, last, tokens, pieces, -⟩ := (lossless_lex fits file).known
  rw [lexed, Option.map_none, Option.toList_none, List.append_nil] at tokens
  have piece := pieces t (tokens ▸ member)
  obtain ⟨before, after, text, stands⟩ := piece.stands
  exact ⟨t, before, after, ⟨member, blames, position, text, stands⟩, piece.kind⟩

section

variable {source file : String} {e : Error} {t : Token} {before after : List Char}
  (h : e.Names source file t before after) {c : Char} {cs : List Char}
  (spelled : t.text.toList = c :: cs)

include h spelled

/-- The place of a token that an error names is found in the line where the token begins. -/
theorem Error.Names.placeAt?_eq :
    placeAt? source.toList e.position.offset.toNat =
      some ⟨1 + before.count '\n', lineStart before ++ lineEnd (c :: (cs ++ after)),
        utf8Length (lineStart before)⟩ := by
  have place := placeAt?_char before (cs ++ after) (Or.inl c.utf8Size_pos)
  rw [h.position, h.stands.start, h.text, spelled]
  exact place

variable (graphic : IsGraphic c)

include graphic

/-- The report of an error that names a token: what the line has before the token and the token are
shown, and a caret under dashes. -/
theorem Error.Names.render_of_lt (fits : utf8Length (shownBefore before) < maxWidth) :
    render e source = .ok (String.ofList (unlines [headline e, "-> ".toList ++ file.toList,
      gutter before, numbered before ++ c :: trimEnd (lineEnd (cs ++ after)),
      dashed before ++ ['^']])) := by
  have found := h.placeAt?_eq spelled
  rw [render_of_placeAt?_lt found (by rwa [dashes_of_place graphic]), rows_of_place graphic, heading,
    h.position, h.stands.startFile]
  rfl

/-- There is no report if the caret has no room. -/
theorem Error.Names.render_of_le (wide : maxWidth ≤ utf8Length (shownBefore before)) :
    render e source = .error .fieldTooWide :=
  render_of_placeAt?_le (h.placeAt?_eq spelled) (by rwa [dashes_of_place graphic])

end

/-- The report of an error that names a token has five rows, unless as many bytes are shown of the
line before the token as a field is wide at most: then there is none. The fourth row shows the line of
the source where the token begins, from its first character that is no blank on, and the fifth has a
caret after a bar and dashes. The caret stands under the first character of the token exactly if every
character that is shown of the line before the token takes one byte. -/
theorem caret_exact {source file : String} {e : Error} (fits : source.utf8ByteSize < UInt32.size)
    (lexed : (lex source file).error = none) (failed : Module.ofSource source file = .error e)
    (not_end : ∀ expected, e.cause ≠ .unexpectedEnd expected) :
    ∃ t before after c cs five, e.Names source file t before after ∧ t.text.toList = c :: cs ∧
      five = [headline e, "-> ".toList ++ file.toList, gutter before,
        numbered before ++ c :: trimEnd (lineEnd (cs ++ after)), dashed before ++ ['^']] ∧
      (utf8Length (shownBefore before) < maxWidth →
        ∃ text, render e source = .ok text ∧ text.toList = unlines five ∧
          ('\n' ∉ file.toList → lines text.toList = five.map fun row => row ++ ['\n'])) ∧
      (maxWidth ≤ utf8Length (shownBefore before) → render e source = .error .fieldTooWide) ∧
      ((dashed before).length = (numbered before).length ↔
        ∀ d ∈ shownBefore before, d.utf8Size = 1) := by
  obtain ⟨t, before, after, names, no_error⟩ := exists_names fits lexed failed not_end
  have seen := isSeen_of_mem_lex names.member no_error
  obtain ⟨c, cs, spelled, graphic⟩ := seen.head
  refine ⟨t, before, after, c, cs, _, names, spelled, rfl, ?_, names.render_of_le spelled graphic,
    length_dashed_eq_iff before⟩
  intro room
  refine ⟨_, names.render_of_lt spelled graphic room, String.toList_ofList, ?_⟩
  intro file_in_line
  rw [String.toList_ofList]
  refine lines_flatMap_line ?_
  simp [newline_not_mem_headline names.blames seen.line, file_in_line, gutter,
    newline_not_mem_numbered, newline_not_mem_trimEnd_lineEnd, newline_not_mem_dashed,
    graphic.ne_newline.symm]

/-- A parameter with a name has one type, and the caret stands under the second. -/
theorem caret_exact_parameter :
    Module.ofSource "(module\n  (func (param $x i32 i32)))" defaultFile =
        .error ⟨.unexpectedToken [.rightParen] "I32(i32)", .ofBytes defaultFile 30⟩ ∧
      ∃ before c rest text first second third,
        render ⟨.unexpectedToken [.rightParen] "I32(i32)", .ofBytes defaultFile 30⟩
            "(module\n  (func (param $x i32 i32)))" = .ok text ∧
          lines text.toList = [first, second, third, numbered before ++ c :: rest ++ ['\n'],
            dashed before ++ ['^'] ++ ['\n']] ∧
          (dashed before).length = (numbered before).length := by
  have fits : "(module\n  (func (param $x i32 i32)))".utf8ByteSize < UInt32.size := by decide
  have lexed : (lex "(module\n  (func (param $x i32 i32)))" defaultFile).error = none := by
    decide +kernel
  have failed : Module.ofSource "(module\n  (func (param $x i32 i32)))" defaultFile =
      .error ⟨.unexpectedToken [.rightParen] "I32(i32)", .ofBytes defaultFile 30⟩ := by
    decide +kernel
  have bytes :
      ("(module\n  (func (param $x i32 i32)))".toList.all fun d => d.utf8Size == 1) = true := by
    decide
  obtain ⟨t, before, after, c, cs, _, names, -, rfl, shown, -, under⟩ :=
    caret_exact fits lexed failed (fun _ => nofun)
  have inside : shownBefore before ++ (t.text.toList ++ after) <:+
      "(module\n  (func (param $x i32 i32)))".toList := by
    obtain ⟨others, parts⟩ := shownBefore_suffix before
    exact ⟨others, by rw [names.text, ← List.append_assoc, parts]⟩
  have room : utf8Length (shownBefore before) < maxWidth := by
    obtain ⟨others, parts⟩ := inside
    have length := congrArg utf8Length parts
    have whole : utf8Length "(module\n  (func (param $x i32 i32)))".toList < maxWidth := by decide
    rw [utf8Length_append, utf8Length_append] at length
    omega
  obtain ⟨text, rendered, -, rows⟩ := shown room
  refine ⟨failed, before, c, trimEnd (lineEnd (cs ++ after)), text, _, _, _, rendered,
    rows (by decide), under.2 fun d member => ?_⟩
  exact eq_of_beq (List.all_eq_true.1 bytes d (inside.subset (List.mem_append_left _ member)))

/-- A character of two bytes before the token takes the caret one place too far. -/
theorem caret_two_bytes :
    Module.ofSource "(module (func (export \"é\") $x))" defaultFile =
        .error ⟨.unexpectedToken [.rightParen] "Name($x)", .ofBytes defaultFile 28⟩ ∧
      ∃ text first second third before_token before_caret,
        render ⟨.unexpectedToken [.rightParen] "Name($x)", .ofBytes defaultFile 28⟩
            "(module (func (export \"é\") $x))" = .ok text ∧
          lines text.toList = [first, second, third, before_token ++ "$x))\n".toList,
            before_caret ++ "^\n".toList] ∧
          '$' ∉ before_token ∧ before_token.length = 31 ∧ before_caret.length = 32 := by
  have failed : Module.ofSource "(module (func (export \"é\") $x))" defaultFile =
      .error ⟨.unexpectedToken [.rightParen] "Name($x)", .ofBytes defaultFile 28⟩ := by
    decide +kernel
  have reported :
      Diagnostic.report ⟨.unexpectedToken [.rightParen] "Name($x)", .ofBytes defaultFile 28⟩
          "(module (func (export \"é\") $x))".toList =
        .ok ["Error: UnexpectedToken (expected one of [RParen], found `Name($x)`)".toList,
          "-> shell".toList, "  |".toList, "1 | (module (func (export \"é\") $x))".toList,
          "  | ----------------------------^".toList] := by
    decide +kernel
  refine ⟨failed, _, "Error: UnexpectedToken (expected one of [RParen], found `Name($x)`)\n".toList,
    "-> shell\n".toList, "  |\n".toList, "1 | (module (func (export \"é\") ".toList,
    "  | ----------------------------".toList, by rw [render, reported]; rfl, ?_, by decide,
    by decide, by decide⟩
  rw [String.toList_ofList]
  decide +kernel

end WasmText
