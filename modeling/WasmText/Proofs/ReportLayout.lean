import Mathlib.Data.List.Infix
import WasmText.Proofs.Caret
import WasmText.Proofs.LineOfByte

/-!
# The layout of a report

A report is built from the error and the line of its place alone: a headline, the file, and an excerpt
of three lines with a bar in each, all in one column. The line is shown without the blanks before and
the white space after its text. The dashes before the caret are as many as the bytes of the text
before the place, so the bytes from the caret on are those of the source from the place on. If the
dashes are as many as a field is wide at most, there is no room for the caret, and no report.

## What is proved

* `isTrimmed`: what is shown of a line, and what is not.
* `exists_around`: a place is found in a piece of the source.
* `lines_rows`: the three lines of an excerpt.
* `render_layout`: the report of any error, for any source and place, and when there is none.
* `render_farOff`: a source with an error that cannot be reported.
-/

namespace WasmText

open Text

namespace Diagnostic

/-- A line in three parts: the blanks before what is shown of it, what is shown, and the white space
after it. -/
structure IsTrimmed (line indent shown tail : List Char) : Prop where
  /-- The parts are all of the line. -/
  line : line = indent ++ (shown ++ tail)
  /-- First come spaces and tabs, -/
  indent : ∀ c ∈ indent, c = ' ' ∨ c = '\t'
  /-- all that there are. -/
  begins : ∀ c ∈ (shown ++ tail).head?, c ≠ ' ' ∧ c ≠ '\t'
  /-- Last comes white space of any kind, -/
  tail : ∀ c ∈ tail, Unicode.isWhitespace c = true
  /-- all that there is. -/
  ends : ∀ c ∈ shown.getLast?, Unicode.isWhitespace c = false

theorem isIndent_iff {c : Char} : isIndent c = true ↔ c = ' ' ∨ c = '\t' := by
  simp [isIndent]

/-- A line is shown without the blanks before and the white space after its text. -/
theorem isTrimmed (line : List Char) :
    IsTrimmed line (line.takeWhile isIndent) (shownLine line)
      ((line.dropWhile isIndent).rtakeWhile Unicode.isWhitespace) := by
  have parts : shownLine line ++ (line.dropWhile isIndent).rtakeWhile Unicode.isWhitespace =
      line.dropWhile isIndent :=
    List.rdropWhile_append_rtakeWhile
  refine ⟨?_, ?_, ?_, fun c => List.mem_rtakeWhile_imp, ?_⟩
  · rw [parts, List.takeWhile_append_dropWhile]
  · exact fun c member => isIndent_iff.1 (List.mem_takeWhile_imp member)
  · intro c first
    have stops := List.head?_dropWhile_not isIndent line
    rw [← parts, first] at stops
    simpa [isIndent] using stops
  · intro c last
    have kept : shownLine line ≠ [] := by
      intro nothing
      simp [nothing] at last
    have stops := List.rdropWhile_last_not Unicode.isWhitespace (line.dropWhile isIndent) kept
    obtain rfl : (shownLine line).getLast kept = c :=
      Option.some.inj ((List.getLast?_eq_some_getLast kept).symm.trans last)
    exact Bool.eq_false_iff.2 stops

/-! ### The place -/

/-- A place that is found lies in one line of the source, after the text before it. -/
theorem exists_around {source : List Char} {p : Nat} {place : LinePlace}
    (found : placeAt? source p = some place) :
    ∃ earlier later text, source = earlier ++ (place.line ++ later) ∧
      utf8Length earlier + place.offset = p ∧ '\n' ∉ text ∧
      (place.line = text ++ ['\n'] ∨ place.line = text) := by
  by_cases empty : source = []
  · subst empty
    have start : p = 0 := by
      by_contra outside
      rw [placeAt?_eq_none_iff.2 (Nat.pos_of_ne_zero outside)] at found
      cases found
    subst start
    obtain rfl := Option.some.inj found
    exact ⟨[], [], [], rfl, rfl, List.not_mem_nil, Or.inr rfl⟩
  · obtain ⟨-, earlier, later, at_line, -, offset⟩ := (placeAt?_eq_some_iff empty).1 found
    obtain ⟨text, in_text, ends⟩ := at_line.ends
    exact ⟨earlier, later, text, at_line.text, offset, in_text, ends.imp_right And.left⟩

theorem newline_not_mem_shownLine {line text : List Char} (in_text : '\n' ∉ text)
    (ends : line = text ++ ['\n'] ∨ line = text) : '\n' ∉ shownLine line := by
  have in_shown : '\n' ∉ text.dropWhile isIndent := fun member =>
    in_text ((List.dropWhile_sublist isIndent).subset member)
  refine newline_not_mem_trimEnd in_shown ?_
  rcases ends with rfl | rfl
  · exact Or.inl (dropWhile_append_cons (by decide) text [])
  · exact Or.inr rfl

/-- The bytes that are shown from the caret on are those of the source from the place on, or from
the first character that is shown if the place lies in the blanks before it. -/
theorem drop_shownLine_prefix {source earlier later : List Char} {place : LinePlace}
    (text : source = earlier ++ (place.line ++ later)) :
    (utf8Bytes (shownLine place.line)).drop (dashes place) <+:
      (utf8Bytes source).drop (utf8Length earlier + place.offset +
        ((place.line.takeWhile isIndent).length - place.offset)) := by
  have blanks := utf8Length_takeWhile_isIndent place.line
  have way : utf8Length earlier + place.offset +
      ((place.line.takeWhile isIndent).length - place.offset) =
        utf8Length (earlier ++ place.line.takeWhile isIndent) + dashes place := by
    rw [utf8Length_append, blanks, dashes]
    omega
  have parts : source = earlier ++ place.line.takeWhile isIndent ++ (shownLine place.line ++
      ((place.line.dropWhile isIndent).rtakeWhile Unicode.isWhitespace ++ later)) := by
    have line := (isTrimmed place.line).line
    rw [text, ← List.append_assoc (shownLine place.line), List.append_assoc earlier,
      ← List.append_assoc (place.line.takeWhile isIndent), ← line]
  rw [way, parts, utf8Bytes_append, ← length_utf8Bytes, List.drop_length_add_append,
    utf8Bytes_append]
  exact List.IsPrefix.drop (List.prefix_append _ _) (dashes place)

/-! ### The excerpt -/

theorem lineNumber_eq (place : LinePlace) : lineNumber place = (toString place.number).toList :=
  String.toList_ofList.symm

/-- The lines of an excerpt, each ended by a newline, are found again in their text. -/
theorem lines_rows {place : LinePlace} (in_line : '\n' ∉ shownLine place.line) :
    lines (unlines (rows place)) = (rows place).map fun row => row ++ ['\n'] := by
  refine lines_flatMap_line ?_
  simp [rows, bar, lineNumber, in_line, newline_not_mem_toDigits]

/-- What a headline adds to the name of an error. -/
def tipNote : Option String → String
  | none => ""
  | some tip => " (" ++ tip ++ ")"

theorem headline_eq (e : Error) :
    headline e = ("Error: " ++ e.cause.name ++ tipNote e.cause.tip).toList := by
  unfold headline
  cases e.cause.tip <;> simp [tipNote]

theorem unlines_heading (e : Error) :
    unlines (heading e) =
      ("Error: " ++ e.cause.name ++ tipNote e.cause.tip ++ "\n-> " ++ e.position.file ++
        "\n").toList := by
  simp [unlines, heading, headline_eq]

end Diagnostic

open Diagnostic

/-- The report of an error has a line for its name, with the tip in parentheses if there is one, and
a line for the file. There is no more if the place lies after the end of the source. Otherwise three
lines follow, with a bar in the column after the digits of the line's number and a blank: an empty
one; the line with its number, without the blanks before and the white space after its text; and one
with a caret after as many dashes as the line has bytes between its blanks and the place. The bytes
that are shown from there on are those of the source from the place on, or from the end of the blanks
if the place lies in them. But if there are as many dashes as a field is wide at most, there is no
report at all. -/
theorem render_layout (e : Error) (source : String) :
    ∃ head, head = ("Error: " ++ e.cause.name ++ tipNote e.cause.tip ++ "\n-> " ++
        e.position.file ++ "\n").toList ∧
      (source.utf8ByteSize < e.position.offset.toNat ∧ render e source = .ok (String.ofList head) ∨
        ∃ place indent shown tail digits,
          placeAt? source.toList e.position.offset.toNat = some place ∧
          IsTrimmed place.line indent shown tail ∧ digits = (toString place.number).toList ∧
          (place.offset - indent.length < maxWidth → ∃ excerpt,
            render e source = .ok (String.ofList (head ++ excerpt)) ∧
            lines excerpt =
              [List.replicate (digits.length + 1) ' ' ++ "|\n".toList,
               digits ++ " | ".toList ++ shown ++ "\n".toList,
               List.replicate (digits.length + 1) ' ' ++ "| ".toList ++
                 List.replicate (place.offset - indent.length) '-' ++ "^\n".toList] ∧
            ∀ row ∈ lines excerpt, row[digits.length + 1]? = some '|') ∧
          (maxWidth ≤ place.offset - indent.length → render e source = .error .fieldTooWide) ∧
          (utf8Bytes shown).drop (place.offset - indent.length) <+:
            (utf8Bytes source.toList).drop
              (e.position.offset.toNat + (indent.length - place.offset))) := by
  refine ⟨_, rfl, ?_⟩
  rw [← unlines_heading, ← utf8Length_toList]
  cases found : placeAt? source.toList e.position.offset.toNat with
  | none => exact Or.inl ⟨placeAt?_eq_none_iff.1 found, render_of_placeAt?_none found⟩
  | some place =>
    obtain ⟨earlier, later, text, parts, offset, in_text, ends⟩ := exists_around found
    have three := lines_rows (newline_not_mem_shownLine in_text ends)
    refine Or.inr ⟨place, _, _, _, _, rfl, isTrimmed place.line, rfl, fun fits => ?_,
      render_of_placeAt?_le found, ?_⟩
    case refine_1 =>
      refine ⟨unlines (rows place), ?_, ?_, ?_⟩
      · rw [render_of_placeAt?_lt found fits, unlines, List.flatMap_append]
        rfl
      · rw [three]
        simp [rows, bar, dashes, lineNumber_eq]
      · rw [three]
        simp [rows, bar, lineNumber_eq]
    case refine_2 =>
      rw [← offset]
      exact drop_shownLine_prefix parts

-- The place is the second byte of a letter, after two blanks and a quote.
example : Diagnostic.report ⟨.unexpectedCharacter "", .ofBytes "f" 4⟩ "\t \"é \n".toList =
    .ok ["Error: UnexpectedCharacter".toList, "-> f".toList, "  |".toList, "1 | \"é".toList,
      "  | --^".toList] := by
  decide +kernel

/-! ### A caret without room -/

namespace Diagnostic

/-- A source of one line: a parenthesis, blanks, and a character that begins no token. -/
def farOff (blanks : Nat) : String :=
  String.ofList ('(' :: List.replicate blanks ' ' ++ ['@'])

variable (blanks : Nat)

theorem utf8Length_replicate_blank : utf8Length (List.replicate blanks ' ') = blanks := by
  rw [(utf8Length_eq_length_iff _).2 fun c blank => List.eq_of_mem_replicate blank ▸ rfl,
    List.length_replicate]

theorem ofSource_farOff (file : String) :
    Module.ofSource (farOff blanks) file =
      .error ⟨.unexpectedCharacter (describe (some '@')), .ofBytes file (blanks + 1)⟩ := by
  have layout : Lexeme.IsRun Lexeme.isLayout (List.replicate blanks ' ') :=
    fun c blank => List.eq_of_mem_replicate blank ▸ rfl
  have fault : Cut.ofChars (List.replicate blanks ' ' ++ ['@']) =
      .stopped (List.replicate blanks ' ') [] (.unexpectedCharacter (describe (some '@'))) :=
    Cut.ofChars_fault layout rfl rfl
  have mark : Cut.ofChars ('(' :: List.replicate blanks ' ' ++ ['@']) =
      .lexeme [] (.mark .leftParen) (Cut.ofChars (List.replicate blanks ' ' ++ ['@'])) :=
    Cut.ofChars_found (w := []) (by simp [Lexeme.IsRun]) rfl rfl
  refine ofSource_of_lex_some ?_
  rw [lex, lexFrom, farOff, String.toList_ofList, mark, fault, Cut.place, Cut.place]
  have first : utf8Length (Lexeme.mark .leftParen).text = 1 := rfl
  simp [Lexed.after, Lexed.stopped, utf8Length_replicate_blank, first, Nat.add_comm]

/-- Nothing is reported of an error at the last character if the blanks before it are too many. -/
theorem render_farOff (cause : Cause) (file : String) (wide : maxWidth ≤ blanks + 1)
    (word : blanks + 1 < UInt32.size) :
    render ⟨cause, .ofBytes file (blanks + 1)⟩ (farOff blanks) = .error .fieldTooWide := by
  have in_line : '\n' ∉ '(' :: List.replicate blanks ' ' := by simp [List.mem_replicate]
  have before : utf8Length ('(' :: List.replicate blanks ' ') = blanks + 1 := by
    rw [utf8Length_cons, utf8Length_replicate_blank, Nat.add_comm]
    rfl
  have place := placeAt?_char ('(' :: List.replicate blanks ' ') [] (Or.inl (Char.utf8Size_pos '@'))
  have shown : shownBefore ('(' :: List.replicate blanks ' ') = '(' :: List.replicate blanks ' ' := by
    rw [shownBefore, lineStart_of_not_mem in_line]
    rfl
  have offset : (Position.ofBytes file (blanks + 1)).offset.toNat = blanks + 1 :=
    Cut.toNat_offset_ofBytes word
  rw [Nat.add_zero, Nat.add_zero, before, ← offset, ← String.toList_ofList (l := _ ++ _)] at place
  refine render_of_placeAt?_le (e := ⟨cause, .ofBytes file (blanks + 1)⟩) place ?_
  rwa [dashes_of_place (by decide), shown, before]

end Diagnostic

/-- There is no report of an error whose caret would stand after 65535 dashes. -/
theorem render_layout_without_room :
    Module.ofSource (farOff 65534) defaultFile =
        .error ⟨.unexpectedCharacter "U+0040 '@'", .ofBytes defaultFile 65535⟩ ∧
      render ⟨.unexpectedCharacter "U+0040 '@'", .ofBytes defaultFile 65535⟩ (farOff 65534) =
        .error .fieldTooWide := by
  have described : describe (some '@') = "U+0040 '@'" := by decide +kernel
  exact ⟨described ▸ ofSource_farOff 65534 defaultFile,
    render_farOff 65534 _ defaultFile (by decide) (by decide)⟩

end WasmText
