import WasmText.Proofs.LineLookup
import WasmText.Proofs.Unquoting

/-!
# The line that holds a byte

Every byte of a text lies in one line. The line begins where the text does or after a newline, and
ends with the next newline or with the text; a newline belongs to the line that it ends. The end of a
text is no byte of it, and lies in the line of the last byte.

The number of a line can be read off the bytes: a byte of a longer character is never the byte of a
newline, so newlines can be counted before any byte, also in the middle of a character.

## What is proved

* `IsLineAt.unique`: a byte lies in one line only.
* `IsLineAt.count_newlines`: the newlines before a line are those before any of its bytes.
* `placeAt?_eq_some_iff`: what is found is the line of the byte, by its number, with what lies before
  the place.
* `placeAt?_exact`: every place in a text, and the places that are none.
-/

namespace WasmText.Text

/-- The byte of a newline. -/
def newlineByte : UInt8 := 0x0A

/-- A line of a text, between the lines before it and the lines after it, that holds a byte. -/
structure IsLineAt (source : List Char) (byte : Nat) (earlier line later : List Char) : Prop where
  /-- The text is the line with the lines around it. -/
  text : source = earlier ++ (line ++ later)
  /-- It begins where the text does, or after a newline. -/
  begins : earlier = [] ∨ ∃ before, earlier = before ++ ['\n']
  /-- It ends with its only newline, or where the text does. -/
  ends : ∃ rest, '\n' ∉ rest ∧ (line = rest ++ ['\n'] ∨ line = rest ∧ later = [])
  /-- The byte does not lie before it. -/
  low : utf8Length earlier ≤ byte
  /-- Nor does it lie after it. -/
  high : byte < utf8Length earlier + utf8Length line

/-! ### Newlines among bytes -/

theorem newlineByte_mem_utf8EncodeChar_iff {c : Char} :
    newlineByte ∈ String.utf8EncodeChar c ↔ c = '\n' := by
  constructor
  · intro member
    obtain ⟨before, after, bytes⟩ := List.append_of_mem member
    obtain rfl := eq_nil_of_utf8EncodeChar_eq_append bytes (by decide)
    have same : String.utf8EncodeChar c ++ [] = String.utf8EncodeChar '\n' ++ after := by
      rw [bytes, List.append_nil]
      rfl
    exact (eq_and_eq_of_utf8EncodeChar_append same).1
  · rintro rfl
    decide

theorem count_newlineByte_utf8EncodeChar (c : Char) :
    (String.utf8EncodeChar c).count newlineByte = [c].count '\n' := by
  by_cases newline : c = '\n'
  · subst newline
    decide
  · rw [List.count_eq_zero.2 (mt newlineByte_mem_utf8EncodeChar_iff.1 newline),
      List.count_eq_zero.2 (by simpa using Ne.symm newline)]

/-- There are as many newlines in the bytes of a text as in the text. -/
theorem count_utf8Bytes (cs : List Char) : (utf8Bytes cs).count newlineByte = cs.count '\n' := by
  induction cs with
  | nil => rfl
  | cons c cs ih =>
    rw [← List.singleton_append, utf8Bytes_append, List.count_append, List.count_append, ih]
    exact congrArg (· + _) (by simpa [utf8Bytes] using count_newlineByte_utf8EncodeChar c)

/-! ### One line -/

namespace IsLineAt

variable {source earlier line later : List Char} {byte : Nat}

/-- Nothing of a line comes after a newline in it. -/
theorem eq_nil_of_newline (h : IsLineAt source byte earlier line later) {part rest : List Char}
    (parts : line = part ++ '\n' :: rest) : rest = [] := by
  obtain ⟨text, in_text, ended⟩ := h.ends
  rw [parts] at ended
  rcases ended with newline | ⟨whole, -⟩
  · rcases List.eq_nil_or_concat' rest with nothing | ⟨others, last, rfl⟩
    · exact nothing
    · rw [← List.cons_append, ← List.append_assoc] at newline
      obtain ⟨inside, -⟩ := List.append_inj' newline rfl
      exact absurd (by simp [← inside]) in_text
  · exact absurd (by simp [← whole]) in_text

/-- No line goes on where another one that begins there has ended. -/
theorem line_eq_of_prefix {line' later' : List Char} (h : IsLineAt source byte earlier line later)
    (h' : IsLineAt source byte earlier line' later') (begins : line <+: line') : line = line' := by
  obtain ⟨more, rfl⟩ := begins
  have same : line ++ later = line ++ more ++ later' :=
    List.append_cancel_left (h.text.symm.trans h'.text)
  obtain ⟨text, -, rfl | ⟨-, rfl⟩⟩ := h.ends
  · rw [h'.eq_nil_of_newline (List.append_cons text '\n' more).symm, List.append_nil]
  · rw [List.append_assoc] at same
    have nothing : more ++ later' = [] := (List.append_cancel_left same).symm
    rw [List.append_eq_nil_iff.1 nothing |>.1, List.append_nil]

/-- The line before which there are more lines does not hold the byte. -/
theorem earlier_eq_of_prefix {earlier' line' later' : List Char}
    (h : IsLineAt source byte earlier line later)
    (h' : IsLineAt source byte earlier' line' later') (begins : earlier <+: earlier') :
    earlier = earlier' := by
  obtain ⟨between, rfl⟩ := begins
  rcases List.eq_nil_or_concat' between with rfl | ⟨part, last, rfl⟩
  · exact (List.append_nil earlier).symm
  have newline : last = '\n' := by
    rcases h'.begins with nothing | ⟨before, ended⟩
    · simp at nothing
    · rw [← List.append_assoc] at ended
      exact List.singleton_inj.1 (List.append_inj' ended rfl).2
  subst newline
  have same : line ++ later = part ++ ['\n'] ++ (line' ++ later') :=
    List.append_cancel_left (h.text.symm.trans (h'.text.trans (List.append_assoc _ _ _)))
  have low := h'.low
  have high := h.high
  rw [utf8Length_append] at low
  -- The lines between end with a newline, so the line before them goes no further.
  rcases List.append_eq_append_iff.1 same with ⟨more, longer, -⟩ | ⟨rest, longer, -⟩
  · rw [longer, utf8Length_append] at low
    omega
  · have nothing := h.eq_nil_of_newline (longer.trans (List.append_cons part '\n' rest).symm)
    rw [nothing, List.append_nil] at longer
    rw [longer] at high
    omega

/-- A byte lies in one line only. -/
theorem unique {earlier' line' later' : List Char} (h : IsLineAt source byte earlier line later)
    (h' : IsLineAt source byte earlier' line' later') : earlier = earlier' ∧ line = line' := by
  have begins : earlier <+: source := ⟨_, h.text.symm⟩
  have begins' : earlier' <+: source := ⟨_, h'.text.symm⟩
  obtain rfl : earlier = earlier' := by
    rcases List.prefix_or_prefix_of_prefix begins begins' with shorter | shorter
    · exact h.earlier_eq_of_prefix h' shorter
    · exact (h'.earlier_eq_of_prefix h shorter).symm
  have same : line ++ later = line' ++ later' :=
    List.append_cancel_left (h.text.symm.trans h'.text)
  refine ⟨rfl, ?_⟩
  rcases List.prefix_or_prefix_of_prefix (List.prefix_append line later)
    (same ▸ List.prefix_append line' later') with shorter | shorter
  · exact h.line_eq_of_prefix h' shorter
  · exact (h'.line_eq_of_prefix h shorter).symm

/-- The newlines before a byte are those of the lines before its line. -/
theorem count_newlines (h : IsLineAt source byte earlier line later) :
    ((utf8Bytes source).take byte).count newlineByte = earlier.count '\n' := by
  obtain ⟨text, in_text, ended⟩ := h.ends
  have low := h.low
  have high := h.high
  obtain ⟨rest, begins, inside⟩ : ∃ rest, line ++ later = text ++ rest ∧
      byte - utf8Length earlier ≤ utf8Length text := by
    rcases ended with rfl | ⟨rfl, rfl⟩
    · refine ⟨'\n' :: later, List.append_assoc _ _ _, ?_⟩
      rw [utf8Length_append, show utf8Length ['\n'] = 1 from rfl] at high
      omega
    · exact ⟨[], rfl, by omega⟩
  have in_line : newlineByte ∉ (utf8Bytes text).take (byte - utf8Length earlier) := by
    intro member
    have counted := count_utf8Bytes text
    rw [List.count_eq_zero.2 in_text, List.count_eq_zero] at counted
    exact counted (List.mem_of_mem_take member)
  rw [h.text, begins, utf8Bytes_append, utf8Bytes_append, List.take_append,
    List.take_of_length_le (by rwa [length_utf8Bytes]), length_utf8Bytes,
    List.take_append_of_le_length (by rwa [length_utf8Bytes]), List.count_append,
    count_utf8Bytes, List.count_eq_zero.2 in_line, Nat.add_zero]

end IsLineAt

/-! ### The line that is found -/

/-- What lies before the line that a text ends in. -/
theorem exists_append_lineStart (before : List Char) :
    ∃ earlier, before = earlier ++ lineStart before ∧
      (earlier = [] ∨ ∃ others, earlier = others ++ ['\n']) := by
  refine ⟨before.rdropWhile (· != '\n'), (List.rdropWhile_append_rtakeWhile).symm, ?_⟩
  rcases List.eq_nil_or_concat' (before.rdropWhile (· != '\n')) with nothing | ⟨others, last, parts⟩
  · exact Or.inl nothing
  · have stops := List.rdropWhile_last_not (· != '\n') before (by simp [parts])
    simp only [parts, List.getLast_append_singleton, bne_iff_ne, ne_eq, not_not] at stops
    exact Or.inr ⟨others, by rw [parts, stops]⟩

/-- Every place in a text that is not empty lies in a character of it, or right after the last. -/
theorem exists_char_of_le {source : List Char} {p : Nat} (nonempty : source ≠ [])
    (inside : p ≤ utf8Length source) :
    ∃ before c cs k, source = before ++ c :: cs ∧ p = utf8Length before + k ∧
      (k < c.utf8Size ∨ cs = [] ∧ k = c.utf8Size) := by
  induction source generalizing p with
  | nil => contradiction
  | cons c cs ih =>
    rw [utf8Length_cons] at inside
    by_cases here : p < c.utf8Size
    · exact ⟨[], c, cs, p, rfl, by simp, Or.inl here⟩
    by_cases last : cs = []
    · subst last
      rw [utf8Length_nil] at inside
      exact ⟨[], c, [], p, rfl, by simp, Or.inr ⟨rfl, by omega⟩⟩
    · obtain ⟨before, d, ds, k, rfl, place, there⟩ := ih last (p := p - c.utf8Size) (by omega)
      exact ⟨c :: before, d, ds, k, rfl, by rw [utf8Length_cons]; omega, there⟩

/-- A place in a text that is not empty is found in the line of its byte. -/
theorem exists_placeAt? {source : List Char} {p : Nat} (nonempty : source ≠ [])
    (inside : p ≤ utf8Length source) :
    ∃ place earlier later, placeAt? source p = some place ∧
      IsLineAt source (min p (utf8Length source - 1)) earlier place.line later ∧
      place.number = 1 + earlier.count '\n' ∧ utf8Length earlier + place.offset = p := by
  obtain ⟨before, c, cs, k, rfl, rfl, there⟩ := exists_char_of_le nonempty inside
  obtain ⟨earlier, parts, begins⟩ := exists_append_lineStart before
  obtain ⟨later, rest, text, in_text, ends⟩ := exists_lineEnd_append (c :: cs)
  have counted := congrArg (List.count '\n') parts
  rw [List.count_append, List.count_eq_zero.2 (newline_not_mem_lineStart before)] at counted
  have bytes := congrArg utf8Length parts
  rw [utf8Length_append] at bytes
  have fits := utf8Size_le_lineEnd c cs
  have positive := c.utf8Size_pos
  refine ⟨_, earlier, later, placeAt?_char before cs there, ⟨?_, begins, ?_, ?_, ?_⟩, ?_, ?_⟩
  case refine_1 =>
    rw [List.append_assoc, ← rest, ← List.append_assoc, ← parts]
  case refine_2 =>
    refine ⟨lineStart before ++ text, by simp [newline_not_mem_lineStart, in_text], ?_⟩
    rcases ends with ended | ⟨whole, nothing⟩
    · exact Or.inl (by rw [ended, List.append_assoc])
    · exact Or.inr ⟨by rw [whole], nothing⟩
  case refine_3 =>
    rw [utf8Length_append, utf8Length_cons]
    omega
  case refine_4 =>
    rw [utf8Length_append, utf8Length_cons, utf8Length_append]
    rcases there with inside | ⟨rfl, last⟩
    · omega
    · rw [utf8Length_nil]
      omega
  case refine_5 => rw [counted, Nat.add_zero]
  case refine_6 =>
    show utf8Length earlier + (utf8Length (lineStart before) + k) = _
    omega

theorem placeAt?_eq_none_iff {source : List Char} {p : Nat} :
    placeAt? source p = none ↔ utf8Length source < p := by
  simp [placeAt?]

/-- A place in a text that is not empty is found in the one line of its byte, after the lines that
lie before it. -/
theorem placeAt?_eq_some_iff {source : List Char} {p : Nat} (nonempty : source ≠ [])
    {place : LinePlace} :
    placeAt? source p = some place ↔ p ≤ utf8Length source ∧
      ∃ earlier later, IsLineAt source (min p (utf8Length source - 1)) earlier place.line later ∧
        place.number = 1 + earlier.count '\n' ∧ utf8Length earlier + place.offset = p := by
  constructor
  · intro found
    have inside : p ≤ utf8Length source := by
      by_contra outside
      rw [placeAt?_eq_none_iff.2 (not_le.1 outside)] at found
      cases found
    obtain ⟨place', earlier, later, found', at_line, number, offset⟩ :=
      exists_placeAt? nonempty inside
    obtain rfl := Option.some.inj (found'.symm.trans found)
    exact ⟨inside, earlier, later, at_line, number, offset⟩
  · intro h
    obtain ⟨inside, earlier, later, at_line, number, offset⟩ := h
    obtain ⟨place', earlier', later', found, at_line', number', offset'⟩ :=
      exists_placeAt? nonempty inside
    obtain ⟨rfl, line⟩ := at_line.unique at_line'
    have same : place' = place := by
      cases place
      cases place'
      simp only [LinePlace.mk.injEq]
      exact ⟨number'.trans number.symm, line.symm, by dsimp only at offset offset'; omega⟩
    rw [found, same]

/-- The end of a text lies after its last line, which is all that there is from its start on. -/
theorem IsLineAt.last {source earlier line later : List Char}
    (h : IsLineAt source (utf8Length source - 1) earlier line later) :
    later = [] ∧ utf8Length source = utf8Length earlier + utf8Length line := by
  have high := h.high
  have bytes := congrArg utf8Length h.text
  rw [utf8Length_append, utf8Length_append] at bytes
  have nothing : utf8Length later = 0 := by omega
  exact ⟨(utf8Length_eq_zero_iff later).1 nothing, by omega⟩

/-- No place after the end of a text is found. Any other place is found in one line: the one that
holds the byte there or, at the end of the text, the last byte. Its number is one more than the
newlines before this byte, and the lines before it with what it has before the place are as long as
the way to the place. At the end of the text it is the last line, with all of it before the place. An
empty text has one line, which is empty. -/
theorem placeAt?_exact (source : List Char) (p : Nat) :
    (placeAt? source p = none ↔ utf8Length source < p) ∧
    (source = [] → p = 0 → placeAt? source p = some ⟨1, [], 0⟩) ∧
    (source ≠ [] → ∀ place : LinePlace, placeAt? source p = some place ↔ p ≤ utf8Length source ∧
      ∃ earlier later, IsLineAt source (min p (utf8Length source - 1)) earlier place.line later ∧
        place.number =
          1 + ((utf8Bytes source).take (min p (utf8Length source - 1))).count newlineByte ∧
        utf8Length earlier + place.offset = p ∧
        (p = utf8Length source → later = [] ∧ place.offset = utf8Length place.line)) := by
  refine ⟨placeAt?_eq_none_iff, ?_, fun nonempty place => (placeAt?_eq_some_iff nonempty).trans ?_⟩
  · rintro rfl rfl
    rfl
  · refine and_congr_right fun inside => exists_congr fun earlier => exists_congr fun later => ?_
    refine and_congr_right fun at_line => ?_
    rw [at_line.count_newlines]
    refine and_congr_right fun _ => (and_iff_left_of_imp ?_).symm
    rintro offset rfl
    rw [Nat.min_eq_right (Nat.sub_le _ 1)] at at_line
    obtain ⟨nothing, bytes⟩ := at_line.last
    exact ⟨nothing, by omega⟩

/-- The second byte of a character lies in the line of the character, and so does the end of the text
after it; but the newline before it belongs to the line before. -/
theorem placeAt?_exact_in_char :
    placeAt? "ab\né".toList 2 = some ⟨1, ['a', 'b', '\n'], 2⟩ ∧
      placeAt? "ab\né".toList 4 = some ⟨2, ['é'], 1⟩ ∧
      placeAt? "ab\né".toList 5 = some ⟨2, ['é'], 2⟩ ∧ placeAt? "ab\né".toList 6 = none := by
  have nonempty : "ab\né".toList ≠ [] := by decide
  have first : IsLineAt "ab\né".toList 2 [] ['a', 'b', '\n'] ['é'] :=
    ⟨by decide, Or.inl rfl, ⟨['a', 'b'], by decide, Or.inl rfl⟩, by decide, by decide⟩
  have second : IsLineAt "ab\né".toList 4 ['a', 'b', '\n'] ['é'] [] :=
    ⟨by decide, Or.inr ⟨['a', 'b'], rfl⟩, ⟨['é'], by decide, Or.inr ⟨rfl, rfl⟩⟩, by decide, by decide⟩
  refine ⟨?_, ?_, ?_, (placeAt?_exact _ _).1.2 (by decide)⟩
  · exact ((placeAt?_exact _ _).2.2 nonempty _).2
      ⟨by decide, [], ['é'], first, by decide, by decide, fun last => absurd last (by decide)⟩
  · exact ((placeAt?_exact _ _).2.2 nonempty _).2
      ⟨by decide, _, [], second, by decide, by decide, fun last => absurd last (by decide)⟩
  · exact ((placeAt?_exact _ _).2.2 nonempty _).2
      ⟨by decide, _, [], second, by decide, by decide, fun _ => by decide⟩

end WasmText.Text
