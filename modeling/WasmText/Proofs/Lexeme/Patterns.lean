import WasmText.CharCursor
import WasmText.Lexeme.Pattern
import WasmText.Proofs.Lexeme.Number

/-!
# The pattern of numbers

What the pattern of numbers matches first is what the scan of a number takes. The pattern has longer
matches for some texts, since it allows an exponent after hexadecimal digits; but the mark of the
exponent is a hexadecimal digit, and the digits are matched as far as they go.

## What is proved

* `mem_ways_iff`: a pattern is matched by the texts of its language, wherever they begin a text.
* `first?_seq`, `first?_optional`, `first?_many`: the first match of a pattern, from those of its
  parts.
* `first?_number`: the first match of the pattern of numbers.
* `number_pattern_exact`: it is the longest number without an exponent after hexadecimal digits.
-/

namespace WasmText

namespace Lexeme

open Number

namespace Pattern

variable {p q : Pattern} {belongs : Char → Bool} {c : Char} {cs us vs : List Char}

/-! ### The language of a pattern -/

/-- The texts that a pattern describes, in whatever order it tries them. -/
inductive Spells : Pattern → List Char → Prop where
  /-- A character of the class. -/
  | one {belongs : Char → Bool} {c : Char} : belongs c = true → Spells (one belongs) [c]
  /-- Characters of the class. -/
  | many {belongs : Char → Bool} {cs : List Char} : IsRun belongs cs → Spells (many belongs) cs
  /-- Nothing. -/
  | nothing : Spells nothing []
  /-- A text of each of two patterns. -/
  | seq {p q : Pattern} {us vs : List Char} :
      Spells p us → Spells q vs → Spells (seq p q) (us ++ vs)
  /-- A text of the first pattern. -/
  | left {p q : Pattern} {us : List Char} : Spells p us → Spells (alt p q) us
  /-- A text of the second pattern. -/
  | right {p q : Pattern} {us : List Char} : Spells q us → Spells (alt p q) us

theorem mem_runs_iff : (us, vs) ∈ runs belongs cs ↔ IsRun belongs us ∧ us ++ vs = cs := by
  induction cs generalizing us with
  | nil =>
    simp only [runs, List.mem_singleton, Prod.mk.injEq, List.append_eq_nil_iff]
    constructor
    · rintro ⟨rfl, rfl⟩
      exact ⟨by simp [IsRun], rfl, rfl⟩
    · exact fun h => h.2
  | cons c cs ih =>
    have empty : ([], vs) ∈ runs belongs (c :: cs) ↔ vs = c :: cs := by
      by_cases member : belongs c = true <;> simp [runs, member]
    cases us with
    | nil =>
      rw [empty]
      simp [IsRun]
    | cons d us =>
      by_cases member : belongs c = true
      · simp only [runs, member, if_true, List.mem_append, List.mem_map, Prod.mk.injEq,
          List.cons.injEq, Prod.exists, List.mem_singleton, reduceCtorEq, false_and, or_false,
          List.cons_append]
        constructor
        · rintro ⟨us', vs', inside, ⟨rfl, rfl⟩, rfl⟩
          obtain ⟨run, rfl⟩ := ih.1 inside
          exact ⟨List.forall_mem_cons.2 ⟨member, run⟩, rfl, rfl⟩
        · rintro ⟨run, rfl, append⟩
          exact ⟨us, vs, ih.2 ⟨(List.forall_mem_cons.1 run).2, append⟩, ⟨rfl, rfl⟩, rfl⟩
      · simp only [runs, member, if_false, List.mem_singleton, Prod.mk.injEq, reduceCtorEq,
          false_and, false_iff, not_and, List.cons_append, List.cons.injEq]
        rintro run ⟨rfl, -⟩
        exact absurd (run _ List.mem_cons_self) member

/-- The matches of a pattern are the texts of its language that its input begins with. -/
theorem mem_ways_iff : (us, vs) ∈ p.ways cs ↔ p.Spells us ∧ us ++ vs = cs := by
  induction p generalizing cs us vs with
  | one belongs =>
    constructor
    · intro way
      cases cs with
      | nil => cases way
      | cons c cs =>
        by_cases member : belongs c = true
        · simp only [ways, member, if_true, List.mem_singleton, Prod.mk.injEq] at way
          obtain ⟨rfl, rfl⟩ := way
          exact ⟨.one member, rfl⟩
        · simp [ways, member] at way
    · rintro ⟨said, rfl⟩
      cases said with
      | one member => simp [ways, member]
  | many belongs =>
    rw [ways, mem_runs_iff]
    constructor
    · rintro ⟨run, append⟩
      exact ⟨.many run, append⟩
    · rintro ⟨said, append⟩
      cases said with
      | many run => exact ⟨run, append⟩
  | nothing =>
    simp only [ways, List.mem_singleton, Prod.mk.injEq]
    constructor
    · rintro ⟨rfl, rfl⟩
      exact ⟨.nothing, rfl⟩
    · rintro ⟨said, rfl⟩
      cases said
      exact ⟨rfl, rfl⟩
  | seq p q ihp ihq =>
    simp only [ways, List.mem_flatMap, List.mem_map, Prod.exists, Prod.mk.injEq]
    constructor
    · rintro ⟨us, rest, first, vs, xs, second, rfl, rfl⟩
      obtain ⟨said, rfl⟩ := ihp.1 first
      obtain ⟨said', rfl⟩ := ihq.1 second
      exact ⟨.seq said said', List.append_assoc us vs _⟩
    · rintro ⟨said, rfl⟩
      cases said with
      | @seq _ _ us ws said said' =>
        have first := ihp.2 ⟨said, (List.append_assoc us ws vs).symm⟩
        exact ⟨us, ws ++ vs, first, ws, vs, ihq.2 ⟨said', rfl⟩, rfl, rfl⟩
  | alt p q ihp ihq =>
    rw [ways, List.mem_append, ihp, ihq]
    constructor
    · rintro (⟨said, append⟩ | ⟨said, append⟩)
      · exact ⟨.left said, append⟩
      · exact ⟨.right said, append⟩
    · rintro ⟨said, append⟩
      cases said with
      | left said => exact Or.inl ⟨said, append⟩
      | right said => exact Or.inr ⟨said, append⟩

/-! ### The first match -/

theorem first?_many : (many belongs).first? cs = some (run belongs cs) := by
  unfold first? ways
  induction cs with
  | nil => rfl
  | cons c cs ih =>
    by_cases member : belongs c = true
    · simp [runs, member, ih, run]
    · simp [runs, member, run]

theorem first?_seq_one_cons (member : belongs c = true) :
    (seq (one belongs) q).first? (c :: cs) =
      (q.first? cs).map fun parts => (c :: parts.1, parts.2) := by
  simp [first?, ways, member]

theorem first?_seq_one_of_not (other : ∀ c ∈ cs.head?, belongs c = false) :
    (seq (one belongs) q).first? cs = none := by
  cases cs with
  | nil => rfl
  | cons c cs => simp [first?, ways, other c rfl]

theorem first?_seq {parts parts' : List Char × List Char} (first : p.first? cs = some parts)
    (second : q.first? parts.2 = some parts') :
    (seq p q).first? cs = some (parts.1 ++ parts'.1, parts'.2) := by
  obtain ⟨others, first⟩ := List.head?_eq_some_iff.1 first
  obtain ⟨others', second⟩ := List.head?_eq_some_iff.1 second
  simp [first?, ways, first, second]

theorem first?_alt : (alt p q).first? cs = (p.first? cs).or (q.first? cs) :=
  List.head?_append

theorem first?_optional : (optional p).first? cs = some ((p.first? cs).getD ([], cs)) := by
  rw [optional, first?_alt]
  cases p.first? cs <;> rfl

/-! ### The parts of a number -/

/-- A point and a run of digits, if the text begins with a point, and the rest. -/
def fraction (isDigit : Char → Bool) : List Char → List Char × List Char
  | '.' :: rest => ('.' :: (run isDigit rest).1, (run isDigit rest).2)
  | rest => ([], rest)

theorem digits_eq_fraction (isDigit : Char → Bool) (cs : List Char) :
    Number.digits isDigit cs =
      ((run isDigit cs).1 ++ (fraction isDigit (run isDigit cs).2).1,
        (fraction isDigit (run isDigit cs).2).2) := by
  unfold Number.digits
  split
  · rename_i parts
    rw [parts]
    rfl
  · rename_i whole rest no_point parts
    rw [parts, fraction]
    · rw [List.append_nil]
    · exact no_point

theorem digits_stops (isDigit : Char → Bool) (cs : List Char) :
    ∀ c ∈ (Number.digits isDigit cs).2.head?, isDigit c = false := by
  rw [digits_eq_fraction]
  unfold fraction
  split
  · exact dropWhile_stops isDigit _
  · exact dropWhile_stops isDigit cs

theorem first?_sign (cs : List Char) : sign.first? cs = some (Number.sign cs) := by
  rw [sign, first?_optional, first?, anyOf]
  cases cs with
  | nil => rfl
  | cons c cs => by_cases member : c = '+' ∨ c = '-' <;> simp [ways, Number.sign, member]

theorem first?_fraction (isDigit : Char → Bool) (cs : List Char) :
    (optional (seq (anyOf ['.']) (many isDigit))).first? cs = some (fraction isDigit cs) := by
  rw [first?_optional, anyOf]
  unfold fraction
  split
  · rw [first?_seq_one_cons (by decide), first?_many]
    rfl
  · rename_i no_point
    rw [first?_seq_one_of_not]
    · rfl
    · intro c next
      obtain ⟨rest, rfl⟩ := List.head?_eq_some_iff.1 next
      simpa using fun same : c = '.' => no_point rest (same ▸ rfl)

theorem first?_digits (isDigit : Char → Bool) (cs : List Char) :
    (digits isDigit).first? cs = some (Number.digits isDigit cs) := by
  rw [digits, first?_seq first?_many (first?_fraction isDigit _), digits_eq_fraction]

theorem first?_exponent (cs : List Char) : exponent.first? cs = some (Number.exponent cs) := by
  rw [exponent, first?_optional, anyOf]
  cases cs with
  | nil => rfl
  | cons c cs =>
    by_cases mark : c = 'e' ∨ c = 'E'
    · rw [first?_seq_one_cons (by simpa using mark), first?_seq (first?_sign cs) first?_many,
        Number.exponent, if_pos mark]
      rfl
    · rw [first?_seq_one_of_not (by simpa using mark), Number.exponent, if_neg mark]
      rfl

/-- After hexadecimal digits no exponent begins, since its mark is one of them. -/
theorem exponent_after_hexDigits (cs : List Char) :
    Number.exponent (Number.digits Char.isHexDigit cs).2 =
      ([], (Number.digits Char.isHexDigit cs).2) := by
  have stops := digits_stops Char.isHexDigit cs
  cases rest : (Number.digits Char.isHexDigit cs).2 with
  | nil => rfl
  | cons c cs =>
    rw [rest] at stops
    have not_digit := stops c rfl
    refine if_neg ?_
    rintro (rfl | rfl)
    · cases not_digit
    · cases not_digit

theorem first?_hexadecimal {x : Char} (is_x : x = 'x' ∨ x = 'X') (cs : List Char) :
    hexadecimal.first? ('0' :: x :: cs) =
      some ('0' :: x :: (Number.digits Char.isHexDigit cs).1,
        (Number.digits Char.isHexDigit cs).2) := by
  rw [hexadecimal, anyOf, anyOf, first?_seq_one_cons (by decide),
    first?_seq_one_cons (by simpa using is_x), first?_digits]
  rfl

theorem first?_hexadecimal_of_not (no_x : ∀ x rest, x = 'x' ∨ x = 'X' → cs ≠ '0' :: x :: rest) :
    hexadecimal.first? cs = none := by
  rw [hexadecimal, anyOf, anyOf]
  rcases cs with _ | ⟨c, cs⟩
  · rfl
  by_cases zero : c = '0'
  · subst zero
    rw [first?_seq_one_cons (by decide), first?_seq_one_of_not]
    · rfl
    · intro x next
      obtain ⟨rest, rfl⟩ := List.head?_eq_some_iff.1 next
      simpa using fun is_x => no_x x rest is_x rfl
  · exact first?_seq_one_of_not (by simpa using zero)

/-- A number without its sign, of which the hexadecimal digits are tried first. -/
theorem first?_magnitude (cs : List Char) :
    (seq (alt hexadecimal (digits Char.isDigit)) exponent).first? cs =
      some (Number.magnitude cs) := by
  have decimal {cs : List Char} (no_x : ∀ x rest, x = 'x' ∨ x = 'X' → cs ≠ '0' :: x :: rest) :
      (seq (alt hexadecimal (digits Char.isDigit)) exponent).first? cs =
        some (Number.decimal cs) := by
    have first : (alt hexadecimal (digits Char.isDigit)).first? cs =
        some (Number.digits Char.isDigit cs) := by
      rw [first?_alt, first?_hexadecimal_of_not no_x, first?_digits]
      rfl
    exact first?_seq first (first?_exponent _)
  unfold Number.magnitude
  split
  · rename_i x cs
    split
    · rename_i is_x
      have first : (alt hexadecimal (digits Char.isDigit)).first? ('0' :: x :: cs) =
          some ('0' :: x :: (Number.digits Char.isHexDigit cs).1,
            (Number.digits Char.isHexDigit cs).2) := by
        rw [first?_alt, first?_hexadecimal is_x]
        rfl
      rw [first?_seq first (first?_exponent _), exponent_after_hexDigits, List.append_nil]
    · rename_i no_x
      refine decimal fun y rest is_x same => ?_
      obtain ⟨-, same⟩ := List.cons.inj same
      exact no_x ((List.cons.inj same).1 ▸ is_x)
  · rename_i no_x
    exact decimal fun x rest _ => no_x x rest

/-- The first match of the pattern of numbers is what the scan of a number takes. -/
theorem first?_number (cs : List Char) : number.first? cs = some (Number.split cs) :=
  first?_seq (first?_sign cs) (first?_magnitude _)

end Pattern

/-! ### The longest number -/

/-- A number that begins with `0x` is made of hexadecimal digits, with a point among them perhaps. -/
theorem IsNumber.isDigits_of_x {s ds : List Char} {x : Char} (h : IsNumber (s ++ '0' :: x :: ds))
    (signed : IsSign s) (is_x : x = 'x' ∨ x = 'X') : IsDigits Char.isHexDigit ds := by
  obtain ⟨s', m, signed', magnitude, same⟩ :
      ∃ s' m, IsSign s' ∧ IsMagnitude m ∧ s' ++ m = s ++ '0' :: x :: ds := by
    generalize text_eq : s ++ '0' :: x :: ds = text at h
    obtain ⟨signed', magnitude⟩ := h
    exact ⟨_, _, signed', magnitude, rfl⟩
  obtain rfl : m = '0' :: x :: ds := by
    cases signed <;> cases signed' <;> cases same
    all_goals first
      | rfl
      | exact absurd rfl (magnitude_head magnitude).1
      | exact absurd rfl (magnitude_head magnitude).2
  rcases isMagnitude_iff.1 magnitude with
    ⟨y, es, -, digits, same⟩ | ⟨es, fs, digits, exponent, same⟩
  · obtain ⟨-, rfl⟩ := List.cons.inj (List.cons.inj same).2
    exact digits
  · -- A decimal number cannot go on after the zero, as no `x` belongs to it.
    have short := prefix_zero_of_decimal is_x digits exponent ⟨[], by rw [same, List.append_nil]⟩
    have length := short.length_le
    rw [same] at length
    simp at length

theorem IsDigits.no_sign {ds : List Char} (h : IsDigits Char.isHexDigit ds) :
    '+' ∉ ds ∧ '-' ∉ ds := by
  constructor
  · intro member
    rcases h.mem member with digit | point
    · cases digit
    · cases point
  · intro member
    rcases h.mem member with digit | point
    · cases digit
    · cases point

/-- An exponent after hexadecimal digits is in the language of the pattern, but its sign is not
matched. -/
theorem spells_and_first?_of_exponent {ds es : List Char} (run : IsRun Char.isHexDigit ds)
    (run' : IsRun Char.isDigit es) :
    Pattern.number.Spells ('0' :: 'x' :: (ds ++ 'e' :: '+' :: es)) ∧
      Pattern.number.first? ('0' :: 'x' :: (ds ++ 'e' :: '+' :: es)) =
        some ('0' :: 'x' :: (ds ++ ['e']), '+' :: es) := by
  constructor
  · have nothing (p : Pattern) : (Pattern.optional p).Spells [] := .right .nothing
    have hexadecimal : Pattern.hexadecimal.Spells (['0'] ++ (['x'] ++ (ds ++ []))) :=
      .seq (.one (by decide)) (.seq (.one (by decide)) (.seq (.many run) (nothing _)))
    have exponent : Pattern.exponent.Spells (['e'] ++ (['+'] ++ es)) :=
      .left (.seq (.one (by decide)) (.seq (.left (.one (by decide))) (.many run')))
    have spelled : Pattern.number.Spells _ := .seq (nothing _) (.seq (.left hexadecimal) exponent)
    simpa using spelled
  · -- The mark of the exponent is a hexadecimal digit, and the sign is none.
    have mark : IsRun Char.isHexDigit (ds ++ ['e']) := by
      intro c member
      rcases List.mem_append.1 member with inside | inside
      · exact run c inside
      · obtain rfl := List.mem_singleton.1 inside
        rfl
    have stops : ∀ c ∈ ('+' :: es).head?, c.isHexDigit = false := stops_of_cons rfl es
    have parts : Number.run Char.isHexDigit (ds ++ 'e' :: '+' :: es) = (ds ++ ['e'], '+' :: es) := by
      rw [List.append_cons, Number.run, takeWhile_append_of_stops mark stops,
        dropWhile_append_of_stops mark stops]
    rw [Pattern.first?_number]
    simp [split, Number.sign, magnitude, digits, parts]

end Lexeme

open Lexeme

/-- Moves on over the first match of a pattern, if there is one. -/
def CharCursor.advanceMatch? (p : Pattern) (c : CharCursor) : Option CharCursor :=
  (p.first? c.rest).map c.advance

/-- Pushes the number that was passed, unless a letter, a digit or an underscore comes next. -/
def Scanner.endNumber (c : CharCursor) : Scanner.Step :=
  match c.peek with
  | none => .next .delimiter (c.emit .number)
  | some d =>
    if runsOn d then Scanner.fail c (.unexpectedNumberCharacter (Diagnostic.describe (some d)))
    else .next .delimiter (c.emit .number)

/-- A scanner passes a number by the first match of its pattern. -/
theorem Scanner.stepNumber_eq (c : CharCursor) :
    stepNumber c = endNumber ((c.advanceMatch? .number).getD c) := by
  rw [CharCursor.advanceMatch?, Pattern.first?_number]
  rfl

theorem CharCursor.pendingText_advance (c : CharCursor) (parts : List Char × List Char) :
    (c.advance parts).pendingText = c.pendingText ++ parts.1 := by
  simp [CharCursor.advance, CharCursor.pendingText, CharCursor.sinceMark]

/-- At a character that may begin a number, the first match of the pattern of numbers is not empty; it
is the longest number that comes next, and what the scan of a number divides off. A scanner takes just
this text and goes on from there. There is no sign in it after `0x`, although the pattern allows an
exponent after hexadecimal digits: it has all texts of its language as matches, but this one is found
first. -/
theorem number_pattern_exact {c : CharCursor} {d : Char} (next : c.peek = some d)
    (starts : isNumberStart d = true) :
    (∃ text rest, Pattern.number.first? c.rest = some (text, rest) ∧ text ≠ [] ∧
      Longest IsNumber c.rest text rest ∧ Number.split c.rest = (text, rest) ∧
      (Scanner.stepNumber c = Scanner.endNumber (c.advance (text, rest)) ∧
        (c.advance (text, rest)).pendingText = c.pendingText ++ text ∧
        (c.advance (text, rest)).rest = rest) ∧
      ∀ s x ds, IsSign s → x = 'x' ∨ x = 'X' → s ++ '0' :: x :: ds = text →
        '+' ∉ ds ∧ '-' ∉ ds) ∧
    (∀ us vs, (us, vs) ∈ Pattern.number.ways c.rest ↔
      Pattern.number.Spells us ∧ us ++ vs = c.rest) ∧
    ∀ ds es, IsRun Char.isHexDigit ds → IsRun Char.isDigit es →
      Pattern.number.Spells ('0' :: 'x' :: (ds ++ 'e' :: '+' :: es)) ∧
      Pattern.number.first? ('0' :: 'x' :: (ds ++ 'e' :: '+' :: es)) =
        some ('0' :: 'x' :: (ds ++ ['e']), '+' :: es) := by
  have number := longest_split c.rest
  have some_text : (Number.split c.rest).1 ≠ [] := by
    obtain ⟨cs, rest⟩ := List.head?_eq_some_iff.1 next
    rw [rest]
    exact Number.split_ne_nil starts cs
  have first := Pattern.first?_number c.rest
  have step : Scanner.stepNumber c = Scanner.endNumber (c.advance (Number.split c.rest)) := by
    rw [Scanner.stepNumber_eq, CharCursor.advanceMatch?, first]
    rfl
  refine ⟨⟨_, _, first, some_text, number, rfl, ⟨step, c.pendingText_advance _, rfl⟩, ?_⟩,
    fun us vs => Pattern.mem_ways_iff, fun ds es => spells_and_first?_of_exponent⟩
  intro s x ds signed is_x text_eq
  have is_number : IsNumber (s ++ '0' :: x :: ds) := text_eq.symm ▸ number.taken
  exact (is_number.isDigits_of_x signed is_x).no_sign

/-- Of `0x1e+5` the part before the plus sign is taken. -/
theorem number_pattern_exact_hexadecimal :
    (CharCursor.ofSource "0x1e+5" defaultFile).peek = some '0' ∧ isNumberStart '0' = true ∧
      Pattern.number.first? "0x1e+5".toList = some ("0x1e".toList, "+5".toList) ∧
      Longest IsNumber "0x1e+5".toList "0x1e".toList "+5".toList := by
  have next : (CharCursor.ofSource "0x1e+5" defaultFile).peek = some '0' := by decide
  have found : Pattern.number.first? "0x1e+5".toList = some ("0x1e".toList, "+5".toList) := by
    decide
  obtain ⟨⟨text, rest, first, -, longest, -⟩, -⟩ := number_pattern_exact next (by decide)
  obtain ⟨rfl, rfl⟩ := Prod.mk.inj (Option.some.inj (first.symm.trans found))
  exact ⟨next, by decide, found, longest⟩

end WasmText
