import WasmText.Lexeme.Number
import WasmText.Proofs.Lexeme.Ascii
import WasmText.Proofs.Lexeme.Longest

/-!
# The language of numbers

The texts that are numbers:

    number      ::= sign? magnitude
    magnitude   ::= 0 (x | X) hexdigit* (. hexdigit*)?
                  | digit* (. digit*)? ((e | E) sign? digit*)?
    sign        ::= + | -

Each run of digits may be empty. The scan of a number takes the longest text of this language; what
has to come first in a number, and what has to follow it, is up to the lexer.

## What is proved

* `longest_sign`, `longest_digits`, `longest_exponent`, `longest_magnitude`: each part of the scan
  takes the longest text of its part of the language.
* `longest_split`: the scan takes the longest number that its input begins with.
* `IsNumber.mem`: numbers are made of letters, digits, points and signs.
-/

namespace WasmText.Lexeme

open Number

/-- A sign, or nothing. -/
inductive IsSign : List Char → Prop where
  /-- No sign. -/
  | none : IsSign []
  /-- A plus sign. -/
  | plus : IsSign ['+']
  /-- A minus sign. -/
  | minus : IsSign ['-']

/-- Digits of a class, and perhaps a point with digits after it. -/
inductive IsDigits (isDigit : Char → Bool) : List Char → Prop where
  /-- `digit*`. -/
  | whole {ds : List Char} : IsRun isDigit ds → IsDigits isDigit ds
  /-- `digit* . digit*`. -/
  | fraction {ds es : List Char} :
      IsRun isDigit ds → IsRun isDigit es → IsDigits isDigit (ds ++ '.' :: es)

/-- An exponent, or nothing. -/
inductive IsExponent : List Char → Prop where
  /-- No exponent. -/
  | none : IsExponent []
  /-- `(e | E) sign? digit*`. -/
  | some {e : Char} {s ds : List Char} :
      e = 'e' ∨ e = 'E' → IsSign s → IsRun Char.isDigit ds → IsExponent (e :: (s ++ ds))

/-- A number without its sign. -/
inductive IsMagnitude : List Char → Prop where
  /-- Hexadecimal digits after `0x`. -/
  | hexadecimal {x : Char} {ds : List Char} :
      x = 'x' ∨ x = 'X' → IsDigits Char.isHexDigit ds → IsMagnitude ('0' :: x :: ds)
  /-- Decimal digits, and an exponent if there is one. -/
  | decimal {ds es : List Char} :
      IsDigits Char.isDigit ds → IsExponent es → IsMagnitude (ds ++ es)

/-- A number. -/
inductive IsNumber : List Char → Prop where
  /-- A sign, if there is one, and a magnitude. -/
  | intro {s ds : List Char} : IsSign s → IsMagnitude ds → IsNumber (s ++ ds)

/-! ### Signs, digits and exponents -/

theorem isSign_cons_iff {c : Char} {cs : List Char} :
    IsSign (c :: cs) ↔ (c = '+' ∨ c = '-') ∧ cs = [] := by
  constructor
  · intro h
    rcases h with _ | _
    · exact ⟨Or.inl rfl, rfl⟩
    · exact ⟨Or.inr rfl, rfl⟩
  · intro h
    obtain ⟨rfl | rfl, rfl⟩ := h
    · exact .plus
    · exact .minus

theorem IsSign.mem {s : List Char} (h : IsSign s) {c : Char} (member : c ∈ s) :
    c = '+' ∨ c = '-' := by
  cases s with
  | nil => cases member
  | cons d s =>
    obtain ⟨is_sign, rfl⟩ := isSign_cons_iff.1 h
    obtain rfl := List.mem_singleton.1 member
    exact is_sign

theorem longest_sign (cs : List Char) : Longest IsSign cs (sign cs).1 (sign cs).2 := by
  refine ⟨sign_append cs, ?_, ?_⟩
  · unfold sign
    split
    · exact .none
    · split
      · rename_i is_sign
        exact isSign_cons_iff.2 ⟨is_sign, rfl⟩
      · exact .none
  · rintro part in_language begins
    rcases part with _ | ⟨c, part⟩
    · exact List.nil_prefix
    · obtain ⟨is_sign, rfl⟩ := isSign_cons_iff.1 in_language
      obtain ⟨rest, rfl⟩ := begins
      simp [sign, is_sign]

/-- A point with digits after it, or nothing. -/
def IsFraction (isDigit : Char → Bool) (cs : List Char) : Prop :=
  cs = [] ∨ ∃ es, IsRun isDigit es ∧ cs = '.' :: es

theorem isDigits_iff {isDigit : Char → Bool} {cs : List Char} :
    IsDigits isDigit cs ↔ ∃ ds fs, IsRun isDigit ds ∧ IsFraction isDigit fs ∧ ds ++ fs = cs := by
  constructor
  · intro h
    rcases h with run | ⟨run, run'⟩
    · exact ⟨_, [], run, Or.inl rfl, List.append_nil _⟩
    · exact ⟨_, _, run, Or.inr ⟨_, run', rfl⟩, rfl⟩
  · intro h
    obtain ⟨ds, fs, run, rfl | ⟨es, run', rfl⟩, rfl⟩ := h
    · rw [List.append_nil]
      exact .whole run
    · exact .fraction run run'

theorem longest_fraction (isDigit : Char → Bool) (cs : List Char) :
    Longest (IsFraction isDigit) ('.' :: cs) ('.' :: (run isDigit cs).1) (run isDigit cs).2 := by
  have digits := longest_run isDigit cs
  refine ⟨by rw [List.cons_append, run_append], Or.inr ⟨_, digits.taken, rfl⟩, ?_⟩
  rintro part (rfl | ⟨es, run', rfl⟩) begins
  · exact List.nil_prefix
  · rw [List.cons_prefix_cons] at begins ⊢
    exact ⟨rfl, digits.longest run' begins.2⟩

theorem longest_no_fraction (isDigit : Char → Bool) {cs : List Char}
    (no_point : ∀ rest, cs ≠ '.' :: rest) : Longest (IsFraction isDigit) cs [] cs := by
  refine ⟨rfl, Or.inl rfl, ?_⟩
  rintro part (rfl | ⟨es, -, rfl⟩) begins
  · exact List.nil_prefix
  · obtain ⟨rest, rfl⟩ := begins
    exact absurd rfl (no_point _)

theorem longest_digits (isDigit : Char → Bool) (point : isDigit '.' = false) (cs : List Char) :
    Longest (IsDigits isDigit) cs (digits isDigit cs).1 (digits isDigit cs).2 := by
  have whole := longest_run isDigit cs
  have apart : ∀ c ∈ cs.takeWhile isDigit, ∀ part, ¬ IsFraction isDigit (c :: part) := by
    rintro c taken part (impossible | ⟨es, -, fraction⟩)
    · cases impossible
    · have digit := whole.taken c taken
      rw [(List.cons.inj fraction).1, point] at digit
      cases digit
  unfold digits
  split
  · rename_i taken rest parts
    obtain ⟨rfl, rest_eq⟩ := Prod.mk.inj parts
    rw [rest_eq] at whole
    exact (whole.append_of_apart (longest_fraction isDigit rest) apart).congr fun _ =>
      isDigits_iff.symm
  · rename_i taken rest no_point parts
    obtain ⟨rfl, rfl⟩ := Prod.mk.inj parts
    have fraction := longest_no_fraction isDigit fun rest' point' => no_point rest' point'
    have parts := (whole.append_of_apart fraction apart).congr fun _ => isDigits_iff.symm
    rwa [List.append_nil] at parts

theorem isExponent_cons_iff {c : Char} {cs : List Char} :
    IsExponent (c :: cs) ↔
      (c = 'e' ∨ c = 'E') ∧ ∃ s ds, IsSign s ∧ IsRun Char.isDigit ds ∧ s ++ ds = cs := by
  constructor
  · intro h
    rcases h with _ | ⟨is_mark, signed, run⟩
    exact ⟨is_mark, _, _, signed, run, rfl⟩
  · intro h
    obtain ⟨is_mark, s, ds, signed, run, rfl⟩ := h
    exact .some is_mark signed run

theorem longest_exponent (cs : List Char) :
    Longest IsExponent cs (exponent cs).1 (exponent cs).2 := by
  cases cs with
  | nil => exact ⟨rfl, .none, fun _ begins => begins⟩
  | cons c cs =>
    simp only [exponent]
    split
    · rename_i is_mark
      have signed := longest_sign cs
      have run := longest_run Char.isDigit (sign cs).2
      have apart : ∀ d ∈ (sign cs).1, ∀ part, ¬ IsRun Char.isDigit (d :: part) := by
        intro d taken part digits
        have digit := digits d List.mem_cons_self
        rcases signed.taken.mem taken with rfl | rfl <;> cases digit
      have digits := signed.append_of_apart run apart
      refine ⟨?_, .some is_mark signed.taken run.taken, ?_⟩
      · exact congrArg (c :: ·) digits.append
      · intro part in_language begins
        cases part with
        | nil => exact List.nil_prefix
        | cons d part =>
          rw [List.cons_prefix_cons] at begins
          have tail := digits.longest (isExponent_cons_iff.1 in_language).2 begins.2
          exact List.cons_prefix_cons.2 ⟨begins.1, tail⟩
    · rename_i no_mark
      refine ⟨rfl, .none, ?_⟩
      intro part in_language begins
      cases part with
      | nil => exact List.nil_prefix
      | cons d part =>
        obtain ⟨rfl, -⟩ := List.cons_prefix_cons.1 begins
        exact absurd (isExponent_cons_iff.1 in_language).1 no_mark

/-! ### Numbers -/

theorem IsDigits.mem {isDigit : Char → Bool} {cs : List Char} (h : IsDigits isDigit cs) {c : Char}
    (member : c ∈ cs) : isDigit c = true ∨ c = '.' := by
  obtain ⟨ds, fs, run, fraction, rfl⟩ := isDigits_iff.1 h
  rcases List.mem_append.1 member with inside | inside
  · exact Or.inl (run c inside)
  · rcases fraction with rfl | ⟨es, run', rfl⟩
    · cases inside
    · rcases List.mem_cons.1 inside with rfl | inside
      · exact Or.inr rfl
      · exact Or.inl (run' c inside)

theorem longest_decimal (cs : List Char) :
    Longest (fun part => ∃ ds es, IsDigits Char.isDigit ds ∧ IsExponent es ∧ ds ++ es = part) cs
      (decimal cs).1 (decimal cs).2 := by
  have digits := longest_digits Char.isDigit rfl cs
  refine digits.append_of_apart (longest_exponent _) ?_
  intro c taken part exponent
  rcases digits.taken.mem taken with digit | rfl
  · rcases (isExponent_cons_iff.1 exponent).1 with rfl | rfl <;> cases digit
  · rcases (isExponent_cons_iff.1 exponent).1 with mark | mark <;> cases mark

theorem isMagnitude_iff {cs : List Char} :
    IsMagnitude cs ↔
      (∃ x ds, (x = 'x' ∨ x = 'X') ∧ IsDigits Char.isHexDigit ds ∧ '0' :: x :: ds = cs) ∨
      ∃ ds es, IsDigits Char.isDigit ds ∧ IsExponent es ∧ ds ++ es = cs := by
  constructor
  · intro h
    rcases h with ⟨is_x, digits⟩ | ⟨digits, exponent⟩
    · exact Or.inl ⟨_, _, is_x, digits, rfl⟩
    · exact Or.inr ⟨_, _, digits, exponent, rfl⟩
  · intro h
    rcases h with ⟨x, ds, is_x, digits, rfl⟩ | ⟨ds, es, digits, exponent, rfl⟩
    · exact .hexadecimal is_x digits
    · exact .decimal digits exponent

/-- Decimal digits do not go past the letter that makes a number hexadecimal. -/
theorem prefix_zero_of_decimal {x : Char} {ds es cs : List Char} (is_x : x = 'x' ∨ x = 'X')
    (digits : IsDigits Char.isDigit ds) (exponent : IsExponent es)
    (begins : ds ++ es <+: '0' :: x :: cs) : ds ++ es <+: ['0'] := by
  rcases ds with _ | ⟨d, _ | ⟨e, ds⟩⟩
  · rcases es with _ | ⟨e, es⟩
    · exact List.nil_prefix
    · obtain ⟨rfl, -⟩ := List.cons_prefix_cons.1 begins
      rcases (isExponent_cons_iff.1 exponent).1 with mark | mark <;> cases mark
  · rcases es with _ | ⟨e, es⟩
    · exact List.cons_prefix_cons.2 ⟨(List.cons_prefix_cons.1 begins).1, List.nil_prefix⟩
    · obtain ⟨-, after⟩ := List.cons_prefix_cons.1 begins
      obtain ⟨rfl, -⟩ := List.cons_prefix_cons.1 after
      rcases (isExponent_cons_iff.1 exponent).1 with rfl | rfl <;> simp at is_x
  · obtain ⟨-, after⟩ := List.cons_prefix_cons.1 begins
    obtain ⟨rfl, -⟩ := List.cons_prefix_cons.1 after
    rcases digits.mem (c := e) (by simp) with digit | rfl
    · rcases is_x with rfl | rfl <;> cases digit
    · rcases is_x with is_x | is_x <;> cases is_x

theorem longest_magnitude_of_decimal {cs : List Char}
    (no_x : ∀ x rest, x = 'x' ∨ x = 'X' → cs ≠ '0' :: x :: rest) :
    Longest IsMagnitude cs (decimal cs).1 (decimal cs).2 := by
  have decimal := longest_decimal cs
  refine ⟨decimal.append, isMagnitude_iff.2 (Or.inr decimal.taken), ?_⟩
  intro part magnitude begins
  rcases isMagnitude_iff.1 magnitude with ⟨x, ds, is_x, -, rfl⟩ | in_language
  · obtain ⟨rest, rfl⟩ := begins
    exact absurd rfl (no_x x _ is_x)
  · exact decimal.longest in_language begins

theorem longest_magnitude (cs : List Char) :
    Longest IsMagnitude cs (magnitude cs).1 (magnitude cs).2 := by
  unfold magnitude
  split
  · rename_i x cs
    split
    · rename_i is_x
      have digits := longest_digits Char.isHexDigit rfl cs
      refine ⟨?_, .hexadecimal is_x digits.taken, ?_⟩
      · exact congrArg (fun rest => '0' :: x :: rest) digits.append
      · intro part magnitude begins
        rcases isMagnitude_iff.1 magnitude with ⟨y, ds, -, in_language, rfl⟩ |
          ⟨ds, es, in_language, exponent, rfl⟩
        · obtain ⟨-, after⟩ := List.cons_prefix_cons.1 begins
          obtain ⟨same, inside⟩ := List.cons_prefix_cons.1 after
          have inside := digits.longest in_language inside
          exact List.cons_prefix_cons.2 ⟨rfl, List.cons_prefix_cons.2 ⟨same, inside⟩⟩
        · have zero := prefix_zero_of_decimal is_x in_language exponent begins
          exact zero.trans (List.prefix_append ['0'] _)
    · rename_i no_x
      refine longest_magnitude_of_decimal ?_
      intro y ds is_x same
      obtain ⟨-, same⟩ := List.cons.inj same
      obtain ⟨rfl, -⟩ := List.cons.inj same
      exact no_x is_x
  · rename_i no_x
    refine longest_magnitude_of_decimal ?_
    rintro y ds is_x rfl
    exact no_x y ds rfl

theorem magnitude_head {c : Char} {cs : List Char} (h : IsMagnitude (c :: cs)) :
    c ≠ '+' ∧ c ≠ '-' := by
  rcases isMagnitude_iff.1 h with ⟨x, ds, -, -, same⟩ | ⟨ds, es, digits, exponent, same⟩
  · obtain ⟨rfl, -⟩ := List.cons.inj same
    decide
  · cases ds with
    | nil =>
      rw [List.nil_append] at same
      rw [same] at exponent
      rcases (isExponent_cons_iff.1 exponent).1 with rfl | rfl <;> decide
    | cons d ds =>
      obtain ⟨rfl, -⟩ := List.cons.inj same
      rcases digits.mem List.mem_cons_self with digit | rfl
      · constructor <;> rintro rfl <;> cases digit
      · decide

/-- The scan of a number takes the longest number that the text begins with. -/
theorem longest_split (cs : List Char) : Longest IsNumber cs (split cs).1 (split cs).2 := by
  have signed := longest_sign cs
  have apart : ∀ c ∈ (sign cs).1, ∀ part, ¬ IsMagnitude (c :: part) := by
    intro c taken part magnitude
    have not_sign := magnitude_head magnitude
    rcases signed.taken.mem taken with rfl | rfl
    · exact not_sign.1 rfl
    · exact not_sign.2 rfl
  refine (signed.append_of_apart (longest_magnitude _) apart).congr fun part => ?_
  constructor
  · intro h
    obtain ⟨s, ds, is_sign, magnitude, rfl⟩ := h
    exact .intro is_sign magnitude
  · intro h
    obtain ⟨is_sign, magnitude⟩ := h
    exact ⟨_, _, is_sign, magnitude, rfl⟩

/-! ### The characters of a number -/

theorem IsExponent.mem {cs : List Char} (h : IsExponent cs) {c : Char} (member : c ∈ cs) :
    c.isAlphanum = true ∨ c = '+' ∨ c = '-' := by
  cases cs with
  | nil => cases member
  | cons e cs =>
    obtain ⟨is_mark, s, ds, signed, run, rfl⟩ := isExponent_cons_iff.1 h
    rcases List.mem_cons.1 member with rfl | inside
    · rcases is_mark with rfl | rfl <;> exact Or.inl rfl
    · rcases List.mem_append.1 inside with inside | inside
      · exact Or.inr (signed.mem inside)
      · exact Or.inl (isAlphanum_of_isDigit (run c inside))

/-- Numbers are made of letters, digits, points and signs. -/
theorem IsNumber.mem {cs : List Char} (h : IsNumber cs) {c : Char} (member : c ∈ cs) :
    c.isAlphanum = true ∨ c = '.' ∨ c = '+' ∨ c = '-' := by
  obtain ⟨signed, magnitude⟩ := h
  rcases List.mem_append.1 member with inside | inside
  · exact Or.inr (Or.inr (signed.mem inside))
  · rcases isMagnitude_iff.1 magnitude with
      ⟨x, ds, is_x, digits, rfl⟩ | ⟨ds, es, digits, exponent, rfl⟩
    · rcases List.mem_cons.1 inside with rfl | inside
      · exact Or.inl rfl
      rcases List.mem_cons.1 inside with rfl | inside
      · rcases is_x with rfl | rfl <;> exact Or.inl rfl
      rcases digits.mem inside with digit | rfl
      · exact Or.inl (isAlphanum_of_isHexDigit digit)
      · exact Or.inr (Or.inl rfl)
    · rcases List.mem_append.1 inside with inside | inside
      · rcases digits.mem inside with digit | rfl
        · exact Or.inl (isAlphanum_of_isDigit digit)
        · exact Or.inr (Or.inl rfl)
      · rcases exponent.mem inside with alphanumeric | is_sign
        · exact Or.inl alphanumeric
        · exact Or.inr (Or.inr is_sign)

end WasmText.Lexeme
