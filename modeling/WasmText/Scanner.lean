import WasmText.CharCursor.Basic
import WasmText.Lexed

/-!
# Scanning from a cursor

A scanner lexes what comes after a cursor by moving it. It has a state for what it is in the middle
of, and each step looks at the next characters, moves the cursor, pushes the tokens that are complete,
and goes on in another state; or it ends, where the source does or at a fault.

It may be started at any cursor. What is pending there, and whether a character could be taken back,
has no part in what it pushes.

## What is proved

* `discardRun_eq`: a run is passed by reading character after character.
* `weight_lt_of_step`: every step leaves less to do, so a scanner comes to an end.
-/

namespace WasmText

open Lexeme

namespace CharCursor

/-- Moves on over the first of two parts of the rest. None of it can be taken back. -/
def advance (c : CharCursor) (parts : List Char × List Char) : CharCursor :=
  { c with pending := parts.1.reverse ++ c.sinceMark, held := none, rest := parts.2 }

/-- Moves back to the mark. -/
def backToMark (c : CharCursor) : CharCursor :=
  { c with pending := [], held := none, rest := c.pendingText ++ c.rest }

/-- Reads a character if it belongs to a class. -/
def acceptIf (belongs : Char → Bool) (c : CharCursor) : Bool × CharCursor :=
  match c.read with
  | (some d, c') => if belongs d then (true, c') else (false, c'.unread)
  | (none, c') => (false, c')

/-- The same place, where nothing can be taken back. -/
def settle (c : CharCursor) : CharCursor :=
  { c with pending := c.sinceMark, held := none }

/-- Pushes a token that stands between two byte offsets. -/
def pushAt (c : CharCursor) (kind : Kind) (chars : List Char) (start stop : Nat) : CharCursor :=
  c.push ⟨kind, String.ofList chars, .ofBytes c.file start stop⟩

/-- Pushes what is pending as a token, and moves the mark to the cursor. -/
def emit (c : CharCursor) (kind : Kind) : CharCursor :=
  (c.pushAt kind c.pendingText c.start c.offset).ignore

theorem accept_eq (valid : List Char) (c : CharCursor) :
    c.accept valid = c.acceptIf valid.contains := rfl

theorem read_nil {c : CharCursor} (h : c.rest = []) : c.read = (none, c.settle) := by
  unfold read settle
  split
  · rfl
  · simp_all

theorem read_cons {c : CharCursor} {d : Char} {rest : List Char} (h : c.rest = d :: rest) :
    c.read = (some d, { c with pending := c.sinceMark, held := some d, rest := rest }) := by
  rw [read, h]

theorem acceptIf_cons_true {belongs : Char → Bool} {c : CharCursor} {d : Char} {rest : List Char}
    (h : c.rest = d :: rest) (member : belongs d = true) :
    c.acceptIf belongs =
      (true, { c with pending := c.sinceMark, held := some d, rest := rest }) := by
  rw [acceptIf, read_cons h]
  exact if_pos member

/-- Where no character of a class comes next, none is read. -/
theorem acceptIf_false {belongs : Char → Bool} {c : CharCursor}
    (h : ∀ d ∈ c.rest.head?, belongs d = false) : c.acceptIf belongs = (false, c.settle) := by
  cases next : c.rest with
  | nil =>
    rw [acceptIf, read_nil next]
  | cons d rest =>
    rw [acceptIf, read_cons next]
    simp only [h d (by rw [next]; rfl), Bool.false_eq_true, if_false]
    simp [unread, settle, next]

/-- Passing a run is reading characters of a class one after the other, and moving the mark where none
comes next. -/
theorem discardRun_eq (valid : List Char) (c : CharCursor) :
    c.discardRun valid =
      match c.accept valid with
      | (true, c') => c'.discardRun valid
      | (false, c') => c'.ignore := by
  rw [accept_eq]
  cases next : c.rest with
  | nil =>
    rw [acceptIf_false (by simp [next])]
    simp [discardRun, ignore, settle, sinceMark, next]
  | cons d rest =>
    by_cases member : valid.contains d = true
    · rw [acceptIf_cons_true next member]
      simp [discardRun, ignore, sinceMark, next, List.takeWhile_cons_of_pos member,
        List.dropWhile_cons_of_pos member]
    · rw [acceptIf_false (by simpa [next] using member)]
      simp [discardRun, ignore, settle, sinceMark, next, List.takeWhile_cons_of_neg member,
        List.dropWhile_cons_of_neg member]

/-- Reading a character of a class leaves at most as much as there was. -/
theorem length_acceptIf_le (belongs : Char → Bool) (c : CharCursor) :
    (c.acceptIf belongs).2.rest.length ≤ c.rest.length := by
  cases next : c.rest with
  | nil =>
    rw [acceptIf_false (by simp [next])]
    exact Nat.le_of_eq (congrArg List.length next)
  | cons d rest =>
    by_cases member : belongs d = true
    · rw [acceptIf_cons_true next member]
      exact Nat.le_succ _
    · rw [acceptIf_false (by simp [next, member])]
      exact Nat.le_of_eq (congrArg List.length next)

end CharCursor

namespace Scanner

/-- What a scanner is in the middle of. -/
inductive State where
  /-- Nothing: a lexeme or layout comes next. -/
  | any
  /-- A word, whose first letter has been read. -/
  | word
  /-- A name, whose dollar sign has been read. -/
  | name
  /-- A string, whose opening quote has been read. -/
  | string
  /-- A number, of which nothing has been read. -/
  | number
  /-- The end of a literal, which has been read. -/
  | delimiter
  deriving DecidableEq

/-- What a step of a scanner leads to. -/
inductive Step where
  /-- To a state in which it goes on. -/
  | next (s : State) (c : CharCursor)
  /-- To the end. -/
  | done (l : Lexed)

/-- Ends at the cursor, for a cause. -/
def fail (c : CharCursor) (cause : Cause) : Step :=
  .done (.after c.pushed (.stopped c.file c.offset cause))

/-- Passes blanks, and begins the lexeme after them. Newlines and marks take one step. -/
def stepAny (c : CharCursor) : Step :=
  match (c.discardRun [' ', '\t']).read with
  | (none, c) => .done (.after c.pushed .finished)
  | (some d, c) =>
    if d.isAlpha then .next .word c
    else if d = '$' then .next .name c
    else if d = '"' then .next .string c
    else if isNumberStart d then .next .number c.unread
    else if d = '\n' then .next .any c.ignore
    else
      match Mark.ofChar? d with
      | some m => .next .any (c.emit (.mark m))
      | none => fail c.unread (.unexpectedCharacter (Diagnostic.describe (some d)))

/-- Pushes the three tokens of a pending operator: its stem, which is a keyword, an underscore, and
its sign. -/
def emitOperator (c : CharCursor) (k : Keyword) (stem : List Char) (s : Sign) : CharCursor :=
  let stop := c.start + Text.utf8Length stem
  (((c.pushAt (.keyword k) stem c.start stop).pushAt
    (.mark .underscore) ['_'] stop (stop + 1)).pushAt
      (.sign s) [s.letter] (stop + 1) c.offset).ignore

/-- Pushes a pending word, which has to be an operator or a keyword. -/
def endWord (c : CharCursor) (word : List Char) : Step :=
  match splitSign? word with
  | some (stem, s) =>
    match Keyword.ofSpelling? (String.ofList stem) with
    | some k => .next .any (emitOperator c k stem s)
    | none => fail c.backToMark (.unknownWord (String.ofList word))
  | none =>
    match Keyword.ofSpelling? (String.ofList word) with
    | some k => .next .any (c.emit (.keyword k))
    | none => fail c.backToMark (.unknownWord (String.ofList word))

/-- Passes the rest of a word, as far as it goes. -/
def stepWord (c : CharCursor) : Step :=
  let c := c.advance (Number.run isWordChar c.rest)
  endWord c c.pendingText

/-- Passes the rest of a name, which must not be empty. -/
def stepName (c : CharCursor) : Step :=
  match Number.run isNameChar c.rest with
  | ([], _) => fail c (.unexpectedNameCharacter (Diagnostic.describe c.peek))
  | parts => .next .delimiter ((c.advance parts).emit .name)

/-- The rest of an escape, whose backslash has been read. -/
def stepEscape (c : CharCursor) : Step :=
  match c.accept ['n', 't', '\\', '\'', '"'] with
  | (true, c) => .next .string c
  | (false, c) =>
    match c.acceptIf Char.isHexDigit with
    | (true, c) =>
      match c.acceptIf Char.isHexDigit with
      | (true, c) => .next .string c
      | (false, c) => fail c (.illegalEscape (Diagnostic.describe c.peek))
    | (false, c) => fail c (.illegalEscape (Diagnostic.describe c.peek))

/-- Passes one item of a string, or its closing quote. -/
def stepString (c : CharCursor) : Step :=
  match c.read with
  | (none, c) => fail c .unclosedString
  | (some d, c) =>
    if d = '"' then .next .delimiter (c.emit .string)
    else if d = '\\' then stepEscape c
    else if d = '\n' then fail c .unclosedString
    else if isControl d then fail c (.illegalControlCharacter (Diagnostic.describe (some d)))
    else .next .string c

/-- Passes a number, which must not run into a letter, a digit or an underscore. -/
def stepNumber (c : CharCursor) : Step :=
  let c := c.advance (Number.split c.rest)
  match c.peek with
  | none => .next .delimiter (c.emit .number)
  | some d =>
    if runsOn d then fail c (.unexpectedNumberCharacter (Diagnostic.describe (some d)))
    else .next .delimiter (c.emit .number)

/-- Looks for the delimiter after a literal. -/
def stepDelimiter (c : CharCursor) : Step :=
  if isDelimited c.rest then .next .any c
  else fail c (.missingDelimiter (Diagnostic.describe c.peek))

/-- One step. -/
def step : State → CharCursor → Step
  | .any => stepAny
  | .word => stepWord
  | .name => stepName
  | .string => stepString
  | .number => stepNumber
  | .delimiter => stepDelimiter

/-- What is left to do at a cursor. The characters that come next count most. Among the states, the
one for a number comes after the one for nothing if a number comes next, since it then takes some
characters. -/
def weight (s : State) (c : CharCursor) : Nat :=
  3 * c.rest.length +
    match s with
    | .any => 2
    | .number => if c.rest.head?.any isNumberStart then 1 else 4
    | .delimiter => 3
    | .word | .name | .string => 4

/-! ### A scanner comes to an end -/

section

variable {s s' : State} {c c' : CharCursor}

/-- Having passed some characters is enough, except for a number. -/
theorem weight_lt_of_shorter (shorter : c'.rest.length < c.rest.length) (not_number : s ≠ .number) :
    weight s' c' < weight s c := by
  have less : weight s' c' ≤ 3 * c'.rest.length + 4 := by
    unfold weight
    split <;> try split
    all_goals omega
  have more : 3 * c.rest.length + 2 ≤ weight s c := by
    cases s <;> simp [weight] at not_number ⊢
  omega

theorem stepAny_next (h : stepAny c = .next s c') :
    c'.rest.length < c.rest.length ∨
      s = .number ∧ c'.rest.head?.any isNumberStart = true ∧ c'.rest.length ≤ c.rest.length := by
  have blanks : (c.discardRun [' ', '\t']).rest.length ≤ c.rest.length :=
    (List.dropWhile_suffix _).length_le
  unfold stepAny at h
  cases next : (c.discardRun [' ', '\t']).rest with
  | nil =>
    rw [CharCursor.read_nil next] at h
    cases h
  | cons d rest =>
    rw [CharCursor.read_cons next] at h
    rw [next, List.length_cons] at blanks
    dsimp only at h
    split at h
    · cases h
      exact Or.inl blanks
    split at h
    · cases h
      exact Or.inl blanks
    split at h
    · cases h
      exact Or.inl blanks
    split at h
    · rename_i start
      cases h
      exact Or.inr ⟨rfl, start, blanks⟩
    split at h
    · cases h
      exact Or.inl blanks
    split at h
    · cases h
      exact Or.inl blanks
    · cases h

theorem stepWord_next (h : stepWord c = .next s c') :
    s = .any ∧ c'.rest.length ≤ c.rest.length := by
  have run : (Number.run isWordChar c.rest).2.length ≤ c.rest.length :=
    (List.dropWhile_suffix _).length_le
  unfold stepWord endWord at h
  dsimp only at h
  split at h
  · split at h
    · cases h
      exact ⟨rfl, run⟩
    · cases h
  · split at h
    · cases h
      exact ⟨rfl, run⟩
    · cases h

theorem stepName_next (h : stepName c = .next s c') :
    s = .delimiter ∧ c'.rest.length ≤ c.rest.length := by
  have run : (Number.run isNameChar c.rest).2.length ≤ c.rest.length :=
    (List.dropWhile_suffix _).length_le
  unfold stepName at h
  split at h
  · cases h
  · cases h
    exact ⟨rfl, run⟩

theorem stepEscape_next (h : stepEscape c = .next s c') :
    s = .string ∧ c'.rest.length ≤ c.rest.length := by
  unfold stepEscape at h
  have letter := c.length_acceptIf_le (['n', 't', '\\', '\'', '"'].contains)
  rw [CharCursor.accept_eq] at h
  split at h
  · rename_i read
    cases h
    rw [read] at letter
    exact ⟨rfl, letter⟩
  · rename_i c₁ read
    rw [read] at letter
    have high := c₁.length_acceptIf_le Char.isHexDigit
    split at h
    · rename_i c₂ read₂
      rw [read₂] at high
      have low := c₂.length_acceptIf_le Char.isHexDigit
      split at h
      · rename_i c₃ read₃
        cases h
        rw [read₃] at low
        exact ⟨rfl, Nat.le_trans low (Nat.le_trans high letter)⟩
      · cases h
    · cases h

theorem stepString_next (h : stepString c = .next s c') : c'.rest.length < c.rest.length := by
  unfold stepString at h
  cases next : c.rest with
  | nil =>
    rw [CharCursor.read_nil next] at h
    cases h
  | cons d rest =>
    rw [CharCursor.read_cons next] at h
    dsimp only at h
    split at h
    · cases h
      exact Nat.lt_succ_self _
    split at h
    · exact Nat.lt_succ_of_le (stepEscape_next h).2
    split at h
    · cases h
    split at h
    · cases h
    · cases h
      exact Nat.lt_succ_self _

theorem stepNumber_next (h : stepNumber c = .next s c') :
    s = .delimiter ∧ c'.rest = (Number.split c.rest).2 := by
  unfold stepNumber at h
  dsimp only at h
  split at h
  · cases h
    exact ⟨rfl, rfl⟩
  · split at h
    · cases h
    · cases h
      exact ⟨rfl, rfl⟩

theorem stepDelimiter_next (h : stepDelimiter c = .next s c') : s = .any ∧ c' = c := by
  unfold stepDelimiter at h
  split at h
  · cases h
    exact ⟨rfl, rfl⟩
  · cases h

/-- What comes after a number, in which some characters are passed if there is one. -/
theorem weight_split_lt (c c' : CharCursor) (rest : c'.rest = (Number.split c.rest).2) :
    weight .delimiter c' < weight .number c := by
  have parts := congrArg List.length (Number.split_append c.rest)
  rw [List.length_append] at parts
  simp only [weight, rest]
  split
  · rename_i start
    cases next : c.rest with
    | nil => simp [next] at start
    | cons d others =>
      rw [next] at start parts
      have taken := List.length_pos_iff.2 (Number.split_ne_nil (c := d) start others)
      rw [next] at *
      omega
  · omega

/-- Every step leaves less to do. -/
theorem weight_lt_of_step (h : step s c = .next s' c') : weight s' c' < weight s c := by
  cases s with
  | any =>
    rcases stepAny_next h with shorter | ⟨rfl, start, no_longer⟩
    · exact weight_lt_of_shorter shorter nofun
    · simp only [weight, start, if_true]
      omega
  | word =>
    obtain ⟨rfl, no_longer⟩ := stepWord_next h
    simp only [weight]
    omega
  | name =>
    obtain ⟨rfl, no_longer⟩ := stepName_next h
    simp only [weight]
    omega
  | string => exact weight_lt_of_shorter (stepString_next h) nofun
  | number =>
    obtain ⟨rfl, rest⟩ := stepNumber_next h
    exact weight_split_lt c c' rest
  | delimiter =>
    obtain ⟨rfl, rfl⟩ := stepDelimiter_next h
    simp only [weight]
    omega

end

/-- What a scanner pushes from a cursor on, and the error if it meets a fault. -/
def run (s : State) (c : CharCursor) : Lexed :=
  match _ : step s c with
  | .next s' c' => run s' c'
  | .done l => l
termination_by weight s c
decreasing_by exact weight_lt_of_step (by assumption)

/-- What is pushed from a step on. -/
def Step.lexed : Step → Lexed
  | .next s c => run s c
  | .done l => l

theorem run_eq (s : State) (c : CharCursor) : run s c = (step s c).lexed := by
  rw [run]
  split
  · rename_i taken
    rw [taken]
    rfl
  · rename_i taken
    rw [taken]
    rfl

end Scanner

end WasmText
