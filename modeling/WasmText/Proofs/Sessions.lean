import WasmText.Parse.Session
import WasmText.Proofs.Reading.Advancing
import WasmText.Proofs.Reading.Clauses

/-!
# Where a session stands

Whatever steps a session takes, the failed ones included, it stands after some number of tokens of
the row that it began with. Only moving back lessens this number. Tokens of given kinds are matched one
by one, and those that were matched are taken back where one is missing, so that either all of them
are passed or none is; a reader of a single token passes it or leaves the session as it was.

## What is proved

* `matchKinds_eq_matchEach`: matching kinds one by one, and moving back by as many as were matched.
* `perform_keeps`, `performAll_keeps`: what a step keeps, and any number of them.
* `perform_matchKinds`, `takesOne_accept`, `takesOne_expectOneOf`: the readers of given tokens.
* `session_discipline`: where a session stands after any steps, and what the next one does.
-/

namespace WasmText

open TokenCursor Grammar Parse

namespace TokenCursor

/-- How many tokens a cursor has passed. -/
def index (c : TokenCursor) : Nat := c.behind.length

theorem index_le (c : TokenCursor) : c.index ≤ c.tokens.length := by
  simp [index, tokens]

theorem index_skip (c : TokenCursor) (n : Nat) : (c.skip n).index = c.index + min n c.ahead.length := by
  simp [index, skip, Nat.add_comm]

theorem index_rewind (c : TokenCursor) (n : Nat) : (c.rewind n).index = c.index - n :=
  List.length_drop

theorem ahead_eq_drop (c : TokenCursor) : c.ahead = c.tokens.drop c.index := by
  have passed : c.behind.reverse.length = c.index := List.length_reverse
  rw [tokens, ← passed, List.drop_left]

theorem current?_eq (c : TokenCursor) : c.current? = c.tokens[c.index]? := by
  rw [current?, ahead_eq_drop, List.head?_drop]

theorem kindAt?_eq (c : TokenCursor) (n : Nat) :
    c.kindAt? n = c.tokens[c.index + n]?.map Token.kind := by
  rw [kindAt?, ahead_eq_drop, List.getElem?_drop]

theorem startsWith_iff_isPrefix {c : TokenCursor} {kinds : List Kind} :
    c.startsWith kinds = true ↔ kinds <+: c.ahead.map Token.kind := by
  rw [startsWith, beq_iff_eq, List.map_take, List.prefix_iff_eq_take, eq_comm]

theorem startsWith_cons_iff {c : TokenCursor} {kind : Kind} {kinds : List Kind} :
    c.startsWith (kind :: kinds) = true ↔
      c.kind? = some kind ∧ (c.skip 1).startsWith kinds = true := by
  rw [startsWith_iff_isPrefix, startsWith_iff_isPrefix, kind?, kindAt?, ahead_skip]
  cases c.ahead with
  | nil => simp
  | cons t rest => simp [List.cons_prefix_cons, eq_comm]

end TokenCursor

/-! ### Matching one by one -/

namespace Parse

/-- Passes tokens of these kinds one by one, and moves back over those that were passed where one is
missing. -/
def matchEach (passed : Nat) : List Kind → Parse Bool
  | [] => return true
  | kind :: kinds => do
    if (← get).kind? = some kind then
      let _ ← advance
      matchEach (passed + 1) kinds
    else
      rewind passed
      return false

/-- As many tokens as were passed are taken back, and there always are as many. -/
theorem run_matchEach {c : TokenCursor} {passed : Nat} (inside : passed ≤ c.ahead.length)
    (kinds : List Kind) :
    (matchEach passed kinds).run (c.skip passed) =
      if (c.skip passed).startsWith kinds then .ok true (c.skip (passed + kinds.length))
      else .ok false c := by
  induction kinds generalizing passed with
  | nil => rfl
  | cons kind kinds ih =>
    rw [matchEach, EStateM.run_bind]
    show (if (c.skip passed).kind? = some kind then
      (do let _ ← advance; matchEach (passed + 1) kinds) else
      (do rewind passed; return false) : Parse Bool).run (c.skip passed) = _
    by_cases next : (c.skip passed).kind? = some kind
    · have more : passed + 1 ≤ c.ahead.length := by
        by_contra short
        have nothing : (c.skip passed).ahead = [] := List.drop_eq_nil_of_le (by omega)
        rw [kind?, kindAt?, nothing] at next
        cases next
      have same : (c.skip passed).startsWith (kind :: kinds) =
          (c.skip (passed + 1)).startsWith kinds := by
        rw [Bool.eq_iff_iff, startsWith_cons_iff, skip_skip]
        exact and_iff_right next
      rw [if_pos next, EStateM.run_bind]
      show (matchEach (passed + 1) kinds).run ((c.skip passed).skip 1) = _
      rw [skip_skip, ih more, same, List.length_cons, Nat.add_right_comm, Nat.add_assoc]
    · rw [if_neg next, EStateM.run_bind]
      show EStateM.run (pure false) ((c.skip passed).rewind passed) = _
      rw [rewind_skip c inside, if_neg]
      · rfl
      · exact fun starts => next (startsWith_cons_iff.1 starts).1

theorem matchKinds_eq_matchEach (kinds : List Kind) : matchKinds kinds = matchEach 0 kinds := by
  funext c
  have run := run_matchEach (c := c) (Nat.zero_le _) kinds
  rw [skip_zero, Nat.zero_add] at run
  show (matchKinds kinds).run c = (matchEach 0 kinds).run c
  rw [run, matchKinds, EStateM.run_modifyGet]
  split <;> rfl

end Parse

namespace Session

/-! ### What a step keeps -/

/-- A session with the same row as another one. -/
structure Kept (s s' : Session) : Prop where
  /-- The tokens are the same. -/
  tokens : s'.cursor.tokens = s.cursor.tokens
  /-- So is the file. -/
  file : s'.cursor.file = s.cursor.file

theorem perform_of_answers {s : Session} {r : Reading} {a : Answer} {c : TokenCursor}
    (answered : Answers (r.parse s.table) s.cursor a c) :
    s.perform (.reading r) = (a, { s with cursor := c }) := by
  have run : (r.parse s.table).run s.cursor = .ok a c := answered
  simp only [perform, run]

theorem perform_of_fails {s : Session} {r : Reading} {e : Error} {c : TokenCursor}
    (failed : FailsWith (r.parse s.table) s.cursor e c) :
    s.perform (.reading r) = (.error e, { s with cursor := c }) := by
  have run : (r.parse s.table).run s.cursor = .error e c := failed
  simp only [perform, run]

/-- Every reading but moving back advances. -/
theorem advances_reading (table : FieldTable) {r : Reading} (forward : ∀ n, r ≠ .rewind n) :
    Advances (r.parse table) := by
  cases r with
  | advance => exact advances_advance.map
  | rewind n => exact absurd rfl (forward n)
  | matchKinds kinds => exact (advances_matchKinds kinds).map
  | accept kinds => exact (advances_accept kinds).map
  | expect kind => exact (advances_expect kind).map
  | expectOneOf kinds => exact (advances_expectOneOf kinds).map
  | acceptValueType => exact advances_acceptValueType.map
  | expectValueType => exact advances_expectValueType.map
  | signature => exact advances_signature.map
  | params => exact (advances_clauses advances_declaration).map
  | param => exact advances_declaration.map
  | results => exact (advances_clauses advances_result).map
  | locals => exact advances_locals.map
  | reference => exact advances_reference.map
  | optionalName => exact advances_optionalName.map
  | instruction => exact (advances_pure none : Advances Parse.instruction).map
  | instructions => exact advances_instructions.map
  | fieldRest rule => exact (advances_fieldRule rule).map
  | field kind =>
    simp only [Reading.parse]
    split
    · exact (advances_fieldRule _).map
    · exact advances_pure _
  | module => exact (advances_module table).map

/-- A step keeps the row. It does not go back, unless it moves back by a number of tokens: then it
goes back by as many, or to the start. -/
theorem perform_keeps (s : Session) (step : Step) :
    Kept s (s.perform step).2 ∧
      (s.cursor.index ≤ (s.perform step).2.cursor.index ∨
        ∃ n, step = .reading (.rewind n) ∧
          (s.perform step).2.cursor.index = s.cursor.index - n) := by
  cases step with
  | query q => exact ⟨⟨rfl, rfl⟩, Or.inl le_rfl⟩
  | registration r => exact ⟨⟨rfl, rfl⟩, Or.inl le_rfl⟩
  | reading r =>
    by_cases back : ∃ n, r = .rewind n
    · obtain ⟨n, rfl⟩ := back
      have moved : Answers (Reading.parse s.table (.rewind n)) s.cursor .done (s.cursor.rewind n) := rfl
      rw [perform_of_answers moved]
      exact ⟨⟨tokens_rewind _ n, rfl⟩, Or.inr ⟨n, rfl, index_rewind _ n⟩⟩
    · have advances := advances_reading s.table (fun n same => back ⟨n, same⟩) s.cursor
      have further : ∃ a n, s.perform (.reading r) = (a, { s with cursor := s.cursor.skip n }) := by
        cases run : (r.parse s.table).run s.cursor with
        | ok a c =>
          obtain ⟨n, rfl⟩ := advances.answers run
          exact ⟨a, n, perform_of_answers run⟩
        | error e c =>
          obtain ⟨n, rfl⟩ := advances.fails run
          exact ⟨.error e, n, perform_of_fails run⟩
      obtain ⟨a, n, performed⟩ := further
      rw [performed]
      exact ⟨⟨tokens_skip _ n, rfl⟩, Or.inl (by rw [index_skip]; omega)⟩

theorem performAll_keeps (s : Session) (steps : List Step) : Kept s (s.performAll steps) := by
  induction steps generalizing s with
  | nil => exact ⟨rfl, rfl⟩
  | cons step steps ih =>
    have first := (perform_keeps s step).1
    have others := ih (s.perform step).2
    exact ⟨others.tokens.trans first.tokens, others.file.trans first.file⟩

/-! ### Readers of given tokens -/

/-- The session `n` tokens further on. -/
def passing (s : Session) (n : Nat) : Session := { s with cursor := s.cursor.skip n }

/-- A reading passes exactly one token, if the next one is such as `found?` says what to answer;
otherwise it leaves the session as it was. -/
def TakesOne (s : Session) (r : Reading) (found? : Token → Option Answer) (refused : Answer) : Prop :=
  s.perform (.reading r) =
    match s.cursor.current?.bind found? with
    | some a => (a, s.passing 1)
    | none => (refused, s)

/-- Tokens of the given kinds are all passed if they come next, and none of them otherwise. -/
theorem perform_matchKinds (s : Session) (kinds : List Kind) :
    (kinds <+: s.cursor.ahead.map Token.kind →
      s.perform (.reading (.matchKinds kinds)) = (.flag true, s.passing kinds.length) ∧
        (s.passing kinds.length).cursor.index = s.cursor.index + kinds.length) ∧
    (¬ kinds <+: s.cursor.ahead.map Token.kind →
      s.perform (.reading (.matchKinds kinds)) = (.flag false, s)) := by
  constructor
  · intro next
    obtain ⟨ts, c', of_kinds, passed⟩ := startsWith_iff.1 (startsWith_iff_isPrefix.2 next)
    have length : kinds.length = ts.length := by rw [← of_kinds, List.length_map]
    have enough : ts.length ≤ s.cursor.ahead.length := by
      rw [passed.ahead, List.length_append]
      omega
    rw [passing, length, ← passed.eq_skip]
    refine ⟨perform_of_answers (answers_matchKinds_true.2 ⟨ts, of_kinds, passed⟩).map, ?_⟩
    rw [passed.eq_skip, index_skip, min_eq_left enough]
  · intro other
    have shut := mt startsWith_iff_isPrefix.1 other
    exact perform_of_answers (answers_matchKinds_false.2 ⟨rfl, shut⟩).map

theorem takesOne_of {s : Session} {r : Reading} {found? : Token → Option Answer} {refused : Answer}
    (takes : ∀ t a, s.cursor.current? = some t → found? t = some a →
      s.perform (.reading r) = (a, s.passing 1))
    (leaves : (∀ t ∈ s.cursor.current?, found? t = none) →
      s.perform (.reading r) = (refused, s)) : s.TakesOne r found? refused := by
  unfold TakesOne
  cases next : s.cursor.current? with
  | none => exact leaves (by simp [next])
  | some t =>
    rw [Option.bind_some]
    cases found : found? t with
    | none => exact leaves (by simpa [next] using found)
    | some a => exact takes t a next found

theorem takesOne_accept (s : Session) (kinds : List Kind) :
    s.TakesOne (.accept kinds)
      (fun t => if t.kind ∈ kinds then some (.optionalToken (some t)) else none)
      (.optionalToken none) := by
  refine takesOne_of ?_ ?_
  · intro t a next found
    obtain ⟨member, ⟨⟩⟩ := Option.ite_none_right_eq_some.1 found
    exact perform_of_answers (answers_accept_some.2 ⟨member, passes_of_current? next⟩).map
  · intro others
    have no_member : ∀ t ∈ s.cursor.current?, t.kind ∉ kinds := by simpa using others
    exact perform_of_answers (answers_accept_none.2 ⟨rfl, no_member⟩).map

theorem takesOne_expectOneOf (s : Session) (kinds : List Kind) :
    s.TakesOne (.expectOneOf kinds) (fun t => if t.kind ∈ kinds then some (.token t) else none)
      (.error (s.cursor.unexpected kinds)) := by
  refine takesOne_of ?_ ?_
  · intro t a next found
    obtain ⟨member, ⟨⟩⟩ := Option.ite_none_right_eq_some.1 found
    exact perform_of_answers (answers_expectOneOf.2 ⟨member, passes_of_current? next⟩).map
  · intro others
    have no_member : ∀ t ∈ s.cursor.current?, t.kind ∉ kinds := by simpa using others
    exact perform_of_fails (failsWith_expectOneOf.2 ⟨no_member, rfl, rfl⟩).bind_left

theorem takesOne_acceptValueType (s : Session) :
    s.TakesOne .acceptValueType
      (fun t => (ValueType.ofKind? t.kind).map fun type => .optionalValueType (some type))
      (.optionalValueType none) := by
  refine takesOne_of ?_ ?_
  · intro t a next found
    obtain ⟨type, of_kind, rfl⟩ := Option.map_eq_some_iff.1 found
    have said : IsValueType [t] type := isValueType_iff.2 ⟨t, rfl, of_kind⟩
    exact perform_of_answers
      (answers_acceptValueType_some.2 ⟨[t], said, passes_of_current? next⟩).map
  · intro others
    have no_type : ∀ t ∈ s.cursor.current?, ValueType.ofKind? t.kind = none := by simpa using others
    exact perform_of_answers (answers_acceptValueType_none.2 ⟨rfl, no_type⟩).map

theorem takesOne_expectValueType (s : Session) :
    s.TakesOne .expectValueType (fun t => (ValueType.ofKind? t.kind).map .valueType)
      (.error (s.cursor.unexpected ValueType.kinds)) := by
  refine takesOne_of ?_ ?_
  · intro t a next found
    obtain ⟨type, of_kind, rfl⟩ := Option.map_eq_some_iff.1 found
    have said : IsValueType [t] type := isValueType_iff.2 ⟨t, rfl, of_kind⟩
    exact perform_of_answers (answers_expectValueType.2 ⟨[t], said, passes_of_current? next⟩).map
  · intro others
    have no_type : ∀ t ∈ s.cursor.current?, ValueType.ofKind? t.kind = none := by simpa using others
    exact perform_of_fails (failsWith_expectValueType.2 ⟨no_type, rfl, rfl⟩).bind_left

end Session

open Session

/-- Where a session stands after any steps from the start of a row, failed ones included, and what the
next one does. It stands after at most all tokens of the same row, and a step goes back only if it
moves back. What it sees is that row from there on, as far as a word can count. Tokens of given kinds are matched one by one, and are all passed if they come next;
otherwise the session stays as it is. A reader of a single token passes it, or leaves the session as it
was; if it fails, it names the token that comes next, or the end. -/
theorem session_discipline (tokens : List Token) (file : String) (table : FieldTable)
    (steps : List Step) :
    let s := Session.performAll ⟨.ofTokens tokens file, table⟩ steps
    let i := s.cursor.index
    (i ≤ tokens.length ∧ s.cursor.tokens = tokens ∧ s.cursor.file = file ∧
      s.cursor.current? = tokens[i]? ∧
      (∀ n, i + n < UInt64.size → s.cursor.kindAt? n = tokens[i + n]?.map Token.kind) ∧
      ∀ n, (s.passing n).cursor.index = min (i + n) tokens.length) ∧
    (∀ step, i ≤ (s.perform step).2.cursor.index ∨
      ∃ n, step = .reading (.rewind n) ∧ (s.perform step).2.cursor.index = i - n) ∧
    (∀ kinds, matchKinds kinds = matchEach 0 kinds ∧
      (kinds <+: (tokens.drop i).map Token.kind →
        s.perform (.reading (.matchKinds kinds)) = (.flag true, s.passing kinds.length) ∧
          (s.passing kinds.length).cursor.index = i + kinds.length) ∧
      (¬ kinds <+: (tokens.drop i).map Token.kind →
        s.perform (.reading (.matchKinds kinds)) = (.flag false, s))) ∧
    ((∀ kinds, s.TakesOne (.accept kinds)
        (fun t => if t.kind ∈ kinds then some (.optionalToken (some t)) else none)
        (.optionalToken none)) ∧
      s.TakesOne .acceptValueType
        (fun t => (ValueType.ofKind? t.kind).map fun type => .optionalValueType (some type))
        (.optionalValueType none) ∧
      (∀ kinds, s.TakesOne (.expectOneOf kinds)
        (fun t => if t.kind ∈ kinds then some (.token t) else none)
        (.error (s.cursor.unexpected kinds))) ∧
      s.TakesOne .expectValueType (fun t => (ValueType.ofKind? t.kind).map .valueType)
        (.error (s.cursor.unexpected ValueType.kinds))) ∧
    ∀ kinds, s.cursor.unexpected kinds =
      match tokens[i]?, tokens.getLast? with
      | some t, _ => ⟨.unexpectedToken kinds t.display, t.span.start⟩
      | none, some t => ⟨.unexpectedEnd kinds, t.span.stop⟩
      | none, none => ⟨.unexpectedEnd kinds, .ofBytes file 0⟩ := by
  intro s i
  have kept : Kept ⟨.ofTokens tokens file, table⟩ s := performAll_keeps _ steps
  have row : s.cursor.tokens = tokens := kept.tokens.trans (tokens_ofTokens tokens file)
  have of_file : s.cursor.file = file := kept.file
  have inside : i ≤ tokens.length := row ▸ s.cursor.index_le
  have ahead : s.cursor.ahead = tokens.drop i := row ▸ s.cursor.ahead_eq_drop
  refine ⟨⟨inside, row, of_file, row ▸ s.cursor.current?_eq,
      fun n _ => row ▸ s.cursor.kindAt?_eq n, fun n => ?_⟩,
    fun step => (perform_keeps s step).2,
    fun kinds => ⟨matchKinds_eq_matchEach kinds, ahead ▸ perform_matchKinds s kinds⟩,
    ⟨takesOne_accept s, takesOne_acceptValueType s, takesOne_expectOneOf s,
      takesOne_expectValueType s⟩, fun kinds => ?_⟩
  · show (s.cursor.skip n).index = _
    rw [index_skip, ahead, List.length_drop]
    omega
  · have named := s.cursor.unexpected_eq kinds
    rw [current?_eq, row, of_file] at named
    exact named

end WasmText
