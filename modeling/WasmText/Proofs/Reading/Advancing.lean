import WasmText.Parse.Module
import WasmText.Proofs.Reading

/-!
# Readers advance

A reader ends where it was started or further on in the same row of tokens, whether it answers or
fails. It is enough that the readers of single tokens do: readers one after the other do then, and
the loops.

## What is proved

* `Advances.bind`, `advances_get_bind`: readers one after the other.
* `advances_clauses`, `advances_fieldsWithin`: the loops.
* `advances_signature`, `advances_fieldRule`, `advances_module`: the readers of the grammar.
-/

namespace WasmText

namespace Parse

open TokenCursor

variable {α β : Type}

/-- From a cursor, a reader ends at it or further on in the row, whether it answers or fails. -/
structure AdvancesFrom (c : TokenCursor) (p : Parse α) : Prop where
  /-- Where it answers. -/
  answers {a : α} {c' : TokenCursor} : Answers p c a c' → ∃ n, c' = c.skip n
  /-- Where it fails. -/
  fails {e : Error} {c' : TokenCursor} : FailsWith p c e c' → ∃ n, c' = c.skip n

/-- From every cursor, a reader ends at it or further on in the row. -/
def Advances (p : Parse α) : Prop :=
  ∀ c, AdvancesFrom c p

/-! ### Readers one after the other -/

theorem advances_pure (a : α) : Advances (pure a) := by
  intro c
  constructor
  · intro b c' answered
    exact ⟨0, by rw [(answers_pure.1 answered).2, skip_zero]⟩
  · intro e c' failed
    exact absurd failed not_failsWith_pure

theorem advances_throw (e : Error) : Advances (throw e : Parse α) := by
  intro c
  constructor
  · intro a c' answered
    exact absurd answered not_answers_throw
  · intro e' c' failed
    exact ⟨0, by rw [(failsWith_throw.1 failed).2, skip_zero]⟩

theorem AdvancesFrom.bind {c : TokenCursor} {p : Parse α} {f : α → Parse β} (first : AdvancesFrom c p)
    (second : ∀ a n, AdvancesFrom (c.skip n) (f a)) : AdvancesFrom c (p >>= f) := by
  constructor
  · intro b c'' answered
    obtain ⟨a, c', answered, answered'⟩ := answers_bind.1 answered
    obtain ⟨m, rfl⟩ := first.answers answered
    obtain ⟨n, rfl⟩ := (second a m).answers answered'
    exact ⟨m + n, skip_skip c m n⟩
  · intro e c'' failed
    rcases failsWith_bind.1 failed with failed | ⟨a, c', answered, failed⟩
    · exact first.fails failed
    · obtain ⟨m, rfl⟩ := first.answers answered
      obtain ⟨n, rfl⟩ := (second a m).fails failed
      exact ⟨m + n, skip_skip c m n⟩

theorem Advances.bind {p : Parse α} {f : α → Parse β} (first : Advances p)
    (second : ∀ a, Advances (f a)) : Advances (p >>= f) :=
  fun c => (first c).bind fun a n => second a (c.skip n)

/-- A reader that looks at the cursor before it does anything. -/
theorem advances_get_bind {f : TokenCursor → Parse α} (h : ∀ c, AdvancesFrom c (f c)) :
    Advances (get >>= f) := by
  intro c
  constructor
  · intro a c' answered
    obtain ⟨_, _, got, answered⟩ := answers_bind.1 answered
    cases got
    exact (h c).answers answered
  · intro e c' failed
    rcases failsWith_bind.1 failed with failed | ⟨_, _, got, failed⟩
    · cases failed
    · cases got
      exact (h c).fails failed

theorem advancesFrom_set (c : TokenCursor) (n : Nat) : AdvancesFrom c (set (c.skip n)) := by
  constructor
  · intro a c' answered
    cases answered
    exact ⟨n, rfl⟩
  · intro e c' failed
    cases failed

theorem advances_modifyGet {f : TokenCursor → α × TokenCursor} (h : ∀ c, ∃ n, (f c).2 = c.skip n) :
    Advances (modifyGet f) := by
  intro c
  constructor
  · intro a c' answered
    obtain ⟨n, moved⟩ := h c
    cases answered
    exact ⟨n, moved⟩
  · intro e c' failed
    exact absurd failed not_failsWith_modifyGet

/-! ### Single tokens -/

theorem advances_advance : Advances advance :=
  advances_modifyGet fun _ => ⟨1, rfl⟩

theorem advances_matchKinds (kinds : List Kind) : Advances (matchKinds kinds) := by
  refine advances_modifyGet fun c => ?_
  split
  · exact ⟨kinds.length, rfl⟩
  · exact ⟨0, c.skip_zero.symm⟩

theorem advances_accept (kinds : List Kind) : Advances (accept kinds) := by
  refine advances_modifyGet fun c => ?_
  split
  · split
    · exact ⟨1, rfl⟩
    · exact ⟨0, c.skip_zero.symm⟩
  · exact ⟨0, c.skip_zero.symm⟩

theorem advances_acceptValueType : Advances acceptValueType := by
  refine advances_modifyGet fun c => ?_
  split
  · exact ⟨1, rfl⟩
  · exact ⟨0, c.skip_zero.symm⟩

theorem advances_valueTypes : Advances valueTypes :=
  advances_modifyGet fun _ => ⟨_, rfl⟩

theorem advances_unexpected (expected : List Kind) : Advances (unexpected expected : Parse α) :=
  advances_get_bind fun c => advances_throw _ c

theorem advances_expectOneOf (kinds : List Kind) : Advances (expectOneOf kinds) := by
  refine (advances_accept kinds).bind fun accepted => ?_
  cases accepted with
  | some t => exact advances_pure t
  | none => exact advances_unexpected kinds

theorem advances_expect (kind : Kind) : Advances (expect kind) :=
  advances_expectOneOf [kind]

theorem advances_expectValueType : Advances expectValueType := by
  refine advances_acceptValueType.bind fun found => ?_
  cases found with
  | some type => exact advances_pure type
  | none => exact advances_unexpected ValueType.kinds

/-- A token of a kind, and then a reader. -/
theorem Advances.expect_bind {kind : Kind} {p : Parse β} (h : Advances p) :
    Advances (do let _ ← expect kind; p) :=
  (advances_expect kind).bind fun _ => h

theorem Advances.map {p : Parse α} {f : α → β} (h : Advances p) :
    Advances (do let a ← p; return f a) :=
  h.bind fun a => advances_pure (f a)

/-- A reader with a closing parenthesis after it. -/
theorem Advances.closed {p : Parse α} {f : α → β} (h : Advances p) :
    Advances (do let a ← p; let _ ← expect .rightParen; return f a) :=
  h.bind fun a => .expect_bind (advances_pure (f a))

/-! ### Names, references and signatures -/

theorem advances_optionalName : Advances optionalName :=
  (advances_accept [.name]).map

theorem advances_reference : Advances reference := by
  refine (advances_expectOneOf _).bind fun t => ?_
  split
  · exact advances_pure _
  · split
    · exact advances_pure _
    · exact advances_throw _

theorem advances_string : Advances string := by
  refine (advances_expect .string).bind fun t => ?_
  split
  · exact advances_pure _
  · exact advances_throw _

theorem advances_result : Advances result :=
  Advances.closed (f := id) advances_expectValueType

theorem advances_declaration : Advances declaration := by
  refine (advances_accept [.name]).bind fun accepted => ?_
  cases accepted with
  | some t => exact advances_expectValueType.closed
  | none => exact advances_valueTypes.closed

theorem advances_clausesWithin {opening : List Kind} {clause : Parse α} {last : α → Bool}
    (h : Advances clause) (bound : List Token) :
    Advances (clausesWithin opening clause last bound) := by
  induction bound with
  | nil => exact advances_pure []
  | cons _ bound ih =>
    refine (advances_matchKinds opening).bind fun opened => ?_
    cases opened with
    | false => exact advances_pure []
    | true =>
      refine h.bind fun first => ?_
      split
      · exact advances_pure [first]
      · exact ih.map

theorem advances_clauses {opening : List Kind} {clause : Parse α} {last : α → Bool}
    (h : Advances clause) : Advances (clauses opening clause last) :=
  advances_get_bind fun c => advances_clausesWithin h c.ahead c

theorem advances_locals : Advances locals :=
  (advances_clauses advances_declaration).map

theorem advances_signature : Advances signature := by
  refine (advances_matchKinds _).bind fun refers => ?_
  cases refers with
  | true => exact advances_reference.closed
  | false =>
    exact (advances_clauses advances_declaration).bind fun params =>
      (advances_clauses advances_result).map

/-! ### Fields and modules -/

theorem advances_instructions : Advances instructions :=
  (advances_pure none : Advances instruction).map

theorem advances_typeDef : Advances typeDef :=
  advances_optionalName.bind fun _ => .expect_bind <| .expect_bind <|
    advances_signature.bind fun _ => .expect_bind <| .expect_bind <| advances_pure _

theorem advances_imported (name : Option String) : Advances (imported name) :=
  advances_string.bind fun _ => advances_string.bind fun _ => .expect_bind <|
    advances_signature.closed

theorem advances_optionalExport : Advances optionalExport := by
  refine (advances_matchKinds _).bind fun exports => ?_
  cases exports with
  | true => exact advances_string.closed
  | false => exact advances_pure none

theorem advances_defined (name exportName : Option String) : Advances (defined name exportName) :=
  advances_signature.bind fun _ => advances_locals.bind fun _ => advances_instructions.closed

theorem advances_func : Advances func := by
  refine advances_optionalName.bind fun name => (advances_matchKinds _).bind fun imports => ?_
  cases imports with
  | true => exact advances_imported name
  | false => exact advances_optionalExport.bind fun exportName => advances_defined name exportName

theorem advances_fieldRule (rule : FieldRule) : Advances rule.parse := by
  cases rule with
  | typeDef => exact advances_typeDef.map
  | func => exact advances_func.map

theorem advances_fieldsWithin (table : FieldTable) (bound : List Token) :
    Advances (fieldsWithin table bound) := by
  induction bound with
  | nil => exact advances_unexpected _
  | cons _ bound ih =>
    refine advances_get_bind fun c => ?_
    split
    · exact advances_unexpected _ c
    split
    · exact advances_advance.map c
    split
    · split
      · -- The opening of a field is passed by setting the cursor behind it.
        refine (advancesFrom_set c 2).bind fun _ n => ?_
        exact (advances_fieldRule _).bind (fun _ => ih.map) _
      · exact advances_throw _ c
    · exact advances_throw _ c

theorem advances_module (table : FieldTable) : Advances (module table) := by
  have fields : Advances (fields table) :=
    advances_get_bind fun c => advances_fieldsWithin table c.ahead c
  exact .expect_bind <| .expect_bind <| advances_optionalName.bind fun _ => fields.map

end Parse

end WasmText
