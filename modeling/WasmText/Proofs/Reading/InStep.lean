import Mathlib.Data.List.Forall2
import WasmText.Parse.Module
import WasmText.Proofs.Reading

/-!
# Two rows of tokens, read in step

What is read depends on the kinds of the tokens and on the texts of the literals, and on nothing
else: not on the places of the tokens, nor on the file, nor on how a keyword was spelled. Of two rows
that agree on kinds and literals, readers answer the same, having passed as many tokens; or they fail
for the same reason, each at the token of its own row that has the same number.

## What is proved

* `InStep.bind`: readers one after the other go in step if each of them does.
* `inStep_clausesWithin`, `inStep_fieldsWithin`: so do the loops.
* `inStep_wholeModule`: the reader of a module goes in step on two rows.
* `TwoRows.ofTokens_agree`: two rows are read as the same module, or have the same error.
-/

namespace WasmText

/-- Two tokens that say the same to a reader. -/
structure Token.ReadsAs (t u : Token) : Prop where
  /-- They are of one kind. -/
  kind : t.kind = u.kind
  /-- Literals have the same text. -/
  text : t.kind ∈ [Kind.name, .number, .string] → t.text = u.text

/-- Two causes that blame two tokens, or two ends, for the same thing. -/
inductive SameBlame : Option Token → Option Token → Cause → Cause → Prop where
  /-- Neither is of a kind that can follow. -/
  | unexpectedToken {expected : List Kind} {t u : Token} :
      SameBlame (some t) (some u) (.unexpectedToken expected t.display)
        (.unexpectedToken expected u.display)
  /-- A token has to follow. -/
  | unexpectedEnd {expected : List Kind} :
      SameBlame none none (.unexpectedEnd expected) (.unexpectedEnd expected)
  /-- Neither begins a field. -/
  | unknownField {t u : Token} :
      SameBlame (some t) (some u) (.unknownField t.display) (.unknownField u.display)
  /-- Neither is an index. -/
  | malformedIndex {t u : Token} :
      SameBlame (some t) (some u) (.malformedIndex t.text) (.malformedIndex u.text)
  /-- Neither spells a text. -/
  | malformedString {t u : Token} :
      SameBlame (some t) (some u) (.malformedString t.text) (.malformedString u.text)
  /-- Both come after the end of a module. -/
  | trailingToken {t u : Token} :
      SameBlame (some t) (some u) (.trailingToken t.display) (.trailingToken u.display)

/-- Two rows of tokens that say the same to a reader, each from a file of its own. -/
structure TwoRows where
  /-- The one row. -/
  left : List Token
  /-- The other row. -/
  right : List Token
  /-- The file of the one. -/
  leftFile : String
  /-- The file of the other. -/
  rightFile : String
  /-- Token by token, they say the same. -/
  same : List.Forall₂ Token.ReadsAs left right

namespace TwoRows

open TokenCursor

variable (r : TwoRows)

/-- The cursor after `i` tokens of the one row. -/
def leftAt (i : Nat) : TokenCursor := (ofTokens r.left r.leftFile).skip i

/-- The cursor after `i` tokens of the other row. -/
def rightAt (i : Nat) : TokenCursor := (ofTokens r.right r.rightFile).skip i

/-- Errors of the two rows that are the same but for what the tokens look like: they stand at tokens
of the same number, and blame them for the same thing. -/
def SameError (e f : Error) : Prop :=
  ∃ i : Nat, e.position = (r.leftAt i).position ∧ f.position = (r.rightAt i).position ∧
    SameBlame r.left[i]? r.right[i]? e.cause f.cause

/-- Two tokens with the same number. -/
def Pair (t u : Token) : Prop :=
  ∃ i : Nat, r.left[i]? = some t ∧ r.right[i]? = some u

/-! ### Tokens with the same number -/

theorem leftAt_skip (i n : Nat) : (r.leftAt i).skip n = r.leftAt (i + n) := skip_skip _ _ _

theorem rightAt_skip (i n : Nat) : (r.rightAt i).skip n = r.rightAt (i + n) := skip_skip _ _ _

theorem kinds_eq : r.left.map Token.kind = r.right.map Token.kind := by
  obtain ⟨left, right, _, _, same⟩ := r
  induction same with
  | nil => rfl
  | cons first _ ih => simp [first.kind, ih]

theorem kinds_ahead_eq (i : Nat) :
    (r.leftAt i).ahead.map Token.kind = (r.rightAt i).ahead.map Token.kind := by
  have kinds := congrArg (List.drop i) r.kinds_eq
  rwa [← List.map_drop, ← List.map_drop] at kinds

theorem length_ahead_eq (i : Nat) : (r.leftAt i).ahead.length = (r.rightAt i).ahead.length := by
  simpa using congrArg List.length (r.kinds_ahead_eq i)

theorem kindAt?_eq (i n : Nat) : (r.leftAt i).kindAt? n = (r.rightAt i).kindAt? n := by
  have kinds := congrArg (·[n]?) (r.kinds_ahead_eq i)
  simpa [kindAt?] using kinds

theorem current?_leftAt (i : Nat) : (r.leftAt i).current? = r.left[i]? := List.head?_drop

theorem current?_rightAt (i : Nat) : (r.rightAt i).current? = r.right[i]? := List.head?_drop

theorem Pair.readsAs {r : TwoRows} {t u : Token} (h : r.Pair t u) : t.ReadsAs u := by
  obtain ⟨left, right, _, _, same⟩ := r
  obtain ⟨i, first, second⟩ := h
  simp only at first second
  induction same generalizing i with
  | nil => cases first
  | cons head _ ih =>
    cases i with
    | zero =>
      cases first
      cases second
      exact head
    | succ i => exact ih i first second

/-- At each number there are two tokens, or both rows have ended. -/
theorem current?_cases (i : Nat) :
    ((r.leftAt i).current? = none ∧ (r.rightAt i).current? = none) ∨
      ∃ t u, (r.leftAt i).current? = some t ∧ (r.rightAt i).current? = some u ∧ r.Pair t u := by
  have lengths : r.left.length = r.right.length := r.same.length_eq
  rw [current?_leftAt, current?_rightAt]
  by_cases inside : i < r.left.length
  · have inside' : i < r.right.length := lengths ▸ inside
    exact Or.inr ⟨_, _, List.getElem?_eq_getElem inside, List.getElem?_eq_getElem inside', i,
      List.getElem?_eq_getElem inside, List.getElem?_eq_getElem inside'⟩
  · exact Or.inl ⟨List.getElem?_eq_none (by omega), List.getElem?_eq_none (by omega)⟩

end TwoRows

namespace Parse

open TokenCursor

variable {α β γ δ : Type} {r : TwoRows}

/-- Two readers go in step on two rows: after as many tokens of each they answer in the same way and
have passed as many again, or they fail in the same way. -/
def InStep (r : TwoRows) (rel : α → β → Prop) (p : Parse α) (q : Parse β) : Prop :=
  ∀ i, (∃ a b j, Answers p (r.leftAt i) a (r.leftAt j) ∧ Answers q (r.rightAt i) b (r.rightAt j) ∧
      rel a b) ∨
    ∃ e f c d, FailsWith p (r.leftAt i) e c ∧ FailsWith q (r.rightAt i) f d ∧ r.SameError e f

/-! ### Readers one after the other -/

theorem inStep_pure {rel : α → β → Prop} {a : α} {b : β} (h : rel a b) :
    InStep r rel (pure a) (pure b) :=
  fun i => Or.inl ⟨a, b, i, rfl, rfl, h⟩

theorem InStep.bind {rel : α → β → Prop} {rel' : γ → δ → Prop} {p : Parse α} {q : Parse β}
    {f : α → Parse γ} {g : β → Parse δ} (first : InStep r rel p q)
    (second : ∀ a b, rel a b → InStep r rel' (f a) (g b)) : InStep r rel' (p >>= f) (q >>= g) := by
  intro i
  rcases first i with ⟨a, b, j, left, right, related⟩ | ⟨e, e', c, d, left, right, same⟩
  · rcases second a b related j with ⟨a', b', k, left', right', related'⟩ |
      ⟨e, e', c, d, left', right', same⟩
    · exact Or.inl ⟨a', b', k, answers_bind.2 ⟨a, _, left, left'⟩,
        answers_bind.2 ⟨b, _, right, right'⟩, related'⟩
    · exact Or.inr ⟨e, e', c, d, .bind_right left left', .bind_right right right', same⟩
  · exact Or.inr ⟨e, e', c, d, left.bind_left, right.bind_left, same⟩

/-- Readers whose answers are the same, one after the other. -/
theorem InStep.bind_eq {rel : γ → δ → Prop} {p q : Parse α} {f : α → Parse γ} {g : α → Parse δ}
    (first : InStep r Eq p q) (second : ∀ a, InStep r rel (f a) (g a)) :
    InStep r rel (p >>= f) (q >>= g) := by
  refine first.bind ?_
  rintro a _ rfl
  exact second a

theorem inStep_modifyGet {rel : α → β → Prop} {f : TokenCursor → α × TokenCursor}
    {g : TokenCursor → β × TokenCursor}
    (h : ∀ i, ∃ a b j, f (r.leftAt i) = (a, r.leftAt j) ∧ g (r.rightAt i) = (b, r.rightAt j) ∧ rel a b) :
    InStep r rel (modifyGet f) (modifyGet g) := by
  intro i
  obtain ⟨a, b, j, left, right, related⟩ := h i
  refine Or.inl ⟨a, b, j, ?_, ?_, related⟩
  · rw [Answers, EStateM.run_modifyGet, left]
  · rw [Answers, EStateM.run_modifyGet, right]

theorem inStep_get : InStep r (fun c d => ∃ i, c = r.leftAt i ∧ d = r.rightAt i) get get :=
  fun i => Or.inl ⟨_, _, i, rfl, rfl, i, rfl, rfl⟩

theorem inStep_set (i : Nat) : InStep r Eq (set (r.leftAt i)) (set (r.rightAt i)) :=
  fun _ => Or.inl ⟨⟨⟩, ⟨⟩, i, rfl, rfl, rfl⟩

theorem inStep_throw {rel : α → β → Prop} {e f : Error} (same : r.SameError e f) :
    InStep r rel (throw e) (throw f) :=
  fun _ => Or.inr ⟨e, f, _, _, rfl, rfl, same⟩

/-! ### Single tokens -/

/-- The next tokens of two cursors with the same number are to blame. -/
theorem sameError_at {i : Nat} {t u : Option Token} {cause cause' : Cause}
    (left : (r.leftAt i).current? = t) (right : (r.rightAt i).current? = u)
    (blame : SameBlame t u cause cause') :
    r.SameError ⟨cause, (r.leftAt i).position⟩ ⟨cause', (r.rightAt i).position⟩ := by
  rw [r.current?_leftAt] at left
  rw [r.current?_rightAt] at right
  exact ⟨i, rfl, rfl, by rwa [left, right]⟩

/-- Two tokens with the same number are to blame. -/
theorem sameError_of_pair {t u : Token} {cause cause' : Cause} (pair : r.Pair t u)
    (blame : SameBlame (some t) (some u) cause cause') :
    r.SameError ⟨cause, t.span.start⟩ ⟨cause', u.span.start⟩ := by
  obtain ⟨i, left, right⟩ := pair
  have left := (r.current?_leftAt i).trans left
  have right := (r.current?_rightAt i).trans right
  rw [← position_of_current? left, ← position_of_current? right]
  exact sameError_at left right blame

theorem sameError_unexpected (i : Nat) (expected : List Kind) :
    r.SameError ((r.leftAt i).unexpected expected) ((r.rightAt i).unexpected expected) := by
  unfold TokenCursor.unexpected
  rcases r.current?_cases i with ⟨left, right⟩ | ⟨t, u, left, right, -⟩
  · rw [left, right]
    exact sameError_at left right .unexpectedEnd
  · rw [left, right]
    exact sameError_at left right .unexpectedToken

theorem inStep_unexpected {rel : α → β → Prop} (expected : List Kind) :
    InStep r rel (unexpected expected) (unexpected expected) := by
  refine inStep_get.bind ?_
  rintro _ _ ⟨i, rfl, rfl⟩
  exact inStep_throw (sameError_unexpected i expected)

/-- Two tokens with the same number, of one of some kinds. -/
def PairOf (r : TwoRows) (kinds : List Kind) (t u : Token) : Prop :=
  r.Pair t u ∧ t.kind ∈ kinds

theorem inStep_accept (kinds : List Kind) :
    InStep r (Option.Rel (PairOf r kinds)) (accept kinds) (accept kinds) := by
  refine inStep_modifyGet fun i => ?_
  rcases r.current?_cases i with ⟨left, right⟩ | ⟨t, u, left, right, pair⟩
  · exact ⟨none, none, i, by rw [left], by rw [right], .none⟩
  · by_cases member : t.kind ∈ kinds
    · have member' : u.kind ∈ kinds := pair.readsAs.kind ▸ member
      refine ⟨some t, some u, i + 1, ?_, ?_, .some ⟨pair, member⟩⟩
      · simp only [left, member, if_true, r.leftAt_skip]
      · simp only [right, member', if_true, r.rightAt_skip]
    · have no_member : u.kind ∉ kinds := pair.readsAs.kind ▸ member
      refine ⟨none, none, i, ?_, ?_, .none⟩
      · simp only [left, member, if_false]
      · simp only [right, no_member, if_false]

theorem inStep_expectOneOf (kinds : List Kind) :
    InStep r (PairOf r kinds) (expectOneOf kinds) (expectOneOf kinds) := by
  refine (inStep_accept kinds).bind ?_
  intro _ _ accepted
  cases accepted with
  | some pair => exact inStep_pure pair
  | none => exact inStep_unexpected kinds

theorem inStep_expect (kind : Kind) : InStep r (PairOf r [kind]) (expect kind) (expect kind) :=
  inStep_expectOneOf [kind]

theorem inStep_matchKinds (kinds : List Kind) :
    InStep r Eq (matchKinds kinds) (matchKinds kinds) := by
  refine inStep_modifyGet fun i => ?_
  have same : (r.leftAt i).startsWith kinds = (r.rightAt i).startsWith kinds := by
    unfold startsWith
    rw [List.map_take, List.map_take, r.kinds_ahead_eq]
  rw [same]
  cases (r.rightAt i).startsWith kinds with
  | false => exact ⟨false, false, i, rfl, rfl, rfl⟩
  | true =>
    exact ⟨true, true, i + kinds.length, congrArg (Prod.mk true) (r.leftAt_skip i _),
      congrArg (Prod.mk true) (r.rightAt_skip i _), rfl⟩

theorem inStep_acceptValueType : InStep r Eq acceptValueType acceptValueType := by
  refine inStep_modifyGet fun i => ?_
  have same : (r.leftAt i).kind? = (r.rightAt i).kind? := r.kindAt?_eq i 0
  rw [same]
  cases (r.rightAt i).kind?.bind ValueType.ofKind? with
  | none => exact ⟨none, none, i, rfl, rfl, rfl⟩
  | some type =>
    exact ⟨some type, some type, i + 1, congrArg (Prod.mk _) (r.leftAt_skip i 1),
      congrArg (Prod.mk _) (r.rightAt_skip i 1), rfl⟩

theorem inStep_expectValueType : InStep r Eq expectValueType expectValueType := by
  refine inStep_acceptValueType.bind_eq ?_
  intro found
  cases found with
  | some type => exact inStep_pure rfl
  | none => exact inStep_unexpected ValueType.kinds

theorem inStep_valueTypes : InStep r Eq valueTypes valueTypes := by
  refine inStep_modifyGet fun i => ?_
  have kinds := congrArg (List.takeWhile fun k => (ValueType.ofKind? k).isSome) (r.kinds_ahead_eq i)
  rw [List.takeWhile_map, List.takeWhile_map] at kinds
  have types := congrArg (List.filterMap ValueType.ofKind?) kinds
  rw [List.filterMap_map, List.filterMap_map] at types
  have length := congrArg List.length kinds
  rw [List.length_map, List.length_map] at length
  have right := (r.rightAt_skip i _).trans (congrArg (fun n => r.rightAt (i + n)) length.symm)
  exact ⟨_, _, _, congrArg (Prod.mk _) (r.leftAt_skip i _), congrArg (Prod.mk _) right, types⟩

/-! ### Names, references and signatures -/

theorem PairOf.text {kinds : List Kind} {t u : Token} (h : PairOf r kinds t u)
    (literals : kinds ⊆ [Kind.name, .number, .string]) : t.text = u.text :=
  h.1.readsAs.text (literals h.2)

theorem declaredName_eq_of_text {t u : Token} (same : t.text = u.text) :
    t.declaredName = u.declaredName := by
  unfold Token.declaredName
  rw [same]

theorem inStep_optionalName : InStep r Eq optionalName optionalName := by
  refine (inStep_accept [.name]).bind ?_
  intro _ _ accepted
  cases accepted with
  | none => exact inStep_pure rfl
  | some pair =>
    exact inStep_pure (congrArg some (declaredName_eq_of_text (pair.text (by simp))))

theorem inStep_reference : InStep r Eq reference reference := by
  refine (inStep_expectOneOf [.name, .number]).bind ?_
  intro t u pair
  have same : t.text = u.text := pair.text (by simp)
  rw [pair.1.readsAs.kind, declaredName_eq_of_text same]
  split
  · exact inStep_pure rfl
  rw [same]
  split
  · exact inStep_pure rfl
  · have blame := SameBlame.malformedIndex (t := t) (u := u)
    rw [same] at blame
    exact inStep_throw (sameError_of_pair pair.1 blame)

theorem inStep_string : InStep r Eq string string := by
  refine (inStep_expect .string).bind ?_
  intro t u pair
  have same : t.text = u.text := pair.text (by simp)
  rw [same]
  split
  · exact inStep_pure rfl
  · have blame := SameBlame.malformedString (t := t) (u := u)
    rw [same] at blame
    exact inStep_throw (sameError_of_pair pair.1 blame)

/-- A token of a kind, and then readers that do not depend on it. -/
theorem InStep.expect_bind {rel : γ → δ → Prop} {kind : Kind} {p : Parse γ} {q : Parse δ}
    (h : InStep r rel p q) :
    InStep r rel (do let _ ← expect kind; p) (do let _ ← expect kind; q) :=
  (inStep_expect kind).bind fun _ _ _ => h

/-- Readers whose answers are the same, with a closing parenthesis after them. -/
theorem InStep.closed {p q : Parse α} {f : α → β} (h : InStep r Eq p q) :
    InStep r Eq (do let a ← p; let _ ← expect .rightParen; return f a)
      (do let a ← q; let _ ← expect .rightParen; return f a) :=
  h.bind_eq fun _ => .expect_bind (inStep_pure rfl)

theorem inStep_declaration : InStep r Eq declaration declaration := by
  refine (inStep_accept [.name]).bind ?_
  intro _ _ accepted
  cases accepted with
  | none => exact inStep_valueTypes.closed
  | @some t u pair =>
    dsimp only
    rw [declaredName_eq_of_text (pair.text (by simp))]
    exact inStep_expectValueType.closed

theorem inStep_result : InStep r Eq result result :=
  inStep_expectValueType.closed

/-- Clauses go in step if each of them does. The two bounds have only to be as long as each other. -/
theorem inStep_clausesWithin {opening : List Kind} {clause : Parse α} {last : α → Bool}
    (h : InStep r Eq clause clause) {bound bound' : List Token}
    (lengths : bound.length = bound'.length) :
    InStep r Eq (clausesWithin opening clause last bound)
      (clausesWithin opening clause last bound') := by
  induction bound generalizing bound' with
  | nil =>
    obtain rfl := List.length_eq_zero_iff.1 lengths.symm
    exact inStep_pure rfl
  | cons _ bound ih =>
    cases bound' with
    | nil => cases lengths
    | cons _ bound' =>
      refine (inStep_matchKinds opening).bind_eq fun opened => ?_
      cases opened with
      | false => exact inStep_pure rfl
      | true =>
        refine h.bind_eq fun first => ?_
        split
        · exact inStep_pure rfl
        · exact (ih (Nat.succ.inj lengths)).bind_eq fun others => inStep_pure rfl

theorem inStep_clauses {opening : List Kind} {clause : Parse α} {last : α → Bool}
    (h : InStep r Eq clause clause) :
    InStep r Eq (clauses opening clause last) (clauses opening clause last) := by
  -- The bounds are the tokens ahead, which differ, but there are as many of them.
  refine inStep_get.bind ?_
  rintro _ _ ⟨i, rfl, rfl⟩
  exact inStep_clausesWithin h (r.length_ahead_eq i)

theorem inStep_locals : InStep r Eq locals locals :=
  (inStep_clauses inStep_declaration).bind_eq fun _ => inStep_pure rfl

theorem inStep_signature : InStep r Eq signature signature := by
  refine (inStep_matchKinds _).bind_eq fun refers => ?_
  cases refers with
  | true => exact inStep_reference.closed
  | false =>
    exact (inStep_clauses inStep_declaration).bind_eq fun _ =>
      (inStep_clauses inStep_result).bind_eq fun _ => inStep_pure rfl

/-! ### Fields and modules -/

theorem inStep_typeDef : InStep r Eq typeDef typeDef :=
  inStep_optionalName.bind_eq fun _ => .expect_bind <| .expect_bind <|
    inStep_signature.bind_eq fun _ => .expect_bind <| .expect_bind <| inStep_pure rfl

theorem inStep_imported (name : Option String) : InStep r Eq (imported name) (imported name) :=
  inStep_string.bind_eq fun _ => inStep_string.bind_eq fun _ => .expect_bind <|
    inStep_signature.closed

theorem inStep_optionalExport : InStep r Eq optionalExport optionalExport := by
  refine (inStep_matchKinds _).bind_eq fun exports => ?_
  cases exports with
  | true => exact inStep_string.closed
  | false => exact inStep_pure rfl

theorem inStep_instructions : InStep r Eq instructions instructions :=
  (inStep_pure rfl : InStep r Eq instruction instruction).bind_eq fun _ => inStep_pure rfl

theorem inStep_defined (name exportName : Option String) :
    InStep r Eq (defined name exportName) (defined name exportName) :=
  inStep_signature.bind_eq fun _ => inStep_locals.bind_eq fun _ => inStep_instructions.closed

theorem inStep_func : InStep r Eq func func := by
  refine inStep_optionalName.bind_eq fun name => (inStep_matchKinds _).bind_eq fun imports => ?_
  cases imports with
  | true => exact inStep_imported name
  | false => exact inStep_optionalExport.bind_eq fun exportName => inStep_defined name exportName

theorem inStep_fieldRule (rule : FieldRule) : InStep r Eq rule.parse rule.parse := by
  cases rule with
  | typeDef => exact inStep_typeDef.bind_eq fun _ => inStep_pure rfl
  | func => exact inStep_func.bind_eq fun _ => inStep_pure rfl

theorem inStep_advance : InStep r (Option.Rel r.Pair) advance advance := by
  refine inStep_modifyGet fun i => ⟨_, _, i + 1, congrArg (Prod.mk _) (r.leftAt_skip i 1),
    congrArg (Prod.mk _) (r.rightAt_skip i 1), ?_⟩
  rcases r.current?_cases i with ⟨left, right⟩ | ⟨t, u, left, right, pair⟩
  · rw [left, right]
    exact .none
  · rw [left, right]
    exact .some pair

/-- Fields go in step. The two bounds have only to be as long as each other. -/
theorem inStep_fieldsWithin (table : FieldTable) {bound bound' : List Token}
    (lengths : bound.length = bound'.length) :
    InStep r Eq (fieldsWithin table bound) (fieldsWithin table bound') := by
  induction bound generalizing bound' with
  | nil =>
    obtain rfl := List.length_eq_zero_iff.1 lengths.symm
    exact inStep_unexpected _
  | cons _ bound ih =>
    cases bound' with
    | nil => cases lengths
    | cons _ bound' =>
      refine inStep_get.bind ?_
      rintro _ _ ⟨i, rfl, rfl⟩
      rcases r.current?_cases i with ⟨left, right⟩ | ⟨t, u, left, right, pair⟩
      · rw [left, right]
        exact inStep_unexpected _
      rw [left, right, r.kindAt?_eq]
      dsimp only
      rw [pair.readsAs.kind]
      split
      · exact inStep_advance.bind fun _ _ _ => inStep_pure rfl
      split
      · split
        · rw [r.leftAt_skip, r.rightAt_skip]
          refine (inStep_set (i + 2)).bind_eq fun _ => (inStep_fieldRule _).bind_eq fun _ => ?_
          exact (ih (Nat.succ.inj lengths)).bind_eq fun _ => inStep_pure rfl
        · exact inStep_throw (sameError_at left right .unknownField)
      · exact inStep_throw (sameError_at left right .unknownField)

theorem inStep_module (table : FieldTable) : InStep r Eq (module table) (module table) := by
  refine .expect_bind <| .expect_bind <| inStep_optionalName.bind_eq fun _ => ?_
  have fields : InStep r Eq (fields table) (fields table) := by
    refine inStep_get.bind ?_
    rintro _ _ ⟨i, rfl, rfl⟩
    exact inStep_fieldsWithin table (r.length_ahead_eq i)
  exact fields.bind_eq fun _ => inStep_pure rfl

theorem inStep_endOfTokens : InStep r Eq endOfTokens endOfTokens := by
  refine inStep_get.bind ?_
  rintro _ _ ⟨i, rfl, rfl⟩
  rcases r.current?_cases i with ⟨left, right⟩ | ⟨t, u, left, right, -⟩
  · rw [left, right]
    exact inStep_pure rfl
  · rw [left, right]
    exact inStep_throw (sameError_at left right .trailingToken)

theorem inStep_wholeModule : InStep r Eq wholeModule wholeModule :=
  (inStep_module .standard).bind_eq fun _ => inStep_endOfTokens.bind_eq fun _ => inStep_pure rfl

end Parse

/-- Two rows that say the same to a reader are read as the same module, or have the same error. -/
theorem TwoRows.ofTokens_agree (r : TwoRows) :
    (∃ m, Module.ofTokens r.left r.leftFile = .ok m ∧ Module.ofTokens r.right r.rightFile = .ok m) ∨
      ∃ e f, Module.ofTokens r.left r.leftFile = .error e ∧
        Module.ofTokens r.right r.rightFile = .error f ∧ r.SameError e f := by
  have left : r.leftAt 0 = .ofTokens r.left r.leftFile := TokenCursor.skip_zero _
  have right : r.rightAt 0 = .ofTokens r.right r.rightFile := TokenCursor.skip_zero _
  unfold Module.ofTokens
  rcases Parse.inStep_wholeModule (r := r) 0 with ⟨m, _, j, answered, answered', rfl⟩ |
    ⟨e, f, c, d, failed, failed', same⟩
  · rw [left] at answered
    rw [right] at answered'
    rw [answered, answered']
    exact Or.inl ⟨m, rfl, rfl⟩
  · rw [left] at failed
    rw [right] at failed'
    rw [failed, failed']
    exact Or.inr ⟨e, f, rfl, rfl, same⟩

end WasmText
