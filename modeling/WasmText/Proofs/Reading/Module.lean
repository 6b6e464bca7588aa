import WasmText.Proofs.Reading.Field

/-!
# Reading modules

The readers of the fields of a module and of the module itself against the grammar, by any table of
fields. A row of tokens is a module with nothing after it.

## What is proved

* `answers_fields_iff`: the fields of a module, up to the parenthesis that closes it.
* `failsWith_fields_iff`: the fields of a module fail where one of them does, or where none begins.
* `answers_moduleBy_iff`: a module by any table, before any tokens.
* `AmongFields.fails`: a module fails where its fields do.
* `Reads.module`: a module by a table that has rules, and where it fails.
* `ofTokens_eq_ok_iff`: a row of tokens is read as a module exactly if the grammar derives the
  module from it.
-/

namespace WasmText

namespace Parse

open TokenCursor Grammar

/-! ### Fields by a table -/

/-- The first step of reading fields: the end of the module, or a field by a rule of the table. -/
theorem fieldsWithin_step {table : FieldTable} {b : Token} {bound : List Token}
    {c c' : TokenCursor} {fields : List Field}
    (answered : Answers (fieldsWithin table (b :: bound)) c fields c') :
    (∃ t, t.kind = .rightParen ∧ c.Passes [t] c' ∧ fields = []) ∨
      ∃ o k rule c₁ f c₂ others, o.kind = .leftParen ∧ table.find? k.kind = some rule ∧
        c.Passes [o, k] c₁ ∧ Answers rule.parse c₁ f c₂ ∧
        Answers (fieldsWithin table bound) c₂ others c' ∧ fields = f :: others := by
  obtain ⟨_, _, got, answered⟩ := answers_bind.1 answered
  cases got
  cases next : c.current? with
  | none =>
    rw [next] at answered
    obtain ⟨_, _, _, failed⟩ := answers_bind.1 answered
    exact absurd failed not_answers_throw
  | some t =>
    simp only [next] at answered
    by_cases closes : t.kind = .rightParen
    · rw [if_pos closes] at answered
      obtain ⟨_, _, advanced, answered⟩ := answers_bind.1 answered
      cases advanced
      obtain ⟨rfl, rfl⟩ := answers_pure.1 answered
      obtain ⟨rest, ahead⟩ := List.head?_eq_some_iff.1 next
      exact Or.inl ⟨t, closes, passes_iff.2 ⟨⟨rest, ahead.symm⟩, rfl⟩, rfl⟩
    rw [if_neg closes] at answered
    split at answered
    · rename_i rule found
      obtain ⟨kind, second, registered⟩ := Option.bind_eq_some_iff.1 found
      by_cases opens : t.kind = .leftParen
      · rw [if_pos opens] at answered
        obtain ⟨k, rfl, passed⟩ := passes_of_kindAt?_one next second
        obtain ⟨_, _, skipped, answered⟩ := answers_bind.1 answered
        cases skipped
        obtain ⟨f, c₂, field, answered⟩ := answers_bind.1 answered
        obtain ⟨others, _, more, answered⟩ := answers_bind.1 answered
        obtain ⟨rfl, rfl⟩ := answers_pure.1 answered
        exact Or.inr ⟨t, k, rule, _, f, c₂, others, opens, registered, passed, field, more, rfl⟩
      · rw [if_neg opens] at answered
        exact absurd answered not_answers_throw
    · exact absurd answered not_answers_throw

theorem fieldsWithin_close {table : FieldTable} {b t : Token} {bound : List Token}
    {c c' : TokenCursor} (closes : t.kind = .rightParen) (passed : c.Passes [t] c') :
    Answers (fieldsWithin table (b :: bound)) c [] c' := by
  have advanced : Answers advance c c.current? c' := by
    rw [passed.eq_skip]
    rfl
  refine answers_bind.2 ⟨c, c, rfl, ?_⟩
  simp only [passed.current?, if_pos closes]
  exact answers_bind.2 ⟨_, c', advanced, answers_pure.2 ⟨rfl, rfl⟩⟩

theorem fieldsWithin_field {table : FieldTable} {b o k : Token} {bound : List Token}
    {c c₁ c₂ c' : TokenCursor} {rule : FieldRule} {f : Field} {others : List Field}
    (opens : o.kind = .leftParen) (found : table.find? k.kind = some rule)
    (passed : c.Passes [o, k] c₁) (field : Answers rule.parse c₁ f c₂)
    (more : Answers (fieldsWithin table bound) c₂ others c') :
    Answers (fieldsWithin table (b :: bound)) c (f :: others) c' := by
  have not_closes : o.kind ≠ .rightParen := by
    rw [opens]
    decide
  have skipped : Answers (set (c.skip 2)) c () c₁ := by
    rw [passed.eq_skip]
    rfl
  refine answers_bind.2 ⟨c, c, rfl, ?_⟩
  simp only [passed.current?, passed.kindAt?_one, Option.bind_some, found, if_pos opens,
    if_neg not_closes]
  refine answers_bind.2 ⟨(), c₁, skipped, answers_bind.2 ⟨f, c₂, field, ?_⟩⟩
  exact answers_bind.2 ⟨others, c', more, answers_pure.2 ⟨rfl, rfl⟩⟩

theorem fieldsWithin_sound {table : FieldTable} {bound : List Token} {c c' : TokenCursor}
    {fields : List Field} (answered : Answers (fieldsWithin table bound) c fields c') :
    ∃ ts, Closed (Many (IsFieldBy table)) ts fields ∧ c.Passes ts c' := by
  induction bound generalizing c fields with
  | nil =>
    obtain ⟨_, _, _, failed⟩ := answers_bind.1 answered
    exact absurd failed not_answers_throw
  | cons _ bound ih =>
    rcases fieldsWithin_step answered with ⟨t, closes, passed, rfl⟩ |
      ⟨o, k, rule, c₁, f, c₂, others, opens, found, passed₁, field, more, rfl⟩
    · have nothing_more : Closed (Many (IsFieldBy table)) ([] ++ [t]) [] := .intro .nil closes
      exact ⟨[t], nothing_more, passed⟩
    · obtain ⟨us, said, passed₂⟩ := (Reads.fieldRule rule).sound field
      obtain ⟨_, ⟨many, closes⟩, passed₃⟩ := ih more
      have said : IsFieldBy table (o :: k :: us) f := .intro found (.intro opens rfl said)
      refine ⟨_, .intro (.cons said many) closes, ?_⟩
      rw [List.append_assoc]
      exact (passed₁.append passed₂).append passed₃

theorem fieldsWithin_complete {table : FieldTable} {bound : List Token} {c c' : TokenCursor}
    {ts : List Token} {fields : List Field} (bounded : c.ahead.length ≤ bound.length)
    (said : Closed (Many (IsFieldBy table)) ts fields) (passed : c.Passes ts c') :
    Answers (fieldsWithin table bound) c fields c' := by
  -- Every field passes tokens, so the bound outlives the fields.
  induction bound generalizing c ts fields with
  | nil =>
    obtain ⟨-, -⟩ := said
    rw [passed.ahead] at bounded
    simp at bounded
  | cons _ bound ih =>
    obtain ⟨many, closes⟩ := said
    cases many with
    | nil => exact fieldsWithin_close closes passed
    | @cons _ vs f others said many =>
      obtain ⟨found, clause⟩ := said
      obtain @⟨o, k, us, _, opens, of_kind, said⟩ := clause
      rw [List.append_assoc] at passed
      obtain ⟨c₂, passed, passed₃⟩ := passes_append_iff.1 passed
      obtain ⟨c₁, passed₁, passed₂⟩ :=
        passes_append_iff.1 (show c.Passes ([o, k] ++ us) c₂ from passed)
      rw [← of_kind] at found
      exact fieldsWithin_field opens found passed₁ ((Reads.fieldRule _).complete said passed₂ trivial)
        (ih (passed.length_le (List.cons_ne_nil _ _) bounded) (.intro many closes) passed₃)

/-- Fields are taken up to the parenthesis that closes the module. -/
theorem answers_fields_iff {table : FieldTable} {c c' : TokenCursor} {fs : List Field} :
    Answers (fields table) c fs c' ↔ ∃ ts, Closed (Many (IsFieldBy table)) ts fs ∧ c.Passes ts c' := by
  constructor
  · intro answered
    obtain ⟨c₁, _, first, second⟩ := answers_bind.1 answered
    cases first
    exact fieldsWithin_sound second
  · intro h
    obtain ⟨ts, said, passed⟩ := h
    exact answers_bind.2 ⟨c, c, rfl, fieldsWithin_complete le_rfl said passed⟩

/-! ### Where fields fail -/

/-- A cursor before which the module does not end and no field can be read; with the error, and
where the cursor is left. -/
inductive NoField (table : FieldTable) (c : TokenCursor) : Error → TokenCursor → Prop where
  /-- There are no more tokens. -/
  | atEnd : c.ahead = [] → NoField table c (c.unexpected [.leftParen, .rightParen]) c
  /-- The next token does not close the module, and opens no field of the table. -/
  | unknown {t : Token} :
      c.current? = some t → t.kind ≠ .rightParen →
        (∀ kind, opening? c.ahead = some kind → table.find? kind = none) →
        NoField table c ⟨.unknownField t.display, c.position⟩ c
  /-- A field is opened, and its rest fails. -/
  | inside {o k : Token} {rule : FieldRule} {c₁ c₂ : TokenCursor} {e : Error} :
      o.kind = .leftParen → table.find? k.kind = some rule → c.Passes [o, k] c₁ →
        FailsWith rule.parse c₁ e c₂ → NoField table c e c₂

theorem opening?_ahead {c : TokenCursor} {t : Token} (next : c.current? = some t) :
    opening? c.ahead = if t.kind = .leftParen then c.kindAt? 1 else none := by
  obtain ⟨rest, ahead⟩ := List.head?_eq_some_iff.1 next
  rw [kindAt?, ahead]
  cases rest with
  | nil => simp [opening?]
  | cons u rest => rfl

/-- The first step of reading fields, if it fails: there is no field, or the fields after it fail. -/
theorem fieldsWithin_fails_step {table : FieldTable} {b : Token} {bound : List Token}
    {c c' : TokenCursor} {e : Error} (failed : FailsWith (fieldsWithin table (b :: bound)) c e c') :
    NoField table c e c' ∨
      ∃ o k rule c₁ f c₂, o.kind = .leftParen ∧ table.find? k.kind = some rule ∧
        c.Passes [o, k] c₁ ∧ Answers rule.parse c₁ f c₂ ∧
        FailsWith (fieldsWithin table bound) c₂ e c' := by
  rcases failsWith_bind.1 failed with failed | ⟨_, _, got, failed⟩
  · cases failed
  cases got
  cases next : c.current? with
  | none =>
    rw [next] at failed
    obtain ⟨rfl, rfl⟩ := failsWith_unexpected.1 failed
    exact Or.inl (.atEnd (List.head?_eq_none_iff.1 next))
  | some t =>
    simp only [next] at failed
    by_cases closes : t.kind = .rightParen
    · rw [if_pos closes] at failed
      rcases failsWith_bind.1 failed with failed | ⟨_, _, -, failed⟩
      · exact absurd failed not_failsWith_modifyGet
      · exact absurd failed not_failsWith_pure
    rw [if_neg closes] at failed
    have opening := opening?_ahead next
    split at failed
    · rename_i rule found
      obtain ⟨kind, second, registered⟩ := Option.bind_eq_some_iff.1 found
      by_cases opens : t.kind = .leftParen
      · rw [if_pos opens] at failed
        obtain ⟨k, rfl, passed⟩ := passes_of_kindAt?_one next second
        rcases failsWith_bind.1 failed with failed | ⟨_, _, skipped, failed⟩
        · cases failed
        cases skipped
        rcases failsWith_bind.1 failed with failed | ⟨f, c₂, field, failed⟩
        · exact Or.inl (.inside opens registered passed failed)
        rcases failsWith_bind.1 failed with failed | ⟨_, _, -, failed⟩
        · exact Or.inr ⟨t, k, rule, _, f, c₂, opens, registered, passed, field, failed⟩
        · exact absurd failed not_failsWith_pure
      · rw [if_neg opens] at failed opening
        obtain ⟨rfl, rfl⟩ := failsWith_throw.1 failed
        exact Or.inl (.unknown next closes (by simp [opening]))
    · rename_i not_found
      obtain ⟨rfl, rfl⟩ := failsWith_throw.1 failed
      refine Or.inl (.unknown next closes fun kind opened => ?_)
      rw [opening] at opened
      split at opened
      · rwa [opened, Option.bind_some] at not_found
      · cases opened

theorem fieldsWithin_unknown {table : FieldTable} {b t : Token} {bound : List Token}
    {c : TokenCursor} (next : c.current? = some t) (goes_on : t.kind ≠ .rightParen)
    (no_field : ∀ kind, opening? c.ahead = some kind → table.find? kind = none) :
    FailsWith (fieldsWithin table (b :: bound)) c ⟨.unknownField t.display, c.position⟩ c := by
  refine failsWith_bind.2 (Or.inr ⟨c, c, rfl, ?_⟩)
  simp only [next, if_neg goes_on]
  split
  · rename_i rule found
    obtain ⟨kind, second, registered⟩ := Option.bind_eq_some_iff.1 found
    by_cases opens : t.kind = .leftParen
    · have opened := opening?_ahead next
      rw [if_pos opens, second] at opened
      rw [no_field kind opened] at registered
      cases registered
    · rw [if_neg opens]
      exact failsWith_throw.2 ⟨rfl, rfl⟩
  · exact failsWith_throw.2 ⟨rfl, rfl⟩

theorem fieldsWithin_opened {table : FieldTable} {b o k : Token} {bound : List Token}
    {c c₁ c' : TokenCursor} {rule : FieldRule} {e : Error} (opens : o.kind = .leftParen)
    (found : table.find? k.kind = some rule) (passed : c.Passes [o, k] c₁)
    (failed : FailsWith rule.parse c₁ e c' ∨
      ∃ f c₂, Answers rule.parse c₁ f c₂ ∧ FailsWith (fieldsWithin table bound) c₂ e c') :
    FailsWith (fieldsWithin table (b :: bound)) c e c' := by
  have not_closes : o.kind ≠ .rightParen := by
    rw [opens]
    decide
  have skipped : Answers (set (c.skip 2)) c () c₁ := by
    rw [passed.eq_skip]
    rfl
  refine failsWith_bind.2 (Or.inr ⟨c, c, rfl, ?_⟩)
  simp only [passed.current?, passed.kindAt?_one, Option.bind_some, found, if_pos opens,
    if_neg not_closes]
  refine .bind_right skipped ?_
  rcases failed with failed | ⟨f, c₂, field, failed⟩
  · exact failed.bind_left
  · exact .bind_right field failed.bind_left

theorem fieldsWithin_fails {table : FieldTable} {bound : List Token} {c c' : TokenCursor}
    {e : Error} (bounded : c.ahead.length ≤ bound.length)
    (failed : FailsWith (fieldsWithin table bound) c e c') :
    ∃ ts fs c₁, Many (IsFieldBy table) ts fs ∧ c.Passes ts c₁ ∧ NoField table c₁ e c' := by
  induction bound generalizing c with
  | nil =>
    have nothing : c.ahead = [] := List.length_eq_zero_iff.1 (Nat.le_zero.1 bounded)
    obtain ⟨rfl, rfl⟩ := failsWith_unexpected.1 failed
    exact ⟨[], [], c, .nil, passes_nil_iff.2 rfl, .atEnd nothing⟩
  | cons b bound ih =>
    rcases fieldsWithin_fails_step failed with none_here |
      ⟨o, k, rule, c₁, f, c₂, opens, found, passed₁, field, failed⟩
    · exact ⟨[], [], c, .nil, passes_nil_iff.2 rfl, none_here⟩
    · obtain ⟨us, said, passed₂⟩ := (Reads.fieldRule rule).sound field
      have passed : c.Passes (o :: k :: us) c₂ := passed₁.append passed₂
      obtain ⟨vs, fs, c₃, many, passed₃, none_there⟩ :=
        ih (passed.length_le (List.cons_ne_nil _ _) bounded) failed
      have said : IsFieldBy table (o :: k :: us) f := .intro found (.intro opens rfl said)
      exact ⟨_, f :: fs, c₃, .cons said many, passed.append passed₃, none_there⟩

theorem fieldsWithin_fails_of {table : FieldTable} {bound ts : List Token} {fs : List Field}
    {c c₁ c' : TokenCursor} {e : Error} (bounded : c.ahead.length ≤ bound.length)
    (many : Many (IsFieldBy table) ts fs) (passed : c.Passes ts c₁) (none_there : NoField table c₁ e c') :
    FailsWith (fieldsWithin table bound) c e c' := by
  induction many generalizing c bound with
  | nil =>
    obtain rfl := passes_nil_iff.1 passed
    cases none_there with
    | atEnd nothing =>
      cases bound with
      | nil => exact failsWith_unexpected.2 ⟨rfl, rfl⟩
      | cons b bound =>
        refine failsWith_bind.2 (Or.inr ⟨c₁, c₁, rfl, ?_⟩)
        rw [current?, nothing]
        exact failsWith_unexpected.2 ⟨rfl, rfl⟩
    | unknown next goes_on no_field =>
      cases bound with
      | nil =>
        have nothing : c₁.ahead = [] := List.length_eq_zero_iff.1 (Nat.le_zero.1 bounded)
        rw [current?, nothing] at next
        cases next
      | cons b bound => exact fieldsWithin_unknown next goes_on no_field
    | inside opens found passed failed =>
      cases bound with
      | nil =>
        rw [passed.ahead] at bounded
        simp at bounded
      | cons b bound => exact fieldsWithin_opened opens found passed (Or.inl failed)
  | @cons us vs f fs said _ ih =>
    obtain ⟨c₂, left, right⟩ := passes_append_iff.1 passed
    obtain ⟨found, clause⟩ := said
    obtain @⟨o, k, ws, _, opens, of_kind, said⟩ := clause
    obtain ⟨c₃, passed₁, passed₂⟩ :=
      passes_append_iff.1 (show c.Passes ([o, k] ++ ws) c₂ from left)
    rw [← of_kind] at found
    cases bound with
    | nil =>
      rw [left.ahead] at bounded
      simp at bounded
    | cons b bound =>
      have field := (Reads.fieldRule _).complete said passed₂ trivial
      have more := ih (left.length_le (List.cons_ne_nil _ _) bounded) right
      exact fieldsWithin_opened opens found passed₁ (Or.inr ⟨f, c₂, field, more⟩)

/-- Fields fail after some of them, where none can be read and the module does not end. -/
theorem failsWith_fields_iff {table : FieldTable} {c c' : TokenCursor} {e : Error} :
    FailsWith (fields table) c e c' ↔
      ∃ ts fs c₁, Many (IsFieldBy table) ts fs ∧ c.Passes ts c₁ ∧ NoField table c₁ e c' := by
  constructor
  · intro failed
    rcases failsWith_bind.1 failed with failed | ⟨_, _, got, failed⟩
    · cases failed
    cases got
    exact fieldsWithin_fails le_rfl failed
  · intro h
    obtain ⟨ts, fs, c₁, many, passed, none_there⟩ := h
    refine failsWith_bind.2 (Or.inr ⟨c, c, rfl, ?_⟩)
    exact fieldsWithin_fails_of le_rfl many passed none_there

/-- A parenthesis that closes a module. -/
theorem exists_closed_fields (table : FieldTable) {ts : List Token} {fs : List Field}
    (many : Many (IsFieldBy table) ts fs) :
    ∃ more, Closed (Many (IsFieldBy table)) (ts ++ more) fs :=
  ⟨[⟨.rightParen, ")", .ofBytes defaultFile 0 0⟩], .intro many rfl⟩

/-- After some fields, a parenthesis may open another one or close the module. -/
theorem mayFollow_fields {table : FieldTable} (rules : HasRule table) {ts : List Token}
    {fs : List Field} (many : Many (IsFieldBy table) ts fs) :
    ∀ kind ∈ [Kind.leftParen, .rightParen], MayFollow (Closed (Many (IsFieldBy table))) ts kind := by
  obtain ⟨kind, rule, found⟩ := rules
  obtain ⟨us, f, said⟩ := (Reads.fieldRule rule).inhabited
  have field : IsFieldBy table
      (⟨.leftParen, "(", .ofBytes defaultFile 0 0⟩ :: ⟨kind, "", .ofBytes defaultFile 0 0⟩ :: us) f :=
    .intro found (.intro rfl rfl said)
  obtain ⟨close, closed⟩ := exists_closed_fields table (many.append (.cons field .nil))
  simp only [List.forall_mem_cons]
  refine ⟨⟨_, _ :: us ++ close, _, rfl, by simpa using closed⟩, ?_, by simp⟩
  exact ⟨⟨.rightParen, ")", .ofBytes defaultFile 0 0⟩, [], fs, rfl, .intro many rfl⟩

theorem NoField.failsAt {table : FieldTable} (rules : HasRule table) {ts : List Token}
    {fs : List Field} {c c₁ c' : TokenCursor} {e : Error} (many : Many (IsFieldBy table) ts fs)
    (passed : c.Passes ts c₁) (h : NoField table c₁ e c') :
    ∃ passed c₂, FailsAt (fields table) (Closed (Many (IsFieldBy table))) c e passed c₂ := by
  obtain ⟨close, closed⟩ := exists_closed_fields table many
  cases h with
  | atEnd nothing =>
    refine ⟨ts, c₁, passed, position_unexpected c₁ _, blames_unexpected (by simp [nothing]),
      ⟨close, fs, closed⟩, ?_, fun c' c₁' passed' same => ?_⟩
    · intro kinds tells
      obtain rfl := Option.some.inj ((expected?_unexpected c₁ _).symm.trans tells)
      exact mayFollow_fields rules many
    · rw [nothing] at same
      cases same
  | unknown next goes_on no_field =>
    refine ⟨ts, c₁, passed, rfl, next ▸ .unknownField goes_on, ⟨close, fs, closed⟩, nofun,
      fun c' c₁' passed' same => ?_⟩
    rw [current?, same.head?_eq] at next
    rw [same.opening?_eq] at no_field
    exact ⟨_, _, failsWith_fields_iff.2 ⟨ts, fs, c₁', many, passed', .unknown next goes_on no_field⟩⟩
  | @inside o k rule c₃ _ _ opens found passed₁ failed =>
    obtain ⟨passed₂, c₂, fails⟩ := (Reads.fieldRule rule).fails failed
    have closed {us : List Token} {f : Field} (said : IsFieldRest rule us f) :
        ∃ close, Closed (Many (IsFieldBy table)) (ts ++ ([o, k] ++ us) ++ close) (fs ++ [f]) := by
      have field : IsFieldBy table (o :: k :: us) f := .intro found (.intro opens rfl said)
      simpa using exists_closed_fields table (many.append (.cons field .nil))
    refine ⟨ts ++ ([o, k] ++ passed₂), c₂, passed.append (passed₁.append fails.passes),
      fails.position, fails.blames, ?_, ?_, fun c' c₂' passed' same => ?_⟩
    · obtain ⟨more, f, said⟩ := fails.goesOn
      obtain ⟨close, said⟩ := closed said
      exact ⟨more ++ close, fs ++ [f], by simpa using said⟩
    · intro kinds tells kind member
      rw [← List.append_assoc]
      refine (fails.welcomes kinds tells kind member).within _ fun us f said => ?_
      obtain ⟨close, said⟩ := closed said
      exact ⟨close, fs ++ [f], by simpa using said⟩
    · obtain ⟨c₁', left, right⟩ := passes_append_iff.1 passed'
      obtain ⟨c₃', middle, right⟩ := passes_append_iff.1 right
      obtain ⟨e', c₄, failed'⟩ := fails.again right same
      exact ⟨e', c₄, failsWith_fields_iff.2
        ⟨ts, fs, c₁', many, left, .inside opens found middle failed'⟩⟩

theorem Reads.fields {table : FieldTable} (rules : HasRule table) :
    Reads (fields table) (Closed (Many (IsFieldBy table))) Anything := by
  refine Reads.of_fixed answers_fields_iff ?_ ?_
  · obtain ⟨close, closed⟩ := exists_closed_fields table .nil
    exact ⟨_, _, closed⟩
  · intro c c' e failed
    obtain ⟨ts, fs, c₁, many, passed, none_there⟩ := failsWith_fields_iff.1 failed
    exact none_there.failsAt rules many passed

/-! ### Modules by a table -/

/-- The opening of a module: a parenthesis, the keyword, and a name if there is one. -/
def moduleHead : Parse (Option String) := do
  let _ ← expect .leftParen
  let _ ← expect (.keyword .module_)
  optionalName

theorem module_eq (table : FieldTable) :
    module table = (do
      let name ← moduleHead
      let fields ← fields table
      return .ofFields name fields) := by
  simp only [Parse.module, moduleHead, bind_assoc]

theorem answers_moduleHead_iff {c c' : TokenCursor} {name : Option String} :
    Answers moduleHead c name c' ↔ ∃ o k ts, o.kind = .leftParen ∧ k.kind = .keyword .module_ ∧
      IsOptionalName ts name ∧ c.Passes (o :: k :: ts) c' ∧
      (name = none → ∀ t ∈ c'.ahead.head?, t.kind ≠ .name) := by
  constructor
  · intro answered
    obtain ⟨o, c₁, first, answered⟩ := answers_bind.1 answered
    obtain ⟨k, c₂, second, answered⟩ := answers_bind.1 answered
    obtain ⟨opens, passed₁⟩ := answers_expectOneOf.1 first
    obtain ⟨of_kind, passed₂⟩ := answers_expectOneOf.1 second
    obtain ⟨ts, named, passed₃, no_name⟩ := answers_optionalName_iff.1 answered
    exact ⟨o, k, ts, List.mem_singleton.1 opens, List.mem_singleton.1 of_kind, named,
      passed₁.append (passed₂.append passed₃), no_name⟩
  · intro h
    obtain ⟨o, k, ts, opens, of_kind, named, passed, no_name⟩ := h
    obtain ⟨c₁, passed₁, passed⟩ :=
      passes_append_iff.1 (show c.Passes ([o] ++ ([k] ++ ts)) c' from passed)
    obtain ⟨c₂, passed₂, passed₃⟩ := passes_append_iff.1 passed
    have first : Answers (expect .leftParen) c o c₁ :=
      answers_expectOneOf.2 ⟨List.mem_singleton.2 opens, passed₁⟩
    have second : Answers (expect (.keyword .module_)) c₁ k c₂ :=
      answers_expectOneOf.2 ⟨List.mem_singleton.2 of_kind, passed₂⟩
    have third := answers_optionalName_iff.2 ⟨ts, named, passed₃, no_name⟩
    exact answers_bind.2 ⟨o, c₁, first, answers_bind.2 ⟨k, c₂, second, third⟩⟩

/-- Fields, or the parenthesis that closes the module, do not begin with a name. -/
theorem not_name_of_closed_fields {table : FieldTable} {ts : List Token} {fs : List Field}
    (h : Closed (Many (IsFieldBy table)) ts fs) (rest : List Token) :
    ∀ t ∈ (ts ++ rest).head?, t.kind ≠ .name := by
  obtain ⟨many, closes⟩ := h
  cases many with
  | nil => exact (begins_of_rightParen [] closes).not_name
  | cons said _ =>
    obtain ⟨-, ⟨opens, -, -⟩⟩ := said
    rintro t ⟨⟩ is_name
    rw [opens] at is_name
    cases is_name

/-- A module by a table, which may have no rule. -/
def IsModuleBy (table : FieldTable) : List Token → Module → Prop :=
  Clause (.keyword .module_) (Closed (IsBodyBy table))

/-- A module is taken up to the parenthesis that closes it, whatever comes after. -/
theorem answers_moduleBy_iff {table : FieldTable} {c c' : TokenCursor} {m : Module} :
    Answers (module table) c m c' ↔ ∃ ts, IsModuleBy table ts m ∧ c.Passes ts c' := by
  rw [module_eq]
  constructor
  · intro answered
    obtain ⟨name, c₁, first, answered⟩ := answers_bind.1 answered
    obtain ⟨fs, c₂, second, answered⟩ := answers_bind.1 answered
    obtain ⟨rfl, rfl⟩ := answers_pure.1 answered
    obtain ⟨o, k, ts, opens, of_kind, named, passed, -⟩ := answers_moduleHead_iff.1 first
    obtain ⟨_, ⟨many, closes⟩, passed'⟩ := answers_fields_iff.1 second
    refine ⟨_, .intro opens of_kind (.intro (.intro named many) closes), ?_⟩
    simpa using passed.append passed'
  · intro h
    obtain ⟨_, @⟨o, k, _, _, opens, of_kind, @⟨_, close, _, @⟨ts, us, name, fs, named, many⟩, closes⟩⟩,
      passed⟩ := h
    have split : o :: k :: (ts ++ us ++ [close]) = (o :: k :: ts) ++ (us ++ [close]) := by simp
    rw [split] at passed
    obtain ⟨c₁, passed₁, passed₂⟩ := passes_append_iff.1 passed
    have closed : Closed (Many (IsFieldBy table)) (us ++ [close]) fs := .intro many closes
    have no_name : ∀ t ∈ c₁.ahead.head?, t.kind ≠ .name := by
      rw [passed₂.ahead]
      exact not_name_of_closed_fields closed c'.ahead
    have first : Answers moduleHead c name c₁ :=
      answers_moduleHead_iff.2 ⟨o, k, ts, opens, of_kind, named, passed₁, fun _ => no_name⟩
    have second := answers_fields_iff.2 ⟨_, closed, passed₂⟩
    exact answers_bind.2 ⟨name, c₁, first, answers_bind.2 ⟨fs, c', second, answers_pure.2 ⟨rfl, rfl⟩⟩⟩

/-- A cursor in a module that is opened at another one: after the name, if there is one, and after
some fields. -/
inductive AmongFields (table : FieldTable) (c c' : TokenCursor) : Prop where
  /-- `( module name? field*`. -/
  | intro {o k : Token} {ts us : List Token} {name : Option String} {fs : List Field} :
      o.kind = .leftParen → k.kind = .keyword .module_ → IsOptionalName ts name →
        Many (IsFieldBy table) us fs → c.Passes (o :: k :: (ts ++ us)) c' →
        (name = none → ∀ t ∈ (us ++ c'.ahead).head?, t.kind ≠ .name) → AmongFields table c c'

/-- A module fails where it does not end and no field can be read. -/
theorem AmongFields.fails {table : FieldTable} {c c₁ c' : TokenCursor} {e : Error}
    (h : AmongFields table c c₁) (none_there : NoField table c₁ e c') :
    FailsWith (module table) c e c' := by
  obtain @⟨o, k, ts, us, name, fs, opens, of_kind, named, many, passed, no_name⟩ := h
  obtain ⟨c₂, first, second⟩ :=
    passes_append_iff.1 (show c.Passes ((o :: k :: ts) ++ us) c₁ from passed)
  rw [← second.ahead] at no_name
  have head : Answers moduleHead c name c₂ :=
    answers_moduleHead_iff.2 ⟨o, k, ts, opens, of_kind, named, first, no_name⟩
  have fields_fail : FailsWith (fields table) c₂ e c' :=
    failsWith_fields_iff.2 ⟨us, fs, c₁, many, second, none_there⟩
  rw [module_eq]
  exact .bind_right head fields_fail.bind_left

/-- A module by a table with rules, which may stand before anything. -/
theorem Reads.module {table : FieldTable} (rules : HasRule table) :
    Reads (module table) (Clause (.keyword .module_) (Closed (IsBodyBy table))) Anything := by
  refine (Reads.expect_bind (Reads.expect_bind (Reads.optionalName.bind (fun name =>
    (Reads.fields rules).bind (fun fields => Reads.pure (Module.ofFields name fields) Anything)
      ?_) ?_))).congr fun ts m => ?_
  · intro _ _ _ _ _ _
    trivial
  · rintro name ts m rest ⟨fields, _, _, rfl, closed, rfl, -⟩ -
    rw [List.append_nil]
    exact not_name_of_closed_fields closed rest
  · constructor
    · rintro ⟨o, _, rfl, ho, k, _, rfl, hk, name, us, _, rfl, named, fields, _, _, rfl,
        ⟨many, closes⟩, rfl, rfl⟩
      have body := IsBodyBy.intro named many
      simpa [Module.ofFields] using Clause.intro ho hk (Closed.intro body closes)
    · intro h
      obtain ⟨ho, hk, ⟨⟨named, many⟩, closes⟩⟩ := h
      exact ⟨_, _, rfl, ho, _, _, rfl, hk, _, _, _, List.append_assoc _ _ _, named, _, _, [], by simp,
        .intro many closes, rfl, rfl⟩

end Parse

/-! ### Whole rows -/

open TokenCursor Grammar Parse

theorem answers_endOfTokens_iff {c c' : TokenCursor} {u : Unit} :
    Answers endOfTokens c u c' ↔ c' = c ∧ c.ahead = [] := by
  constructor
  · intro answered
    obtain ⟨c₁, _, first, second⟩ := answers_bind.1 answered
    cases first
    split at second
    · exact absurd second not_answers_throw
    · rename_i no_token
      obtain ⟨-, rfl⟩ := answers_pure.1 second
      exact ⟨rfl, List.head?_eq_none_iff.1 no_token⟩
  · intro h
    obtain ⟨rfl, at_end⟩ := h
    refine answers_bind.2 ⟨c', c', rfl, ?_⟩
    rw [current?, at_end]
    exact answers_pure.2 ⟨rfl, rfl⟩

theorem passes_ofTokens_iff {tokens ts : List Token} {file : String} :
    (∃ c, (ofTokens tokens file).Passes ts c ∧ c.ahead = []) ↔ ts = tokens := by
  constructor
  · intro h
    obtain ⟨c, passed, at_end⟩ := h
    have row := passed.ahead
    rw [at_end, List.append_nil] at row
    exact row.symm
  · rintro rfl
    exact ⟨⟨ts.reverse, [], file⟩, ⟨(List.append_nil ts).symm, (List.append_nil _).symm, rfl⟩, rfl⟩

theorem ofTokens_eq_ok_iff_answers {tokens : List Token} {file : String} {m : Module} :
    Module.ofTokens tokens file = .ok m ↔
      ∃ c, Answers (module .standard) (ofTokens tokens file) m c ∧ c.ahead = [] := by
  have run : Module.ofTokens tokens file = .ok m ↔
      ∃ c, Answers wholeModule (ofTokens tokens file) m c := by
    unfold Module.ofTokens Answers
    split
    · rename_i answer
      simp [answer]
    · rename_i failed
      simp [failed]
  rw [run]
  constructor
  · intro h
    obtain ⟨c, answered⟩ := h
    obtain ⟨m', c₁, first, second⟩ := answers_bind.1 answered
    obtain ⟨_, c₂, third, fourth⟩ := answers_bind.1 second
    obtain ⟨rfl, at_end⟩ := answers_endOfTokens_iff.1 third
    obtain ⟨rfl, rfl⟩ := answers_pure.1 fourth
    exact ⟨_, first, at_end⟩
  · intro h
    obtain ⟨c, answered, at_end⟩ := h
    exact ⟨c, answers_bind.2 ⟨m, c, answered, answers_bind.2
      ⟨(), c, answers_endOfTokens_iff.2 ⟨rfl, at_end⟩, answers_pure.2 ⟨rfl, rfl⟩⟩⟩⟩

theorem answers_module_iff {tokens : List Token} {file : String} {m : Module} :
    (∃ c, Answers (module .standard) (ofTokens tokens file) m c ∧ c.ahead = []) ↔
      IsModule tokens m := by
  constructor
  · intro h
    obtain ⟨c, answered, at_end⟩ := h
    obtain ⟨ts, ⟨ho, hk, ⟨said, closes⟩⟩, passed⟩ := (Reads.module hasRule_standard).sound answered
    obtain rfl := passes_ofTokens_iff.1 ⟨c, passed, at_end⟩
    exact .intro ho hk (.intro (isBodyBy_standard_iff.1 said) closes)
  · intro h
    obtain ⟨ho, hk, ⟨said, closes⟩⟩ := h
    obtain ⟨c, passed, at_end⟩ := passes_ofTokens_iff.2 rfl
    refine ⟨c, (Reads.module hasRule_standard).complete ?_ passed trivial, at_end⟩
    exact .intro ho hk (.intro (isBodyBy_standard_iff.2 said) closes)

/-- A row of tokens is read as a module exactly if the grammar derives the module from the whole
row. -/
theorem ofTokens_eq_ok_iff (tokens : List Token) (file : String) (m : Module) :
    Module.ofTokens tokens file = .ok m ↔ IsModule tokens m :=
  ofTokens_eq_ok_iff_answers.trans answers_module_iff

end WasmText
