import WasmText.Proofs.Reading

/-!
# Lists of clauses

Which clause comes next is seen from two tokens: an opening parenthesis and a keyword. A reader that
chooses by them, or goes on as long as it sees them, reads a relation of the grammar as long as no
other way of dividing the tokens could begin with the same two.

## What is proved

* `Reads.ifOpens`: a choice by the opening of a clause.
* `answers_clauses_iff`: a list of clauses is taken as far as it goes, or up to the first clause
  that ends it.
* `failsAt_clauses`: a list of clauses fails where one of its clauses does, after others.
* `Reads.optionalName`, `Reads.valueTypes`, `Reads.clauses`: the parts of signatures that may be
  absent or repeated.
-/

namespace WasmText

namespace Grammar

open TokenCursor

variable {α : Type}

/-- Rows of tokens one after the other, each of which says an item, and none of which comes after an
item that is the `last` one. -/
inductive Listed (item : List Token → α → Prop) (last : α → Bool) :
    List Token → List α → Prop where
  /-- No item. -/
  | nil : Listed item last [] []
  /-- An item that ends the list. -/
  | last {ts : List Token} {a : α} : item ts a → last a = true → Listed item last ts [a]
  /-- An item that does not, and then more. -/
  | cons {ts us : List Token} {a : α} {as : List α} :
      item ts a → last a = false → Listed item last us as → Listed item last (ts ++ us) (a :: as)

theorem listed_iff_many {item : List Token → α → Prop} {ts : List Token} {as : List α} :
    Listed item (fun _ => false) ts as ↔ Many item ts as := by
  constructor
  · intro h
    induction h with
    | nil => exact .nil
    | last _ ended => cases ended
    | cons said _ _ ih => exact .cons said ih
  · intro h
    induction h with
    | nil => exact .nil
    | cons said _ ih => exact .cons said rfl ih

/-- Clauses that do not end their list. -/
def GoOn (item : List Token → α → Prop) (last : α → Bool) : List Token → List α → Prop :=
  Many fun ts a => item ts a ∧ last a = false

theorem GoOn.listed {item : List Token → α → Prop} {last : α → Bool} {ts us : List Token}
    {as bs : List α} (h : GoOn item last ts as) (more : Listed item last us bs) :
    Listed item last (ts ++ us) (as ++ bs) := by
  induction h with
  | nil => exact more
  | cons said _ ih =>
    rw [List.append_assoc]
    exact .cons said.1 said.2 ih

theorem listed_singleton {item : List Token → α → Prop} {last : α → Bool} {ts : List Token} {a : α}
    (said : item ts a) : Listed item last ts [a] := by
  by_cases ended : last a = true
  · exact .last said ended
  · have single := Listed.cons said (Bool.eq_false_iff.2 ended) .nil
    rwa [List.append_nil] at single

theorem Clause.opens {kind : Kind} {rest : List Token → α → Prop} {ts : List Token} {a : α}
    (h : Clause kind rest ts a) (us : List Token) : opening? (ts ++ us) = some kind := by
  obtain ⟨parenthesis, of_kind, -⟩ := h
  exact opening?_eq_some_iff.2 ⟨_, _, _, rfl, parenthesis, of_kind⟩

theorem Clause.ne_nil {kind : Kind} {rest : List Token → α → Prop} {ts : List Token} {a : α}
    (h : Clause kind rest ts a) : ts ≠ [] := by
  cases h
  exact List.cons_ne_nil _ _

/-- A row begins with the opening of a clause of one of some keywords, or with a closing
parenthesis; or it is an opening parenthesis alone. -/
def Begins (keywords : List Keyword) (ts : List Token) : Prop :=
  (∃ k ∈ keywords, opening? ts = some (.keyword k)) ∨ (∃ t us, ts = t :: us ∧ t.kind = .rightParen) ∨
    ∃ o, ts = [o] ∧ o.kind = .leftParen

theorem begins_of_rightParen (keywords : List Keyword) {t : Token} {us : List Token}
    (closes : t.kind = .rightParen) : Begins keywords (t :: us) :=
  Or.inr (Or.inl ⟨t, us, rfl, closes⟩)

theorem begins_of_leftParen (keywords : List Keyword) {o : Token} (opens : o.kind = .leftParen) :
    Begins keywords [o] :=
  Or.inr (Or.inr ⟨o, rfl, opens⟩)

theorem Begins.mono {keywords keywords' : List Keyword} {ts : List Token} (h : Begins keywords ts)
    (more : keywords ⊆ keywords') : Begins keywords' ts := by
  rcases h with ⟨k, member, opened⟩ | shut
  · exact Or.inl ⟨k, more member, opened⟩
  · exact Or.inr shut

theorem Begins.not_name {keywords : List Keyword} {ts : List Token} (h : Begins keywords ts) :
    ∀ t ∈ ts.head?, t.kind ≠ .name := by
  rcases h with ⟨k, -, opened⟩ | ⟨t, us, rfl, closes⟩ | ⟨o, rfl, opens⟩
  · obtain ⟨o, k, us, rfl, parenthesis, -⟩ := opening?_eq_some_iff.1 opened
    rintro t ⟨⟩ is_name
    rw [parenthesis] at is_name
    cases is_name
  · rintro t ⟨⟩ is_name
    rw [closes] at is_name
    cases is_name
  · rintro t ⟨⟩ is_name
    rw [opens] at is_name
    cases is_name

theorem Begins.opening?_ne {keywords : List Keyword} {k : Keyword} {ts : List Token}
    (h : Begins keywords ts) (other : k ∉ keywords) : opening? ts ≠ some (.keyword k) := by
  rcases h with ⟨l, member, opened⟩ | ⟨t, us, rfl, closes⟩ | ⟨o, rfl, -⟩
  · rw [opened]
    rintro ⟨⟩
    exact other member
  · intro opened
    obtain ⟨o, k, us, ⟨⟩, parenthesis, -⟩ := opening?_eq_some_iff.1 opened
    rw [closes] at parenthesis
    cases parenthesis
  · rintro ⟨⟩

theorem Clause.begins {keywords : List Keyword} {k : Keyword} {rest : List Token → α → Prop}
    {ts : List Token} {a : α} (h : Clause (.keyword k) rest ts a) (us : List Token)
    (member : k ∈ keywords) : Begins keywords (ts ++ us) :=
  Or.inl ⟨k, member, h.opens us⟩

theorem Many.begins {keywords : List Keyword} {item : List Token → α → Prop} {ts us : List Token}
    {as : List α} (h : Many item ts as)
    (first : ∀ ts a us, item ts a → Begins keywords (ts ++ us)) (after : Begins keywords us) :
    Begins keywords (ts ++ us) := by
  cases h with
  | nil => exact after
  | cons said _ =>
    rw [List.append_assoc]
    exact first _ _ _ said

theorem isValueType_iff {ts : List Token} {type : ValueType} :
    IsValueType ts type ↔ ∃ t, ts = [t] ∧ ValueType.ofKind? t.kind = some type := by
  constructor
  · intro h
    obtain ⟨of_kind⟩ := h
    exact ⟨_, rfl, ValueType.ofKind?_eq_some_iff.2 of_kind⟩
  · intro h
    obtain ⟨t, rfl, of_kind⟩ := h
    exact ⟨ValueType.ofKind?_eq_some_iff.1 of_kind⟩

theorem Many.filterMap_ofKind? {ts : List Token} {types : List ValueType}
    (h : Many IsValueType ts types) :
    ts.filterMap (fun t => ValueType.ofKind? t.kind) = types := by
  induction h with
  | nil => rfl
  | cons said _ ih =>
    obtain ⟨t, rfl, of_kind⟩ := isValueType_iff.1 said
    rw [List.filterMap_append, ih]
    simp [of_kind]

theorem Many.takeWhile_isValueType {ts rest : List Token} {types : List ValueType}
    (h : Many IsValueType ts types) (after : ∀ t ∈ rest.head?, ValueType.ofKind? t.kind = none) :
    (ts ++ rest).takeWhile (fun t => (ValueType.ofKind? t.kind).isSome) = ts := by
  induction h with
  | nil =>
    cases rest with
    | nil => rfl
    | cons t rest => exact List.takeWhile_cons_of_neg (by simp [after t rfl])
  | cons said _ ih =>
    obtain ⟨t, rfl, of_kind⟩ := isValueType_iff.1 said
    rw [List.append_assoc, List.singleton_append, List.takeWhile_cons_of_pos (by simp [of_kind]), ih]
    rfl

theorem many_isValueType_takeWhile (ts : List Token) :
    ∃ types, Many IsValueType (ts.takeWhile fun t => (ValueType.ofKind? t.kind).isSome) types := by
  induction ts with
  | nil => exact ⟨[], .nil⟩
  | cons t ts ih =>
    cases of_kind : ValueType.ofKind? t.kind with
    | none =>
      rw [List.takeWhile_cons_of_neg (by simp [of_kind])]
      exact ⟨[], .nil⟩
    | some type =>
      obtain ⟨types, said⟩ := ih
      rw [List.takeWhile_cons_of_pos (by simp [of_kind])]
      exact ⟨type :: types, .cons (isValueType_iff.2 ⟨t, rfl, of_kind⟩) said⟩

end Grammar

namespace Parse

open TokenCursor Grammar

variable {α : Type}

/-! ### What may be absent -/

theorem optionalName_eq :
    optionalName = (do
      match ← accept [.name] with
      | some t => return some t.declaredName
      | none => return none) := by
  refine congrArg (accept [.name] >>= ·) (funext fun accepted => ?_)
  cases accepted with
  | some t => rfl
  | none => rfl

theorem isOptionalName_iff {ts : List Token} {name : Option String} :
    IsOptionalName ts name ↔
      (∃ t us, ts = t :: us ∧ t.kind ∈ [Kind.name] ∧ us = [] ∧ some t.declaredName = name) ∨
      ts = [] ∧ none = name := by
  constructor
  · intro h
    cases h with
    | absent => exact Or.inr ⟨rfl, rfl⟩
    | @present t x is_name declares =>
      have name := congrArg some (declaredName_eq_iff.2 declares)
      exact Or.inl ⟨t, [], rfl, List.mem_singleton.2 is_name, rfl, name⟩
  · intro h
    rcases h with ⟨t, us, rfl, is_name, rfl, rfl⟩ | ⟨rfl, rfl⟩
    · exact .present (List.mem_singleton.1 is_name) (declaredName_eq_iff.1 rfl)
    · exact .absent

theorem Reads.optionalName :
    Reads optionalName IsOptionalName (fun rest => ∀ t ∈ rest.head?, t.kind ≠ .name) := by
  rw [optionalName_eq]
  refine (Reads.ifAccepts (fun t => Reads.pure _ _) (Reads.pure none _) ?_).congr
    fun ts name => isOptionalName_iff.symm
  rintro ts name rest ⟨rfl, -⟩ after t next
  exact mt List.mem_singleton.1 (after t next)

/-- A name is taken if there is one. -/
theorem answers_optionalName_iff {c c' : TokenCursor} {name : Option String} :
    Answers optionalName c name c' ↔ ∃ ts, IsOptionalName ts name ∧ c.Passes ts c' ∧
      (name = none → ∀ t ∈ c'.ahead.head?, t.kind ≠ .name) := by
  rw [optionalName_eq, answers_bind]
  constructor
  · intro h
    obtain ⟨accepted, c₁, first, second⟩ := h
    cases accepted with
    | some t =>
      obtain ⟨is_name, passed⟩ := answers_accept_some.1 first
      obtain ⟨rfl, rfl⟩ := answers_pure.1 second
      have named := IsOptionalName.present (List.mem_singleton.1 is_name) (declaredName_eq_iff.1 rfl)
      exact ⟨[t], named, passed, nofun⟩
    | none =>
      obtain ⟨rfl, no_name⟩ := answers_accept_none.1 first
      obtain ⟨rfl, rfl⟩ := answers_pure.1 second
      exact ⟨[], .absent, passes_nil_iff.2 rfl, fun _ t next => mt List.mem_singleton.2 (no_name t next)⟩
  · intro h
    obtain ⟨ts, named, passed, no_name⟩ := h
    cases named with
    | @present t x is_name declares =>
      refine ⟨some t, c', answers_accept_some.2 ⟨List.mem_singleton.2 is_name, passed⟩, ?_⟩
      exact answers_pure.2 ⟨congrArg some (declaredName_eq_iff.2 declares), rfl⟩
    | absent =>
      obtain rfl := passes_nil_iff.1 passed
      have refused : ∀ t ∈ c'.ahead.head?, t.kind ∉ [Kind.name] := fun t next =>
        mt List.mem_singleton.1 (no_name rfl t next)
      exact ⟨none, c', answers_accept_none.2 ⟨rfl, refused⟩, answers_pure.2 ⟨rfl, rfl⟩⟩

theorem answers_matchKinds_true {kinds : List Kind} {c c' : TokenCursor} :
    Answers (matchKinds kinds) c true c' ↔ ∃ ts, ts.map Token.kind = kinds ∧ c.Passes ts c' := by
  rw [Answers, matchKinds, EStateM.run_modifyGet, EStateM.Result.ok.injEq]
  constructor
  · intro h
    obtain ⟨made, moved⟩ := h
    split at made
    · rename_i starts
      rw [if_pos starts] at moved
      obtain ⟨ts, c₁, rfl, passed⟩ := startsWith_iff.1 starts
      rw [List.length_map, ← passed.eq_skip] at moved
      exact ⟨ts, rfl, moved ▸ passed⟩
    · cases made
  · intro h
    obtain ⟨ts, rfl, passed⟩ := h
    rw [if_pos (startsWith_iff.2 ⟨ts, c', rfl, passed⟩), List.length_map, ← passed.eq_skip]
    exact ⟨rfl, rfl⟩

theorem answers_matchKinds_false {kinds : List Kind} {c c' : TokenCursor} :
    Answers (matchKinds kinds) c false c' ↔ c' = c ∧ ¬ c.startsWith kinds = true := by
  rw [Answers, matchKinds, EStateM.run_modifyGet, EStateM.Result.ok.injEq]
  by_cases starts : c.startsWith kinds = true
  · simp [starts]
  · simp [starts, eq_comm]

theorem answers_matchOpening_true {kind : Kind} {c c' : TokenCursor} :
    Answers (matchKinds [.leftParen, kind]) c true c' ↔
      ∃ o k, o.kind = .leftParen ∧ k.kind = kind ∧ c.Passes [o, k] c' := by
  rw [answers_matchKinds_true]
  constructor
  · intro h
    obtain ⟨ts, kinds, passed⟩ := h
    obtain ⟨o, us, rfl, ho, rest⟩ := List.map_eq_cons_iff.1 kinds
    obtain ⟨k, vs, rfl, hk, rest⟩ := List.map_eq_cons_iff.1 rest
    rw [List.map_eq_nil_iff] at rest
    exact ⟨o, k, ho, hk, rest ▸ passed⟩
  · intro h
    obtain ⟨o, k, ho, hk, passed⟩ := h
    exact ⟨[o, k], by rw [List.map_cons, List.map_cons, ho, hk, List.map_nil], passed⟩

theorem answers_matchOpening_false {kind : Kind} {c c' : TokenCursor} :
    Answers (matchKinds [.leftParen, kind]) c false c' ↔ c' = c ∧ opening? c.ahead ≠ some kind := by
  rw [answers_matchKinds_false, startsWith_opening_iff]

theorem Reads.clause_sound {kind : Kind} {p : Parse α} {inside : List Token → α → Prop}
    {follow : List Token → Prop} (h : Reads p inside follow) {c c₁ c' : TokenCursor} {a : α}
    (opened : Answers (matchKinds [.leftParen, kind]) c true c₁) (answered : Answers p c₁ a c') :
    ∃ ts, Clause kind inside ts a ∧ c.Passes ts c' := by
  obtain ⟨o, k, ho, hk, passed⟩ := answers_matchOpening_true.1 opened
  obtain ⟨ts, said, passed'⟩ := h.sound answered
  exact ⟨o :: k :: ts, .intro ho hk said, passed.append passed'⟩

theorem Reads.clause_complete {kind : Kind} {p : Parse α} {inside : List Token → α → Prop}
    {follow : List Token → Prop} (h : Reads p inside follow) {c c' : TokenCursor} {a : α}
    {ts : List Token} (said : Clause kind inside ts a) (passed : c.Passes ts c')
    (after : follow c'.ahead) :
    ∃ c₁, Answers (matchKinds [.leftParen, kind]) c true c₁ ∧ Answers p c₁ a c' := by
  obtain @⟨o, k, us, _, ho, hk, said⟩ := said
  obtain ⟨c₁, passed₁, passed₂⟩ :=
    passes_append_iff.1 (show c.Passes ([o, k] ++ us) c' from passed)
  exact ⟨c₁, answers_matchOpening_true.2 ⟨o, k, ho, hk, passed₁⟩, h.complete said passed₂ after⟩

theorem repeats_matchOpening (kind : Kind) : Repeats (matchKinds [.leftParen, kind]) := by
  intro c c₁ opened answered
  cases opened with
  | true =>
    obtain ⟨o, k, ho, hk, passed⟩ := answers_matchOpening_true.1 answered
    exact ⟨[o, k], passed, fun c' c₁' passed' _ => answers_matchOpening_true.2 ⟨o, k, ho, hk, passed'⟩⟩
  | false =>
    obtain ⟨rfl, shut⟩ := answers_matchOpening_false.1 answered
    refine ⟨[], passes_nil_iff.2 rfl, fun c' c₁' passed same => ?_⟩
    obtain rfl := passes_nil_iff.1 passed
    rw [same.opening?_eq] at shut
    exact answers_matchOpening_false.2 ⟨rfl, shut⟩

/-- A choice by the opening of a clause, if no row of the other branch opens so. -/
theorem Reads.ifOpens {kind : Kind} {p q : Parse α} {inside outside : List Token → α → Prop}
    {follow : List Token → Prop} (hp : Reads p inside follow) (hq : Reads q outside follow)
    (apart : ∀ ts a rest, outside ts a → follow rest → opening? (ts ++ rest) ≠ some kind) :
    Reads (do if ← matchKinds [.leftParen, kind] then p else q)
      (fun ts a => Clause kind inside ts a ∨ outside ts a) follow := by
  constructor
  · intro c c' a answered
    obtain ⟨opened, c₁, first, second⟩ := answers_bind.1 answered
    cases opened with
    | true =>
      obtain ⟨ts, said, passed⟩ := hp.clause_sound first second
      exact ⟨ts, Or.inl said, passed⟩
    | false =>
      obtain ⟨rfl, -⟩ := answers_matchOpening_false.1 first
      obtain ⟨ts, said, passed⟩ := hq.sound second
      exact ⟨ts, Or.inr said, passed⟩
  · rintro c c' ts a (said | said) passed after
    · obtain ⟨c₁, opened, answered⟩ := hp.clause_complete said passed after
      exact answers_bind.2 ⟨true, c₁, opened, answered⟩
    · have shut : opening? c.ahead ≠ some kind := by
        rw [passed.ahead]
        exact apart ts a c'.ahead said after
      refine answers_bind.2 ⟨false, c, answers_matchOpening_false.2 ⟨rfl, shut⟩, ?_⟩
      exact hq.complete said passed after
  · obtain ⟨ts, a, said⟩ := hq.inhabited
    exact ⟨ts, a, Or.inr said⟩
  · refine (repeats_matchOpening kind).bind fun opened => ?_
    cases opened with
    | true => exact hp.repeats
    | false => exact hq.repeats
  · intro c c' e failed
    rcases failsWith_bind.1 failed with failed | ⟨opened, c₁, first, second⟩
    · exact absurd failed not_failsWith_modifyGet
    obtain ⟨ts, passed, repeats⟩ := repeats_matchOpening kind first
    cases opened with
    | true =>
      obtain ⟨o, k, ho, hk, passed'⟩ := answers_matchOpening_true.1 first
      obtain rfl := passed.unique passed'
      obtain ⟨passed₂, c₂, fails⟩ := hp.fails second
      exact ⟨_, c₂, fails.bind_right passed repeats fun us a said => Or.inl (.intro ho hk said)⟩
    | false =>
      obtain ⟨rfl, -⟩ := answers_matchOpening_false.1 first
      obtain rfl := passed.unique (passes_nil_iff.2 rfl)
      obtain ⟨passed₂, c₂, fails⟩ := hq.fails second
      exact ⟨_, c₂, fails.bind_right passed repeats fun us a said => Or.inr said⟩

/-! ### Value types -/

theorem answers_acceptValueType_some {c c' : TokenCursor} {type : ValueType} :
    Answers acceptValueType c (some type) c' ↔ ∃ ts, IsValueType ts type ∧ c.Passes ts c' := by
  rw [Answers, acceptValueType, EStateM.run_modifyGet, EStateM.Result.ok.injEq]
  simp only [isValueType_iff, passes_iff, kind?, kindAt?]
  rcases h : c.ahead with _ | ⟨t, rest⟩
  · simp
  · cases of_kind : ValueType.ofKind? t.kind with
    | none => simp [of_kind]
    | some type' => simp [of_kind, eq_comm]

theorem answers_acceptValueType_none {c c' : TokenCursor} :
    Answers acceptValueType c none c' ↔
      c' = c ∧ ∀ t ∈ c.ahead.head?, ValueType.ofKind? t.kind = none := by
  rw [Answers, acceptValueType, EStateM.run_modifyGet, EStateM.Result.ok.injEq]
  simp only [kind?, kindAt?]
  rcases h : c.ahead with _ | ⟨t, rest⟩
  · simp [eq_comm]
  · cases of_kind : ValueType.ofKind? t.kind with
    | none => simp [of_kind, eq_comm]
    | some type => simp [of_kind]

theorem answers_expectValueType {c c' : TokenCursor} {type : ValueType} :
    Answers expectValueType c type c' ↔ ∃ ts, IsValueType ts type ∧ c.Passes ts c' := by
  constructor
  · intro answered
    obtain ⟨accepted, c₁, first, second⟩ := answers_bind.1 answered
    cases accepted with
    | none =>
      obtain ⟨_, _, _, failed⟩ := answers_bind.1 second
      exact absurd failed not_answers_throw
    | some type' =>
      obtain ⟨rfl, rfl⟩ := answers_pure.1 second
      exact answers_acceptValueType_some.1 first
  · intro h
    exact answers_bind.2
      ⟨some type, c', answers_acceptValueType_some.2 h, answers_pure.2 ⟨rfl, rfl⟩⟩

theorem failsWith_expectValueType {c c' : TokenCursor} {e : Error} :
    FailsWith expectValueType c e c' ↔
      (∀ t ∈ c.ahead.head?, ValueType.ofKind? t.kind = none) ∧
        c.unexpected ValueType.kinds = e ∧ c = c' := by
  constructor
  · intro failed
    rcases failsWith_bind.1 failed with failed | ⟨accepted, c₁, first, second⟩
    · exact absurd failed not_failsWith_modifyGet
    cases accepted with
    | some type => exact absurd second not_failsWith_pure
    | none =>
      obtain ⟨rfl, no_type⟩ := answers_acceptValueType_none.1 first
      exact ⟨no_type, failsWith_unexpected.1 second⟩
  · intro h
    obtain ⟨no_type, failed⟩ := h
    refine .bind_right (answers_acceptValueType_none.2 ⟨rfl, no_type⟩) ?_
    exact failsWith_unexpected.2 failed

theorem not_mem_kinds_of_no_type {ts : List Token}
    (no_type : ∀ t ∈ ts.head?, ValueType.ofKind? t.kind = none) :
    ∀ t ∈ ts.head?, t.kind ∉ ValueType.kinds := by
  intro t next member
  have names_none := no_type t next
  simp only [ValueType.kinds, List.mem_cons, List.not_mem_nil, or_false] at member
  rcases member with is_type | is_type | is_type | is_type <;> rw [is_type] at names_none <;>
    cases names_none

theorem mayFollow_of_mem_kinds : ∀ kind ∈ ValueType.kinds, MayFollow IsValueType [] kind := by
  have keyword (type : ValueType) : MayFollow IsValueType [] (.keyword type.keyword) :=
    ⟨⟨_, "", .ofBytes defaultFile 0 0⟩, [], type, rfl, .intro rfl⟩
  simp only [ValueType.kinds, List.forall_mem_cons]
  exact ⟨keyword .f32, keyword .f64, keyword .i32, keyword .i64, by simp⟩

theorem Reads.expectValueType : Reads expectValueType IsValueType Anything := by
  have inhabited : ∃ ts type, IsValueType ts type :=
    ⟨[⟨.keyword .i32, "i32", .ofBytes defaultFile 0 0⟩], .i32, .intro rfl⟩
  refine Reads.of_fixed answers_expectValueType inhabited ?_
  intro c c' e failed
  obtain ⟨no_type, rfl, rfl⟩ := failsWith_expectValueType.1 failed
  refine ⟨[], c, failsAt_unexpected (not_mem_kinds_of_no_type no_type) inhabited
    mayFollow_of_mem_kinds fun c' same => ?_⟩
  rw [same.head?_eq] at no_type
  exact ⟨_, _, failsWith_expectValueType.2 ⟨no_type, rfl, rfl⟩⟩

/-- Value types are taken up to the first token that names none. -/
theorem answers_valueTypes_iff {c c' : TokenCursor} {types : List ValueType} :
    Answers valueTypes c types c' ↔
      ∃ ts, Many IsValueType ts types ∧ c.Passes ts c' ∧
        ∀ t ∈ c'.ahead.head?, ValueType.ofKind? t.kind = none := by
  constructor
  · intro answered
    cases answered
    obtain ⟨types, said⟩ := many_isValueType_takeWhile c.ahead
    have passed : c.Passes (c.ahead.takeWhile fun t => (ValueType.ofKind? t.kind).isSome) _ :=
      passes_iff.2 ⟨List.takeWhile_prefix _, rfl⟩
    refine ⟨_, by rwa [said.filterMap_ofKind?], passed, fun t next => ?_⟩
    have rest : c.ahead.dropWhile (fun t => (ValueType.ofKind? t.kind).isSome) = _ :=
      List.append_cancel_left (List.takeWhile_append_dropWhile.trans passed.ahead)
    have stopped := List.head?_dropWhile_not (fun t => (ValueType.ofKind? t.kind).isSome) c.ahead
    rw [rest, next] at stopped
    simpa using stopped
  · intro h
    obtain ⟨ts, said, passed, after⟩ := h
    rw [Answers, Parse.valueTypes, EStateM.run_modifyGet, passed.ahead]
    simp only [said.takeWhile_isValueType after, said.filterMap_ofKind?, ← passed.eq_skip]

theorem Reads.valueTypes :
    Reads valueTypes (Many IsValueType)
      (fun rest => ∀ t ∈ rest.head?, ValueType.ofKind? t.kind = none) := by
  refine Reads.of_answers _ answers_valueTypes_iff ?_ (fun after => after) ⟨[], [], .nil⟩ ?_
  · intro types ts us same stopped
    rwa [← same.head?_eq]
  · intro c c' e failed
    exact absurd failed not_failsWith_modifyGet

/-! ### Lists -/

theorem getLast?_any_cons {last : α → Bool} {a : α} {as : List α} (h : last a = false) :
    (a :: as).getLast?.any last = as.getLast?.any last := by
  rw [List.getLast?_cons]
  cases as.getLast? <;> simp [h]

theorem clausesWithin_sound {kind : Kind} {clause : Parse α} {last : α → Bool}
    {item : List Token → α → Prop} (h : Reads clause item Anything) {bound : List Token}
    {c c' : TokenCursor} {as : List α} (bounded : c.ahead.length ≤ bound.length)
    (answered : Answers (clausesWithin [.leftParen, kind] clause last bound) c as c') :
    ∃ ts, Listed (Clause kind item) last ts as ∧ c.Passes ts c' ∧
      (as.getLast?.any last = true ∨ opening? c'.ahead ≠ some kind) := by
  induction bound generalizing c as with
  | nil =>
    obtain ⟨rfl, rfl⟩ := answers_pure.1 answered
    have nothing : c.ahead = [] := List.length_eq_zero_iff.1 (Nat.le_zero.1 bounded)
    exact ⟨[], .nil, passes_nil_iff.2 rfl, Or.inr (by simp [nothing, opening?])⟩
  | cons _ bound ih =>
    obtain ⟨opened, c₁, first, second⟩ := answers_bind.1 answered
    cases opened with
    | false =>
      obtain ⟨rfl, shut⟩ := answers_matchOpening_false.1 first
      obtain ⟨rfl, rfl⟩ := answers_pure.1 second
      exact ⟨[], .nil, passes_nil_iff.2 rfl, Or.inr shut⟩
    | true =>
      obtain ⟨a, c₂, third, fourth⟩ := answers_bind.1 second
      obtain ⟨us, said, passed⟩ := h.clause_sound first third
      by_cases ended : last a = true
      · rw [if_pos ended] at fourth
        obtain ⟨rfl, rfl⟩ := answers_pure.1 fourth
        exact ⟨us, .last said ended, passed, Or.inl (by simp [ended])⟩
      · rw [if_neg ended] at fourth
        rw [Bool.not_eq_true] at ended
        obtain ⟨others, c₃, fifth, sixth⟩ := answers_bind.1 fourth
        obtain ⟨rfl, rfl⟩ := answers_pure.1 sixth
        obtain ⟨vs, listed, passed', stops⟩ := ih (passed.length_le said.ne_nil bounded) fifth
        rw [← getLast?_any_cons ended] at stops
        exact ⟨us ++ vs, .cons said ended listed, passed.append passed', stops⟩

theorem clausesWithin_complete {kind : Kind} {clause : Parse α} {last : α → Bool}
    {item : List Token → α → Prop} (h : Reads clause item Anything) {bound : List Token}
    {c c' : TokenCursor} {ts : List Token} {as : List α} (bounded : c.ahead.length ≤ bound.length)
    (listed : Listed (Clause kind item) last ts as) (passed : c.Passes ts c')
    (stops : as.getLast?.any last = true ∨ opening? c'.ahead ≠ some kind) :
    Answers (clausesWithin [.leftParen, kind] clause last bound) c as c' := by
  -- No clause is without tokens, so the bound outlives the clauses.
  induction bound generalizing c ts as with
  | nil =>
    have nothing : c.ahead = [] := List.length_eq_zero_iff.1 (Nat.le_zero.1 bounded)
    rw [passed.ahead, List.append_eq_nil_iff] at nothing
    cases listed with
    | nil =>
      obtain rfl := passes_nil_iff.1 passed
      exact answers_pure.2 ⟨rfl, rfl⟩
    | last said _ => exact absurd nothing.1 said.ne_nil
    | cons said _ _ => exact absurd (List.append_eq_nil_iff.1 nothing.1).1 said.ne_nil
  | cons _ bound ih =>
    cases listed with
    | nil =>
      obtain rfl := passes_nil_iff.1 passed
      have shut : opening? c'.ahead ≠ some kind := stops.resolve_left (by simp)
      exact answers_bind.2
        ⟨false, c', answers_matchOpening_false.2 ⟨rfl, shut⟩, answers_pure.2 ⟨rfl, rfl⟩⟩
    | @last _ a said ended =>
      obtain ⟨c₁, opened, answered⟩ := h.clause_complete said passed trivial
      refine answers_bind.2 ⟨true, c₁, opened, answers_bind.2 ⟨a, c', answered, ?_⟩⟩
      rw [if_pos ended]
      exact answers_pure.2 ⟨rfl, rfl⟩
    | @cons _ vs a others said ended listed =>
      obtain ⟨c₂, passed, passed'⟩ := passes_append_iff.1 passed
      obtain ⟨c₁, opened, answered⟩ := h.clause_complete said passed trivial
      rw [getLast?_any_cons ended] at stops
      have more := ih (passed.length_le said.ne_nil bounded) listed passed' stops
      refine answers_bind.2 ⟨true, c₁, opened, answers_bind.2 ⟨a, c₂, answered, ?_⟩⟩
      rw [if_neg (by simp [ended])]
      exact answers_bind.2 ⟨others, c', more, answers_pure.2 ⟨rfl, rfl⟩⟩

/-- A list of clauses is taken up to the first one that ends it; if there is none, as far as the
opening of a clause comes next. -/
theorem answers_clauses_iff {kind : Kind} {clause : Parse α} {last : α → Bool}
    {item : List Token → α → Prop} (h : Reads clause item Anything) {c c' : TokenCursor}
    {as : List α} :
    Answers (clauses [.leftParen, kind] clause last) c as c' ↔
      ∃ ts, Listed (Clause kind item) last ts as ∧ c.Passes ts c' ∧
        (as.getLast?.any last = true ∨ opening? c'.ahead ≠ some kind) := by
  constructor
  · intro answered
    obtain ⟨c₁, _, first, second⟩ := answers_bind.1 answered
    cases first
    exact clausesWithin_sound h le_rfl second
  · intro h
    obtain ⟨ts, listed, passed, stops⟩ := h
    exact answers_bind.2 ⟨c, c, rfl, clausesWithin_complete h le_rfl listed passed stops⟩

/-- Where a list of clauses fails: after clauses that do not end it, in a clause that is open. -/
theorem clausesWithin_fails {kind : Kind} {clause : Parse α} {last : α → Bool}
    {item : List Token → α → Prop} (h : Reads clause item Anything) {bound : List Token}
    {c c' : TokenCursor} {e : Error}
    (failed : FailsWith (clausesWithin [.leftParen, kind] clause last bound) c e c') :
    ∃ ts as c₁ c₂, GoOn (Clause kind item) last ts as ∧ c.Passes ts c₁ ∧
      Answers (matchKinds [.leftParen, kind]) c₁ true c₂ ∧ FailsWith clause c₂ e c' := by
  induction bound generalizing c with
  | nil => exact absurd failed not_failsWith_pure
  | cons _ bound ih =>
    rcases failsWith_bind.1 failed with failed | ⟨opened, c₁, first, second⟩
    · exact absurd failed not_failsWith_modifyGet
    cases opened with
    | false => exact absurd second not_failsWith_pure
    | true =>
      rcases failsWith_bind.1 second with failed | ⟨a, c₂, third, fourth⟩
      · exact ⟨[], [], c, c₁, .nil, passes_nil_iff.2 rfl, first, failed⟩
      by_cases ended : last a = true
      · rw [if_pos ended] at fourth
        exact absurd fourth not_failsWith_pure
      rw [if_neg ended] at fourth
      rcases failsWith_bind.1 fourth with failed | ⟨others, c₃, fifth, sixth⟩
      · obtain ⟨us, said, passed⟩ := h.clause_sound first third
        obtain ⟨vs, as, c₃, c₄, going, passed', opened, failed⟩ := ih failed
        exact ⟨us ++ vs, a :: as, c₃, c₄, .cons ⟨said, Bool.eq_false_iff.2 ended⟩ going,
          passed.append passed', opened, failed⟩
      · exact absurd sixth not_failsWith_pure

theorem clausesWithin_fails_of {kind : Kind} {clause : Parse α} {last : α → Bool}
    {item : List Token → α → Prop} (h : Reads clause item Anything) {bound ts : List Token}
    {as : List α} {c c₁ c₂ c' : TokenCursor} {e : Error} (bounded : c.ahead.length ≤ bound.length)
    (going : GoOn (Clause kind item) last ts as) (passed : c.Passes ts c₁)
    (opened : Answers (matchKinds [.leftParen, kind]) c₁ true c₂)
    (failed : FailsWith clause c₂ e c') :
    FailsWith (clausesWithin [.leftParen, kind] clause last bound) c e c' := by
  induction going generalizing c bound with
  | nil =>
    obtain rfl := passes_nil_iff.1 passed
    obtain ⟨o, k, -, -, passed'⟩ := answers_matchOpening_true.1 opened
    cases bound with
    | nil =>
      rw [passed'.ahead] at bounded
      simp at bounded
    | cons b bound =>
      exact .bind_right opened failed.bind_left
  | @cons us vs a as said _ ih =>
    obtain ⟨c₃, left, right⟩ := passes_append_iff.1 passed
    cases bound with
    | nil =>
      have nothing : c.ahead = [] := List.length_eq_zero_iff.1 (Nat.le_zero.1 bounded)
      rw [left.ahead, List.append_eq_nil_iff] at nothing
      exact absurd nothing.1 said.1.ne_nil
    | cons b bound =>
      obtain ⟨c₄, opened', answered⟩ := h.clause_complete said.1 left trivial
      have more := ih (left.length_le said.1.ne_nil bounded) right
      refine .bind_right opened' (.bind_right answered ?_)
      rw [if_neg (by simp [said.2])]
      exact more.bind_left

theorem failsWith_clauses_iff {kind : Kind} {clause : Parse α} {last : α → Bool}
    {item : List Token → α → Prop} (h : Reads clause item Anything) {c c' : TokenCursor}
    {e : Error} :
    FailsWith (clauses [.leftParen, kind] clause last) c e c' ↔
      ∃ ts as c₁ c₂, GoOn (Clause kind item) last ts as ∧ c.Passes ts c₁ ∧
        Answers (matchKinds [.leftParen, kind]) c₁ true c₂ ∧ FailsWith clause c₂ e c' := by
  constructor
  · intro failed
    rcases failsWith_bind.1 failed with failed | ⟨_, _, got, failed⟩
    · cases failed
    cases got
    exact clausesWithin_fails h failed
  · intro fails
    obtain ⟨ts, as, c₁, c₂, going, passed, opened, failed⟩ := fails
    refine failsWith_bind.2 (Or.inr ⟨c, c, rfl, ?_⟩)
    exact clausesWithin_fails_of h le_rfl going passed opened failed

theorem failsAt_clauses {kind : Kind} {clause : Parse α} {last : α → Bool}
    {item : List Token → α → Prop} (h : Reads clause item Anything) {c c' : TokenCursor} {e : Error}
    (failed : FailsWith (clauses [.leftParen, kind] clause last) c e c') :
    ∃ passed c₂, FailsAt (clauses [.leftParen, kind] clause last) (Listed (Clause kind item) last) c e
      passed c₂ := by
  obtain ⟨ts, as, c₁, c₂, going, passed, opened, failed⟩ := (failsWith_clauses_iff h).1 failed
  obtain ⟨o, k, ho, hk, passed₁⟩ := answers_matchOpening_true.1 opened
  obtain ⟨passed₂, c₃, fails⟩ := h.fails failed
  have listed {us : List Token} {a : α} (said : item us a) :
      Listed (Clause kind item) last (ts ++ o :: k :: us) (as ++ [a]) :=
    going.listed (listed_singleton (.intro ho hk said))
  refine ⟨ts ++ ([o, k] ++ passed₂), c₃, ?_, fails.position, fails.blames, ?_, ?_, ?_⟩
  · exact passed.append (passed₁.append fails.passes)
  · obtain ⟨more, a, said⟩ := fails.goesOn
    exact ⟨more, as ++ [a], by simpa using listed said⟩
  · intro kinds tells kind' member
    rw [← List.append_assoc]
    exact (fails.welcomes kinds tells kind' member).within _ fun us a said =>
      ⟨[], as ++ [a], by simpa using listed said⟩
  · intro c' c₃' passed' same
    obtain ⟨c₁', left, right⟩ := passes_append_iff.1 passed'
    obtain ⟨c₂', middle, right⟩ := passes_append_iff.1 right
    obtain ⟨e', c₄, failed'⟩ := fails.again right same
    have opened' : Answers (matchKinds [.leftParen, kind]) c₁' true c₂' :=
      answers_matchOpening_true.2 ⟨o, k, ho, hk, middle⟩
    exact ⟨e', c₄, (failsWith_clauses_iff h).2 ⟨ts, as, c₁', c₂', going, left, opened', failed'⟩⟩

theorem Reads.clauses {kind : Kind} {clause : Parse α} {item : List Token → α → Prop}
    (h : Reads clause item Anything) :
    Reads (clauses [.leftParen, kind] clause fun _ => false) (Many (Clause kind item))
      (fun rest => opening? rest ≠ some kind) := by
  refine (Reads.of_answers _ (answers_clauses_iff h) ?_ Or.inr ⟨[], [], .nil⟩
    (failsAt_clauses h)).congr fun ts as => listed_iff_many
  intro as ts us same stopped
  rwa [← same.opening?_eq]

end Parse

end WasmText
