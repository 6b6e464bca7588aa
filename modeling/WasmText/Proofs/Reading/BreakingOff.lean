import WasmText.Proofs.Reading.Signature

/-!
# Where items break off

Tokens break off an item if the item begins with them and goes on, but no item goes on with the next
token. From one place an item breaks off at one place only. A reader that ends at a fixed token and
looks at no more than the next one stands, where it fails, at the place where an item breaks off; so
it fails exactly if there is such a place.

Where a reader fails is put together from where its parts do: `stops us kinds next` says that it fails
after the tokens `us` and before the token `next`, or the end, and that its error tells `kinds`.

## What is proved

* `BreaksOff.unique`: there is one place at most.
* `Reads.fails_iff`: a reader fails exactly where an item breaks off, if it stands there where it
  fails.
* `FailsBy.closed`, `FailsBy.ifAccepts`, `FailsBy.clauses`: how readers fail, from how their parts do.
* `failsBy_result`, `failsBy_declaration`: how one clause fails.
-/

namespace WasmText

namespace Parse

open TokenCursor Grammar

variable {α β : Type} {p : Parse α} {item : List Token → α → Prop}
  {stops : List Token → List Kind → Option Token → Prop}

/-! ### Where an item breaks off -/

/-- Tokens that an item begins with but does not end with, before a token with which no item goes on,
or before the end. -/
structure BreaksOff (item : List Token → α → Prop) (us : List Token) (next : Option Token) :
    Prop where
  /-- An item begins with them, and there is more of it. -/
  goesOn : ∃ more a, more ≠ [] ∧ item (us ++ more) a
  /-- No item begins with them and the next token. -/
  stops : ∀ t ∈ next, ∀ more a, ¬ item (us ++ t :: more) a

/-- From one place an item breaks off at one place only. -/
theorem BreaksOff.unique {c c₁ c₂ : TokenCursor} {us vs : List Token}
    (h : BreaksOff item us c₁.current?) (h' : BreaksOff item vs c₂.current?)
    (passed : c.Passes us c₁) (passed' : c.Passes vs c₂) : us = vs := by
  have shorter {ws xs : List Token} {d d' : TokenCursor} (stops : BreaksOff item ws d.current?)
      (goes : BreaksOff item (ws ++ xs) d'.current?) (there : c.Passes ws d)
      (further : c.Passes (ws ++ xs) d') : xs = [] := by
    cases xs with
    | nil => rfl
    | cons t xs =>
      obtain ⟨d₁, here, on⟩ := passes_append_iff.1 further
      obtain rfl := here.eq_skip.trans there.eq_skip.symm
      obtain ⟨more, a, -, said⟩ := goes.goesOn
      rw [List.append_assoc] at said
      exact absurd said (stops.stops t on.current? (xs ++ more) a)
  rcases List.append_eq_append_iff.1 (passed.ahead.symm.trans passed'.ahead) with
    ⟨xs, rfl, -⟩ | ⟨xs, rfl, -⟩
  · rw [shorter h h' passed passed', List.append_nil]
  · rw [shorter h' h passed' passed, List.append_nil]

/-- A row that is an item is read to its end. -/
theorem Reads.answers_ofTokens (h : Reads p item Anything) {ts : List Token} {a : α}
    (said : item ts a) (file : String) : Answers p (ofTokens ts file) a ⟨ts.reverse, [], file⟩ := by
  have passed := passes_ofTokens ts [] file
  rw [List.append_nil] at passed
  exact h.complete said passed trivial

/-- Nothing can be put behind an item of a reader that ends at a fixed token. -/
theorem Reads.eq_nil_of_append (h : Reads p item Anything) {ts more : List Token} {a b : α}
    (said : item ts a) (said' : item (ts ++ more) b) : more = [] := by
  have short := h.complete said (passes_ofTokens ts more defaultFile) trivial
  have whole := h.answers_ofTokens said' defaultFile
  exact congrArg TokenCursor.ahead (EStateM.Result.ok.inj (short.symm.trans whole)).2

/-- A reader that stands, where it fails, at the place where an item breaks off fails wherever one
does. -/
theorem Reads.fails_iff (h : Reads p item Anything)
    (stands : ∀ {c c' e}, FailsWith p c e c' →
      ∃ us, c.Passes us c' ∧ BreaksOff item us c'.current?) {c c' : TokenCursor} :
    (∃ e, FailsWith p c e c') ↔ ∃ us, c.Passes us c' ∧ BreaksOff item us c'.current? := by
  constructor
  · rintro ⟨e, failed⟩
    exact stands failed
  · rintro ⟨us, passed, broken⟩
    cases run : p.run c with
    | error e c₁ =>
      obtain ⟨vs, passed', broken'⟩ := stands run
      obtain rfl := broken.unique broken' passed passed'
      obtain rfl := passed.eq_skip.trans passed'.eq_skip.symm
      exact ⟨e, run⟩
    | ok a c₁ =>
      -- An item that was read would go on where this one breaks off, or end before it.
      exfalso
      obtain ⟨ts, said, passed'⟩ := h.sound run
      obtain ⟨more, b, some_more, said'⟩ := broken.goesOn
      rcases List.append_eq_append_iff.1 (passed.ahead.symm.trans passed'.ahead) with
        ⟨xs, rfl, ahead⟩ | ⟨xs, rfl, -⟩
      · cases xs with
        | nil =>
          rw [List.append_nil] at said
          exact some_more (h.eq_nil_of_append said said')
        | cons t xs =>
          have next : c'.current? = some t := by rw [current?, ahead]; rfl
          exact broken.stops t next xs a said
      · rw [List.append_assoc] at said'
        have nothing := h.eq_nil_of_append said said'
        exact some_more (List.append_eq_nil_iff.1 nothing).2

/-- A reader fails exactly after some tokens and before a next one as `stops` allows, and the error
tells the kinds that `stops` says. -/
def FailsBy (p : Parse α) (stops : List Token → List Kind → Option Token → Prop) : Prop :=
  ∀ ⦃c e c'⦄, FailsWith p c e c' ↔
    ∃ us told, stops us told c'.current? ∧ c.Passes us c' ∧ c'.unexpected told = e

/-- Where a reader fails, an item breaks off, if the tokens before go on. -/
theorem FailsBy.breaksOff
    (by_stops : FailsBy p stops) (h : Reads p item Anything) {us : List Token} {told : List Kind}
    {next : Option Token} (stopped : stops us told next)
    (goesOn : ∃ more a, more ≠ [] ∧ item (us ++ more) a) : BreaksOff item us next := by
  refine ⟨goesOn, ?_⟩
  rintro t rfl more a said
  have passed := passes_ofTokens us (t :: more) defaultFile
  have failed : FailsWith p _ _ ⟨us.reverse, t :: more, defaultFile⟩ :=
    by_stops.2 ⟨us, told, stopped, passed, rfl⟩
  cases failed.symm.trans (h.answers_ofTokens said defaultFile)

theorem FailsBy.congr {stops' : List Token → List Kind → Option Token → Prop} (h : FailsBy p stops)
    (same : ∀ us told next, stops us told next ↔ stops' us told next) : FailsBy p stops' := by
  intro c e c'
  simp only [← same]
  apply h

/-! ### How the parts fail -/

/-- A reader that fails, if at all, before it passes a token. -/
theorem FailsBy.of_here {kinds : List Kind} {no_member : Option Token → Prop}
    (fails : ∀ {c e c'}, FailsWith p c e c' ↔
      no_member c.current? ∧ c.unexpected kinds = e ∧ c = c') :
    FailsBy p fun us told next => us = [] ∧ told = kinds ∧ no_member next := by
  intro c e c'
  rw [fails]
  constructor
  · rintro ⟨here, named, rfl⟩
    exact ⟨[], kinds, ⟨rfl, rfl, here⟩, passes_nil_iff.2 rfl, named⟩
  · rintro ⟨us, told, ⟨rfl, rfl, here⟩, passed, named⟩
    obtain rfl := passes_nil_iff.1 passed
    exact ⟨here, named, rfl⟩

theorem failsBy_expectValueType :
    FailsBy expectValueType fun us told next =>
      us = [] ∧ told = ValueType.kinds ∧ ∀ t ∈ next, ValueType.ofKind? t.kind = none :=
  FailsBy.of_here failsWith_expectValueType

theorem failsBy_valueTypes : FailsBy valueTypes fun _ _ _ => False := by
  intro c e c'
  refine ⟨fun failed => absurd failed not_failsWith_modifyGet, ?_⟩
  rintro ⟨_, _, ⟨⟩, -⟩

/-- A reader before a closing parenthesis fails itself, or the parenthesis is missing. -/
theorem FailsBy.closed {f : α → β} (h : FailsBy p stops) (after : Option Token → Prop)
    (answers : ∀ {c c' a}, Answers p c a c' ↔
      ∃ ts, item ts a ∧ c.Passes ts c' ∧ after c'.current?) :
    FailsBy (do let a ← p; let _ ← expect .rightParen; return f a) fun us told next =>
      stops us told next ∨ (∃ a, item us a) ∧ after next ∧ told = [.rightParen] ∧
        ∀ t ∈ next, t.kind ∉ [Kind.rightParen] := by
  intro c e c'
  constructor
  · intro failed
    rcases failsWith_bind.1 failed with failed | ⟨a, c₁, answered, failed⟩
    · obtain ⟨us, told, stopped, passed, named⟩ := h.1 failed
      exact ⟨us, told, Or.inl stopped, passed, named⟩
    rcases failsWith_bind.1 failed with failed | ⟨_, _, -, failed⟩
    · obtain ⟨us, said, passed, stopped⟩ := answers.1 answered
      obtain ⟨open_, named, rfl⟩ := failsWith_expectOneOf.1 failed
      exact ⟨us, _, Or.inr ⟨⟨a, said⟩, stopped, rfl, open_⟩, passed, named⟩
    · exact absurd failed not_failsWith_pure
  · rintro ⟨us, told, stopped | ⟨⟨a, said⟩, stopped, rfl, open_⟩, passed, named⟩
    · exact (h.2 ⟨us, told, stopped, passed, named⟩).bind_left
    · refine .bind_right (answers.2 ⟨us, said, passed, stopped⟩) ?_
      exact (failsWith_expectOneOf.2 ⟨open_, named, rfl⟩).bind_left

theorem FailsBy.ifAccepts {kinds : List Kind} {p : Token → Parse α} {q : Parse α}
    {stopsAfter : Token → List Token → List Kind → Option Token → Prop}
    (hp : ∀ t, FailsBy (p t) (stopsAfter t)) (hq : FailsBy q stops) :
    FailsBy (do match ← accept kinds with | some t => p t | none => q) fun us told next =>
      (∃ t vs, us = t :: vs ∧ t.kind ∈ kinds ∧ stopsAfter t vs told next) ∨
        stops us told next ∧ ∀ t ∈ us.head?.or next, t.kind ∉ kinds := by
  have first {c c' : TokenCursor} {us : List Token} (passed : c.Passes us c') :
      us.head?.or c'.current? = c.ahead.head? := by
    rw [passed.ahead, List.head?_append, current?]
  intro c e c'
  constructor
  · intro failed
    rcases failsWith_bind.1 failed with failed | ⟨accepted, c₁, answered, second⟩
    · exact absurd failed not_failsWith_modifyGet
    cases accepted with
    | some t =>
      obtain ⟨member, passed⟩ := answers_accept_some.1 answered
      obtain ⟨us, told, stopped, passed', named⟩ := (hp t).1 second
      exact ⟨t :: us, told, Or.inl ⟨t, us, rfl, member, stopped⟩, passed.append passed', named⟩
    | none =>
      obtain ⟨rfl, no_member⟩ := answers_accept_none.1 answered
      obtain ⟨us, told, stopped, passed, named⟩ := hq.1 second
      exact ⟨us, told, Or.inr ⟨stopped, by rwa [first passed]⟩, passed, named⟩
  · rintro ⟨us, told, ⟨t, vs, rfl, member, stopped⟩ | ⟨stopped, no_member⟩, passed, named⟩
    · obtain ⟨c₁, here, on⟩ := passes_append_iff.1 (show c.Passes ([t] ++ vs) c' from passed)
      refine .bind_right (answers_accept_some.2 ⟨member, here⟩) ?_
      exact (hp t).2 ⟨vs, told, stopped, on, named⟩
    · rw [first passed] at no_member
      refine .bind_right (answers_accept_none.2 ⟨rfl, no_member⟩) ?_
      exact hq.2 ⟨us, told, stopped, passed, named⟩

theorem FailsBy.map {f : α → β} (h : FailsBy p stops) :
    FailsBy (do let a ← p; return f a) stops := by
  intro c e c'
  rw [← h, failsWith_bind]
  refine ⟨fun failed => failed.resolve_right ?_, Or.inl⟩
  rintro ⟨a, c₁, -, failed⟩
  exact absurd failed not_failsWith_pure

/-- Where a list of clauses stops: in a clause that is open, after clauses that do not end the
list. -/
def ClauseStops (kind : Kind) (item : List Token → α → Prop) (last : α → Bool)
    (stops : List Token → List Kind → Option Token → Prop) (us : List Token) (told : List Kind)
    (next : Option Token) : Prop :=
  ∃ ts as vs, us = ts ++ vs ∧ GoOn (Clause kind item) last ts as ∧
    Clause kind (fun ws told => stops ws told next) vs told

theorem FailsBy.clauses {kind : Kind} {last : α → Bool} (h : Reads p item Anything)
    (hs : FailsBy p stops) :
    FailsBy (clauses [.leftParen, kind] p last) (ClauseStops kind item last stops) := by
  intro c e c'
  rw [failsWith_clauses_iff h]
  constructor
  · rintro ⟨ts, as, c₁, c₂, going, passed, opened, failed⟩
    obtain ⟨o, k, ho, hk, passed₁⟩ := answers_matchOpening_true.1 opened
    obtain ⟨us, told, stopped, passed₂, named⟩ := hs.1 failed
    exact ⟨ts ++ ([o, k] ++ us), told, ⟨ts, as, _, rfl, going, .intro ho hk stopped⟩,
      passed.append (passed₁.append passed₂), named⟩
  · rintro ⟨_, told, ⟨ts, as, _, rfl, going, @⟨o, k, us, _, ho, hk, stopped⟩⟩, passed, named⟩
    obtain ⟨c₁, left, right⟩ := passes_append_iff.1 passed
    obtain ⟨c₂, middle, right⟩ :=
      passes_append_iff.1 (show c₁.Passes ([o, k] ++ us) c' from right)
    exact ⟨ts, as, c₁, c₂, going, left, answers_matchOpening_true.2 ⟨o, k, ho, hk, middle⟩,
      hs.2 ⟨us, told, stopped, right, named⟩⟩

/-! ### How one clause fails -/

/-- Where the rest of a clause for a result stops, with the kinds that its error tells. -/
inductive ResultStops : List Token → List Kind → Option Token → Prop where
  /-- Before a token that names no type. -/
  | noType {next : Option Token} :
      (∀ t ∈ next, ValueType.ofKind? t.kind = none) → ResultStops [] ValueType.kinds next
  /-- After the type, before a token that is no closing parenthesis. -/
  | unclosed {us : List Token} {type : ValueType} {next : Option Token} :
      IsValueType us type → (∀ t ∈ next, t.kind ≠ .rightParen) → ResultStops us [.rightParen] next

/-- Where the rest of a clause for parameters or locals stops, with the kinds that its error tells. -/
inductive DeclarationStops : List Token → List Kind → Option Token → Prop where
  /-- After a name, where a result would. -/
  | named {t : Token} {us : List Token} {told : List Kind} {next : Option Token} :
      t.kind = .name → ResultStops us told next → DeclarationStops (t :: us) told next
  /-- After types, before a token that is neither a type nor a closing parenthesis; if there are no
  types, it is no name either. -/
  | unnamed {us : List Token} {types : List ValueType} {next : Option Token} :
      Many IsValueType us types → (∀ t ∈ next, ValueType.ofKind? t.kind = none) →
        (∀ t ∈ next, t.kind ≠ .rightParen) → (∀ t ∈ us.head?.or next, t.kind ≠ .name) →
        DeclarationStops us [.rightParen] next

/-- A type with a closing parenthesis after it. -/
theorem failsBy_closedType (f : ValueType → α) :
    FailsBy (do let type ← expectValueType; let _ ← expect .rightParen; return f type)
      ResultStops := by
  have answers {c c' : TokenCursor} {type : ValueType} :
      Answers expectValueType c type c' ↔ ∃ ts, IsValueType ts type ∧ c.Passes ts c' ∧ True := by
    simp only [and_true, answers_expectValueType]
  refine (failsBy_expectValueType.closed (f := f) (fun _ => True) answers).congr
    fun us told next => ?_
  constructor
  · rintro (⟨rfl, rfl, no_type⟩ | ⟨⟨type, said⟩, -, rfl, unclosed⟩)
    · exact .noType no_type
    · exact .unclosed said fun t next => mt List.mem_singleton.2 (unclosed t next)
  · rintro (no_type | ⟨said, unclosed⟩)
    · exact Or.inl ⟨rfl, rfl, no_type⟩
    · exact Or.inr ⟨⟨_, said⟩, trivial, rfl, fun t next => mt List.mem_singleton.1 (unclosed t next)⟩

theorem failsBy_result : FailsBy result ResultStops :=
  failsBy_closedType id

theorem failsBy_declaration : FailsBy declaration DeclarationStops := by
  have types := failsBy_valueTypes.closed (f := Declaration.unnamed)
    (fun next => ∀ t ∈ next, ValueType.ofKind? t.kind = none) answers_valueTypes_iff
  refine (FailsBy.ifAccepts (fun t => failsBy_closedType (Declaration.named t.declaredName))
    types).congr fun us told next => ?_
  constructor
  · rintro (⟨t, vs, rfl, is_name, stopped⟩ | ⟨⟨⟨⟩⟩ | ⟨⟨types, said⟩, no_type, rfl, unclosed⟩, no_name⟩)
    · exact .named (List.mem_singleton.1 is_name) stopped
    · exact .unnamed said no_type (fun t next => mt List.mem_singleton.2 (unclosed t next))
        fun t next => mt List.mem_singleton.2 (no_name t next)
  · rintro (⟨is_name, stopped⟩ | ⟨said, no_type, unclosed, no_name⟩)
    · exact Or.inl ⟨_, _, rfl, List.mem_singleton.2 is_name, stopped⟩
    · exact Or.inr ⟨Or.inr ⟨⟨_, said⟩, no_type, rfl,
        fun t next => mt List.mem_singleton.1 (unclosed t next)⟩,
        fun t next => mt List.mem_singleton.1 (no_name t next)⟩

theorem goesOn_of_closed {us : List Token} {a : α} (said : item us a) :
    ∃ more b, more ≠ [] ∧ Closed item (us ++ more) b :=
  ⟨[⟨.rightParen, ")", .ofBytes defaultFile 0 0⟩], a, List.cons_ne_nil _ _, .intro said rfl⟩

theorem ResultStops.goesOn {us : List Token} {told : List Kind} {next : Option Token}
    (h : ResultStops us told next) : ∃ more a, more ≠ [] ∧ Closed IsValueType (us ++ more) a := by
  cases h with
  | noType _ =>
    have i32 : IsValueType [⟨.keyword .i32, "i32", .ofBytes defaultFile 0 0⟩] .i32 := .intro rfl
    obtain ⟨more, a, -, said⟩ := goesOn_of_closed i32
    exact ⟨_, a, List.cons_ne_nil _ _, said⟩
  | unclosed said _ => exact goesOn_of_closed said

theorem DeclarationStops.goesOn {us : List Token} {told : List Kind} {next : Option Token}
    (h : DeclarationStops us told next) :
    ∃ more a, more ≠ [] ∧ Closed IsDeclaration (us ++ more) a := by
  cases h with
  | @named t us _ _ is_name stopped =>
    obtain ⟨more, type, some_more, said⟩ := stopped.goesOn
    have named := closed_isDeclaration_iff.2
      (Or.inl ⟨t, us ++ more, rfl, List.mem_singleton.2 is_name, type, said, rfl⟩)
    exact ⟨more, _, some_more, named⟩
  | unnamed said _ _ _ => exact goesOn_of_closed (IsDeclaration.unnamed said)

end Parse

end WasmText
