import WasmText.Proofs.Grammar
import WasmText.Proofs.Reading.Blame

/-!
# Readers and relations

A reader of tokens is compared with a relation of the grammar. It *reads* the relation before some
rows of tokens if whatever it answers is said by the tokens it passed, and if, wherever tokens say
something and one of these rows comes after them, it answers that and passes just these tokens. The
rows that may come after are what a reader that takes as much as it can depends on; a reader that
ends at a fixed token may stand before any row.

Where a reader fails, its error points at the first token that is wrong: the tokens before it could
have gone on to say something, and with what the reader sees from there on it fails whatever comes
after. If the error tells which kinds could have followed, a token of each of them could.

## What is proved

* `Repeats.bind`, `FailsAt.bind_left`, `FailsAt.bind_right`: answers and failures of readers one
  after the other.
* `Reads.bind`, `Reads.ifAccepts`: readers one after the other, and a choice by the next token, read
  what the relations of their parts say together.
* `Reads.expect_bind`, `Reads.closed`: the cases of a token that has to stand before or after.
-/

namespace WasmText

namespace Parse

open TokenCursor Grammar

variable {α β : Type}

/-- A reader answers with `a`, and leaves the cursor at `c'`. -/
def Answers (p : Parse α) (c : TokenCursor) (a : α) (c' : TokenCursor) : Prop :=
  p.run c = .ok a c'

theorem answers_pure {a b : α} {c c' : TokenCursor} :
    Answers (pure a) c b c' ↔ a = b ∧ c = c' := by
  simp [Answers]

theorem answers_bind {p : Parse α} {f : α → Parse β} {c c'' : TokenCursor} {b : β} :
    Answers (p >>= f) c b c'' ↔ ∃ a c', Answers p c a c' ∧ Answers (f a) c' b c'' := by
  unfold Answers
  rw [EStateM.run_bind]
  constructor
  · intro h
    split at h
    · rename_i a c' answered
      exact ⟨a, c', answered, h⟩
    · cases h
  · intro h
    obtain ⟨a, c', answered, h⟩ := h
    rw [answered]
    exact h

theorem Answers.map {p : Parse α} {f : α → β} {c c' : TokenCursor} {a : α} (h : Answers p c a c') :
    Answers (do let a ← p; return f a) c (f a) c' :=
  answers_bind.2 ⟨a, c', h, answers_pure.2 ⟨rfl, rfl⟩⟩

theorem not_answers_throw {e : Error} {c c' : TokenCursor} {a : α} :
    ¬ Answers (throw e) c a c' := by
  intro h
  cases h

/-- A reader fails with an error, and leaves the cursor at `c'`. -/
def FailsWith (p : Parse α) (c : TokenCursor) (e : Error) (c' : TokenCursor) : Prop :=
  p.run c = .error e c'

theorem not_failsWith_pure {a : α} {c c' : TokenCursor} {e : Error} :
    ¬ FailsWith (pure a) c e c' := by
  intro h
  cases h

theorem not_failsWith_modifyGet {f : TokenCursor → α × TokenCursor} {c c' : TokenCursor}
    {e : Error} : ¬ FailsWith (modifyGet f) c e c' := by
  intro h
  cases h

theorem failsWith_throw {e e' : Error} {c c' : TokenCursor} :
    FailsWith (throw e : Parse α) c e' c' ↔ e = e' ∧ c = c' := by
  constructor
  · intro h
    cases h
    exact ⟨rfl, rfl⟩
  · rintro ⟨rfl, rfl⟩
    rfl

theorem failsWith_bind {p : Parse α} {f : α → Parse β} {c c'' : TokenCursor} {e : Error} :
    FailsWith (p >>= f) c e c'' ↔
      FailsWith p c e c'' ∨ ∃ a c', Answers p c a c' ∧ FailsWith (f a) c' e c'' := by
  unfold FailsWith Answers
  rw [EStateM.run_bind]
  cases p.run c with
  | ok a c' => simp
  | error e' c' => simp

theorem FailsWith.bind_left {p : Parse α} {f : α → Parse β} {c c' : TokenCursor} {e : Error}
    (first : FailsWith p c e c') : FailsWith (p >>= f) c e c' :=
  failsWith_bind.2 (Or.inl first)

theorem FailsWith.bind_right {p : Parse α} {f : α → Parse β} {c c' c'' : TokenCursor} {a : α}
    {e : Error} (first : Answers p c a c') (second : FailsWith (f a) c' e c'') :
    FailsWith (p >>= f) c e c'' :=
  failsWith_bind.2 (Or.inr ⟨a, c', first, second⟩)

theorem failsWith_unexpected {expected : List Kind} {c c' : TokenCursor} {e : Error} :
    FailsWith (unexpected expected : Parse α) c e c' ↔ c.unexpected expected = e ∧ c = c' := by
  constructor
  · intro h
    rcases failsWith_bind.1 h with failed | ⟨c₁, c₂, got, failed⟩
    · cases failed
    · cases got
      exact failsWith_throw.1 failed
  · intro h
    exact .bind_right (show Answers get c c c from rfl) (failsWith_throw.2 h)

/-- A reader answers again wherever it passes the same tokens and the next ones look the same. -/
def Repeats (p : Parse α) : Prop :=
  ∀ ⦃c c₁ a⦄, Answers p c a c₁ → ∃ ts, c.Passes ts c₁ ∧
    ∀ ⦃c' c₁'⦄, c'.Passes ts c₁' → Alike c₁.ahead c₁'.ahead → Answers p c' a c₁'

/-- A token of a kind could come after some tokens. -/
def MayFollow (item : List Token → α → Prop) (ts : List Token) (kind : Kind) : Prop :=
  ∃ t more a, t.kind = kind ∧ item (ts ++ t :: more) a

/-- A reader fails, and its error points at the first token that is wrong: the one after those that
were passed up to the cursor `c₂`. -/
structure FailsAt (p : Parse α) (item : List Token → α → Prop) (c : TokenCursor) (e : Error)
    (passed : List Token) (c₂ : TokenCursor) : Prop where
  /-- These tokens come before it. -/
  passes : c.Passes passed c₂
  /-- The error points there. -/
  position : e.position = c₂.position
  /-- What it says of this token is true. -/
  blames : Blames c₂.current? e.cause
  /-- The tokens before it could have gone on. -/
  goesOn : ∃ more a, item (passed ++ more) a
  /-- If it tells kinds, each of them could have come there. -/
  welcomes : ∀ kinds, e.cause.expected? = some kinds → ∀ kind ∈ kinds, MayFollow item passed kind
  /-- The reader fails whatever comes after the tokens that it sees there. -/
  again : ∀ ⦃c' c₂'⦄, c'.Passes passed c₂' → Alike c₂.ahead c₂'.ahead →
    ∃ e' c₁', FailsWith p c' e' c₁'

/-- A reader answers with what a relation says of the tokens that it passes, and with all of it
before rows of tokens that `follow` allows; where it fails, it points at the first token that is
wrong. -/
structure Reads (p : Parse α) (item : List Token → α → Prop) (follow : List Token → Prop) :
    Prop where
  /-- What is answered is said by the tokens that were passed. -/
  sound {c c' : TokenCursor} {a : α} :
    Answers p c a c' → ∃ ts, item ts a ∧ c.Passes ts c'
  /-- What tokens say is answered. -/
  complete {c c' : TokenCursor} {ts : List Token} {a : α} :
    item ts a → c.Passes ts c' → follow c'.ahead → Answers p c a c'
  /-- There is something to say. -/
  inhabited : ∃ ts a, item ts a
  /-- An answer depends on nothing but the tokens that are passed and those that are seen. -/
  repeats : Repeats p
  /-- A failure has a place. -/
  fails {c c' : TokenCursor} {e : Error} :
    FailsWith p c e c' → ∃ passed c₂, FailsAt p item c e passed c₂

/-- Any row of tokens. -/
def Anything (_ : List Token) : Prop := True

/-! ### Answers and failures, one after the other -/

theorem repeats_pure (a : α) : Repeats (pure a) := by
  intro c c₁ b answered
  obtain ⟨rfl, rfl⟩ := answers_pure.1 answered
  refine ⟨[], passes_nil_iff.2 rfl, fun c' c₁' passed _ => ?_⟩
  exact answers_pure.2 ⟨rfl, (passes_nil_iff.1 passed).symm⟩

theorem Repeats.bind {p : Parse α} {f : α → Parse β} (hp : Repeats p) (hf : ∀ a, Repeats (f a)) :
    Repeats (p >>= f) := by
  intro c c₂ b answered
  obtain ⟨a, c₁, first, second⟩ := answers_bind.1 answered
  obtain ⟨ts, passed, again⟩ := hp first
  obtain ⟨us, passed', again'⟩ := hf a second
  refine ⟨ts ++ us, passed.append passed', fun c' c₂' passed₂ same => ?_⟩
  obtain ⟨c₁', left, right⟩ := passes_append_iff.1 passed₂
  exact answers_bind.2 ⟨a, c₁', again left (passed'.alike right same), again' right same⟩

/-- What may follow in a part may follow there in the whole. -/
theorem MayFollow.within {item : List Token → α → Prop} {item' : List Token → β → Prop}
    {us : List Token} {kind : Kind} (h : MayFollow item us kind) (ts : List Token)
    (context : ∀ vs a, item vs a → ∃ ws b, item' (ts ++ (vs ++ ws)) b) :
    MayFollow item' (ts ++ us) kind := by
  obtain ⟨t, vs, a, of_kind, said⟩ := h
  obtain ⟨ws, b, said'⟩ := context _ a said
  exact ⟨t, vs ++ ws, b, of_kind, by simpa using said'⟩

theorem FailsAt.mono {p : Parse α} {item item' : List Token → α → Prop} {c c₂ : TokenCursor}
    {e : Error} {passed : List Token} (h : FailsAt p item c e passed c₂)
    (said : ∀ ts a, item ts a → item' ts a) : FailsAt p item' c e passed c₂ := by
  obtain ⟨more, a, going⟩ := h.goesOn
  refine { h with goesOn := ⟨more, a, said _ a going⟩, welcomes := ?_ }
  intro kinds tells kind member
  refine (h.welcomes kinds tells kind member).within [] fun ts a said' => ⟨[], a, ?_⟩
  rw [List.append_nil]
  exact said ts a said'

/-- The error says that there are no more tokens exactly if there are none. -/
theorem FailsAt.atEnd {p : Parse α} {item : List Token → α → Prop} {c c₂ : TokenCursor} {e : Error}
    {passed : List Token} (h : FailsAt p item c e passed c₂) :
    (∃ expected, e.cause = .unexpectedEnd expected) ↔ c₂.ahead = [] :=
  h.blames.end_iff.trans List.head?_eq_none_iff

/-- The characters of the source are not to blame. -/
theorem FailsAt.syntactic {p : Parse α} {item : List Token → α → Prop} {c c₂ : TokenCursor}
    {e : Error} {passed : List Token} (h : FailsAt p item c e passed c₂) :
    e.cause.isLexical = false :=
  h.blames.isLexical

/-- The first of two readers fails. -/
theorem FailsAt.bind_left {p : Parse α} {f : α → Parse β} {item : List Token → α → Prop}
    {item' : List Token → β → Prop} {c c₂ : TokenCursor} {e : Error} {passed : List Token}
    (h : FailsAt p item c e passed c₂)
    (more : ∀ ts a, item ts a → ∃ us b, item' (ts ++ us) b) :
    FailsAt (p >>= f) item' c e passed c₂ where
  passes := h.passes
  position := h.position
  blames := h.blames
  goesOn := by
    obtain ⟨us, a, said⟩ := h.goesOn
    obtain ⟨vs, b, said'⟩ := more _ a said
    exact ⟨us ++ vs, b, by rwa [← List.append_assoc]⟩
  welcomes := fun kinds tells kind member =>
    (h.welcomes kinds tells kind member).within [] more
  again := by
    intro c' c₂' passed' same
    obtain ⟨e', c₁', failed⟩ := h.again passed' same
    exact ⟨e', c₁', failed.bind_left⟩

/-- The second of two readers fails, after an answer of the first. -/
theorem FailsAt.bind_right {p : Parse α} {f : α → Parse β} {item item' : List Token → β → Prop}
    {c c₁ c₂ : TokenCursor} {a : α} {e : Error} {ts passed : List Token} (first : c.Passes ts c₁)
    (repeats : ∀ ⦃c' c₁'⦄, c'.Passes ts c₁' → Alike c₁.ahead c₁'.ahead → Answers p c' a c₁')
    (h : FailsAt (f a) item c₁ e passed c₂) (more : ∀ us b, item us b → item' (ts ++ us) b) :
    FailsAt (p >>= f) item' c e (ts ++ passed) c₂ where
  passes := first.append h.passes
  position := h.position
  blames := h.blames
  goesOn := by
    obtain ⟨us, b, said⟩ := h.goesOn
    exact ⟨us, b, by rw [List.append_assoc]; exact more _ b said⟩
  welcomes := fun kinds tells kind member =>
    (h.welcomes kinds tells kind member).within ts fun us b said =>
      ⟨[], b, by rw [List.append_nil]; exact more us b said⟩
  again := by
    intro c' c₂' passed' same
    obtain ⟨c₁', left, right⟩ := passes_append_iff.1 passed'
    obtain ⟨e', c₃, failed⟩ := h.again right same
    have answered := repeats left (h.passes.alike right same)
    exact ⟨e', c₃, .bind_right answered failed⟩

/-- A failure at the next token or at the end, where another one was expected. -/
theorem failsAt_unexpected {p : Parse α} {item : List Token → α → Prop} {c : TokenCursor}
    {expected : List Kind} (no_member : ∀ t ∈ c.ahead.head?, t.kind ∉ expected)
    (inhabited : ∃ ts a, item ts a) (welcomes : ∀ kind ∈ expected, MayFollow item [] kind)
    (again : ∀ c', Alike c.ahead c'.ahead → ∃ e' c₁, FailsWith p c' e' c₁) :
    FailsAt p item c (c.unexpected expected) [] c where
  passes := passes_nil_iff.2 rfl
  position := position_unexpected c expected
  blames := blames_unexpected no_member
  goesOn := inhabited
  welcomes := by
    intro kinds tells
    obtain rfl := Option.some.inj ((expected?_unexpected c expected).symm.trans tells)
    exact welcomes
  again := by
    intro c' c₂' passed same
    rw [passes_nil_iff.1 passed] at same
    exact again c' same

/-- A failure at the next token, with a cause of its own. -/
theorem failsAt_token {p : Parse α} {item : List Token → α → Prop} {c : TokenCursor} {t : Token}
    {e : Error} (next : c.current? = some t) (place : e.position = t.span.start)
    (blames : Blames (some t) e.cause) (tells_none : e.cause.expected? = none)
    (inhabited : ∃ ts a, item ts a)
    (again : ∀ c', Alike c.ahead c'.ahead → ∃ e' c₁, FailsWith p c' e' c₁) :
    FailsAt p item c e [] c where
  passes := passes_nil_iff.2 rfl
  position := place.trans (position_of_current? next).symm
  blames := by rwa [next]
  goesOn := inhabited
  welcomes := by
    intro kinds tells
    rw [tells_none] at tells
    cases tells
  again := by
    intro c' c₂' passed same
    rw [passes_nil_iff.1 passed] at same
    exact again c' same

/-! ### Readers one after the other -/

theorem Reads.congr {p : Parse α} {item item' : List Token → α → Prop} {follow : List Token → Prop}
    (h : Reads p item follow) (same : ∀ ts a, item ts a ↔ item' ts a) : Reads p item' follow := by
  constructor
  · intro c c' a answered
    obtain ⟨ts, said, passed⟩ := h.sound answered
    exact ⟨ts, (same ts a).1 said, passed⟩
  · intro c c' ts a said passed after
    exact h.complete ((same ts a).2 said) passed after
  · obtain ⟨ts, a, said⟩ := h.inhabited
    exact ⟨ts, a, (same ts a).1 said⟩
  · exact h.repeats
  · intro c c' e failed
    obtain ⟨passed, c₂, fails⟩ := h.fails failed
    exact ⟨passed, c₂, fails.mono fun ts a => (same ts a).1⟩

/-- A reader whose answers are known, with what stops it after each of them. -/
theorem Reads.of_answers {p : Parse α} {item : List Token → α → Prop} {follow : List Token → Prop}
    (stops : α → List Token → Prop)
    (answers : ∀ {c c' a}, Answers p c a c' ↔ ∃ ts, item ts a ∧ c.Passes ts c' ∧ stops a c'.ahead)
    (alike : ∀ {a ts us}, Alike ts us → stops a ts → stops a us)
    (after : ∀ {a rest}, follow rest → stops a rest) (inhabited : ∃ ts a, item ts a)
    (fails : ∀ {c c' e}, FailsWith p c e c' → ∃ passed c₂, FailsAt p item c e passed c₂) :
    Reads p item follow := by
  refine ⟨?_, ?_, inhabited, ?_, fails⟩
  · intro c c' a answered
    obtain ⟨ts, said, passed, -⟩ := answers.1 answered
    exact ⟨ts, said, passed⟩
  · intro c c' ts a said passed allowed
    exact answers.2 ⟨ts, said, passed, after allowed⟩
  · intro c c₁ a answered
    obtain ⟨ts, said, passed, stopped⟩ := answers.1 answered
    exact ⟨ts, passed, fun c' c₁' passed' same =>
      answers.2 ⟨ts, said, passed', alike same stopped⟩⟩

/-- A reader whose answers are known, and which ends at a fixed token. -/
theorem Reads.of_fixed {p : Parse α} {item : List Token → α → Prop}
    (answers : ∀ {c c' a}, Answers p c a c' ↔ ∃ ts, item ts a ∧ c.Passes ts c')
    (inhabited : ∃ ts a, item ts a)
    (fails : ∀ {c c' e}, FailsWith p c e c' → ∃ passed c₂, FailsAt p item c e passed c₂) :
    Reads p item Anything := by
  refine Reads.of_answers (fun _ _ => True) (answers.trans ?_) (fun _ _ => trivial)
    (fun _ => trivial) inhabited fails
  simp

theorem Reads.of_follow {p : Parse α} {item : List Token → α → Prop}
    {follow follow' : List Token → Prop} (h : Reads p item follow)
    (weaker : ∀ rest, follow' rest → follow rest) : Reads p item follow' :=
  { h with complete := fun said passed after => h.complete said passed (weaker _ after) }

theorem Reads.pure (a : α) (follow : List Token → Prop) :
    Reads (pure a) (fun ts b => ts = [] ∧ a = b) follow := by
  constructor
  · intro c c' b answered
    obtain ⟨rfl, rfl⟩ := answers_pure.1 answered
    exact ⟨[], ⟨rfl, rfl⟩, passes_nil_iff.2 rfl⟩
  · rintro c c' ts b ⟨rfl, rfl⟩ passed -
    exact answers_pure.2 ⟨rfl, (passes_nil_iff.1 passed).symm⟩
  · exact ⟨[], a, rfl, rfl⟩
  · exact repeats_pure a
  · intro c c' e failed
    exact absurd failed not_failsWith_pure

/-- Readers one after the other: the tokens of the second may come after those of the first. -/
theorem Reads.bind {p : Parse α} {f : α → Parse β} {first : List Token → α → Prop}
    {second : α → List Token → β → Prop} {follow follow' : List Token → Prop}
    (hp : Reads p first follow) (hf : ∀ a, Reads (f a) (second a) follow')
    (joins : ∀ a ts b rest, second a ts b → follow' rest → follow (ts ++ rest)) :
    Reads (p >>= f)
      (fun ts b => ∃ a us vs, ts = us ++ vs ∧ first us a ∧ second a vs b) follow' := by
  constructor
  · intro c c'' b answered
    obtain ⟨a, c', answered, answered'⟩ := answers_bind.1 answered
    obtain ⟨us, said, passed⟩ := hp.sound answered
    obtain ⟨vs, said', passed'⟩ := (hf a).sound answered'
    exact ⟨us ++ vs, ⟨a, us, vs, rfl, said, said'⟩, passed.append passed'⟩
  · rintro c c'' ts b ⟨a, us, vs, rfl, said, said'⟩ passed after
    obtain ⟨c', passed, passed'⟩ := passes_append_iff.1 passed
    have between : follow c'.ahead := by
      rw [passed'.ahead]
      exact joins a vs b c''.ahead said' after
    exact answers_bind.2 ⟨a, c', hp.complete said passed between, (hf a).complete said' passed' after⟩
  · obtain ⟨us, a, said⟩ := hp.inhabited
    obtain ⟨vs, b, said'⟩ := (hf a).inhabited
    exact ⟨us ++ vs, b, a, us, vs, rfl, said, said'⟩
  · exact hp.repeats.bind fun a => (hf a).repeats
  · intro c c'' e failed
    rcases failsWith_bind.1 failed with failed | ⟨a, c', answered, failed⟩
    · obtain ⟨passed, c₂, fails⟩ := hp.fails failed
      refine ⟨passed, c₂, fails.bind_left fun us a said => ?_⟩
      obtain ⟨vs, b, said'⟩ := (hf a).inhabited
      exact ⟨vs, b, a, us, vs, rfl, said, said'⟩
    · obtain ⟨us, said, passed⟩ := hp.sound answered
      obtain ⟨us', passed', repeats⟩ := hp.repeats answered
      obtain rfl := passed'.unique passed
      obtain ⟨passed₂, c₂, fails⟩ := (hf a).fails failed
      exact ⟨us' ++ passed₂, c₂, fails.bind_right passed repeats fun vs b said' =>
        ⟨a, us', vs, rfl, said, said'⟩⟩

/-! ### Single tokens -/

theorem answers_accept_some {kinds : List Kind} {c c' : TokenCursor} {t : Token} :
    Answers (accept kinds) c (some t) c' ↔ t.kind ∈ kinds ∧ c.Passes [t] c' := by
  rw [passes_iff, Answers, accept, EStateM.run_modifyGet, EStateM.Result.ok.injEq]
  unfold current?
  rcases h : c.ahead with _ | ⟨u, rest⟩
  · simp
  · by_cases member : u.kind ∈ kinds
    · simp only [List.head?_cons, member, if_true, Option.some.injEq, List.cons_prefix_cons,
        List.nil_prefix, and_true, List.length_singleton]
      constructor
      · intro h
        obtain ⟨rfl, rfl⟩ := h
        exact ⟨member, rfl, rfl⟩
      · intro h
        obtain ⟨-, rfl, rfl⟩ := h
        exact ⟨rfl, rfl⟩
    · simp only [List.head?_cons, member, if_false, List.cons_prefix_cons, reduceCtorEq,
        false_and, false_iff]
      intro h
      obtain ⟨member', ⟨rfl, -⟩, -⟩ := h
      exact member member'

theorem answers_accept_none {kinds : List Kind} {c c' : TokenCursor} :
    Answers (accept kinds) c none c' ↔ c' = c ∧ ∀ t ∈ c.ahead.head?, t.kind ∉ kinds := by
  rw [Answers, accept, EStateM.run_modifyGet, EStateM.Result.ok.injEq]
  unfold current?
  rcases h : c.ahead with _ | ⟨u, rest⟩
  · simp [eq_comm]
  · by_cases member : u.kind ∈ kinds
    · simp [member]
    · simp [member, eq_comm]

theorem repeats_accept (kinds : List Kind) : Repeats (accept kinds) := by
  intro c c₁ accepted answered
  cases accepted with
  | some t =>
    obtain ⟨member, passed⟩ := answers_accept_some.1 answered
    exact ⟨[t], passed, fun c' c₁' passed' _ => answers_accept_some.2 ⟨member, passed'⟩⟩
  | none =>
    obtain ⟨rfl, no_member⟩ := answers_accept_none.1 answered
    refine ⟨[], passes_nil_iff.2 rfl, fun c' c₁' passed same => ?_⟩
    obtain rfl := passes_nil_iff.1 passed
    rw [same.head?_eq] at no_member
    exact answers_accept_none.2 ⟨rfl, no_member⟩

theorem answers_expectOneOf {kinds : List Kind} {c c' : TokenCursor} {t : Token} :
    Answers (expectOneOf kinds) c t c' ↔ t.kind ∈ kinds ∧ c.Passes [t] c' := by
  constructor
  · intro answered
    obtain ⟨accepted, c₁, first, second⟩ := answers_bind.1 answered
    cases accepted with
    | none =>
      obtain ⟨_, _, _, failed⟩ := answers_bind.1 second
      exact absurd failed not_answers_throw
    | some u =>
      obtain ⟨rfl, rfl⟩ := answers_pure.1 second
      exact answers_accept_some.1 first
  · intro h
    exact answers_bind.2 ⟨some t, c', answers_accept_some.2 h, answers_pure.2 ⟨rfl, rfl⟩⟩

theorem failsWith_expectOneOf {kinds : List Kind} {c c' : TokenCursor} {e : Error} :
    FailsWith (expectOneOf kinds) c e c' ↔
      (∀ t ∈ c.ahead.head?, t.kind ∉ kinds) ∧ c.unexpected kinds = e ∧ c = c' := by
  constructor
  · intro failed
    rcases failsWith_bind.1 failed with failed | ⟨accepted, c₁, first, second⟩
    · exact absurd failed not_failsWith_modifyGet
    cases accepted with
    | some t => exact absurd second not_failsWith_pure
    | none =>
      obtain ⟨rfl, no_member⟩ := answers_accept_none.1 first
      exact ⟨no_member, failsWith_unexpected.1 second⟩
  · intro h
    obtain ⟨no_member, failed⟩ := h
    refine .bind_right (answers_accept_none.2 ⟨rfl, no_member⟩) ?_
    exact failsWith_unexpected.2 failed

theorem failsWith_expect_nil {kind : Kind} {c : TokenCursor} (nothing : c.ahead = []) :
    FailsWith (expect kind) c (c.unexpected [kind]) c :=
  failsWith_expectOneOf.2 ⟨by simp [nothing], rfl, rfl⟩

/-- A token of one of some kinds. -/
theorem Reads.expectOneOf {kinds : List Kind} (some_kind : kinds ≠ []) :
    Reads (expectOneOf kinds) (fun ts t => ts = [t] ∧ t.kind ∈ kinds) Anything := by
  have inhabited : ∃ ts, ∃ t : Token, ts = [t] ∧ t.kind ∈ kinds := by
    obtain ⟨kind, member⟩ := List.exists_mem_of_ne_nil kinds some_kind
    exact ⟨_, ⟨kind, "", .ofBytes defaultFile 0 0⟩, rfl, member⟩
  refine Reads.of_fixed (answers_expectOneOf.trans ?_) inhabited ?_
  · simp
  · intro c c' e failed
    obtain ⟨no_member, rfl, rfl⟩ := failsWith_expectOneOf.1 failed
    have welcomes : ∀ kind ∈ kinds,
        MayFollow (fun ts (t : Token) => ts = [t] ∧ t.kind ∈ kinds) [] kind := fun kind member =>
      ⟨⟨kind, "", .ofBytes defaultFile 0 0⟩, [], _, rfl, rfl, member⟩
    refine ⟨[], c, failsAt_unexpected no_member inhabited welcomes fun c' same => ?_⟩
    rw [same.head?_eq] at no_member
    exact ⟨_, _, failsWith_expectOneOf.2 ⟨no_member, rfl, rfl⟩⟩

/-- A token of a kind. -/
theorem Reads.expect (kind : Kind) :
    Reads (expect kind) (fun ts t => ts = [t] ∧ t.kind = kind) Anything :=
  (Reads.expectOneOf (List.cons_ne_nil kind [])).congr fun ts t => by rw [List.mem_singleton]

/-- A choice by the next token, if no row of the other branch begins with such a token. -/
theorem Reads.ifAccepts {kinds : List Kind} {p : Token → Parse α} {q : Parse α}
    {accepted : Token → List Token → α → Prop} {refused : List Token → α → Prop}
    {follow : List Token → Prop} (hp : ∀ t, Reads (p t) (accepted t) follow)
    (hq : Reads q refused follow)
    (apart : ∀ ts a rest, refused ts a → follow rest → ∀ t ∈ (ts ++ rest).head?, t.kind ∉ kinds) :
    Reads (do match ← accept kinds with | some t => p t | none => q)
      (fun ts a => (∃ t us, ts = t :: us ∧ t.kind ∈ kinds ∧ accepted t us a) ∨ refused ts a)
      follow := by
  constructor
  · intro c c' a answered
    obtain ⟨next, c₁, first, second⟩ := answers_bind.1 answered
    cases next with
    | some t =>
      obtain ⟨member, passed⟩ := answers_accept_some.1 first
      obtain ⟨us, said, passed'⟩ := (hp t).sound second
      exact ⟨t :: us, Or.inl ⟨t, us, rfl, member, said⟩, passed.append passed'⟩
    | none =>
      obtain ⟨rfl, -⟩ := answers_accept_none.1 first
      obtain ⟨ts, said, passed⟩ := hq.sound second
      exact ⟨ts, Or.inr said, passed⟩
  · rintro c c' ts a (⟨t, us, rfl, member, said⟩ | said) passed after
    · obtain ⟨c₁, first, second⟩ := passes_append_iff.1 (show c.Passes ([t] ++ us) c' from passed)
      refine answers_bind.2 ⟨some t, c₁, answers_accept_some.2 ⟨member, first⟩, ?_⟩
      exact (hp t).complete said second after
    · have none_accepted : ∀ t ∈ c.ahead.head?, t.kind ∉ kinds := by
        rw [passed.ahead]
        exact apart ts a c'.ahead said after
      refine answers_bind.2 ⟨none, c, answers_accept_none.2 ⟨rfl, none_accepted⟩, ?_⟩
      exact hq.complete said passed after
  · obtain ⟨ts, a, said⟩ := hq.inhabited
    exact ⟨ts, a, Or.inr said⟩
  · refine (repeats_accept kinds).bind fun accepted => ?_
    cases accepted with
    | some t => exact (hp t).repeats
    | none => exact hq.repeats
  · intro c c' e failed
    rcases failsWith_bind.1 failed with failed | ⟨next, c₁, first, second⟩
    · exact absurd failed not_failsWith_modifyGet
    obtain ⟨ts, passed, repeats⟩ := repeats_accept kinds first
    cases next with
    | some t =>
      obtain ⟨member, passed'⟩ := answers_accept_some.1 first
      obtain rfl := passed.unique passed'
      obtain ⟨passed₂, c₂, fails⟩ := (hp t).fails second
      exact ⟨_, c₂, fails.bind_right passed repeats fun us a said =>
        Or.inl ⟨t, us, rfl, member, said⟩⟩
    | none =>
      obtain ⟨rfl, -⟩ := answers_accept_none.1 first
      obtain rfl := passed.unique (passes_nil_iff.2 rfl)
      obtain ⟨passed₂, c₂, fails⟩ := hq.fails second
      exact ⟨_, c₂, fails.bind_right passed repeats fun us a said => Or.inr said⟩

/-- A token of a kind, and then something that does not depend on it. -/
theorem Reads.expect_bind {kind : Kind} {p : Parse β} {item : List Token → β → Prop}
    {follow : List Token → Prop} (h : Reads p item follow) :
    Reads (do let _ ← Parse.expect kind; p)
      (fun ts b => ∃ t us, ts = t :: us ∧ t.kind = kind ∧ item us b) follow := by
  refine ((Reads.expect kind).bind (fun _ => h) fun _ _ _ _ _ _ => trivial).congr fun ts b => ?_
  constructor
  · intro h
    obtain ⟨t, us, vs, rfl, ⟨rfl, of_kind⟩, said⟩ := h
    exact ⟨t, vs, rfl, of_kind, said⟩
  · intro h
    obtain ⟨t, us, rfl, of_kind, said⟩ := h
    exact ⟨t, [t], us, rfl, ⟨rfl, of_kind⟩, said⟩

/-- Something with a closing parenthesis after it. -/
theorem Reads.closed {p : Parse α} {f : α → β} {item : List Token → α → Prop}
    {follow : List Token → Prop} (h : Reads p item follow)
    (closes : ∀ t rest, t.kind = .rightParen → follow (t :: rest)) :
    Reads (do let a ← p; let _ ← Parse.expect .rightParen; return f a)
      (fun ts b => ∃ a, Closed item ts a ∧ f a = b) Anything := by
  refine (h.bind (fun a => Reads.expect_bind (Reads.pure (f a) Anything)) ?_).congr fun ts b => ?_
  · rintro a ts b rest ⟨t, us, rfl, of_kind, -⟩ -
    exact closes t (us ++ rest) of_kind
  · constructor
    · intro h
      obtain ⟨a, us, vs, rfl, said, t, ws, rfl, of_kind, rfl, rfl⟩ := h
      exact ⟨a, .intro said of_kind, rfl⟩
    · intro h
      obtain ⟨a, ⟨said, of_kind⟩, rfl⟩ := h
      exact ⟨a, _, _, rfl, said, _, [], rfl, of_kind, rfl, rfl⟩

end Parse

end WasmText
