import WasmText.Proofs.Reading.BreakingOff

/-!
# Lists of clauses, taken exactly

The clauses for parameters, results and locals are taken one after the other, as long as the next two
tokens open another one. Where a list fails, a clause is in progress: the tokens before the cursor are
complete clauses and the beginning of one more, and no clause goes on with the next token. So a list
depends on nothing but the tokens that it takes and the two after them.

## What is proved

* `clauses_eq`, `localsAfter_eq`: a list of clauses is a loop, whatever bounds it.
* `FailsBy.stopsInClause`: a list fails exactly where a clause breaks off, after complete ones.
* `seesTwo_clauses`: a list sees no more than two tokens after those that it takes.
* `clause_lists_exact`: what the lists for parameters, results and locals take, and where they fail.
-/

namespace WasmText

/-! ### Locals, put together clause by clause -/

/-- The locals of some clauses, after those that were found before. One with a name stands for all of
them. -/
def Local.after (found : List Local) (clauses : List Declaration) : List Local :=
  match clauses.getLast? with
  | some (.named name type) => [⟨some name, type⟩]
  | _ => found ++ (clauses.flatMap Declaration.types).map fun type => ⟨none, type⟩

theorem Local.after_nil (clauses : List Declaration) :
    Local.after [] clauses = Local.ofDeclarations clauses := by
  unfold Local.ofDeclarations Local.after
  cases clauses.getLast? with
  | none => rfl
  | some clause => cases clause <;> rfl

theorem Local.after_cons_unnamed (found : List Local) (types : List ValueType)
    (clauses : List Declaration) :
    Local.after found (.unnamed types :: clauses) =
      Local.after (found ++ types.map fun type => ⟨none, type⟩) clauses := by
  unfold Local.after
  rw [List.getLast?_cons]
  cases clauses.getLast? with
  | none => simp [Declaration.types]
  | some clause => cases clause <;> simp [Declaration.types]

namespace Parse

open TokenCursor Grammar

variable {α β : Type} {p : Parse α} {item : List Token → α → Prop}
  {stops : List Token → List Kind → Option Token → Prop} {kind : Kind} {last : α → Bool}

/-! ### The loop -/

/-- Readers that end alike run alike. -/
theorem run_eq_of_same {q : Parse α} {c : TokenCursor}
    (answers : ∀ a c', Answers p c a c' → Answers q c a c')
    (fails : ∀ e c', FailsWith p c e c' → FailsWith q c e c') : p.run c = q.run c := by
  cases run : p.run c with
  | ok a c' => exact (answers a c' run).symm
  | error e c' => exact (fails e c' run).symm

section

variable (h : Reads p item Anything)

include h

/-- A bound that is large enough has no effect. -/
theorem run_clausesWithin {bound bound' : List Token} {c : TokenCursor}
    (enough : c.ahead.length ≤ bound.length) (enough' : c.ahead.length ≤ bound'.length) :
    (clausesWithin [.leftParen, kind] p last bound).run c =
      (clausesWithin [.leftParen, kind] p last bound').run c := by
  refine run_eq_of_same ?_ ?_
  · intro as c' answered
    obtain ⟨ts, listed, passed, stops⟩ := clausesWithin_sound h enough answered
    exact clausesWithin_complete h enough' listed passed stops
  · intro e c' failed
    obtain ⟨ts, as, c₁, c₂, going, passed, opened, failed⟩ := clausesWithin_fails h failed
    exact clausesWithin_fails_of h enough' going passed opened failed

/-- A list of clauses is a loop: while the next two tokens open a clause, one is read. -/
theorem clauses_eq :
    clauses [.leftParen, kind] p last = (do
      if ← matchKinds [.leftParen, kind] then
        let first ← p
        if last first then return [first]
        let others ← clauses [.leftParen, kind] p last
        return first :: others
      else return []) := by
  funext c
  show (clausesWithin [.leftParen, kind] p last c.ahead).run c = EStateM.run _ c
  cases next : c.ahead with
  | nil =>
    have shut : ¬ c.startsWith [.leftParen, kind] = true := by simp [startsWith, next]
    have refused := answers_matchKinds_false.2 ⟨rfl, shut⟩
    rw [EStateM.run_bind, show (matchKinds _).run c = _ from refused]
    rfl
  | cons t rest =>
    rw [clausesWithin, EStateM.run_bind, EStateM.run_bind]
    cases opened : (matchKinds [.leftParen, kind]).run c with
    | error e c₁ => rfl
    | ok found c₁ =>
      cases found with
      | false => rfl
      | true =>
        dsimp only
        rw [if_pos rfl, if_pos rfl, EStateM.run_bind, EStateM.run_bind]
        cases answered : p.run c₁ with
        | error e c₂ => rfl
        | ok first c₂ =>
          dsimp only
          by_cases ended : last first = true
          · rw [if_pos ended, if_pos ended]
          · -- The clause has taken a token, so the others are fewer than the bound.
            obtain ⟨us, said, passed⟩ := h.clause_sound opened answered
            have fewer : c₂.ahead.length ≤ rest.length :=
              passed.length_le said.ne_nil (by rw [next, List.length_cons])
            rw [if_neg ended, if_neg ended, EStateM.run_bind, EStateM.run_bind,
              run_clausesWithin h fewer le_rfl]
            rfl

/-- A list that no clause ends. -/
theorem clauses_false_eq :
    clauses [.leftParen, kind] p (fun _ => false) = (do
      if ← matchKinds [.leftParen, kind] then
        let first ← p
        let others ← clauses [.leftParen, kind] p fun _ => false
        return first :: others
      else return []) := by
  conv_lhs => rw [clauses_eq h]
  rfl

end

/-- The locals, after those of clauses that were read before. -/
def localsAfter (found : List Local) : Parse (List Local) :=
  return Local.after found
    (← clauses [.leftParen, .keyword .local_] declaration fun clause => clause.name?.isSome)

theorem locals_eq_localsAfter : locals = localsAfter [] := by
  unfold locals localsAfter
  simp only [Local.after_nil]

/-- The locals are a loop: a clause with a name ends it, and is all of them. -/
theorem localsAfter_eq (found : List Local) :
    localsAfter found = (do
      if ← matchKinds [.leftParen, .keyword .local_] then
        match ← declaration with
        | .named name type => return [⟨some name, type⟩]
        | .unnamed types => localsAfter (found ++ types.map fun type => ⟨none, type⟩)
      else return found) := by
  conv_lhs => rw [localsAfter, clauses_eq Reads.declaration, bind_assoc]
  refine congrArg (matchKinds _ >>= ·) (funext fun opened => ?_)
  cases opened with
  | false => simp [Local.after]
  | true =>
    simp only [if_true, bind_assoc]
    refine congrArg (declaration >>= ·) (funext fun clause => ?_)
    cases clause with
    | named name type => simp [Declaration.name?, Local.after]
    | unnamed types =>
      rw [if_neg (by simp [Declaration.name?])]
      simp [Local.after_cons_unnamed, localsAfter]

/-! ### Where a list stops -/

/-- A list of clauses stops in a clause that is in progress: the tokens before the cursor are complete
clauses, as `before` says, and the beginning of one more that does not go on with the next token. The
error names this token, or the end, which is where the last token ends. -/
structure StopsInClause (p : Parse β) (before : List Token → Prop) (kind : Kind)
    (clause : List Token → α → Prop) : Prop where
  /-- It fails exactly where a clause breaks off, after its opening. -/
  fails_iff {c c' : TokenCursor} :
    (∃ e, FailsWith p c e c') ↔
      ∃ ts us, before ts ∧ c.Passes (ts ++ us) c' ∧ opening? us = some kind ∧
        BreaksOff clause us c'.current?
  /-- The error names what stands there. -/
  names {c c' : TokenCursor} {e : Error} :
    FailsWith p c e c' → ∃ told,
      (∃ t, c'.current? = some t ∧ e = ⟨.unexpectedToken told t.display, t.span.start⟩) ∨
      c'.current? = none ∧
        ∃ t, c'.tokens.getLast? = some t ∧ e = ⟨.unexpectedEnd told, t.span.stop⟩

/-- A reader sees no more than two tokens after those that it takes: it runs alike wherever these are
the same. -/
def SeesTwo (p : Parse β) : Prop :=
  ∀ ⦃c c' d d' ts⦄, c.Passes ts c' → d.Passes ts d' → c'.ahead.take 2 = d'.ahead.take 2 →
    (∀ a, Answers p c a c' → Answers p d a d') ∧ ∀ e, FailsWith p c e c' → FailsWith p d e d'

theorem clause_cons_iff {o k : Token} {us : List Token} {a : α} (opens : o.kind = .leftParen)
    (of_kind : k.kind = kind) : Clause kind item (o :: k :: us) a ↔ item us a := by
  constructor
  · rintro ⟨-, -, said⟩
    exact said
  · intro said
    exact .intro opens of_kind said

theorem breaksOff_clause_iff {o k : Token} {us : List Token} {next : Option Token}
    (opens : o.kind = .leftParen) (of_kind : k.kind = kind) :
    BreaksOff (Clause kind item) (o :: k :: us) next ↔ BreaksOff item us next := by
  have inside {vs : List Token} {a : α} :
      Clause kind item (o :: k :: (us ++ vs)) a ↔ item (us ++ vs) a :=
    clause_cons_iff opens of_kind
  constructor
  · rintro ⟨⟨more, a, some_more, said⟩, stops⟩
    exact ⟨⟨more, a, some_more, inside.1 said⟩, fun t next more a said =>
      stops t next more a (inside.2 said)⟩
  · rintro ⟨⟨more, a, some_more, said⟩, stops⟩
    exact ⟨⟨more, a, some_more, inside.2 said⟩, fun t next more a said =>
      stops t next more a (inside.1 said)⟩

/-- A clause has been opened where a list stops, so there is a last token that was passed. -/
theorem ClauseStops.exists_last {us : List Token} {told : List Kind} {next : Option Token}
    (h : ClauseStops kind item last stops us told next) : ∃ vs t, us = vs ++ [t] := by
  obtain ⟨ts, as, vs, rfl, -, opened⟩ := h
  have some_token := List.append_ne_nil_of_right_ne_nil ts opened.ne_nil
  obtain ⟨us, t, same⟩ := (List.eq_nil_or_concat (ts ++ vs)).resolve_left some_token
  exact ⟨us, t, same.trans List.concat_eq_append⟩

/-- A list whose clauses stop where one breaks off stops in a clause that is in progress. -/
theorem FailsBy.stopsInClause {q : Parse β} (fails : FailsBy q (ClauseStops kind item last stops))
    (h : Reads p item Anything) (hs : FailsBy p stops)
    (goesOn : ∀ us told next, stops us told next → ∃ more a, more ≠ [] ∧ item (us ++ more) a) :
    StopsInClause q (fun ts => ∃ as, GoOn (Clause kind item) last ts as) kind
      (Clause kind item) := by
  constructor
  · intro c c'
    constructor
    · rintro ⟨e, failed⟩
      obtain ⟨_, told, ⟨ts, as, _, rfl, going, ⟨ho, hk, stopped⟩⟩, passed, -⟩ := fails.1 failed
      have broken := hs.breaksOff h stopped (goesOn _ _ _ stopped)
      exact ⟨ts, _, ⟨as, going⟩, passed, opening?_eq_some_iff.2 ⟨_, _, _, rfl, ho, hk⟩,
        (breaksOff_clause_iff ho hk).2 broken⟩
    · rintro ⟨ts, us, ⟨as, going⟩, passed, opened, broken⟩
      obtain ⟨o, k, ws, rfl, ho, hk⟩ := opening?_eq_some_iff.1 opened
      rw [breaksOff_clause_iff ho hk] at broken
      -- The clause that is in progress is read from the cursor after its opening.
      obtain ⟨c₁, -, right⟩ := passes_append_iff.1 passed
      obtain ⟨c₂, -, inside⟩ :=
        passes_append_iff.1 (show c₁.Passes ([o, k] ++ ws) c' from right)
      have stands {d d' : TokenCursor} {e : Error} (failed : FailsWith p d e d') :
          ∃ us, d.Passes us d' ∧ BreaksOff item us d'.current? := by
        obtain ⟨us, told, stopped, passed, -⟩ := hs.1 failed
        exact ⟨us, passed, hs.breaksOff h stopped (goesOn _ _ _ stopped)⟩
      obtain ⟨e, failed⟩ := (h.fails_iff stands).2 ⟨ws, inside, broken⟩
      obtain ⟨ws', told, stopped, passed', -⟩ := hs.1 failed
      obtain rfl := inside.unique passed'
      exact ⟨_, fails.2 ⟨_, told, ⟨ts, as, _, rfl, going, .intro ho hk stopped⟩, passed, rfl⟩⟩
  · intro c c' e failed
    obtain ⟨us, told, stopped, passed, rfl⟩ := fails.1 failed
    obtain ⟨vs, t, rfl⟩ := stopped.exists_last
    refine ⟨told, ?_⟩
    rw [passed.unexpected]
    cases next : c'.current? with
    | some u => exact Or.inl ⟨u, rfl, rfl⟩
    | none => exact Or.inr ⟨rfl, t, passed.getLast?_tokens next, rfl⟩

theorem StopsInClause.congr {q : Parse β} {before before' : List Token → Prop}
    (h : StopsInClause q before kind item) (same : ∀ ts, before ts ↔ before' ts) :
    StopsInClause q before' kind item := by
  refine ⟨?_, h.names⟩
  intro c c'
  simp only [← same]
  exact h.fails_iff

/-! ### What a list sees -/

theorem opening?_take_two (ts : List Token) : opening? (ts.take 2) = opening? ts := by
  rcases ts with _ | ⟨o, _ | ⟨k, us⟩⟩ <;> rfl

theorem seesTwo_clauses (h : Reads p item Anything) (hs : FailsBy p stops) :
    SeesTwo (clauses [.leftParen, kind] p last) := by
  intro c c' d d' ts passed passed' same
  constructor
  · intro as answered
    obtain ⟨us, listed, passed₁, stopped⟩ := (answers_clauses_iff h).1 answered
    obtain rfl := passed.unique passed₁
    rw [← opening?_take_two, same, opening?_take_two] at stopped
    exact (answers_clauses_iff h).2 ⟨ts, listed, passed', stopped⟩
  · intro e failed
    have next : c'.current? = d'.current? := by
      unfold current?
      simpa [List.head?_take] using congrArg List.head? same
    obtain ⟨us, told, stopped, passed₁, rfl⟩ := (hs.clauses h).1 failed
    obtain rfl := passed.unique passed₁
    refine (hs.clauses h).2 ⟨ts, told, next ▸ stopped, passed', ?_⟩
    obtain ⟨us, t, rfl⟩ := stopped.exists_last
    rw [passed.unexpected, passed'.unexpected, next]

theorem SeesTwo.map {f : α → β} (h : SeesTwo p) : SeesTwo (do let a ← p; return f a) := by
  intro c c' d d' ts passed passed' same
  constructor
  · intro b answered
    obtain ⟨a, c₁, first, second⟩ := answers_bind.1 answered
    obtain ⟨rfl, rfl⟩ := answers_pure.1 second
    exact answers_bind.2 ⟨a, d', (h passed passed' same).1 a first, answers_pure.2 ⟨rfl, rfl⟩⟩
  · intro e failed
    rcases failsWith_bind.1 failed with failed | ⟨a, c₁, -, failed⟩
    · exact ((h passed passed' same).2 e failed).bind_left
    · exact absurd failed not_failsWith_pure

/-! ### Parameters, results and locals -/

/-- Every clause goes on with a list that none ends. -/
theorem stopsInClause_clauses_false (h : Reads p item Anything) (hs : FailsBy p stops)
    (goesOn : ∀ us told next, stops us told next → ∃ more a, more ≠ [] ∧ item (us ++ more) a) :
    StopsInClause (clauses [.leftParen, kind] p fun _ => false)
      (fun ts => ∃ as, Many (Clause kind item) ts as) kind (Clause kind item) :=
  ((hs.clauses h).stopsInClause h hs goesOn).congr fun ts => by simp only [GoOn, and_true]

/-- Clauses of locals go on as long as they have no name. -/
theorem goOn_locals_iff {ts : List Token} :
    (∃ ds, GoOn IsLocal (fun clause => clause.name?.isSome) ts ds) ↔
      ∃ types, Many (fun us types => IsLocal us (.unnamed types)) ts types := by
  constructor
  · rintro ⟨ds, going⟩
    induction going with
    | nil => exact ⟨[], .nil⟩
    | @cons us vs d ds said _ ih =>
      obtain ⟨types, many⟩ := ih
      cases d with
      | named x type => cases said.2
      | unnamed first => exact ⟨first :: types, .cons said.1 many⟩
  · rintro ⟨types, many⟩
    induction many with
    | nil => exact ⟨[], .nil⟩
    | cons said _ ih =>
      obtain ⟨ds, going⟩ := ih
      exact ⟨_, .cons ⟨said, rfl⟩ going⟩

/-- A list that no clause ends is taken as far as it goes. -/
theorem answers_clauses_false_iff (h : Reads p item Anything) {c c' : TokenCursor} {as : List α} :
    Answers (clauses [.leftParen, kind] p fun _ => false) c as c' ↔
      ∃ ts, Many (Clause kind item) ts as ∧ c.Passes ts c' ∧ opening? c'.ahead ≠ some kind := by
  refine (answers_clauses_iff h).trans (exists_congr fun ts => ?_)
  rw [listed_iff_many]
  simp

/-- The locals are those of all the clauses, if none has a name and no other comes; or the one with a
name, right after it. -/
theorem answers_locals_cases {c c' : TokenCursor} {ls : List Local} :
    Answers locals c ls c' ↔
      (∃ ts types, Many (fun us types => IsLocal us (.unnamed types)) ts types ∧
        ls = types.flatten.map (fun type => ⟨none, type⟩) ∧ c.Passes ts c' ∧
        opening? c'.ahead ≠ some (.keyword .local_)) ∨
      ∃ ts us types x type, Many (fun us types => IsLocal us (.unnamed types)) ts types ∧
        IsLocal us (.named x type) ∧ ls = [⟨some x, type⟩] ∧ c.Passes (ts ++ us) c' := by
  rw [answers_locals_iff]
  constructor
  · rintro ⟨ts, ds, listed, rfl, passed, stopped⟩
    rcases listed.cases with ⟨types, rfl, many⟩ | ⟨us, vs, types, x, type, rfl, rfl, many, said⟩
    · have unnamed : (types.map Declaration.unnamed).getLast?.any
          (fun clause => clause.name?.isSome) = false := by
        rw [List.getLast?_map]
        cases types.getLast? <;> rfl
      exact Or.inl ⟨ts, types, many, ofDeclarations_unnamed types, passed,
        stopped.resolve_left (by rw [unnamed]; exact Bool.false_ne_true)⟩
    · exact Or.inr ⟨us, vs, types, x, type, many, said, ofDeclarations_named _ x type, passed⟩
  · rintro (⟨ts, types, many, rfl, passed, shut⟩ | ⟨ts, us, types, x, type, many, said, rfl, passed⟩)
    · have listed := IsLocalClauses.of_many many .nil
      rw [List.append_nil, List.append_nil] at listed
      exact ⟨ts, _, listed, ofDeclarations_unnamed types, passed, Or.inr shut⟩
    · exact ⟨_, _, IsLocalClauses.of_many many (.last said rfl), ofDeclarations_named _ x type,
        passed, Or.inl (by simp [Declaration.name?])⟩

theorem stopsInClause_locals :
    StopsInClause locals
      (fun ts => ∃ types, Many (fun us types => IsLocal us (.unnamed types)) ts types)
      (.keyword .local_) IsLocal := by
  have fails : FailsBy locals (ClauseStops (.keyword .local_) (Closed IsDeclaration)
      (fun clause => clause.name?.isSome) DeclarationStops) :=
    (failsBy_declaration.clauses Reads.declaration).map
  exact (fails.stopsInClause Reads.declaration failsBy_declaration
    fun _ _ _ => DeclarationStops.goesOn).congr fun ts => goOn_locals_iff

/-- What the lists of clauses for parameters, results and locals take, and where they fail. Each is a
loop that goes on exactly while the next two tokens open another clause; the locals collect the types
of clauses without names, and a clause with a name ends them and is all of them. What is answered is
what the tokens say that were passed, and no other clause comes then, unless a local with a name was
the last one. A list fails exactly where a clause that is in progress breaks off, and names what
stands there. It sees no more than two tokens after those that it takes. -/
theorem clause_lists_exact :
    (params = (do
        if ← matchKinds [.leftParen, .keyword .param] then
          let first ← declaration
          let others ← params
          return first :: others
        else return []) ∧
      results = (do
        if ← matchKinds [.leftParen, .keyword .result] then
          let first ← result
          let others ← results
          return first :: others
        else return []) ∧
      locals = localsAfter [] ∧
      ∀ found, localsAfter found = (do
        if ← matchKinds [.leftParen, .keyword .local_] then
          match ← declaration with
          | .named name type => return [⟨some name, type⟩]
          | .unnamed types => localsAfter (found ++ types.map fun type => ⟨none, type⟩)
        else return found)) ∧
    (∀ c c' ds, Answers params c ds c' ↔ ∃ ts, Many IsParam ts ds ∧ c.Passes ts c' ∧
      opening? c'.ahead ≠ some (.keyword .param)) ∧
    (∀ c c' types, Answers results c types c' ↔ ∃ ts, Many IsResult ts types ∧ c.Passes ts c' ∧
      opening? c'.ahead ≠ some (.keyword .result)) ∧
    (∀ c c' ls, Answers locals c ls c' ↔
      (∃ ts types, Many (fun us types => IsLocal us (.unnamed types)) ts types ∧
        ls = types.flatten.map (fun type => ⟨none, type⟩) ∧ c.Passes ts c' ∧
        opening? c'.ahead ≠ some (.keyword .local_)) ∨
      ∃ ts us types x type, Many (fun us types => IsLocal us (.unnamed types)) ts types ∧
        IsLocal us (.named x type) ∧ ls = [⟨some x, type⟩] ∧ c.Passes (ts ++ us) c') ∧
    (StopsInClause params (fun ts => ∃ ds, Many IsParam ts ds) (.keyword .param) IsParam ∧
      StopsInClause results (fun ts => ∃ types, Many IsResult ts types) (.keyword .result) IsResult ∧
      StopsInClause locals
        (fun ts => ∃ types, Many (fun us types => IsLocal us (.unnamed types)) ts types)
        (.keyword .local_) IsLocal) ∧
    SeesTwo params ∧ SeesTwo results ∧ SeesTwo locals := by
  exact ⟨⟨clauses_false_eq Reads.declaration, clauses_false_eq Reads.result, locals_eq_localsAfter,
      localsAfter_eq⟩,
    fun c c' ds => answers_clauses_false_iff Reads.declaration,
    fun c c' types => answers_clauses_false_iff Reads.result,
    fun c c' ls => answers_locals_cases,
    ⟨stopsInClause_clauses_false Reads.declaration failsBy_declaration
        fun _ _ _ => DeclarationStops.goesOn,
      stopsInClause_clauses_false Reads.result failsBy_result fun _ _ _ => ResultStops.goesOn,
      stopsInClause_locals⟩,
    seesTwo_clauses Reads.declaration failsBy_declaration, seesTwo_clauses Reads.result failsBy_result,
    (seesTwo_clauses Reads.declaration failsBy_declaration).map⟩

end Parse

end WasmText
