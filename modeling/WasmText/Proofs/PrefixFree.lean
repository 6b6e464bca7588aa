import WasmText.Proofs.FirstWrong
import WasmText.Proofs.Openings

/-!
# No module begins with another

A module ends with the parenthesis that closes it: with more tokens it is none, and with fewer it is
none. With more, the first of them is in excess. With fewer, the row ends too early. There is only one
way in which this looks otherwise: if the row ends with an opening parenthesis that could have been
left out. Then it is this parenthesis that is wrong, either since it begins no field or since the
field could have been closed there.

## What is proved

* `WantsClosing.bind`, `WantsClosing.ifOpens`: readers that come to an opening parenthesis at the
  end where they could have come to a closing one.
* `wantsClosing_fieldRule`: after a field that lacks only closing parentheses.
* `ofTokens_append`, `ofTokens_take_cases`: a module with more tokens, and with fewer.
* `module_prefix_free`: the errors of both.
-/

namespace WasmText

namespace Parse

open TokenCursor Grammar

variable {α β : Type}

/-! ### An opening parenthesis at the end -/

/-- After tokens that say something, and before an opening parenthesis that is the last token, a
reader wants a closing one. -/
def WantsClosing (p : Parse α) (said : List Token → Prop) : Prop :=
  ∀ ⦃c c₁ ts o⦄, said ts → c.Passes ts c₁ → c₁.ahead = [o] → o.kind = .leftParen →
    FailsWith p c (c₁.unexpected [.rightParen]) c₁

variable {p q : Parse α} {said said' : List Token → Prop}

theorem WantsClosing.mono (h : WantsClosing p said) (more : ∀ ts, said' ts → said ts) :
    WantsClosing p said' :=
  fun _ _ _ _ said' => h (more _ said')

/-- The closing parenthesis is wanted by the first of two readers. -/
theorem WantsClosing.left {f : α → Parse β} (h : WantsClosing p said) :
    WantsClosing (p >>= f) said :=
  fun _ _ _ _ said passed last opens => (h said passed last opens).bind_left

/-- The closing parenthesis is wanted next. -/
theorem WantsClosing.here {p : Parse β} :
    WantsClosing (do let _ ← expect .rightParen; p) (fun ts => ts = []) := by
  rintro c c₁ _ o rfl passed last opens
  obtain rfl := passes_nil_iff.1 passed
  have not_closes : ∀ t ∈ c₁.ahead.head?, t.kind ∉ [Kind.rightParen] := by simp [last, opens]
  exact (failsWith_expectOneOf.2 ⟨not_closes, rfl, rfl⟩).bind_left

/-- The closing parenthesis is wanted by the second of two readers. -/
theorem WantsClosing.bind {f : α → Parse β} {first : List Token → α → Prop}
    {second : α → List Token → Prop} {follow : List Token → Prop} (hp : Reads p first follow)
    (hf : ∀ a, WantsClosing (f a) (second a))
    (joins : ∀ a ts o, second a ts → o.kind = .leftParen → follow (ts ++ [o])) :
    WantsClosing (p >>= f) (fun ts => ∃ a us vs, ts = us ++ vs ∧ first us a ∧ second a vs) := by
  rintro c c₁ _ o ⟨a, us, vs, rfl, said, said'⟩ passed last opens
  obtain ⟨c', passed, passed'⟩ := passes_append_iff.1 passed
  have between : follow c'.ahead := by
    rw [passed'.ahead, last]
    exact joins a vs o said' opens
  exact .bind_right (hp.complete said passed between) (hf a said' passed' last opens)

theorem WantsClosing.ifOpens {kind : Kind} {inside outside : List Token → Prop}
    (hp : WantsClosing p inside) (hq : WantsClosing q outside)
    (apart : ∀ ts o, outside ts → o.kind = .leftParen → opening? (ts ++ [o]) ≠ some kind) :
    WantsClosing (do if ← matchKinds [.leftParen, kind] then p else q)
      (fun ts => (∃ o k us, ts = o :: k :: us ∧ o.kind = .leftParen ∧ k.kind = kind ∧ inside us) ∨
        outside ts) := by
  rintro c c₁ _ o (⟨o', k, us, rfl, ho, hk, said⟩ | said) passed last opens
  · obtain ⟨c', opened, passed⟩ :=
      passes_append_iff.1 (show c.Passes ([o', k] ++ us) c₁ from passed)
    have matched := answers_matchOpening_true.2 ⟨o', k, ho, hk, opened⟩
    exact .bind_right matched (hp said passed last opens)
  · have shut : opening? c.ahead ≠ some kind := by
      rw [passed.ahead, last]
      exact apart _ o said opens
    have matched := answers_matchOpening_false.2 ⟨rfl, shut⟩
    exact .bind_right matched (hq said passed last opens)

/-! ### Fields that lack closing parentheses -/

theorem wantsClosing_typeDef : WantsClosing typeDef (IsUnclosed .typeDef) := by
  refine (WantsClosing.bind Reads.optionalName (fun _ => .bind (Reads.expect _) (fun _ =>
    .bind (Reads.expect _) (fun _ => .bind Reads.signature (fun _ => .here) ?_) ?_) ?_) ?_).mono ?_
  · rintro s _ o rfl opens
    exact begins_of_leftParen _ opens
  · intro _ _ _ _ _
    trivial
  · intro _ _ _ _ _
    trivial
  · rintro name _ o ⟨o', _, _, rfl, ⟨rfl, ho⟩, -⟩ - t ⟨⟩
    simp [ho]
  · rintro _ ⟨named, ⟨ho, hk, said⟩⟩
    exact ⟨_, _, _, rfl, named, _, [_], _, rfl, ⟨rfl, ho⟩, _, [_], _, rfl, ⟨rfl, hk⟩, _, _, [],
      by simp, said, rfl⟩

/-- An imported function without its last parenthesis, after its name and the opening of its
import. -/
def IsUnclosedImported (ts : List Token) : Prop :=
  ∃ source s us vs, ts = us ++ vs ∧ Closed IsImport us source ∧ IsSignature vs s

theorem wantsClosing_imported (name : Option String) :
    WantsClosing (imported name) IsUnclosedImported := by
  refine (WantsClosing.bind Reads.string (fun _ => .bind Reads.string (fun _ =>
    .bind (Reads.expect _) (fun _ => .bind Reads.signature (fun _ => .here) ?_) ?_) ?_) ?_).mono ?_
  · rintro s _ o rfl opens
    exact begins_of_leftParen _ opens
  · intro _ _ _ _ _
    trivial
  · intro _ _ _ _ _
    trivial
  · intro _ _ _ _ _
    trivial
  · intro ts h
    obtain ⟨_, s, _, vs, rfl, @⟨_, t, _, @⟨ms, xs, m, x, first, second⟩, closes⟩, said⟩ := h
    exact ⟨m, ms, xs ++ ([t] ++ vs), by simp, first, x, xs, [t] ++ vs, rfl, second, t, [t], vs, rfl,
      ⟨rfl, closes⟩, s, vs, [], by simp, said, rfl⟩

/-- A function with a body without its last parenthesis, after its name and its export. -/
def IsUnclosedDefined (ts : List Token) : Prop :=
  ∃ s locals us vs, ts = us ++ vs ∧ IsSignature us s ∧ IsLocals vs locals

theorem IsUnclosedDefined.begins {ts : List Token} {o : Token} (h : IsUnclosedDefined ts)
    (opens : o.kind = .leftParen) : Begins [.type, .param, .result, .local_] (ts ++ [o]) := by
  obtain ⟨s, locals, us, vs, rfl, said, declared⟩ := h
  rw [List.append_assoc]
  exact said.begins (declared.begins (begins_of_leftParen _ opens))

theorem wantsClosing_defined (name exportName : Option String) :
    WantsClosing (defined name exportName) IsUnclosedDefined := by
  refine (WantsClosing.bind Reads.signature (fun _ => .bind Reads.locals (fun _ =>
    .bind Reads.instructions (fun _ => .here) ?_) ?_) ?_).mono ?_
  · intro _ _ _ _ _
    trivial
  · rintro locals _ o ⟨_, _, _, rfl, ⟨rfl, -⟩, rfl⟩ opens
    exact (begins_of_leftParen [] opens).opening?_ne (by simp)
  · rintro s _ o ⟨locals, us, _, rfl, declared, _, _, _, rfl, ⟨rfl, -⟩, rfl⟩ opens
    rw [List.append_assoc]
    exact declared.begins (begins_of_leftParen _ opens)
  · intro ts h
    obtain ⟨s, locals, us, vs, rfl, said, declared⟩ := h
    exact ⟨s, us, vs, rfl, said, locals, vs, [], by simp, declared, [], [], [], rfl, ⟨rfl, rfl⟩,
      rfl⟩

theorem wantsClosing_func : WantsClosing func (fun ts => ∃ f, IsFunc ts f) := by
  have begins {ts : List Token} {o : Token} (opens : o.kind = .leftParen)
      (h : ∃ x us vs, ts = us ++ vs ∧ IsOptionalExport us x ∧ IsUnclosedDefined vs) :
      Begins [.export_, .type, .param, .result, .local_] (ts ++ [o]) := by
    obtain ⟨x, us, vs, rfl, exported, said⟩ := h
    rw [List.append_assoc]
    exact exported.begins (said.begins opens)
  refine (WantsClosing.bind Reads.optionalName (fun name => .ifOpens (wantsClosing_imported name)
    (.bind Reads.optionalExport (fun x => wantsClosing_defined name x) ?_) ?_) ?_).mono ?_
  · intro x ts o said opens
    exact said.begins opens
  · intro ts o said opens
    exact (begins opens said).opening?_ne (by simp)
  · rintro name ts o (⟨o', k, us, rfl, ho, -⟩ | said) opens
    · rintro t ⟨⟩
      simp [ho]
    · exact (begins opens said).not_name
  · rintro ts ⟨f, said⟩
    cases said with
    | imported named clause said =>
      obtain ⟨ho, hk, source⟩ := clause
      exact ⟨_, _, _, rfl, named, Or.inl ⟨_, _, _, rfl, ho, hk, _, _, _, _, rfl, source, said⟩⟩
    | defined named exported said declared =>
      exact ⟨_, _, _, rfl, named, Or.inr ⟨_, _, _, rfl, exported, _, _, _, _, rfl, said, declared⟩⟩

/-- After a field that lacks only closing parentheses, one of these is wanted. -/
theorem wantsClosing_fieldRule (rule : FieldRule) : WantsClosing rule.parse (IsUnclosed rule) := by
  cases rule with
  | typeDef => exact wantsClosing_typeDef.left
  | func =>
    refine wantsClosing_func.left.mono ?_
    intro ts h
    cases h with
    | func said => exact ⟨_, said⟩

end Parse

open TokenCursor Grammar Parse

/-! ### Modules that are cut short -/

/-- The rest of a module fails where its fields do. -/
theorem ofTokens_of_noField {before field after rest : List Token} {file : String} {e : Error}
    {c : TokenCursor} (h : FieldBetween before field after)
    (not_name : ∀ t ∈ rest.head?, t.kind ≠ .name)
    (none_there : NoField .standard ⟨before.reverse, rest, file⟩ e c) :
    Module.ofTokens (before ++ rest) file = .error e := by
  have passed := passes_ofTokens before rest file
  obtain ⟨ho, hk, named, many, -, -, -⟩ := h
  have among := AmongFields.intro ho hk named (many_isFieldBy_standard_iff.2 many) passed fun _ => by
    cases many with
    | nil => exact not_name
    | cons said _ =>
      obtain ⟨o', _, rfl, opens⟩ := said.opens
      rintro t ⟨⟩
      simp [opens]
  exact ofTokens_eq_error_iff.2 ⟨c, (among.fails none_there).bind_left⟩

/-- The token with a number opens a field of the module that a row of tokens is. -/
def OpensField (tokens : List Token) (j : Nat) : Prop :=
  ∃ before field after, FieldBetween before field after ∧ tokens = before ++ (field ++ after) ∧
    j = before.length

/-- The token with a number opens a clause, in a field of the module that a row of tokens is. -/
def OpensClause (tokens : List Token) (j : Nat) : Prop :=
  ∃ before us clause vs after, FieldBetween before (us ++ (clause ++ vs)) after ∧ us ≠ [] ∧
    IsFieldClause clause ∧ tokens = before ++ (us ++ (clause ++ vs) ++ after) ∧
    j = (before ++ us).length

/-- The parenthesis that opens a field is in its place only if the field goes on. -/
theorem ofTokens_field_opening {before field after : List Token} {o : Token}
    (h : FieldBetween before field after) (opens : o.kind = .leftParen) (file : String) :
    Module.ofTokens (before ++ [o]) file = .error ⟨.unknownField o.display, o.span.start⟩ := by
  refine ofTokens_of_noField h (by simp [opens]) (.unknown rfl (by simp [opens]) ?_)
  rintro kind ⟨⟩

/-- In a field that could be closed, an opening parenthesis that nothing follows is wrong. -/
theorem ofTokens_clause_opening {before field after us : List Token} {o o' k : Token}
    {rule : FieldRule} (h : FieldBetween before field after) (ho' : o'.kind = .leftParen)
    (found : FieldTable.standard.find? k.kind = some rule) (said : IsUnclosed rule us)
    (opens : o.kind = .leftParen) (file : String) :
    Module.ofTokens (before ++ (o' :: k :: us ++ [o])) file =
      .error ⟨.unexpectedToken [.rightParen] o.display, o.span.start⟩ := by
  have passed := passes_ofTokens (before ++ (o' :: k :: us)) [o] file
  rw [List.append_assoc] at passed
  have in_field : TokenCursor.Passes ⟨before.reverse, o' :: k :: us ++ [o], file⟩ ([o', k] ++ us)
      ⟨(before ++ (o' :: k :: us)).reverse, [o], file⟩ := ⟨rfl, by simp, rfl⟩
  obtain ⟨c₁, opened, rest⟩ := passes_append_iff.1 in_field
  have failed := wantsClosing_fieldRule rule said rest rfl opens
  exact ofTokens_of_noField h (by simp [ho']) (.inside ho' found opened failed)

/-- In a type definition, the parenthesis that opens the signature is not wrong by itself. -/
theorem ofTokens_signature_opening {before field after ns : List Token} {o o' k : Token}
    {name : Option String} (h : FieldBetween before field after) (ho' : o'.kind = .leftParen)
    (hk : k.kind = .keyword .type) (named : IsOptionalName ns name) (opens : o.kind = .leftParen)
    (file : String) :
    ∃ e, Module.ofTokens (before ++ (o' :: k :: ns ++ [o])) file = .error e ∧
      ∃ expected, e.cause = .unexpectedEnd expected := by
  have in_field : TokenCursor.Passes ⟨before.reverse, o' :: k :: ns ++ [o], file⟩
      ([o', k] ++ (ns ++ [o])) ⟨(before ++ (o' :: k :: ns ++ [o])).reverse, [], file⟩ := ⟨by simp, by simp, rfl⟩
  obtain ⟨c₁, opened, passed⟩ := passes_append_iff.1 in_field
  obtain ⟨c₂, first, second⟩ := passes_append_iff.1 passed
  have no_name : ∀ t ∈ c₂.ahead.head?, t.kind ≠ .name := by
    rw [second.ahead]
    simp [opens]
  have answered := Reads.optionalName.complete named first no_name
  have parenthesis : Answers (expect .leftParen) c₂ o _ :=
    answers_expectOneOf.2 ⟨by simp [opens], second⟩
  have failed : FailsWith typeDef c₁ _ _ :=
    .bind_right answered (.bind_right parenthesis (failsWith_expect_nil rfl).bind_left)
  have found : FieldTable.standard.find? k.kind = some .typeDef :=
    find?_standard.2 (Or.inl ⟨hk, rfl⟩)
  have none_there : NoField .standard ⟨before.reverse, o' :: k :: ns ++ [o], file⟩ _ _ :=
    .inside ho' found opened failed.bind_left
  exact ⟨_, ofTokens_of_noField h (by simp [ho']) none_there, _, rfl⟩

/-- With more tokens after it, a module is none: the first of them is in excess. -/
theorem ofTokens_append {tokens : List Token} {m : Module} (h : IsModule tokens m) (t : Token)
    (more : List Token) (file : String) :
    Module.ofTokens (tokens ++ t :: more) file =
      .error ⟨.trailingToken t.display, t.span.start⟩ := by
  have said : Clause (.keyword .module_) (Closed (IsBodyBy .standard)) tokens m := by
    obtain ⟨ho, hk, ⟨said, closes⟩⟩ := h
    exact .intro ho hk (.intro (isBodyBy_standard_iff.2 said) closes)
  have answered : Answers (module .standard) _ m ⟨tokens.reverse, t :: more, file⟩ :=
    (Reads.module hasRule_standard).complete said (passes_ofTokens tokens (t :: more) file) trivial
  have failed : FailsWith endOfTokens ⟨tokens.reverse, t :: more, file⟩
      ⟨.trailingToken t.display, t.span.start⟩ _ := failsWith_endOfTokens_iff.2 ⟨t, rfl, rfl, rfl⟩
  exact ofTokens_eq_error_iff.2 ⟨_, .bind_right answered failed.bind_left⟩

/-- With fewer tokens, a module is none: the row ends too early, or ends with an opening
parenthesis. -/
theorem ofTokens_take_cases {tokens more : List Token} {t : Token} {m : Module}
    (h : IsModule (tokens ++ t :: more) m) (file : String) :
    ∃ e, Module.ofTokens tokens file = .error e ∧
      ((∃ expected, e.cause = .unexpectedEnd expected) ∨
        ∃ us o, tokens = us ++ [o] ∧ o.kind = .leftParen) := by
  have accepted : Module.ofTokens (tokens ++ t :: more) file = .ok m :=
    ofTokens_eq_ok_iff_answers.2 (answers_module_iff.2 h)
  cases read : Module.ofTokens tokens file with
  | ok m' =>
    have derived := answers_module_iff.1 (ofTokens_eq_ok_iff_answers.1 read)
    cases accepted.symm.trans (ofTokens_append derived t more file)
  | error e =>
    refine ⟨e, rfl, ?_⟩
    obtain ⟨passed, c, fails⟩ := exists_failsAt read
    have row : tokens = passed ++ c.ahead := fails.passes.ahead
    -- What the reader sees there is no other in the whole module, unless the row ends too early.
    have not_alike (same : Alike c.ahead (c.ahead ++ t :: more)) : False := by
      have passed' := passes_ofTokens passed (c.ahead ++ t :: more) file
      rw [← List.append_assoc, ← row] at passed'
      obtain ⟨e', c', failed⟩ := fails.again passed' same
      exact not_accepted_of_failsWith failed accepted
    rcases ahead : c.ahead with _ | ⟨o, _ | ⟨k, rest⟩⟩
    · exact Or.inl (fails.atEnd.2 ahead)
    · by_cases opens : o.kind = .leftParen
      · exact Or.inr ⟨passed, o, by rw [row, ahead], opens⟩
      · rw [ahead] at not_alike
        exact absurd (.token opens) not_alike
    · rw [ahead] at not_alike
      exact absurd .pair not_alike

theorem ofTokens_end_position {tokens : List Token} {file : String} {e : Error}
    (failed : Module.ofTokens tokens file = .error e)
    (at_end : ∃ expected, e.cause = .unexpectedEnd expected) :
    ∃ expected, e = ⟨.unexpectedEnd expected, placeAfter tokens file tokens.length⟩ := by
  obtain ⟨passed, c, fails⟩ := exists_failsAt failed
  have nothing := fails.atEnd.1 at_end
  obtain rfl : passed = tokens := by
    have row : tokens = passed ++ c.ahead := fails.passes.ahead
    rw [row, nothing, List.append_nil]
  have passed' := passes_ofTokens passed [] file
  have place := position_eq_placeAfter passed [] file
  rw [List.append_nil] at passed' place
  rw [← fails.passes.eq_skip.trans passed'.eq_skip.symm, ← fails.position] at place
  obtain ⟨expected, cause⟩ := at_end
  exact ⟨expected, by rw [← cause, ← place]⟩

/-! ### What the last parenthesis opens -/

theorem take_length_add_one (us vs : List Token) (o : Token) :
    (us ++ o :: vs).take (us.length + 1) = us ++ [o] := by
  rw [List.take_length_add_append]
  rfl

theorem ofTokens_take_field {tokens : List Token} {j : Nat} {o : Token} (h : OpensField tokens j)
    (next : tokens[j]? = some o) (file : String) :
    Module.ofTokens (tokens.take (j + 1)) file =
      .error ⟨.unknownField o.display, o.span.start⟩ := by
  obtain ⟨before, field, after, between, rfl, rfl⟩ := h
  obtain ⟨f, said⟩ := between.field
  obtain ⟨o', us, rfl, opens⟩ := said.opens
  obtain rfl : o' = o := by simpa using next
  rw [List.cons_append, take_length_add_one]
  exact ofTokens_field_opening between opens file

theorem ofTokens_take_clause {tokens : List Token} {j : Nat} {o : Token} (h : OpensClause tokens j)
    (next : tokens[j]? = some o) (file : String) :
    Module.ofTokens (tokens.take (j + 1)) file =
      .error ⟨.unexpectedToken [.rightParen] o.display, o.span.start⟩ := by
  obtain ⟨before, us, clause, vs, after, between, nonempty, is_clause, rfl, rfl⟩ := h
  obtain ⟨f, said⟩ := between.field
  obtain ⟨o', k, ws, rfl, opens, not_func⟩ := is_clause.opensOnce.opens
  obtain rfl : o' = o := by simpa using next
  have row : before ++ (us ++ (o' :: k :: ws ++ vs) ++ after) =
      before ++ us ++ o' :: (k :: ws ++ vs ++ after) := by simp
  rw [row, take_length_add_one, List.append_assoc]
  cases said.openings.opening us o' (k :: ws ++ vs) rfl opens [] with
  | field => contradiction
  | signature _ _ _ is_func => exact absurd is_func not_func
  | clause ho' found unclosed _ =>
    exact ofTokens_clause_opening between ho' found unclosed opens file

/-- An opening parenthesis of a module that opens neither a field nor a clause opens the module, or
the signature of a type definition. -/
theorem ofTokens_take_other {us vs : List Token} {o : Token} {m : Module}
    (h : IsModule (us ++ o :: vs) m) (opens : o.kind = .leftParen)
    (no_field : ¬ OpensField (us ++ o :: vs) us.length)
    (no_clause : ¬ OpensClause (us ++ o :: vs) us.length) (file : String) :
    ∃ e, Module.ofTokens (us ++ [o]) file = .error e ∧
      ∃ expected, e.cause = .unexpectedEnd expected := by
  rcases h.opening rfl opens with rfl | ⟨before, xs, ys, after, between, rfl, rfl⟩
  · have passed := passes_ofTokens [o] [] file
    have parenthesis : Answers (expect .leftParen) _ o _ :=
      answers_expectOneOf.2 ⟨by simp [opens], passed⟩
    have module_fails : FailsWith (module .standard) _ _ _ :=
      .bind_right parenthesis (failsWith_expect_nil rfl).bind_left
    exact ⟨_, ofTokens_eq_error_iff.2 ⟨_, module_fails.bind_left⟩, _, rfl⟩
  · obtain ⟨f, said⟩ := between.field
    rw [List.append_assoc]
    have opened := said.openings.opening xs o ys rfl opens []
    rw [List.append_nil] at opened
    generalize row : o :: ys = rest at opened
    cases opened with
    | field => exact absurd ⟨before, _, after, between, by simp, by simp⟩ no_field
    | signature ho' hk named _ =>
      obtain ⟨rfl, -⟩ := List.cons.inj row
      exact ofTokens_signature_opening between ho' hk named opens file
    | clause _ _ _ begins =>
      obtain ⟨clause, rest, is_clause, rfl⟩ := begins
      rw [row] at between
      refine no_clause ⟨before, _, clause, rest, after, between, List.cons_ne_nil _ _, is_clause, ?_,
        rfl⟩ |>.elim
      simp [← row]

/-- No module begins with another. With more tokens after it, a module fails at the first of them.
With fewer tokens it fails too: at the end of the row, unless its last token opens a field or a
clause, and then at this token. -/
theorem module_prefix_free {tokens : List Token} {file : String} {m : Module}
    (accepted : Module.ofTokens tokens file = .ok m) :
    (∀ t more, Module.ofTokens (tokens ++ t :: more) file =
      .error ⟨.trailingToken t.display, t.span.start⟩) ∧
    (∀ i < tokens.length, ∃ e, Module.ofTokens (tokens.take i) file = .error e) ∧
    (∀ j o, tokens[j]? = some o → OpensField tokens j →
      Module.ofTokens (tokens.take (j + 1)) file = .error ⟨.unknownField o.display, o.span.start⟩) ∧
    (∀ j o, tokens[j]? = some o → OpensClause tokens j →
      Module.ofTokens (tokens.take (j + 1)) file =
        .error ⟨.unexpectedToken [.rightParen] o.display, o.span.start⟩) ∧
    ∀ i < tokens.length, (∀ j, i = j + 1 → ¬ OpensField tokens j ∧ ¬ OpensClause tokens j) →
      ∃ expected, Module.ofTokens (tokens.take i) file =
        .error ⟨.unexpectedEnd expected, placeAfter (tokens.take i) file i⟩ := by
  have derived := answers_module_iff.1 (ofTokens_eq_ok_iff_answers.1 accepted)
  have cut {i : Nat} (inside : i < tokens.length) :
      tokens = tokens.take i ++ tokens[i] :: tokens.drop (i + 1) := by
    rw [List.getElem_cons_drop, List.take_append_drop]
  refine ⟨fun t more => ofTokens_append derived t more file, ?_, ?_, ?_, ?_⟩
  · intro i inside
    rw [cut inside] at derived
    obtain ⟨e, failed, -⟩ := ofTokens_take_cases derived file
    exact ⟨e, failed⟩
  · intro j o next opened
    exact ofTokens_take_field opened next file
  · intro j o next opened
    exact ofTokens_take_clause opened next file
  · intro i inside opens_neither
    have length : (tokens.take i).length = i := List.length_take_of_le (Nat.le_of_lt inside)
    suffices at_end : ∃ e, Module.ofTokens (tokens.take i) file = .error e ∧
        ∃ expected, e.cause = .unexpectedEnd expected by
      obtain ⟨e, failed, blames_end⟩ := at_end
      obtain ⟨expected, rfl⟩ := ofTokens_end_position failed blames_end
      rw [length] at failed
      exact ⟨expected, failed⟩
    have derived' := derived
    rw [cut inside] at derived'
    obtain ⟨e, failed, at_end | ⟨us, o, last, opens⟩⟩ := ofTokens_take_cases derived' file
    · exact ⟨e, failed, at_end⟩
    · have row : tokens = us ++ o :: (tokens[i] :: tokens.drop (i + 1)) := by
        rw [List.append_cons, ← last]
        exact cut inside
      have number : i = us.length + 1 := by
        rw [← length, last]
        simp
      obtain ⟨no_field, no_clause⟩ := opens_neither us.length number
      rw [row] at derived no_field no_clause
      rw [last]
      exact ofTokens_take_other derived opens no_field no_clause file

/-- The field and the clause of `( module ( func ( param ) ) )`. -/
theorem opens_of_kinds {t₀ t₁ t₂ t₃ t₄ t₅ t₆ t₇ t₈ : Token}
    (kinds : [t₀, t₁, t₂, t₃, t₄, t₅, t₆, t₇, t₈].map Token.kind =
      [.leftParen, .keyword .module_, .leftParen, .keyword .func, .leftParen, .keyword .param,
        .rightParen, .rightParen, .rightParen]) :
    OpensField [t₀, t₁, t₂, t₃, t₄, t₅, t₆, t₇, t₈] 2 ∧
      OpensClause [t₀, t₁, t₂, t₃, t₄, t₅, t₆, t₇, t₈] 4 := by
  simp only [List.map_cons, List.map_nil, List.cons.injEq, and_true] at kinds
  obtain ⟨k₀, k₁, k₂, k₃, k₄, k₅, k₆, k₇, k₈⟩ := kinds
  have clause : IsParam [t₄, t₅, t₆] (.unnamed []) :=
    Clause.intro k₄ k₅ (Closed.intro (IsDeclaration.unnamed .nil) k₆)
  have params : Many IsParam [t₄, t₅, t₆] [.unnamed []] := Many.cons clause .nil
  have func : IsFunc [t₄, t₅, t₆] _ :=
    IsFunc.defined .absent .absent (IsSignature.explicit params .nil) isLocals_nil
  have field : IsField [t₂, t₃, t₄, t₅, t₆, t₇] _ :=
    IsField.func (Clause.intro k₂ k₃ (Closed.intro func k₇))
  have between : FieldBetween [t₀, t₁] ([t₂, t₃] ++ ([t₄, t₅, t₆] ++ [t₇])) [t₈] :=
    FieldBetween.intro k₀ k₁ .absent .nil field .nil k₈
  exact ⟨⟨_, _, _, between, rfl, rfl⟩,
    ⟨_, _, _, _, _, between, List.cons_ne_nil _ _, .param clause, rfl, rfl⟩⟩

/-- A function with a clause for parameters, cut short after the parenthesis of the function, and
after that of the clause. -/
theorem module_prefix_free_param :
    (∃ m, Module.ofTokens (lex "(module (func (param)))" defaultFile).tokens defaultFile = .ok m) ∧
      Module.ofTokens ((lex "(module (func (param)))" defaultFile).tokens.take 3) defaultFile =
        .error ⟨.unknownField "LParen(()", .ofBytes defaultFile 8⟩ ∧
      Module.ofTokens ((lex "(module (func (param)))" defaultFile).tokens.take 5) defaultFile =
        .error ⟨.unexpectedToken [.rightParen] "LParen(()", .ofBytes defaultFile 14⟩ := by
  have row : (lex "(module (func (param)))" defaultFile).tokens =
      [⟨.leftParen, "(", .ofBytes defaultFile 0 1⟩,
        ⟨.keyword .module_, "module", .ofBytes defaultFile 1 7⟩,
        ⟨.leftParen, "(", .ofBytes defaultFile 8 9⟩,
        ⟨.keyword .func, "func", .ofBytes defaultFile 9 13⟩,
        ⟨.leftParen, "(", .ofBytes defaultFile 14 15⟩,
        ⟨.keyword .param, "param", .ofBytes defaultFile 15 20⟩,
        ⟨.rightParen, ")", .ofBytes defaultFile 20 21⟩,
        ⟨.rightParen, ")", .ofBytes defaultFile 21 22⟩,
        ⟨.rightParen, ")", .ofBytes defaultFile 22 23⟩] := by decide +kernel
  have accepted : ∃ m, Module.ofTokens (lex "(module (func (param)))" defaultFile).tokens
      defaultFile = .ok m := ⟨_, by rw [row]; rfl⟩
  obtain ⟨m, read⟩ := accepted
  obtain ⟨-, -, field_cut, clause_cut, -⟩ := module_prefix_free read
  rw [row] at read field_cut clause_cut ⊢
  exact ⟨⟨m, read⟩, field_cut 2 _ rfl (opens_of_kinds (by rfl)).1,
    clause_cut 4 _ rfl (opens_of_kinds (by rfl)).2⟩

end WasmText
