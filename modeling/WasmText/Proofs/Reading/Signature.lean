import WasmText.Proofs.Reading.Clauses

/-!
# Reading signatures

The readers of references, declarations, results, locals and signatures against the grammar. A
signature may stand before anything but a clause that could belong to it, and locals before anything
but another clause of locals; before a closing parenthesis both may always stand.

## What is proved

* `Reads.reference`, `Reads.string`, `Reads.declaration`, `Reads.result`: these end at a token that
  the grammar fixes.
* `failsWith_reference_iff`, `failsWith_string_iff`: how single literals fail.
* `isLocals_iff`: clauses of which only the last one has a name are the locals that they declare.
* `Reads.signature`, `Reads.locals`: these go on as far as clauses come.
-/

namespace WasmText

namespace Grammar

open TokenCursor

/-! ### What tokens can begin with -/

theorem ofKind?_of_rightParen {t : Token} (rest : List Token) (closes : t.kind = .rightParen) :
    ∀ u ∈ (t :: rest).head?, ValueType.ofKind? u.kind = none := by
  rintro u ⟨⟩
  rw [closes]
  rfl

theorem Closed.not_name {ts : List Token} {types : List ValueType}
    (h : Closed (Many IsValueType) ts types) (rest : List Token) :
    ∀ t ∈ (ts ++ rest).head?, t.kind ≠ .name := by
  obtain ⟨said, closes⟩ := h
  rintro t next is_name
  cases said with
  | nil =>
    cases next
    rw [closes] at is_name
    cases is_name
  | cons said _ =>
    obtain ⟨of_kind⟩ := said
    cases next
    rw [of_kind] at is_name
    cases is_name

theorem begins_of_params_results {keywords : List Keyword} {ts us rest : List Token}
    {params : List Declaration} {results : List ValueType} (first : Many IsParam ts params)
    (second : Many IsResult us results) (after : Begins keywords rest) :
    Begins (.param :: .result :: keywords) (ts ++ us ++ rest) := by
  rw [List.append_assoc]
  refine first.begins (fun _ _ _ said => said.begins _ (by simp)) ?_
  exact second.begins (fun _ _ _ said => said.begins _ (by simp)) (after.mono (by simp))

theorem IsSignature.begins {keywords : List Keyword} {ts rest : List Token} {s : Signature}
    (h : IsSignature ts s) (after : Begins keywords rest) :
    Begins (.type :: .param :: .result :: keywords) (ts ++ rest) := by
  cases h with
  | typeRef said => exact said.begins rest (by simp)
  | explicit first second =>
    exact (begins_of_params_results first second after).mono (List.subset_cons_self _ _)

theorem IsLocals.begins {keywords : List Keyword} {ts rest : List Token} {locals : List Local}
    (h : IsLocals ts locals) (after : Begins keywords rest) :
    Begins (.local_ :: keywords) (ts ++ rest) := by
  have after' : Begins (.local_ :: keywords) rest := after.mono (List.subset_cons_self _ _)
  cases h with
  | unnamed many => exact many.begins (fun _ _ _ said => said.begins _ (by simp)) after'
  | named many named =>
    rw [List.append_assoc]
    exact many.begins (fun _ _ _ said => said.begins _ (by simp)) (named.begins rest (by simp))

/-! ### Declarations and locals -/

theorem closed_isDeclaration_iff {ts : List Token} {d : Declaration} :
    Closed IsDeclaration ts d ↔
      (∃ t us, ts = t :: us ∧ t.kind ∈ [Kind.name] ∧
        ∃ type, Closed IsValueType us type ∧ Declaration.named t.declaredName type = d) ∨
      ∃ types, Closed (Many IsValueType) ts types ∧ Declaration.unnamed types = d := by
  constructor
  · intro h
    obtain ⟨said, closes⟩ := h
    cases said with
    | named is_name declares said =>
      rw [← declaredName_eq_iff.2 declares]
      exact Or.inl ⟨_, _, rfl, List.mem_singleton.2 is_name, _, .intro said closes, rfl⟩
    | unnamed said => exact Or.inr ⟨_, .intro said closes, rfl⟩
  · intro h
    rcases h with ⟨t, us, rfl, is_name, type, ⟨said, closes⟩, rfl⟩ | ⟨types, ⟨said, closes⟩, rfl⟩
    · have named :=
        IsDeclaration.named (List.mem_singleton.1 is_name) (declaredName_eq_iff.1 rfl) said
      exact .intro named closes
    · exact .intro (IsDeclaration.unnamed said) closes

/-- Clauses of locals, none of which comes after one with a name. -/
def IsLocalClauses : List Token → List Declaration → Prop :=
  Listed IsLocal fun clause => clause.name?.isSome

theorem IsLocalClauses.of_many {ts us : List Token} {types : List (List ValueType)}
    {ds : List Declaration} (h : Many (fun us ts => IsLocal us (.unnamed ts)) ts types)
    (more : IsLocalClauses us ds) :
    IsLocalClauses (ts ++ us) (types.map Declaration.unnamed ++ ds) := by
  induction h with
  | nil => exact more
  | cons said _ ih =>
    rw [List.append_assoc]
    exact .cons said rfl ih

theorem IsLocalClauses.cases {ts : List Token} {ds : List Declaration} (h : IsLocalClauses ts ds) :
    (∃ types, ds = types.map Declaration.unnamed ∧
      Many (fun us ts => IsLocal us (.unnamed ts)) ts types) ∨
    ∃ us vs types x type, ts = us ++ vs ∧
      ds = types.map Declaration.unnamed ++ [Declaration.named x type] ∧
      Many (fun us ts => IsLocal us (.unnamed ts)) us types ∧ IsLocal vs (.named x type) := by
  -- On the list: a clause ends it exactly if it has a name.
  induction h with
  | nil => exact Or.inl ⟨[], rfl, .nil⟩
  | @last ts d said ended =>
    cases d with
    | named x type => exact Or.inr ⟨[], ts, [], x, type, rfl, rfl, .nil, said⟩
    | unnamed types => cases ended
  | @cons ts us d ds said going _ ih =>
    cases d with
    | named x type => cases going
    | unnamed first =>
      rcases ih with ⟨types, rfl, many⟩ | ⟨vs, ws, types, x, type, rfl, rfl, many, named⟩
      · exact Or.inl ⟨first :: types, rfl, .cons said many⟩
      · refine Or.inr ⟨ts ++ vs, ws, first :: types, x, type, ?_, rfl, .cons said many, named⟩
        rw [List.append_assoc]

theorem ofDeclarations_unnamed (types : List (List ValueType)) :
    Local.ofDeclarations (types.map Declaration.unnamed) =
      types.flatten.map fun type => ⟨none, type⟩ := by
  unfold Local.ofDeclarations
  rw [List.getLast?_map]
  cases types.getLast? <;> simp [List.flatMap_map, Declaration.types, List.flatMap_id']

theorem ofDeclarations_named (ds : List Declaration) (x : String) (type : ValueType) :
    Local.ofDeclarations (ds ++ [.named x type]) = [⟨some x, type⟩] := by
  simp [Local.ofDeclarations]

/-- Locals are what clauses declare of which only the last one may have a name. -/
theorem isLocals_iff {ts : List Token} {locals : List Local} :
    IsLocals ts locals ↔ ∃ ds, IsLocalClauses ts ds ∧ Local.ofDeclarations ds = locals := by
  constructor
  · intro h
    cases h with
    | @unnamed _ types many =>
      have clauses := IsLocalClauses.of_many many .nil
      rw [List.append_nil, List.append_nil] at clauses
      exact ⟨_, clauses, ofDeclarations_unnamed types⟩
    | named many said =>
      exact ⟨_, IsLocalClauses.of_many many (.last said rfl), ofDeclarations_named _ _ _⟩
  · intro h
    obtain ⟨ds, clauses, rfl⟩ := h
    rcases clauses.cases with ⟨types, rfl, many⟩ | ⟨us, vs, types, x, type, rfl, rfl, many, said⟩
    · rw [ofDeclarations_unnamed]
      exact .unnamed many
    · rw [ofDeclarations_named]
      exact .named many said

end Grammar

namespace Parse

open TokenCursor Grammar

/-! ### References and strings -/

theorem answers_reference_iff {c c' : TokenCursor} {v : Variable} :
    Answers reference c v c' ↔ ∃ ts, IsReference ts v ∧ c.Passes ts c' := by
  constructor
  · intro answered
    obtain ⟨t, c₁, first, second⟩ := answers_bind.1 answered
    obtain ⟨of_kind, passed⟩ := answers_expectOneOf.1 first
    by_cases is_name : t.kind = .name
    · rw [if_pos is_name] at second
      obtain ⟨rfl, rfl⟩ := answers_pure.1 second
      exact ⟨[t], .name is_name (declaredName_eq_iff.1 rfl), passed⟩
    · rw [if_neg is_name] at second
      have is_number : t.kind = .number := by simpa [is_name] using of_kind
      split at second
      · rename_i n spelled
        obtain ⟨rfl, rfl⟩ := answers_pure.1 second
        exact ⟨[t], .index is_number (index?_eq_some_iff.1 spelled), passed⟩
      · exact absurd second not_answers_throw
  · intro h
    obtain ⟨ts, said, passed⟩ := h
    cases said with
    | @name t x is_name declares =>
      refine answers_bind.2 ⟨t, c', answers_expectOneOf.2 ⟨by simp [is_name], passed⟩, ?_⟩
      rw [if_pos is_name, declaredName_eq_iff.2 declares]
      exact answers_pure.2 ⟨rfl, rfl⟩
    | @index t n is_number numeral =>
      refine answers_bind.2 ⟨t, c', answers_expectOneOf.2 ⟨by simp [is_number], passed⟩, ?_⟩
      rw [if_neg (by simp [is_number]), index?_eq_some_iff.2 numeral]
      exact answers_pure.2 ⟨rfl, rfl⟩

/-- A reference fails at a token that is neither a name nor a number, and at a number that is no
index. -/
theorem failsWith_reference_iff {c c' : TokenCursor} {e : Error} :
    FailsWith reference c e c' ↔
      (∀ t ∈ c.ahead.head?, t.kind ∉ [Kind.name, .number]) ∧
          c.unexpected [.name, .number] = e ∧ c = c' ∨
        ∃ t, t.kind = .number ∧ index? t.text = none ∧ c.Passes [t] c' ∧
          e = ⟨.malformedIndex t.text, t.span.start⟩ := by
  constructor
  · intro failed
    rcases failsWith_bind.1 failed with failed | ⟨t, c₁, first, second⟩
    · exact Or.inl (failsWith_expectOneOf.1 failed)
    obtain ⟨of_kind, passed⟩ := answers_expectOneOf.1 first
    by_cases is_name : t.kind = .name
    · rw [if_pos is_name] at second
      exact absurd second not_failsWith_pure
    · rw [if_neg is_name] at second
      have is_number : t.kind = .number := by simpa [is_name] using of_kind
      split at second
      · exact absurd second not_failsWith_pure
      · rename_i not_index
        obtain ⟨rfl, rfl⟩ := failsWith_throw.1 second
        exact Or.inr ⟨t, is_number, not_index, passed, rfl⟩
  · intro h
    rcases h with failed | ⟨t, is_number, not_index, passed, rfl⟩
    · exact (failsWith_expectOneOf.2 failed).bind_left
    · refine .bind_right (answers_expectOneOf.2 ⟨by simp [is_number], passed⟩) ?_
      rw [if_neg (by simp [is_number]), not_index]
      exact failsWith_throw.2 ⟨rfl, rfl⟩

theorem Reads.reference : Reads reference IsReference Anything := by
  have inhabited : ∃ ts v, IsReference ts v :=
    ⟨[⟨.name, "", .ofBytes defaultFile 0 0⟩], _, .name rfl (declaredName_eq_iff.1 rfl)⟩
  have zero : IsNumeral "0" (0 : UInt32).toNat := index?_eq_some_iff.1 (by decide)
  have welcomes : ∀ kind ∈ [Kind.name, .number], MayFollow IsReference [] kind := by
    simp only [List.forall_mem_cons]
    exact ⟨⟨⟨.name, "", .ofBytes defaultFile 0 0⟩, [], _, rfl, .name rfl (declaredName_eq_iff.1 rfl)⟩,
      ⟨⟨.number, "0", .ofBytes defaultFile 0 0⟩, [], _, rfl, .index rfl zero⟩, by simp⟩
  refine Reads.of_fixed answers_reference_iff inhabited ?_
  intro c c' e failed
  rcases failsWith_reference_iff.1 failed with
    ⟨no_member, rfl, rfl⟩ | ⟨t, is_number, not_index, passed, rfl⟩
  · refine ⟨[], c, failsAt_unexpected no_member inhabited welcomes fun c' same => ?_⟩
    rw [same.head?_eq] at no_member
    exact ⟨_, _, failsWith_reference_iff.2 (Or.inl ⟨no_member, rfl, rfl⟩)⟩
  · refine ⟨[], c, failsAt_token passed.current? rfl (.malformedIndex is_number not_index) rfl
      inhabited fun c' same => ?_⟩
    have passed' := passes_of_current? (same.head?_eq.symm.trans passed.current?)
    exact ⟨_, _, failsWith_reference_iff.2 (Or.inr ⟨t, is_number, not_index, passed', rfl⟩)⟩

theorem answers_string_iff {c c' : TokenCursor} {s : String} :
    Answers string c s c' ↔ ∃ ts, IsString ts s ∧ c.Passes ts c' := by
  constructor
  · intro answered
    obtain ⟨t, c₁, first, second⟩ := answers_bind.1 answered
    obtain ⟨of_kind, passed⟩ := answers_expectOneOf.1 first
    split at second
    · rename_i text spelled
      obtain ⟨rfl, rfl⟩ := answers_pure.1 second
      exact ⟨[t], .intro (List.mem_singleton.1 of_kind) spelled, passed⟩
    · exact absurd second not_answers_throw
  · rintro ⟨ts, ⟨of_kind, spelled⟩, passed⟩
    refine answers_bind.2 ⟨_, c', answers_expectOneOf.2 ⟨by simp [of_kind], passed⟩, ?_⟩
    rw [spelled]
    exact answers_pure.2 ⟨rfl, rfl⟩

/-- A string fails at a token that is none, and at a string that spells no text. -/
theorem failsWith_string_iff {c c' : TokenCursor} {e : Error} :
    FailsWith string c e c' ↔
      (∀ t ∈ c.ahead.head?, t.kind ∉ [Kind.string]) ∧ c.unexpected [.string] = e ∧ c = c' ∨
        ∃ t, t.kind = .string ∧ Text.unquote? t.text = none ∧ c.Passes [t] c' ∧
          e = ⟨.malformedString t.text, t.span.start⟩ := by
  constructor
  · intro failed
    rcases failsWith_bind.1 failed with failed | ⟨t, c₁, first, second⟩
    · exact Or.inl (failsWith_expectOneOf.1 failed)
    obtain ⟨of_kind, passed⟩ := answers_expectOneOf.1 first
    split at second
    · exact absurd second not_failsWith_pure
    · rename_i no_text
      obtain ⟨rfl, rfl⟩ := failsWith_throw.1 second
      exact Or.inr ⟨t, List.mem_singleton.1 of_kind, no_text, passed, rfl⟩
  · intro h
    rcases h with failed | ⟨t, is_string, no_text, passed, rfl⟩
    · exact (failsWith_expectOneOf.2 failed).bind_left
    · refine .bind_right (answers_expectOneOf.2 ⟨by simp [is_string], passed⟩) ?_
      rw [no_text]
      exact failsWith_throw.2 ⟨rfl, rfl⟩

theorem Reads.string : Reads string IsString Anything := by
  have empty : IsString [⟨.string, "\"\"", .ofBytes defaultFile 0 0⟩] "" :=
    .intro rfl (by decide +kernel)
  have inhabited : ∃ ts s, IsString ts s := ⟨_, _, empty⟩
  have welcomes : ∀ kind ∈ [Kind.string], MayFollow IsString [] kind := by
    simp only [List.forall_mem_singleton]
    exact ⟨_, [], _, rfl, empty⟩
  refine Reads.of_fixed answers_string_iff inhabited ?_
  intro c c' e failed
  rcases failsWith_string_iff.1 failed with
    ⟨no_member, rfl, rfl⟩ | ⟨t, is_string, no_text, passed, rfl⟩
  · refine ⟨[], c, failsAt_unexpected no_member inhabited welcomes fun c' same => ?_⟩
    rw [same.head?_eq] at no_member
    exact ⟨_, _, failsWith_string_iff.2 (Or.inl ⟨no_member, rfl, rfl⟩)⟩
  · refine ⟨[], c, failsAt_token passed.current? rfl (.malformedString is_string no_text) rfl
      inhabited fun c' same => ?_⟩
    have passed' := passes_of_current? (same.head?_eq.symm.trans passed.current?)
    exact ⟨_, _, failsWith_string_iff.2 (Or.inr ⟨t, is_string, no_text, passed', rfl⟩)⟩

/-! ### Clauses -/

theorem Reads.result : Reads result (Closed IsValueType) Anything :=
  (Reads.closed (f := id) Reads.expectValueType fun _ _ _ => trivial).congr fun ts type => by simp

theorem Reads.declaration : Reads declaration (Closed IsDeclaration) Anything := by
  refine (Reads.ifAccepts
    (fun t => Reads.closed (f := Declaration.named t.declaredName) Reads.expectValueType ?_)
    (Reads.closed (f := Declaration.unnamed) Reads.valueTypes fun _ => ofKind?_of_rightParen)
    ?_).congr fun ts d => closed_isDeclaration_iff.symm
  · intro _ _ _
    trivial
  · rintro ts d rest ⟨types, said, rfl⟩ - t next
    exact mt List.mem_singleton.1 (said.not_name rest t next)

theorem Reads.params :
    Reads params (Many IsParam) (fun rest => opening? rest ≠ some (.keyword .param)) :=
  Reads.clauses Reads.declaration

theorem Reads.results :
    Reads results (Many IsResult) (fun rest => opening? rest ≠ some (.keyword .result)) :=
  Reads.clauses Reads.result

/-- Locals are taken up to the first one with a name; if there is none, as far as clauses come. -/
theorem answers_locals_iff {c c' : TokenCursor} {ls : List Local} :
    Answers locals c ls c' ↔
      ∃ ts ds, IsLocalClauses ts ds ∧ Local.ofDeclarations ds = ls ∧ c.Passes ts c' ∧
        (ds.getLast?.any (fun clause => clause.name?.isSome) = true ∨
          opening? c'.ahead ≠ some (.keyword .local_)) := by
  constructor
  · intro answered
    obtain ⟨ds, c₁, first, second⟩ := answers_bind.1 answered
    obtain ⟨rfl, rfl⟩ := answers_pure.1 second
    obtain ⟨ts, listed, passed, stopped⟩ := (answers_clauses_iff Reads.declaration).1 first
    exact ⟨ts, ds, listed, rfl, passed, stopped⟩
  · intro h
    obtain ⟨ts, ds, listed, rfl, passed, stopped⟩ := h
    refine answers_bind.2 ⟨ds, c', ?_, answers_pure.2 ⟨rfl, rfl⟩⟩
    exact (answers_clauses_iff Reads.declaration).2 ⟨ts, listed, passed, stopped⟩

theorem Reads.locals :
    Reads locals IsLocals (fun rest => opening? rest ≠ some (.keyword .local_)) := by
  constructor
  · intro c c' ls answered
    obtain ⟨ts, ds, listed, rfl, passed, -⟩ := answers_locals_iff.1 answered
    exact ⟨ts, isLocals_iff.2 ⟨ds, listed, rfl⟩, passed⟩
  · intro c c' ts ls said passed after
    obtain ⟨ds, listed, rfl⟩ := isLocals_iff.1 said
    exact answers_locals_iff.2 ⟨ts, ds, listed, rfl, passed, Or.inr after⟩
  · exact ⟨[], [], isLocals_iff.2 ⟨[], .nil, rfl⟩⟩
  · intro c c₁ ls answered
    obtain ⟨ts, ds, listed, rfl, passed, stopped⟩ := answers_locals_iff.1 answered
    refine ⟨ts, passed, fun c' c₁' passed' same => ?_⟩
    rw [same.opening?_eq] at stopped
    exact answers_locals_iff.2 ⟨ts, ds, listed, rfl, passed', stopped⟩
  · intro c c' e failed
    rcases failsWith_bind.1 failed with failed | ⟨ds, c₁, -, failed⟩
    · obtain ⟨passed, c₂, fails⟩ := failsAt_clauses Reads.declaration failed
      refine ⟨passed, c₂, fails.bind_left fun ts ds listed => ?_⟩
      exact ⟨[], _, isLocals_iff.2 ⟨ds, by rwa [List.append_nil], rfl⟩⟩
    · exact absurd failed not_failsWith_pure

/-- A signature of clauses, before locals or the end of the field. -/
theorem Reads.explicit :
    Reads
      (do let params ← Parse.params; let results ← Parse.results; return .explicit params results)
      (fun ts s => ∃ params results us vs, ts = us ++ vs ∧ Many IsParam us params ∧
        Many IsResult vs results ∧ Signature.explicit params results = s)
      (Begins [.local_]) := by
  refine (Reads.params.bind
    (fun params => Reads.results.bind (fun results => Reads.pure _ _) ?_) ?_).congr fun ts s => ?_
  · rintro results ts s rest ⟨rfl, -⟩ after
    exact after.opening?_ne (by simp)
  · rintro params ts s rest ⟨results, us, vs, rfl, said, rfl, -⟩ after
    have begun : Begins [.result, .local_] (us ++ rest) :=
      said.begins (fun _ _ _ said => said.begins _ (by simp)) (after.mono (by simp))
    rw [List.append_nil]
    exact begun.opening?_ne (by simp)
  · constructor
    · intro h
      obtain ⟨params, us, vs, rfl, first, results, ws, xs, rfl, second, rfl, rfl⟩ := h
      exact ⟨params, results, us, ws, by rw [List.append_nil], first, second, rfl⟩
    · intro h
      obtain ⟨params, results, us, vs, rfl, first, second, rfl⟩ := h
      exact ⟨params, us, vs, rfl, first, results, vs, [], by rw [List.append_nil], second, rfl, rfl⟩

/-- A signature, before locals or the end of the field. -/
theorem Reads.signature : Reads signature IsSignature (Begins [.local_]) := by
  have typeRef := Reads.closed (f := Signature.typeRef) Reads.reference fun _ _ _ => trivial
  refine (Reads.ifOpens (typeRef.of_follow fun _ _ => trivial) Reads.explicit ?_).congr ?_
  · rintro ts s rest ⟨params, results, us, vs, rfl, first, second, rfl⟩ after
    exact (begins_of_params_results first second after).opening?_ne (by simp)
  · intro ts s
    constructor
    · intro h
      rcases h with ⟨ho, hk, v, said, rfl⟩ | ⟨params, results, us, vs, rfl, first, second, rfl⟩
      · exact .typeRef (.intro ho hk said)
      · exact .explicit first second
    · intro h
      rcases h with ⟨ho, hk, said⟩ | ⟨first, second⟩
      · exact Or.inl (.intro ho hk ⟨_, said, rfl⟩)
      · exact Or.inr ⟨_, _, _, _, rfl, first, second, rfl⟩

end Parse

end WasmText
