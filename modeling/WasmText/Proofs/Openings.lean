import WasmText.Proofs.Reading.Field

/-!
# What is opened in a module

Every opening parenthesis of a module opens something: the module, a field of it, the signature of a
type definition, or a clause. All clauses may be absent, so that what stands before a clause lacks
nothing but closing parentheses. No token of a module is an error.

## What is proved

* `Openings.append`: what is opened in two parts, one after the other.
* `IsFunc.openings`: before each clause of a function stands a function.
* `IsField.openings`: what is opened in a field.
* `IsModule.opening`: an opening parenthesis of a module is its first token, or in one of its
  fields.
* `IsModule.no_error`: no token of a module is an error.
-/

namespace WasmText

namespace Grammar

variable {α : Type}

/-! ### Tokens that open nothing -/

/-- Tokens that open nothing, and none of which is an error. -/
def IsPlain (ts : List Token) : Prop :=
  ∀ t ∈ ts, t.kind ≠ .leftParen ∧ t.kind ≠ .error

theorem isPlain_nil : IsPlain [] := by simp [IsPlain]

theorem isPlain_singleton {t : Token} {kind : Kind} (of_kind : t.kind = kind)
    (plain : kind ≠ .leftParen ∧ kind ≠ .error) : IsPlain [t] := by
  simpa [IsPlain, of_kind] using plain

theorem IsPlain.append {ts us : List Token} (first : IsPlain ts) (second : IsPlain us) :
    IsPlain (ts ++ us) := by
  intro t member
  exact (List.mem_append.1 member).elim (first t) (second t)

/-- What holds of every token of every item holds of every token of a row of them. -/
theorem Many.forall_mem {item : List Token → α → Prop} {p : Token → Prop} {ts : List Token}
    {as : List α} (h : Many item ts as) (each : ∀ ts a, item ts a → ∀ t ∈ ts, p t) :
    ∀ t ∈ ts, p t := by
  induction h with
  | nil => simp
  | cons said _ ih =>
    intro t member
    exact (List.mem_append.1 member).elim (each _ _ said t) (ih t)

theorem Closed.isPlain {item : List Token → α → Prop} {ts : List Token} {a : α}
    (h : Closed item ts a) (inside : ∀ ts a, item ts a → IsPlain ts) : IsPlain ts := by
  obtain ⟨said, closes⟩ := h
  exact (inside _ _ said).append (isPlain_singleton closes (by decide))

theorem IsOptionalName.isPlain {ts : List Token} {name : Option String}
    (h : IsOptionalName ts name) : IsPlain ts := by
  cases h with
  | absent => exact isPlain_nil
  | present is_name => exact isPlain_singleton is_name (by decide)

theorem IsReference.isPlain {ts : List Token} {v : Variable} (h : IsReference ts v) :
    IsPlain ts := by
  cases h with
  | name is_name => exact isPlain_singleton is_name (by decide)
  | index is_number => exact isPlain_singleton is_number (by decide)

theorem IsValueType.isPlain {ts : List Token} {type : ValueType} (h : IsValueType ts type) :
    IsPlain ts := by
  obtain ⟨of_kind⟩ := h
  exact isPlain_singleton of_kind (by simp)

theorem IsString.isPlain {ts : List Token} {s : String} (h : IsString ts s) : IsPlain ts := by
  obtain ⟨is_string, -⟩ := h
  exact isPlain_singleton is_string (by decide)

theorem IsImport.isPlain {ts : List Token} {source : Import} (h : IsImport ts source) :
    IsPlain ts := by
  obtain ⟨first, second⟩ := h
  exact first.isPlain.append second.isPlain

theorem IsDeclaration.isPlain {ts : List Token} {d : Declaration} (h : IsDeclaration ts d) :
    IsPlain ts := by
  cases h with
  | named is_name _ said => exact (isPlain_singleton is_name (by decide)).append said.isPlain
  | unnamed said => exact said.forall_mem fun _ _ said => said.isPlain

/-! ### Clauses -/

/-- A clause of a field. -/
inductive IsFieldClause : List Token → Prop where
  /-- `( type var )`. -/
  | typeRef {ts : List Token} {v : Variable} :
      Clause (.keyword .type) (Closed IsReference) ts v → IsFieldClause ts
  /-- `( param ... )`. -/
  | param {ts : List Token} {d : Declaration} : IsParam ts d → IsFieldClause ts
  /-- `( result ... )`. -/
  | result {ts : List Token} {type : ValueType} : IsResult ts type → IsFieldClause ts
  /-- `( export ... )`. -/
  | export_ {ts : List Token} {x : String} :
      Clause (.keyword .export_) (Closed IsString) ts x → IsFieldClause ts
  /-- `( import ... )`. -/
  | import_ {ts : List Token} {source : Import} :
      Clause (.keyword .import_) (Closed IsImport) ts source → IsFieldClause ts
  /-- `( local ... )`. -/
  | local_ {ts : List Token} {d : Declaration} : IsLocal ts d → IsFieldClause ts

/-- A clause opens nothing but itself, and not with the keyword of a function. -/
structure OpensOnce (ts : List Token) : Prop where
  /-- It begins with a parenthesis and a keyword, which is not that of a function. -/
  opens : ∃ o k us, ts = o :: k :: us ∧ o.kind = .leftParen ∧ k.kind ≠ .keyword .func
  /-- Nothing is opened after that. -/
  plain : IsPlain ts.tail

theorem Clause.opensOnce {k : Keyword} {item : List Token → α → Prop} {ts : List Token} {a : α}
    (h : Clause (.keyword k) (Closed item) ts a) (not_func : k ≠ .func)
    (inside : ∀ ts a, item ts a → IsPlain ts) : OpensOnce ts := by
  obtain ⟨opens, of_kind, said⟩ := h
  refine ⟨⟨_, _, _, rfl, opens, by simpa [of_kind] using not_func⟩, ?_⟩
  exact (isPlain_singleton of_kind (by simp)).append (said.isPlain inside)

theorem IsFieldClause.opensOnce {ts : List Token} (h : IsFieldClause ts) : OpensOnce ts := by
  cases h with
  | typeRef h => exact h.opensOnce (by decide) fun _ _ said => said.isPlain
  | param h => exact Clause.opensOnce h (by decide) fun _ _ said => said.isPlain
  | result h => exact Clause.opensOnce h (by decide) fun _ _ said => said.isPlain
  | export_ h => exact h.opensOnce (by decide) fun _ _ said => said.isPlain
  | import_ h => exact h.opensOnce (by decide) fun _ _ said => said.isPlain
  | local_ h => exact Clause.opensOnce h (by decide) fun _ _ said => said.isPlain

/-! ### What is opened, part by part -/

/-- Each opening parenthesis of some tokens stands, whatever comes after the tokens, between tokens
of which something is told; and none of the tokens is an error. -/
structure Openings (told : List Token → List Token → Prop) (ts : List Token) : Prop where
  /-- No error. -/
  no_error : ∀ t ∈ ts, t.kind ≠ .error
  /-- What stands before an opening parenthesis, and what from there on. -/
  opening : ∀ us o vs, ts = us ++ o :: vs → o.kind = .leftParen →
    ∀ rest, told us (o :: (vs ++ rest))

variable {told told' : List Token → List Token → Prop}

/-- A cut of two rows at a token is a cut of one of them. -/
theorem cut_of_append {ts us vs ws : List Token} {o : Token} (cut : ts ++ us = vs ++ o :: ws) :
    (∃ ws', ts = vs ++ o :: ws' ∧ ws = ws' ++ us) ∨
      ∃ vs', vs = ts ++ vs' ∧ us = vs' ++ o :: ws := by
  rcases List.append_eq_append_iff.1 cut with ⟨vs', rfl, inside⟩ | ⟨ws', rfl, inside⟩
  · exact Or.inr ⟨vs', rfl, inside⟩
  · cases ws' with
    | nil => exact Or.inr ⟨[], by simp, inside.symm⟩
    | cons o' ws' =>
      obtain ⟨rfl, rfl⟩ : o = o' ∧ ws = ws' ++ us := List.cons.inj inside
      exact Or.inl ⟨ws', rfl, rfl⟩

theorem Openings.mono {ts : List Token} (h : Openings told ts)
    (more : ∀ us vs, told us vs → told' us vs) : Openings told' ts where
  no_error := h.no_error
  opening := fun us o vs split opens rest => more _ _ (h.opening us o vs split opens rest)

theorem IsPlain.openings {ts : List Token} (h : IsPlain ts) : Openings told ts where
  no_error := fun t member => (h t member).2
  opening := by
    rintro us o vs rfl opens
    exact absurd opens (h o (by simp)).1

theorem Openings.append {ts us : List Token} (first : Openings told ts)
    (second : Openings (fun vs => told (ts ++ vs)) us) : Openings told (ts ++ us) where
  no_error := by
    intro t member
    exact (List.mem_append.1 member).elim (first.no_error t) (second.no_error t)
  opening := by
    intro vs o ws split opens rest
    rcases cut_of_append split with ⟨ws', rfl, rfl⟩ | ⟨vs', rfl, inside⟩
    · rw [List.append_assoc]
      exact first.opening vs o ws' rfl opens (us ++ rest)
    · exact second.opening vs' o ws inside opens rest

theorem Openings.cons {t : Token} {ts : List Token} (no_error : t.kind ≠ .error)
    (opening : t.kind = .leftParen → ∀ rest, told [] (t :: (ts ++ rest)))
    (h : Openings (fun us => told (t :: us)) ts) : Openings told (t :: ts) where
  no_error := List.forall_mem_cons.2 ⟨no_error, h.no_error⟩
  opening := by
    intro us o vs split opens rest
    cases us with
    | nil =>
      obtain ⟨rfl, rfl⟩ := List.cons.inj split
      exact opening opens rest
    | cons u us =>
      obtain ⟨rfl, inside⟩ := List.cons.inj split
      exact h.opening us o vs inside opens rest

/-- Something with a token after it that opens nothing. -/
theorem Openings.closed {ts : List Token} {close : Token} (h : Openings told ts)
    (closes : close.kind = .rightParen) : Openings told (ts ++ [close]) :=
  h.append (isPlain_singleton closes (by decide)).openings

/-! ### Signatures and functions -/

/-- Tokens begin with a clause of a field. -/
def BeginsClause (ts : List Token) : Prop :=
  ∃ clause rest, IsFieldClause clause ∧ ts = clause ++ rest

/-- Tokens that say something, and then a clause. -/
def ClauseAfter (said : List Token → Prop) (us vs : List Token) : Prop :=
  said us ∧ BeginsClause vs

theorem IsFieldClause.openings {ts : List Token} {said : List Token → Prop} (h : IsFieldClause ts)
    (empty : said []) : Openings (ClauseAfter said) ts := by
  obtain ⟨⟨o, k, us, rfl, opens, -⟩, plain⟩ := h.opensOnce
  refine .cons (by simp [opens]) (fun _ rest => ⟨empty, _, rest, h, rfl⟩) ?_
  exact plain.openings

theorem Many.openings {item : List Token → α → Prop} {ts : List Token} {as : List α}
    (h : Many item ts as) (each : ∀ ts a, item ts a → IsFieldClause ts) :
    Openings (ClauseAfter fun us => ∃ bs, Many item us bs) ts := by
  induction h with
  | nil => exact isPlain_nil.openings
  | cons said _ ih =>
    refine ((each _ _ said).openings ⟨[], .nil⟩).append (ih.mono ?_)
    rintro us vs ⟨⟨bs, many⟩, clause⟩
    exact ⟨⟨_, .cons said many⟩, clause⟩

theorem isSignature_nil : IsSignature [] (.explicit [] []) := .explicit .nil .nil

theorem isLocals_nil : IsLocals [] [] := .unnamed .nil

/-- Before each clause of a signature stands a signature. -/
theorem IsSignature.openings {ts : List Token} {s : Signature} (h : IsSignature ts s) :
    Openings (ClauseAfter fun us => ∃ s, IsSignature us s) ts := by
  cases h with
  | typeRef said => exact (IsFieldClause.typeRef said).openings ⟨_, isSignature_nil⟩
  | explicit first second =>
    refine Openings.append ?_ ?_
    · refine (first.openings fun _ _ => .param).mono ?_
      rintro us vs ⟨⟨params, said⟩, clause⟩
      exact ⟨⟨_, by simpa using IsSignature.explicit said .nil⟩, clause⟩
    · refine (second.openings fun _ _ => .result).mono ?_
      rintro us vs ⟨⟨results, said⟩, clause⟩
      exact ⟨⟨_, .explicit first said⟩, clause⟩

/-- Before each clause of locals stand locals. -/
theorem IsLocals.openings {ts : List Token} {locals : List Local} (h : IsLocals ts locals) :
    Openings (ClauseAfter fun us => ∃ locals, IsLocals us locals) ts := by
  have unnamed {us : List Token} {types : List (List ValueType)}
      (many : Many (fun us ts => IsLocal us (.unnamed ts)) us types) :
      Openings (ClauseAfter fun us => ∃ locals, IsLocals us locals) us := by
    refine (many.openings fun _ _ => .local_).mono ?_
    rintro us vs ⟨⟨types, said⟩, clause⟩
    exact ⟨⟨_, .unnamed said⟩, clause⟩
  cases h with
  | unnamed many => exact unnamed many
  | @named ts _ _ _ _ many named =>
    have before := IsLocals.unnamed many
    rw [← List.append_nil ts] at before
    exact (unnamed many).append ((IsFieldClause.local_ named).openings ⟨_, before⟩)

theorem IsOptionalExport.openings {ts : List Token} {x : Option String} {said : List Token → Prop}
    (h : IsOptionalExport ts x) (empty : said []) : Openings (ClauseAfter said) ts := by
  cases h with
  | absent => exact isPlain_nil.openings
  | present clause => exact (IsFieldClause.export_ clause).openings empty

/-- Before each clause of a function stands a function. -/
theorem IsFunc.openings {ts : List Token} {f : Func} (h : IsFunc ts f) :
    Openings (ClauseAfter fun us => ∃ f, IsFunc us f) ts := by
  have named_func {ts : List Token} {name : Option String} (named : IsOptionalName ts name) :
      ∃ f, IsFunc (ts ++ []) f :=
    ⟨_, .defined named .absent isSignature_nil isLocals_nil⟩
  cases h with
  | imported named source said =>
    refine named.isPlain.openings.append (Openings.append ?_ ?_)
    · exact (IsFieldClause.import_ source).openings (named_func named)
    · refine said.openings.mono ?_
      rintro us vs ⟨⟨s, said⟩, clause⟩
      exact ⟨⟨_, .imported named source said⟩, clause⟩
  | defined named exported said declared =>
    refine named.isPlain.openings.append (Openings.append ?_ (Openings.append ?_ ?_))
    · exact exported.openings (named_func named)
    · refine said.openings.mono ?_
      rintro us vs ⟨⟨s, said⟩, clause⟩
      exact ⟨⟨_, by simpa using IsFunc.defined named exported said isLocals_nil⟩, clause⟩
    · refine declared.openings.mono ?_
      rintro us vs ⟨⟨locals, declared⟩, clause⟩
      exact ⟨⟨_, .defined named exported said declared⟩, clause⟩

/-! ### Fields and modules -/

theorem Openings.keyword {t : Token} {k : Keyword} {ts : List Token} (of_kind : t.kind = .keyword k)
    (h : Openings (fun us => told (t :: us)) ts) : Openings told (t :: ts) :=
  .cons (by simp [of_kind]) (by simp [of_kind]) h

/-- The rest of a field, of which only closing parentheses are missing. -/
inductive IsUnclosed : FieldRule → List Token → Prop where
  /-- `name? ( func funcsig`. -/
  | typeDef {ts us : List Token} {name : Option String} {s : Signature} :
      IsOptionalName ts name → Clause (.keyword .func) IsSignature us s →
        IsUnclosed .typeDef (ts ++ us)
  /-- A function. -/
  | func {ts : List Token} {f : Func} : IsFunc ts f → IsUnclosed .func ts

/-- What is opened in a field: with the tokens of the field before, and those from there on. -/
inductive OpenedInField : List Token → List Token → Prop where
  /-- The field. -/
  | field {ts : List Token} : OpenedInField [] ts
  /-- The signature of a type definition. -/
  | signature {o k o' k' : Token} {ns ts : List Token} {name : Option String} :
      o.kind = .leftParen → k.kind = .keyword .type → IsOptionalName ns name →
        k'.kind = .keyword .func → OpenedInField (o :: k :: ns) (o' :: k' :: ts)
  /-- A clause. -/
  | clause {o k : Token} {rule : FieldRule} {us ts : List Token} :
      o.kind = .leftParen → FieldTable.standard.find? k.kind = some rule → IsUnclosed rule us →
        BeginsClause ts → OpenedInField (o :: k :: us) ts

theorem IsField.openings {ts : List Token} {f : Field} (h : IsField ts f) :
    Openings OpenedInField ts := by
  cases h with
  | typeDef h =>
    obtain ⟨ho, hk, ⟨⟨named, ⟨ho', hk', ⟨said, ht⟩⟩⟩, ht'⟩⟩ := h
    refine .cons (by simp [ho]) (fun _ _ => .field) (.keyword hk (Openings.closed ?_ ht'))
    refine named.isPlain.openings.append (.cons (by simp [ho']) (fun _ _ => ?_) (.keyword hk' ?_))
    · rw [List.append_nil]
      exact .signature ho hk named hk'
    · refine (said.openings.mono ?_).closed ht
      rintro us vs ⟨⟨s, said⟩, clause⟩
      have found : FieldTable.standard.find? _ = some .typeDef :=
        find?_standard.2 (Or.inl ⟨hk, rfl⟩)
      exact .clause ho found (.typeDef named (.intro ho' hk' said)) clause
  | func h =>
    obtain ⟨ho, hk, ⟨said, ht⟩⟩ := h
    refine .cons (by simp [ho]) (fun _ _ => .field) (.keyword hk (Openings.closed ?_ ht))
    refine said.openings.mono ?_
    rintro us vs ⟨⟨f, said⟩, clause⟩
    exact .clause ho (find?_standard.2 (Or.inr ⟨hk, rfl⟩)) (.func said) clause

theorem IsField.opens {ts : List Token} {f : Field} (h : IsField ts f) :
    ∃ o us, ts = o :: us ∧ o.kind = .leftParen := by
  cases h with
  | typeDef h =>
    obtain ⟨opens, -, -⟩ := h
    exact ⟨_, _, rfl, opens⟩
  | func h =>
    obtain ⟨opens, -, -⟩ := h
    exact ⟨_, _, rfl, opens⟩

/-- A token of a row of items is in one of them. -/
theorem Many.cut {item : List Token → α → Prop} {ts us vs : List Token} {as : List α} {o : Token}
    (h : Many item ts as) (cut : ts = us ++ o :: vs) :
    ∃ before xs ys after as₁ a as₂, Many item before as₁ ∧ item (xs ++ o :: ys) a ∧
      Many item after as₂ ∧ us = before ++ xs ∧ vs = ys ++ after := by
  induction h generalizing us with
  | nil => exact absurd cut (by simp)
  | @cons ts rest a as said many ih =>
    rcases cut_of_append cut with ⟨ys, rfl, rfl⟩ | ⟨us', rfl, inside⟩
    · exact ⟨[], us, ys, rest, [], a, as, .nil, said, many, rfl, rfl⟩
    · obtain ⟨before, xs, ys, after, as₁, b, as₂, first, said', second, rfl, rfl⟩ := ih inside
      exact ⟨ts ++ before, xs, ys, after, a :: as₁, b, as₂, .cons said first, said', second,
        by simp, rfl⟩

/-- A field of a module, between the tokens before it and those after it. -/
inductive FieldBetween : List Token → List Token → List Token → Prop where
  /-- `( module name? field*`, the field, and `field* )`. -/
  | intro {o k close : Token} {ns us field vs : List Token} {name : Option String}
      {fs gs : List Field} {f : Field} :
      o.kind = .leftParen → k.kind = .keyword .module_ → IsOptionalName ns name →
        Many IsField us fs → IsField field f → Many IsField vs gs → close.kind = .rightParen →
        FieldBetween (o :: k :: (ns ++ us)) field (vs ++ [close])

theorem FieldBetween.field {before field after : List Token} (h : FieldBetween before field after) :
    ∃ f, IsField field f := by
  obtain ⟨-, -, -, -, said, -, -⟩ := h
  exact ⟨_, said⟩

/-- An opening parenthesis of a module is the first token of it, or in one of its fields. -/
theorem IsModule.opening {ts us vs : List Token} {m : Module} {o : Token} (h : IsModule ts m)
    (cut : ts = us ++ o :: vs) (opens : o.kind = .leftParen) :
    us = [] ∨ ∃ before xs ys after, FieldBetween before (xs ++ o :: ys) after ∧
      us = before ++ xs ∧ vs = ys ++ after := by
  obtain ⟨ho, hk, ⟨⟨named, many⟩, closes⟩⟩ := h
  rcases us with _ | ⟨_, _ | ⟨_, us⟩⟩
  · exact Or.inl rfl
  · simp only [List.cons_append, List.nil_append, List.cons.injEq] at cut
    obtain ⟨-, rfl, -⟩ := cut
    rw [hk] at opens
    cases opens
  · simp only [List.cons_append, List.cons.injEq] at cut
    obtain ⟨rfl, rfl, cut⟩ := cut
    rcases cut_of_append cut with ⟨vs', body, rfl⟩ | ⟨us', rfl, last⟩
    · rcases cut_of_append body with ⟨_, rfl, -⟩ | ⟨us', rfl, fields⟩
      · exact absurd opens (named.isPlain o (by simp)).1
      · obtain ⟨before, xs, ys, after, fs, f, gs, first, said, second, rfl, rfl⟩ := many.cut fields
        exact Or.inr ⟨_, xs, ys, _, .intro ho hk named first said second closes, by simp, by simp⟩
    · have plain := isPlain_singleton closes (by decide)
      rw [last] at plain
      exact absurd opens (plain o (by simp)).1

/-- No token of a module is an error. -/
theorem IsModule.no_error {ts : List Token} {m : Module} (h : IsModule ts m) :
    ∀ t ∈ ts, t.kind ≠ .error := by
  obtain ⟨ho, hk, ⟨⟨named, many⟩, closes⟩⟩ := h
  have fields := many.forall_mem fun _ _ said => said.openings.no_error
  intro t member
  simp only [List.mem_cons, List.mem_append, List.not_mem_nil, or_false] at member
  rcases member with rfl | rfl | (inside | inside) | rfl
  · simp [ho]
  · simp [hk]
  · exact (named.isPlain t inside).2
  · exact fields t inside
  · simp [closes]

end Grammar

end WasmText
