import WasmText.Proofs.Reading.Signature

/-!
# Reading fields

The readers of type definitions and functions against the grammar. Which keyword opens which field is
up to a table; with the table of the text format the fields are those of the grammar.

## What is proved

* `isFieldBy_standard_iff`: the fields by the table of the text format.
* `Reads.typeDef`, `Reads.func`: the rest of a field, after its keyword.
* `Reads.fieldRule`: the rest of a field by a rule of a table.
-/

namespace WasmText

namespace Grammar

open TokenCursor

/-- Some kind begins a field by a table. -/
def HasRule (table : FieldTable) : Prop :=
  ∃ kind rule, table.find? kind = some rule

/-- What the rest of a field says by a rule, its closing parenthesis included. -/
def IsFieldRest : FieldRule → List Token → Field → Prop
  | .typeDef, ts, f => ∃ d, Closed IsTypeDef ts d ∧ .typeDef d = f
  | .func, ts, f => ∃ g, Closed IsFunc ts g ∧ .func g = f

/-- A field by a table of rules. -/
inductive IsFieldBy (table : FieldTable) : List Token → Field → Prop where
  /-- An opening parenthesis, a token of a kind with a rule, and the rest by this rule. -/
  | intro {kind : Kind} {rule : FieldRule} {ts : List Token} {f : Field} :
      table.find? kind = some rule → Clause kind (IsFieldRest rule) ts f → IsFieldBy table ts f

/-- `name? field*`, with the fields of a table. -/
inductive IsBodyBy (table : FieldTable) : List Token → Module → Prop where
  /-- A name, if there is one, and the fields: type definitions in their order, and functions in
  theirs. -/
  | intro {ts us : List Token} {name : Option String} {fields : List Field} :
      IsOptionalName ts name → Many (IsFieldBy table) us fields →
        IsBodyBy table (ts ++ us)
          ⟨name, fields.filterMap Field.typeDef?, fields.filterMap Field.func?⟩

theorem find?_standard {kind : Kind} {rule : FieldRule} :
    FieldTable.standard.find? kind = some rule ↔
      kind = .keyword .type ∧ rule = .typeDef ∨ kind = .keyword .func ∧ rule = .func := by
  unfold FieldTable.standard FieldTable.registerStandard
  rw [FieldTable.find?_register, FieldTable.find?_register]
  by_cases is_func : kind = .keyword .func
  · simp [is_func, eq_comm]
  · by_cases is_type : kind = .keyword .type
    · simp [is_type, eq_comm]
    · simp [is_func, is_type, FieldTable.find?, FieldTable.empty]

theorem hasRule_standard : HasRule .standard :=
  ⟨_, _, find?_standard.2 (Or.inl ⟨rfl, rfl⟩)⟩

theorem isFieldBy_standard_iff {ts : List Token} {f : Field} :
    IsFieldBy .standard ts f ↔ IsField ts f := by
  constructor
  · intro h
    obtain ⟨registered, ⟨ho, hk, said⟩⟩ := h
    rcases find?_standard.1 registered with ⟨rfl, rfl⟩ | ⟨rfl, rfl⟩
    · obtain ⟨d, said, rfl⟩ := said
      exact .typeDef (.intro ho hk said)
    · obtain ⟨g, said, rfl⟩ := said
      exact .func (.intro ho hk said)
  · intro h
    rcases h with ⟨ho, hk, said⟩ | ⟨ho, hk, said⟩
    · exact .intro (find?_standard.2 (Or.inl ⟨rfl, rfl⟩)) (.intro ho hk ⟨_, said, rfl⟩)
    · exact .intro (find?_standard.2 (Or.inr ⟨rfl, rfl⟩)) (.intro ho hk ⟨_, said, rfl⟩)

theorem many_isFieldBy_standard_iff {ts : List Token} {fields : List Field} :
    Many (IsFieldBy .standard) ts fields ↔ Many IsField ts fields := by
  constructor
  · intro h
    induction h with
    | nil => exact .nil
    | cons said _ ih => exact .cons (isFieldBy_standard_iff.1 said) ih
  · intro h
    induction h with
    | nil => exact .nil
    | cons said _ ih => exact .cons (isFieldBy_standard_iff.2 said) ih

theorem isBodyBy_standard_iff {ts : List Token} {m : Module} :
    IsBodyBy .standard ts m ↔ IsBody ts m := by
  constructor
  · intro h
    obtain ⟨named, many⟩ := h
    exact .intro named (many_isFieldBy_standard_iff.1 many)
  · intro h
    obtain ⟨named, many⟩ := h
    exact .intro named (many_isFieldBy_standard_iff.2 many)

theorem IsOptionalExport.begins {keywords : List Keyword} {ts rest : List Token} {x : Option String}
    (h : IsOptionalExport ts x) (after : Begins keywords rest) :
    Begins (.export_ :: keywords) (ts ++ rest) := by
  cases h with
  | absent => exact after.mono (List.subset_cons_self _ _)
  | present clause => exact clause.begins rest (by simp)

end Grammar

namespace Parse

open TokenCursor Grammar

/-! ### The rest of a field -/

theorem Reads.typeDef : Reads typeDef (Closed IsTypeDef) Anything := by
  refine (Reads.optionalName.bind (fun name => Reads.expect_bind (Reads.expect_bind
    (Reads.signature.bind (fun s => Reads.expect_bind (Reads.expect_bind
      (Reads.pure (TypeDef.mk name s) Anything))) ?_))) ?_).congr fun ts d => ?_
  · rintro s ts d rest ⟨t, us, rfl, closes, -⟩ -
    exact begins_of_rightParen _ closes
  · rintro name ts d rest ⟨o, us, rfl, ho, -⟩ - t ⟨⟩ is_name
    rw [ho] at is_name
    cases is_name
  · constructor
    · rintro ⟨name, ns, _, rfl, named, o, _, rfl, ho, k, _, rfl, hk, s, ss, _, rfl, said,
        t, _, rfl, ht, t', _, rfl, ht', rfl, rfl⟩
      have inner := Clause.intro ho hk (Closed.intro said ht)
      simpa using Closed.intro (IsTypeDef.intro named inner) ht'
    · intro h
      obtain ⟨@⟨ns, us, name, s, named, ⟨ho, hk, ⟨said, ht⟩⟩⟩, ht'⟩ := h
      exact ⟨name, ns, _, by simp, named, _, _, rfl, ho, _, _, rfl, hk, s, _, [_, _], rfl, said,
        _, _, rfl, ht, _, _, rfl, ht', rfl, rfl⟩

/-- The rest of an imported function, after its name and the opening of its import. -/
def IsImportedRest (name : Option String) (ts : List Token) (f : Func) : Prop :=
  ∃ source s us vs, ts = us ++ vs ∧ Closed IsImport us source ∧ Closed IsSignature vs s ∧
    ⟨name, s, .imported source⟩ = f

theorem Reads.imported (name : Option String) :
    Reads (imported name) (IsImportedRest name) Anything := by
  refine (Reads.string.bind (fun m => Reads.string.bind (fun x => Reads.expect_bind
    (Reads.signature.bind (fun s => Reads.expect_bind
      (Reads.pure (Func.mk name s (.imported ⟨m, x⟩)) Anything)) ?_)) ?_) ?_).congr fun ts f => ?_
  · rintro s ts f rest ⟨t, us, rfl, closes, -⟩ -
    exact begins_of_rightParen _ closes
  · intro _ _ _ _ _ _
    trivial
  · intro _ _ _ _ _ _
    trivial
  · constructor
    · rintro ⟨m, ms, _, rfl, hm, x, xs, _, rfl, hx, t, _, rfl, ht, s, ss, _, rfl, said,
        t', _, rfl, ht', rfl, rfl⟩
      exact ⟨⟨m, x⟩, s, ms ++ xs ++ [t], ss ++ [t'], by simp, .intro (.intro hm hx) ht,
        .intro said ht', rfl⟩
    · intro h
      obtain ⟨_, s, _, _, rfl, ⟨⟨hm, hx⟩, ht⟩, ⟨said, ht'⟩, rfl⟩ := h
      exact ⟨_, _, _, by simp, hm, _, _, _, rfl, hx, _, _, rfl, ht, s, _, [_], rfl, said,
        _, _, rfl, ht', rfl, rfl⟩

theorem Reads.optionalExport :
    Reads optionalExport IsOptionalExport (Begins [.type, .param, .result, .local_]) := by
  have export_clause := Reads.closed (f := some) Reads.string fun _ _ _ => trivial
  refine (Reads.ifOpens (export_clause.of_follow fun _ _ => trivial)
    (Reads.pure none _) ?_).congr ?_
  · rintro ts x rest ⟨rfl, -⟩ after
    exact after.opening?_ne (by simp)
  · intro ts x
    constructor
    · intro h
      rcases h with ⟨ho, hk, x, said, rfl⟩ | ⟨rfl, rfl⟩
      · exact .present (.intro ho hk said)
      · exact .absent
    · intro h
      rcases h with _ | ⟨ho, hk, said⟩
      · exact Or.inr ⟨rfl, rfl⟩
      · exact Or.inl (.intro ho hk ⟨_, said, rfl⟩)

theorem Reads.instructions : Reads instructions (fun ts is => ts = [] ∧ [] = is) Anything :=
  Reads.pure [] Anything

/-- The rest of a defined function, after its name and its export. -/
def IsDefinedRest (name exportName : Option String) (ts : List Token) (f : Func) : Prop :=
  ∃ s locals us vs, ts = us ++ vs ∧ IsSignature us s ∧ Closed IsLocals vs locals ∧
    ⟨name, s, .defined exportName ⟨locals, []⟩⟩ = f

theorem IsDefinedRest.begins {name exportName : Option String} {ts : List Token} {f : Func}
    (h : IsDefinedRest name exportName ts f) (rest : List Token) :
    Begins [.type, .param, .result, .local_] (ts ++ rest) := by
  obtain ⟨s, locals, us, _, rfl, said, ⟨declared, closes⟩, -⟩ := h
  rw [List.append_assoc, List.append_assoc]
  exact said.begins (declared.begins (begins_of_rightParen _ closes))

theorem Reads.defined (name exportName : Option String) :
    Reads (defined name exportName) (IsDefinedRest name exportName) Anything := by
  refine (Reads.signature.bind (fun s => Reads.locals.bind (fun locals => Reads.instructions.bind
    (fun is => Reads.expect_bind
      (Reads.pure (Func.mk name s (.defined exportName ⟨locals, is⟩)) Anything)) ?_) ?_) ?_).congr
    fun ts f => ?_
  · intro _ _ _ _ _ _
    trivial
  · rintro locals ts f rest ⟨is, us, vs, rfl, ⟨rfl, rfl⟩, t, ws, rfl, closes, -⟩ -
    exact (begins_of_rightParen [] closes).opening?_ne (by simp)
  · rintro s ts f rest ⟨locals, us, vs, rfl, declared, is, _, _, rfl, ⟨rfl, rfl⟩, t, ws, rfl,
      closes, -⟩ -
    rw [List.append_assoc]
    exact declared.begins (begins_of_rightParen _ closes)
  · constructor
    · rintro ⟨s, us, _, rfl, said, locals, vs, _, rfl, declared, is, _, _, rfl, ⟨rfl, rfl⟩, t, _,
        rfl, closes, rfl, rfl⟩
      exact ⟨s, locals, us, vs ++ [t], rfl, said, .intro declared closes, rfl⟩
    · intro h
      obtain ⟨s, locals, us, _, rfl, said, ⟨declared, closes⟩, rfl⟩ := h
      exact ⟨s, us, _, rfl, said, locals, _, [_], rfl, declared, [], [], [_], rfl, ⟨rfl, rfl⟩, _,
        [], rfl, closes, rfl, rfl⟩

/-- The rest of a function without an import, after its name. -/
def IsExportAndRest (name : Option String) (ts : List Token) (f : Func) : Prop :=
  ∃ exportName us vs, ts = us ++ vs ∧ IsOptionalExport us exportName ∧
    IsDefinedRest name exportName vs f

theorem IsExportAndRest.begins {name : Option String} {ts : List Token} {f : Func}
    (h : IsExportAndRest name ts f) (rest : List Token) :
    Begins [.export_, .type, .param, .result, .local_] (ts ++ rest) := by
  obtain ⟨exportName, us, vs, rfl, exported, said⟩ := h
  rw [List.append_assoc]
  exact exported.begins (said.begins rest)

theorem closed_isFunc_iff {ts : List Token} {f : Func} :
    Closed IsFunc ts f ↔ ∃ name us vs, ts = us ++ vs ∧ IsOptionalName us name ∧
        (Clause (.keyword .import_) (IsImportedRest name) vs f ∨ IsExportAndRest name vs f) := by
  constructor
  · intro h
    obtain ⟨said, closes⟩ := h
    cases said with
    | imported named clause said =>
      obtain ⟨ho, hk, source⟩ := clause
      refine ⟨_, _, _, List.append_assoc _ _ _, named, Or.inl ?_⟩
      exact .intro ho hk ⟨_, _, _, _, List.append_assoc _ _ _, source, .intro said closes, rfl⟩
    | defined named exported said declared =>
      refine ⟨_, _, _, List.append_assoc _ _ _, named, Or.inr ⟨_, _, _, List.append_assoc _ _ _,
        exported, _, _, _, _, List.append_assoc _ _ _, said, .intro declared closes, rfl⟩⟩
  · rintro ⟨name, us, _, rfl, named, ⟨ho, hk, source, s, vs, _, rfl, imported, ⟨said, closes⟩, rfl⟩ |
      ⟨exportName, vs, _, rfl, exported, s, locals, ws, _, rfl, said, ⟨declared, closes⟩, rfl⟩⟩
    · have func := IsFunc.imported named (.intro ho hk imported) said
      simpa using Closed.intro func closes
    · have func := IsFunc.defined named exported said declared
      simpa using Closed.intro func closes

theorem Reads.func : Reads func (Closed IsFunc) Anything := by
  refine (Reads.optionalName.bind (fun name => Reads.ifOpens (Reads.imported name)
    (Reads.optionalExport.bind (fun x => Reads.defined name x) ?_) ?_) ?_).congr
    fun ts f => closed_isFunc_iff.symm
  · rintro exportName ts f rest said -
    exact said.begins rest
  · rintro ts f rest (said : IsExportAndRest name ts f) -
    exact (said.begins rest).opening?_ne (by simp)
  · rintro name ts f rest (clause | (said : IsExportAndRest name ts f)) -
    · exact (clause.begins rest (List.mem_singleton_self _)).not_name
    · exact (said.begins rest).not_name

theorem Reads.fieldRule (rule : FieldRule) : Reads rule.parse (IsFieldRest rule) Anything := by
  cases rule with
  | typeDef =>
    refine (Reads.typeDef.bind (fun d => Reads.pure (Field.typeDef d) Anything) ?_).congr
      fun ts f => ?_
    · intro _ _ _ _ _ _
      trivial
    · simp [IsFieldRest]
  | func =>
    refine (Reads.func.bind (fun g => Reads.pure (Field.func g) Anything) ?_).congr fun ts f => ?_
    · intro _ _ _ _ _ _
      trivial
    · simp [IsFieldRest]

end Parse

end WasmText
