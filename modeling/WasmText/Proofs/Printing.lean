import Mathlib.Data.List.Forall2
import WasmText.Proofs.Printable
import WasmText.Proofs.Quoting

/-!
# Printing modules

A module is printed as a row of pieces, one for each token: its name, its type definitions and its
functions in order, the locals of a function in one clause. A piece fixes what its token says, and
all of its text but for the spelling of a string or an index.

## What is proved

* `isModule_of_saysAll`: tokens that say the pieces of a module derive it, if its bodies and locals
  are printable.
* `Module.Printable.pieces`: the names among the pieces of a printable module are names.
-/

namespace WasmText

open Lexeme

/-- A piece of a printed module. -/
inductive Piece where
  /-- A mark of punctuation. -/
  | mark (m : Mark)
  /-- A keyword. -/
  | word (k : Keyword)
  /-- A name, without its dollar sign. -/
  | name (x : String)
  /-- An index, in decimal digits. -/
  | index (n : UInt32)
  /-- A text between quotes. -/
  | string (s : String)

/-- A clause: a keyword and what follows it, between parentheses. -/
def clausePieces (k : Keyword) (inner : List Piece) : List Piece :=
  .mark .leftParen :: .word k :: (inner ++ [.mark .rightParen])

/-- The piece of a name, if there is one. -/
def namePieces (name : Option String) : List Piece :=
  (name.map Piece.name).toList

/-- The piece of a value type. -/
def ValueType.piece (t : ValueType) : Piece :=
  .word t.keyword

/-- The piece of a reference. -/
def Variable.piece : Variable → Piece
  | .index n => .index n
  | .name x => .name x

/-- The pieces of a declaration, without the parentheses and the keyword. -/
def Declaration.pieces : Declaration → List Piece
  | .named x type => [.name x, type.piece]
  | .unnamed types => types.map ValueType.piece

/-- The pieces of a signature. -/
def Signature.pieces : Signature → List Piece
  | .typeRef v => clausePieces .type [v.piece]
  | .explicit params results =>
    (params.flatMap fun p => clausePieces .param p.pieces) ++
      results.flatMap fun t => clausePieces .result [t.piece]

/-- The declaration of some locals in one clause. -/
def Local.declaration : List Local → Declaration
  | [⟨some x, type⟩] => .named x type
  | locals => .unnamed (locals.map Local.type)

/-- The pieces of locals: one clause, if there are any. -/
def Local.pieces (locals : List Local) : List Piece :=
  if locals = [] then [] else clausePieces .local_ (declaration locals).pieces

/-- The pieces of an export, if there is one. -/
def exportPieces (exportName : Option String) : List Piece :=
  (exportName.map fun x => clausePieces .export_ [.string x]).getD []

/-- The pieces of a function. -/
def Func.pieces (f : Func) : List Piece :=
  match f.provision with
  | .imported source =>
    clausePieces .func (namePieces f.name ++
      (clausePieces .import_ [.string source.module, .string source.name] ++ f.signature.pieces))
  | .defined exportName body =>
    clausePieces .func (namePieces f.name ++
      (exportPieces exportName ++ (f.signature.pieces ++ Local.pieces body.locals)))

/-- The pieces of a type definition. -/
def TypeDef.pieces (d : TypeDef) : List Piece :=
  clausePieces .type (namePieces d.name ++ clausePieces .func d.signature.pieces)

/-- The pieces of a module. -/
def Module.pieces (m : Module) : List Piece :=
  clausePieces .module_ (namePieces m.name ++
    (m.types.flatMap TypeDef.pieces ++ m.funcs.flatMap Func.pieces))

/-! ### Tokens that say pieces -/

/-- What the token of a piece says. -/
def Piece.Says (t : Token) : Piece → Prop
  | .mark m => t.kind = .mark m
  | .word k => t.kind = .keyword k
  | .name x => t.kind = .name ∧ t.text.toList = '$' :: x.toList
  | .index n => t.kind = .number ∧ IsNumeral t.text n.toNat
  | .string s => t.kind = .string ∧ Text.unquote? t.text = some s

/-- Tokens that say pieces, one each. -/
def SaysAll (ps : List Piece) (ts : List Token) : Prop :=
  List.Forall₂ (fun p t => p.Says t) ps ts

theorem saysAll_nil_iff {ts : List Token} : SaysAll [] ts ↔ ts = [] :=
  List.forall₂_nil_left_iff

theorem saysAll_cons_iff {p : Piece} {ps : List Piece} {ts : List Token} :
    SaysAll (p :: ps) ts ↔ ∃ t us, p.Says t ∧ SaysAll ps us ∧ ts = t :: us :=
  List.forall₂_cons_left_iff

theorem saysAll_append_iff {ps qs : List Piece} {ts : List Token} :
    SaysAll (ps ++ qs) ts ↔ ∃ us vs, SaysAll ps us ∧ SaysAll qs vs ∧ ts = us ++ vs := by
  induction ps generalizing ts with
  | nil => simp [saysAll_nil_iff]
  | cons p ps ih =>
    rw [List.cons_append, saysAll_cons_iff]
    constructor
    · intro h
      obtain ⟨t, _, said, others, rfl⟩ := h
      obtain ⟨us, vs, first, second, rfl⟩ := ih.1 others
      exact ⟨t :: us, vs, saysAll_cons_iff.2 ⟨t, us, said, first, rfl⟩, second, rfl⟩
    · intro h
      obtain ⟨_, vs, first, second, rfl⟩ := h
      obtain ⟨t, us, said, others, rfl⟩ := saysAll_cons_iff.1 first
      exact ⟨t, us ++ vs, said, ih.2 ⟨us, vs, others, second, rfl⟩, rfl⟩

theorem saysAll_singleton_iff {p : Piece} {ts : List Token} :
    SaysAll [p] ts ↔ ∃ t, p.Says t ∧ ts = [t] := by
  rw [saysAll_cons_iff]
  constructor
  · intro h
    obtain ⟨t, us, said, nothing, rfl⟩ := h
    rw [saysAll_nil_iff.1 nothing]
    exact ⟨t, said, rfl⟩
  · intro h
    obtain ⟨t, said, rfl⟩ := h
    exact ⟨t, [], said, saysAll_nil_iff.2 rfl, rfl⟩

namespace Grammar

theorem clause_of_saysAll {α : Type} {item : List Token → α → Prop} {a : α} {k : Keyword}
    {inner : List Piece} {ts : List Token} (said : SaysAll (clausePieces k inner) ts)
    (each : ∀ us, SaysAll inner us → item us a) : Clause (.keyword k) (Closed item) ts a := by
  obtain ⟨o, _, opens, more, rfl⟩ := saysAll_cons_iff.1 said
  obtain ⟨t, _, of_kind, rest, rfl⟩ := saysAll_cons_iff.1 more
  obtain ⟨us, _, inside, last, rfl⟩ := saysAll_append_iff.1 rest
  obtain ⟨close, closes, rfl⟩ := saysAll_singleton_iff.1 last
  exact .intro opens of_kind (.intro (each us inside) closes)

theorem many_of_saysAll {α β : Type} {item : List Token → β → Prop} {pieces : α → List Piece}
    {f : α → β} {as : List α} {ts : List Token} (said : SaysAll (as.flatMap pieces) ts)
    (each : ∀ a ∈ as, ∀ us, SaysAll (pieces a) us → item us (f a)) : Many item ts (as.map f) := by
  induction as generalizing ts with
  | nil =>
    rw [saysAll_nil_iff.1 said]
    exact .nil
  | cons a as ih =>
    obtain ⟨us, vs, first, second, rfl⟩ := saysAll_append_iff.1 said
    refine .cons (each a List.mem_cons_self us first) (ih second ?_)
    intro b member
    exact each b (List.mem_cons_of_mem a member)

/-- Rows that say the pieces of each item say the items. -/
theorem many_self_of_saysAll {α : Type} {item : List Token → α → Prop} {pieces : α → List Piece}
    {as : List α} {ts : List Token} (said : SaysAll (as.flatMap pieces) ts)
    (each : ∀ a us, SaysAll (pieces a) us → item us a) : Many item ts as := by
  have many := many_of_saysAll (f := id) said fun a _ us => each a us
  rwa [List.map_id] at many

theorem isOptionalName_of_saysAll {name : Option String} {ts : List Token}
    (said : SaysAll (namePieces name) ts) : IsOptionalName ts name := by
  cases name with
  | none =>
    rw [saysAll_nil_iff.1 said]
    exact .absent
  | some x =>
    obtain ⟨t, ⟨is_name, spelled⟩, rfl⟩ := saysAll_singleton_iff.1 said
    exact .present is_name (Or.inl spelled)

theorem isReference_of_saysAll {v : Variable} {ts : List Token} (said : SaysAll [v.piece] ts) :
    IsReference ts v := by
  obtain ⟨t, token, rfl⟩ := saysAll_singleton_iff.1 said
  cases v with
  | index n => exact .index token.1 token.2
  | name x => exact .name token.1 (Or.inl token.2)

theorem isValueType_of_saysAll {type : ValueType} {ts : List Token}
    (said : SaysAll [type.piece] ts) :
    IsValueType ts type := by
  obtain ⟨t, token, rfl⟩ := saysAll_singleton_iff.1 said
  exact .intro token

theorem isString_of_saysAll {s : String} {ts : List Token} (said : SaysAll [.string s] ts) :
    IsString ts s := by
  obtain ⟨t, token, rfl⟩ := saysAll_singleton_iff.1 said
  exact .intro token.1 token.2

theorem isDeclaration_of_saysAll {d : Declaration} {ts : List Token} (said : SaysAll d.pieces ts) :
    IsDeclaration ts d := by
  cases d with
  | named x type =>
    obtain ⟨t, us, ⟨is_name, spelled⟩, last, rfl⟩ := saysAll_cons_iff.1 said
    exact .named is_name (Or.inl spelled) (isValueType_of_saysAll last)
  | unnamed types =>
    have singletons : (Declaration.unnamed types).pieces = types.flatMap fun type => [type.piece] :=
      List.map_eq_flatMap
    rw [singletons] at said
    exact .unnamed (many_self_of_saysAll said fun _ _ => isValueType_of_saysAll)

theorem isSignature_of_saysAll {s : Signature} {ts : List Token} (said : SaysAll s.pieces ts) :
    IsSignature ts s := by
  cases s with
  | typeRef v => exact .typeRef (clause_of_saysAll said fun _ => isReference_of_saysAll)
  | explicit params results =>
    obtain ⟨us, vs, first, second, rfl⟩ := saysAll_append_iff.1 said
    refine .explicit (many_self_of_saysAll first ?_) (many_self_of_saysAll second ?_)
    · intro d us clause
      exact clause_of_saysAll clause fun _ => isDeclaration_of_saysAll
    · intro type us clause
      exact clause_of_saysAll clause fun _ => isValueType_of_saysAll

theorem declaration_of_unnamed {locals : List Local} (unnamed : ∀ l ∈ locals, l.name = none) :
    Local.declaration locals = .unnamed (locals.map Local.type) := by
  unfold Local.declaration
  split
  · exact absurd (unnamed _ List.mem_cons_self) (by simp)
  · rfl

theorem map_type_of_unnamed {locals : List Local} (unnamed : ∀ l ∈ locals, l.name = none) :
    (locals.map Local.type).map (fun type => Local.mk none type) = locals := by
  rw [List.map_map]
  refine (List.map_congr_left fun l member => ?_).trans (List.map_id locals)
  have no_name := unnamed l member
  cases l
  simp_all

theorem isLocals_of_saysAll {locals : List Local} (printable : Local.AllPrintable locals)
    {ts : List Token} (said : SaysAll (Local.pieces locals) ts) : IsLocals ts locals := by
  unfold Local.pieces at said
  split at said
  · rename_i no_locals
    rw [saysAll_nil_iff.1 said, no_locals]
    exact .unnamed .nil
  · have clause : IsLocal ts (Local.declaration locals) :=
      clause_of_saysAll said fun _ => isDeclaration_of_saysAll
    rcases printable with unnamed | ⟨x, type, rfl, -⟩
    · rw [declaration_of_unnamed unnamed] at clause
      have many : Many (fun us ts => IsLocal us (.unnamed ts)) (ts ++ []) [locals.map Local.type] :=
        .cons clause .nil
      have all := IsLocals.unnamed many
      rwa [List.append_nil, List.flatten_singleton, map_type_of_unnamed unnamed] at all
    · exact .named .nil clause

theorem isImport_of_saysAll {source : Import} {ts : List Token}
    (said : SaysAll [.string source.module, .string source.name] ts) : IsImport ts source := by
  obtain ⟨us, vs, first, second, rfl⟩ :=
    saysAll_append_iff.1 (show SaysAll ([.string source.module] ++ [.string source.name]) ts from said)
  exact .intro (isString_of_saysAll first) (isString_of_saysAll second)

theorem isOptionalExport_of_saysAll {exportName : Option String} {ts : List Token}
    (said : SaysAll (exportPieces exportName) ts) : IsOptionalExport ts exportName := by
  cases exportName with
  | none =>
    rw [saysAll_nil_iff.1 said]
    exact .absent
  | some x => exact .present (clause_of_saysAll said fun _ => isString_of_saysAll)

theorem isFunc_of_saysAll {f : Func} (printable : f.Printable) {ts : List Token}
    (said : SaysAll f.pieces ts) : Clause (.keyword .func) (Closed IsFunc) ts f := by
  obtain ⟨name, signature, provision⟩ := f
  cases provision with
  | imported source =>
    refine clause_of_saysAll said fun us inner => ?_
    obtain ⟨vs, _, first, more, rfl⟩ := saysAll_append_iff.1 inner
    obtain ⟨ws, xs, second, third, rfl⟩ := saysAll_append_iff.1 more
    refine .imported (isOptionalName_of_saysAll first) ?_ (isSignature_of_saysAll third)
    exact clause_of_saysAll second fun _ => isImport_of_saysAll
  | defined exportName body =>
    obtain ⟨locals, instructions⟩ := body
    obtain rfl : instructions = [] := printable.provision.instructions
    refine clause_of_saysAll said fun us inner => ?_
    obtain ⟨vs, _, first, more, rfl⟩ := saysAll_append_iff.1 inner
    obtain ⟨ws, _, second, rest, rfl⟩ := saysAll_append_iff.1 more
    obtain ⟨xs, ys, third, fourth, rfl⟩ := saysAll_append_iff.1 rest
    exact .defined (isOptionalName_of_saysAll first) (isOptionalExport_of_saysAll second)
      (isSignature_of_saysAll third) (isLocals_of_saysAll printable.provision.locals fourth)

theorem isTypeDef_of_saysAll {d : TypeDef} {ts : List Token} (said : SaysAll d.pieces ts) :
    Clause (.keyword .type) (Closed IsTypeDef) ts d := by
  refine clause_of_saysAll said fun us inner => ?_
  obtain ⟨vs, ws, first, second, rfl⟩ := saysAll_append_iff.1 inner
  exact .intro (isOptionalName_of_saysAll first)
    (clause_of_saysAll second fun _ => isSignature_of_saysAll)

theorem typeDefs_append (types : List TypeDef) (funcs : List Func) :
    (types.map Field.typeDef ++ funcs.map Field.func).filterMap Field.typeDef? = types := by
  simp [List.filterMap_map, Function.comp_def, Field.typeDef?]

theorem funcs_append (types : List TypeDef) (funcs : List Func) :
    (types.map Field.typeDef ++ funcs.map Field.func).filterMap Field.func? = funcs := by
  simp [List.filterMap_map, Function.comp_def, Field.func?]

/-- Tokens that say the pieces of a printable module derive it. -/
theorem isModule_of_saysAll {m : Module} (printable : m.Printable) {ts : List Token}
    (said : SaysAll m.pieces ts) : IsModule ts m := by
  refine clause_of_saysAll said fun us inner => ?_
  obtain ⟨vs, _, first, more, rfl⟩ := saysAll_append_iff.1 inner
  obtain ⟨ws, xs, second, third, rfl⟩ := saysAll_append_iff.1 more
  have types : Many IsField ws (m.types.map .typeDef) :=
    many_of_saysAll second fun _ _ _ clause => .typeDef (isTypeDef_of_saysAll clause)
  have funcs : Many IsField xs (m.funcs.map .func) :=
    many_of_saysAll third fun f member _ clause =>
      .func (isFunc_of_saysAll (printable.funcs f member) clause)
  have body := IsBody.intro (isOptionalName_of_saysAll first) (types.append funcs)
  rwa [typeDefs_append, funcs_append] at body

end Grammar

/-! ### The names among the pieces -/

/-- A piece whose name, if it has one, is a name. -/
def Piece.Printable : Piece → Prop
  | .name x => IsName x
  | _ => True

/-- Printable pieces. -/
def Piece.AllPrintable (ps : List Piece) : Prop :=
  ∀ p ∈ ps, p.Printable

theorem allPrintable_append_iff {ps qs : List Piece} :
    Piece.AllPrintable (ps ++ qs) ↔ Piece.AllPrintable ps ∧ Piece.AllPrintable qs :=
  List.forall_mem_append

theorem allPrintable_clausePieces_iff {k : Keyword} {inner : List Piece} :
    Piece.AllPrintable (clausePieces k inner) ↔ Piece.AllPrintable inner := by
  unfold clausePieces Piece.AllPrintable
  rw [List.forall_mem_cons, List.forall_mem_cons, List.forall_mem_append]
  simp [Piece.Printable]

theorem allPrintable_flatMap {α : Type} {pieces : α → List Piece} {as : List α}
    (each : ∀ a ∈ as, Piece.AllPrintable (pieces a)) : Piece.AllPrintable (as.flatMap pieces) := by
  intro p member
  obtain ⟨a, inside, piece⟩ := List.mem_flatMap.1 member
  exact each a inside p piece

theorem allPrintable_namePieces {name : Option String} (h : ∀ x ∈ name, IsName x) :
    Piece.AllPrintable (namePieces name) := by
  cases name with
  | none => exact List.forall_mem_nil _
  | some x => exact List.forall_mem_singleton.2 (h x rfl)

theorem Declaration.Printable.pieces {d : Declaration} (h : d.Printable) :
    Piece.AllPrintable d.pieces := by
  cases d with
  | named x type => exact List.forall_mem_cons.2 ⟨h x rfl, List.forall_mem_singleton.2 trivial⟩
  | unnamed types =>
    intro p member
    obtain ⟨type, -, rfl⟩ := List.mem_map.1 member
    trivial

theorem Signature.Printable.pieces {s : Signature} (h : s.Printable) :
    Piece.AllPrintable s.pieces := by
  cases s with
  | typeRef v =>
    refine allPrintable_clausePieces_iff.2 (List.forall_mem_singleton.2 ?_)
    cases v with
    | index n => trivial
    | name x => exact h
  | explicit params results =>
    refine allPrintable_append_iff.2 ⟨allPrintable_flatMap ?_, allPrintable_flatMap ?_⟩
    · intro d member
      exact allPrintable_clausePieces_iff.2 (h d member).pieces
    · intro type _
      exact allPrintable_clausePieces_iff.2 (List.forall_mem_singleton.2 trivial)

theorem Local.AllPrintable.pieces {locals : List Local} (h : Local.AllPrintable locals) :
    Piece.AllPrintable (Local.pieces locals) := by
  unfold Local.pieces
  split
  · exact List.forall_mem_nil _
  · refine allPrintable_clausePieces_iff.2 ?_
    rcases h with unnamed | ⟨x, type, rfl, name⟩
    · rw [Grammar.declaration_of_unnamed unnamed]
      exact Declaration.Printable.pieces fun x no_name => by cases no_name
    · refine Declaration.Printable.pieces ?_
      rintro y ⟨⟩
      exact name

theorem Func.Printable.pieces {f : Func} (h : f.Printable) : Piece.AllPrintable f.pieces := by
  obtain ⟨name, signature, provision⟩ := f
  have named := allPrintable_namePieces h.name
  have said := h.signature.pieces
  cases provision with
  | imported source =>
    have strings : Piece.AllPrintable (clausePieces .import_ [.string source.module, .string source.name]) :=
      allPrintable_clausePieces_iff.2 (by simp [Piece.AllPrintable, Piece.Printable])
    refine allPrintable_clausePieces_iff.2 ?_
    simp only [allPrintable_append_iff]
    exact ⟨named, strings, said⟩
  | defined exportName body =>
    have exported : Piece.AllPrintable (exportPieces exportName) := by
      cases exportName with
      | none => exact List.forall_mem_nil _
      | some x => exact allPrintable_clausePieces_iff.2 (List.forall_mem_singleton.2 trivial)
    refine allPrintable_clausePieces_iff.2 ?_
    simp only [allPrintable_append_iff]
    exact ⟨named, exported, said, h.provision.locals.pieces⟩

theorem TypeDef.Printable.pieces {d : TypeDef} (h : d.Printable) : Piece.AllPrintable d.pieces := by
  refine allPrintable_clausePieces_iff.2 ?_
  rw [allPrintable_append_iff, allPrintable_clausePieces_iff]
  exact ⟨allPrintable_namePieces h.name, h.signature.pieces⟩

/-- The names among the pieces of a printable module are names. -/
theorem Module.Printable.pieces {m : Module} (h : m.Printable) : Piece.AllPrintable m.pieces := by
  refine allPrintable_clausePieces_iff.2 ?_
  simp only [allPrintable_append_iff]
  refine ⟨allPrintable_namePieces h.name, allPrintable_flatMap ?_, allPrintable_flatMap ?_⟩
  · intro d member
    exact (h.types d member).pieces
  · intro f member
    exact (h.funcs f member).pieces

end WasmText
