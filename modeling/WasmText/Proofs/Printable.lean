import WasmText.Proofs.Cutting
import WasmText.Proofs.Grammar

/-!
# Printable modules

The modules that sources can say. Their names are names of the text format, their bodies hold no
instructions, and the locals of a function are without names or are a single one. Names of imports
and exports are any texts.

## What is proved

* `namesSpelled_of_tokenize`: the names among the tokens of a source are spelled as names.
* `printable_of_isModule`: the grammar derives only printable modules from such tokens.
-/

namespace WasmText

open Lexeme

/-- A name of the text format, without its dollar sign. -/
def IsName (x : String) : Prop :=
  x ≠ "" ∧ IsRun isNameChar x.toList

/-- A reference by a name that is one. -/
def Variable.Printable : Variable → Prop
  | .index _ => True
  | .name x => IsName x

/-- A clause whose name, if it has one, is a name. -/
def Declaration.Printable (d : Declaration) : Prop :=
  ∀ x ∈ d.name?, IsName x

/-- A signature whose names are names. -/
def Signature.Printable : Signature → Prop
  | .typeRef v => v.Printable
  | .explicit params _ => ∀ p ∈ params, p.Printable

/-- Locals that are all without names, or a single one with a name. -/
def Local.AllPrintable (locals : List Local) : Prop :=
  (∀ l ∈ locals, l.name = none) ∨ ∃ x type, locals = [⟨some x, type⟩] ∧ IsName x

/-- A body with printable locals and without instructions. -/
structure Body.Printable (body : Body) : Prop where
  locals : Local.AllPrintable body.locals
  instructions : body.instructions = []

/-- A function of another module, or one with a printable body. -/
def Provision.Printable : Provision → Prop
  | .defined _ body => body.Printable
  | .imported _ => True

/-- A function with a printable signature and a printable body. -/
structure Func.Printable (f : Func) : Prop where
  name : ∀ x ∈ f.name, IsName x
  signature : f.signature.Printable
  provision : f.provision.Printable

/-- A type definition with a printable signature. -/
structure TypeDef.Printable (d : TypeDef) : Prop where
  name : ∀ x ∈ d.name, IsName x
  signature : d.signature.Printable

/-- A module of printable type definitions and functions. -/
structure Module.Printable (m : Module) : Prop where
  name : ∀ x ∈ m.name, IsName x
  types : ∀ d ∈ m.types, d.Printable
  funcs : ∀ f ∈ m.funcs, f.Printable

/-! ### The names of a source -/

/-- Tokens of which each name is spelled as a name. -/
def NamesSpelled (ts : List Token) : Prop :=
  ∀ t ∈ ts, t.kind = .name → ∃ x, IsName x ∧ t.text.toList = '$' :: x.toList

theorem namesSpelled_append_iff {ts us : List Token} :
    NamesSpelled (ts ++ us) ↔ NamesSpelled ts ∧ NamesSpelled us :=
  List.forall_mem_append

theorem namesSpelled_cons_iff {t : Token} {ts : List Token} :
    NamesSpelled (t :: ts) ↔
      (t.kind = .name → ∃ x, IsName x ∧ t.text.toList = '$' :: x.toList) ∧ NamesSpelled ts :=
  List.forall_mem_cons

theorem name_of_mem_pieces {l : Lexeme} {rest text : List Char} (stands : l.Stands rest)
    (member : (Kind.name, text) ∈ l.pieces) : ∃ x, IsName x ∧ text = '$' :: x.toList := by
  cases stands with
  | @name chars _ nonempty run =>
    obtain rfl : text = '$' :: chars := by simpa [pieces] using member
    refine ⟨String.ofList chars, ⟨?_, ?_⟩, by rw [String.toList_ofList]⟩
    · intro empty
      exact nonempty (by simpa using congrArg String.toList empty)
    · rw [String.toList_ofList]
      exact run
  | _ => simp [pieces] at member

theorem Cut.Spells.namesSpelled {cut : Cut} {cs : List Char} (h : cut.Spells cs) (file : String)
    (offset : Nat) : NamesSpelled (cut.place file offset).tokens := by
  induction h generalizing offset with
  | finished => simp [Cut.place, Lexed.finished, NamesSpelled]
  | lexeme _ stands _ ih =>
    refine namesSpelled_append_iff.2 ⟨?_, ih _⟩
    intro t member is_name
    have piece := mem_place member
    rw [is_name] at piece
    exact name_of_mem_pieces stands piece

theorem namesSpelled_of_tokenize {source file : String} {tokens : List Token}
    (h : tokenize source file = .ok tokens) : NamesSpelled tokens := by
  obtain ⟨cut, spelled, rfl⟩ := tokenize_eq_ok_iff_spells.1 h
  exact spelled.namesSpelled file 0

/-! ### What the grammar derives -/

namespace Grammar

theorem isName_of_declares {t : Token} {x : String} (h : NamesSpelled [t])
    (is_name : t.kind = .name) (declares : t.Declares x) : IsName x := by
  obtain ⟨y, name, spelled⟩ := h t (List.mem_singleton_self t) is_name
  rcases declares with text | ⟨rfl, no_dollar⟩
  · obtain ⟨-, same⟩ := List.cons.inj (spelled.symm.trans text)
    rwa [← String.toList_inj.1 same]
  · rw [spelled] at no_dollar
    exact absurd rfl no_dollar

theorem Many.forall_printable {α : Type} {item : List Token → α → Prop} {printable : α → Prop}
    {ts : List Token} {as : List α} (h : Many item ts as) (names : NamesSpelled ts)
    (each : ∀ us a, item us a → NamesSpelled us → printable a) : ∀ a ∈ as, printable a := by
  induction h with
  | nil => simp
  | cons said _ ih =>
    obtain ⟨first, others⟩ := namesSpelled_append_iff.1 names
    exact List.forall_mem_cons.2 ⟨each _ _ said first, ih others⟩

theorem Clause.inner {α : Type} {kind : Kind} {item : List Token → α → Prop} {ts : List Token}
    {a : α} (h : Clause kind (Closed item) ts a) (names : NamesSpelled ts) :
    ∃ us, item us a ∧ NamesSpelled us := by
  obtain ⟨-, -, said, -⟩ := h
  refine ⟨_, said, ?_⟩
  have after := (namesSpelled_cons_iff.1 (namesSpelled_cons_iff.1 names).2).2
  exact (namesSpelled_append_iff.1 after).1

theorem IsOptionalName.printable {ts : List Token} {name : Option String}
    (h : IsOptionalName ts name) (names : NamesSpelled ts) : ∀ x ∈ name, IsName x := by
  cases h with
  | absent => simp
  | present is_name declares =>
    rintro x ⟨⟩
    exact isName_of_declares names is_name declares

theorem IsReference.printable {ts : List Token} {v : Variable} (h : IsReference ts v)
    (names : NamesSpelled ts) : v.Printable := by
  cases h with
  | name is_name declares => exact isName_of_declares names is_name declares
  | index => trivial

theorem IsDeclaration.printable {ts : List Token} {d : Declaration} (h : IsDeclaration ts d)
    (names : NamesSpelled ts) : d.Printable := by
  cases h with
  | named is_name declares =>
    rintro x ⟨⟩
    refine isName_of_declares ?_ is_name declares
    exact namesSpelled_cons_iff.2 ⟨(namesSpelled_cons_iff.1 names).1, by simp [NamesSpelled]⟩
  | unnamed =>
    rintro x ⟨⟩

theorem IsSignature.printable {ts : List Token} {s : Signature} (h : IsSignature ts s)
    (names : NamesSpelled ts) : s.Printable := by
  cases h with
  | typeRef clause =>
    obtain ⟨us, said, inner⟩ := clause.inner names
    exact said.printable inner
  | explicit params =>
    refine params.forall_printable (namesSpelled_append_iff.1 names).1 ?_
    intro us p clause names
    obtain ⟨vs, said, inner⟩ := clause.inner names
    exact said.printable inner

theorem IsLocals.printable {ts : List Token} {locals : List Local} (h : IsLocals ts locals)
    (names : NamesSpelled ts) : Local.AllPrintable locals := by
  cases h with
  | unnamed =>
    refine Or.inl fun l member => ?_
    obtain ⟨type, -, rfl⟩ := List.mem_map.1 member
    rfl
  | named _ clause =>
    obtain ⟨us, said, inner⟩ := clause.inner (namesSpelled_append_iff.1 names).2
    exact Or.inr ⟨_, _, rfl, said.printable inner _ rfl⟩

theorem IsFunc.printable {ts : List Token} {f : Func} (h : IsFunc ts f) (names : NamesSpelled ts) :
    f.Printable := by
  cases h with
  | imported named clause said =>
    simp only [namesSpelled_append_iff] at names
    exact ⟨named.printable names.1, said.printable names.2.2, trivial⟩
  | defined named exported said declared =>
    simp only [namesSpelled_append_iff] at names
    exact ⟨named.printable names.1, said.printable names.2.2.1, declared.printable names.2.2.2, rfl⟩

theorem IsTypeDef.printable {ts : List Token} {d : TypeDef} (h : IsTypeDef ts d)
    (names : NamesSpelled ts) : d.Printable := by
  obtain ⟨named, clause⟩ := h
  obtain ⟨first, second⟩ := namesSpelled_append_iff.1 names
  obtain ⟨us, said, inner⟩ := clause.inner second
  exact ⟨named.printable first, said.printable inner⟩

/-- A field with a printable type definition or a printable function. -/
def FieldPrintable (f : Field) : Prop :=
  (∀ d ∈ f.typeDef?, d.Printable) ∧ ∀ g ∈ f.func?, g.Printable

theorem IsField.printable {ts : List Token} {f : Field} (h : IsField ts f)
    (names : NamesSpelled ts) : FieldPrintable f := by
  cases h with
  | typeDef clause =>
    obtain ⟨us, said, inner⟩ := clause.inner names
    refine ⟨?_, by simp [Field.func?]⟩
    rintro d ⟨⟩
    exact said.printable inner
  | func clause =>
    obtain ⟨us, said, inner⟩ := clause.inner names
    refine ⟨by simp [Field.typeDef?], ?_⟩
    rintro g ⟨⟩
    exact said.printable inner

/-- The grammar derives only printable modules, if the names are spelled as names. -/
theorem printable_of_isModule {ts : List Token} {m : Module} (h : IsModule ts m)
    (names : NamesSpelled ts) : m.Printable := by
  obtain ⟨us, ⟨named, many⟩, inner⟩ := Clause.inner h names
  obtain ⟨first, second⟩ := namesSpelled_append_iff.1 inner
  have fields := many.forall_printable second fun _ _ said => said.printable
  refine ⟨named.printable first, ?_, ?_⟩
  · intro d member
    obtain ⟨f, inside, is_typeDef⟩ := List.mem_filterMap.1 member
    exact (fields f inside).1 d is_typeDef
  · intro g member
    obtain ⟨f, inside, is_func⟩ := List.mem_filterMap.1 member
    exact (fields f inside).2 g is_func

end Grammar

end WasmText
