import Mathlib.Data.Nat.Digits.Defs
import WasmText.Parse.Module

/-!
# The grammar of modules

The grammar of the text format, as relations between rows of tokens and what they say:

    module    ::= ( module name? field* )
    field     ::= ( type name? ( func funcsig ) )
                | ( func name? ( import string string ) funcsig )
                | ( func name? ( export string )? funcsig locals )
    funcsig   ::= ( type var ) | param* result*
    param     ::= ( param name valtype ) | ( param valtype* )
    result    ::= ( result valtype )
    locals    ::= ( local valtype* )* ( local name valtype )?
    var       ::= name | number

The relations know neither a cursor nor an order in which alternatives are tried: a row of tokens
says whatever some way of dividing it says. Kinds decide, but for the texts of names, numbers and
strings; places never matter.

## What is proved

* `declaredName_eq_iff`, `index?_eq_some_iff`: what names and numbers are read as is what the
  grammar says.
-/

namespace WasmText

/-- What a token declares if it is a name: its text after the dollar sign, or all of it if there is
no dollar sign. -/
def Token.Declares (t : Token) (x : String) : Prop :=
  t.text.toList = '$' :: x.toList ∨ t.text = x ∧ x.toList.head? ≠ some '$'

/-- A text of decimal digits, at least one of them, whose value in base ten is `n`. -/
def IsNumeral (text : String) (n : Nat) : Prop :=
  text ≠ "" ∧ (∀ c ∈ text.toList, c.isDigit = true) ∧
    Nat.ofDigits 10 (text.toList.reverse.map fun c => c.toNat - '0'.toNat) = n

theorem declaredName_eq_iff {t : Token} {x : String} : t.declaredName = x ↔ t.Declares x := by
  unfold Token.declaredName Token.Declares
  split
  · rename_i chars text_eq
    constructor
    · rintro rfl
      exact Or.inl (by rw [text_eq, String.toList_ofList])
    · intro h
      rcases h with h | ⟨rfl, h⟩
      · rw [text_eq, List.cons.injEq] at h
        rw [h.2, String.ofList_toList]
      · exact absurd (by rw [text_eq]; rfl) h
  · rename_i no_dollar
    constructor
    · rintro rfl
      refine Or.inr ⟨rfl, fun h => ?_⟩
      obtain ⟨chars, text_eq⟩ := List.head?_eq_some_iff.1 h
      exact no_dollar chars text_eq
    · intro h
      rcases h with h | ⟨rfl, -⟩
      · exact absurd h (no_dollar x.toList)
      · rfl

theorem decimalValue_eq_ofDigits (cs : List Char) :
    decimalValue cs = Nat.ofDigits 10 (cs.reverse.map fun c => c.toNat - '0'.toNat) := by
  rw [Nat.ofDigits_eq_foldr, List.foldr_map, List.foldr_reverse]
  simp only [decimalValue, Nat.cast_id, Nat.add_comm]

theorem index?_eq_some_iff {text : String} {n : UInt32} :
    index? text = some n ↔ IsNumeral text n.toNat := by
  unfold index? IsNumeral
  simp only [List.all_eq_true, ← decimalValue_eq_ofDigits]
  constructor
  · intro h
    split at h
    · rename_i spelled
      cases h
      refine ⟨spelled.1, spelled.2.1, ?_⟩
      rw [Nat.toUInt32, UInt32.toNat_ofNat_of_lt' spelled.2.2]
    · cases h
  · intro h
    obtain ⟨nonempty, digits, value⟩ := h
    have fits : decimalValue text.toList < UInt32.size := value ▸ n.toNat_lt_size
    rw [if_pos ⟨nonempty, digits, fits⟩, value, Nat.toUInt32, UInt32.ofNat_toNat]

namespace Grammar

/-- Rows of tokens one after the other, each of which says an item. -/
inductive Many {α : Type} (item : List Token → α → Prop) : List Token → List α → Prop where
  /-- No item. -/
  | nil : Many item [] []
  /-- An item, and then more. -/
  | cons {ts us : List Token} {a : α} {as : List α} :
      item ts a → Many item us as → Many item (ts ++ us) (a :: as)

theorem Many.append {α : Type} {item : List Token → α → Prop} {ts us : List Token} {as bs : List α}
    (first : Many item ts as) (second : Many item us bs) : Many item (ts ++ us) (as ++ bs) := by
  induction first with
  | nil => exact second
  | cons said _ ih =>
    rw [List.append_assoc]
    exact .cons said ih

/-- A clause: an opening parenthesis, a token of a kind, and the rest. -/
inductive Clause {α : Type} (kind : Kind) (rest : List Token → α → Prop) :
    List Token → α → Prop where
  /-- `( kind rest`. -/
  | intro {o k : Token} {ts : List Token} {a : α} :
      o.kind = .leftParen → k.kind = kind → rest ts a → Clause kind rest (o :: k :: ts) a

/-- Tokens with a closing parenthesis after them. -/
inductive Closed {α : Type} (item : List Token → α → Prop) : List Token → α → Prop where
  /-- `item )`. -/
  | intro {ts : List Token} {close : Token} {a : α} :
      item ts a → close.kind = .rightParen → Closed item (ts ++ [close]) a

/-- A name, or nothing. -/
inductive IsOptionalName : List Token → Option String → Prop where
  /-- No name. -/
  | absent : IsOptionalName [] none
  /-- A name. -/
  | present {t : Token} {x : String} :
      t.kind = .name → t.Declares x → IsOptionalName [t] (some x)

/-- A reference to a declaration. -/
inductive IsReference : List Token → Variable → Prop where
  /-- By name. -/
  | name {t : Token} {x : String} : t.kind = .name → t.Declares x → IsReference [t] (.name x)
  /-- By an index, which is a number in decimal digits that fits in a word. -/
  | index {t : Token} {n : UInt32} :
      t.kind = .number → IsNumeral t.text n.toNat → IsReference [t] (.index n)

/-- A value type. -/
inductive IsValueType : List Token → ValueType → Prop where
  /-- The keyword of the type. -/
  | intro {t : Token} {type : ValueType} :
      t.kind = .keyword type.keyword → IsValueType [t] type

/-- A string, and the text that it spells. -/
inductive IsString : List Token → String → Prop where
  /-- A string whose escapes spell a text. -/
  | intro {t : Token} {s : String} :
      t.kind = .string → Text.unquote? t.text = some s → IsString [t] s

/-- A declaration of parameters or locals, without the parentheses and the keyword. -/
inductive IsDeclaration : List Token → Declaration → Prop where
  /-- `name valtype`. -/
  | named {t : Token} {ts : List Token} {x : String} {type : ValueType} :
      t.kind = .name → t.Declares x → IsValueType ts type → IsDeclaration (t :: ts) (.named x type)
  /-- `valtype*`. -/
  | unnamed {ts : List Token} {types : List ValueType} :
      Many IsValueType ts types → IsDeclaration ts (.unnamed types)

/-- `( param name valtype )` or `( param valtype* )`. -/
def IsParam : List Token → Declaration → Prop :=
  Clause (.keyword .param) (Closed IsDeclaration)

/-- `( result valtype )`. -/
def IsResult : List Token → ValueType → Prop :=
  Clause (.keyword .result) (Closed IsValueType)

/-- `( local name valtype )` or `( local valtype* )`. -/
def IsLocal : List Token → Declaration → Prop :=
  Clause (.keyword .local_) (Closed IsDeclaration)

/-- What a function takes and gives. -/
inductive IsSignature : List Token → Signature → Prop where
  /-- `( type var )`. -/
  | typeRef {ts : List Token} {v : Variable} :
      Clause (.keyword .type) (Closed IsReference) ts v → IsSignature ts (.typeRef v)
  /-- `param* result*`. -/
  | explicit {ts us : List Token} {params : List Declaration} {results : List ValueType} :
      Many IsParam ts params → Many IsResult us results →
        IsSignature (ts ++ us) (.explicit params results)

/-- The locals of a function. A local with a name comes last, and is then all of them. -/
inductive IsLocals : List Token → List Local → Prop where
  /-- `( local valtype* )*`. -/
  | unnamed {ts : List Token} {types : List (List ValueType)} :
      Many (fun us ts => IsLocal us (.unnamed ts)) ts types →
        IsLocals ts (types.flatten.map fun type => ⟨none, type⟩)
  /-- `( local valtype* )* ( local name valtype )`. -/
  | named {ts us : List Token} {types : List (List ValueType)} {x : String} {type : ValueType} :
      Many (fun us ts => IsLocal us (.unnamed ts)) ts types → IsLocal us (.named x type) →
        IsLocals (ts ++ us) [⟨some x, type⟩]

/-- `name? ( func funcsig )`. -/
inductive IsTypeDef : List Token → TypeDef → Prop where
  /-- A name, if there is one, and a signature. -/
  | intro {ts us : List Token} {name : Option String} {s : Signature} :
      IsOptionalName ts name → Clause (.keyword .func) (Closed IsSignature) us s →
        IsTypeDef (ts ++ us) ⟨name, s⟩

/-- `string string`. -/
inductive IsImport : List Token → Import → Prop where
  /-- The name of a module, and the name of a function there. -/
  | intro {ts us : List Token} {m x : String} :
      IsString ts m → IsString us x → IsImport (ts ++ us) ⟨m, x⟩

/-- `( export string )`, or nothing. -/
inductive IsOptionalExport : List Token → Option String → Prop where
  /-- No clause. -/
  | absent : IsOptionalExport [] none
  /-- A clause. -/
  | present {ts : List Token} {x : String} :
      Clause (.keyword .export_) (Closed IsString) ts x → IsOptionalExport ts (some x)

/-- A function, without the parentheses and the keyword. -/
inductive IsFunc : List Token → Func → Prop where
  /-- `name? ( import string string ) funcsig`. -/
  | imported {ts us vs : List Token} {name : Option String} {source : Import} {s : Signature} :
      IsOptionalName ts name → Clause (.keyword .import_) (Closed IsImport) us source →
        IsSignature vs s → IsFunc (ts ++ (us ++ vs)) ⟨name, s, .imported source⟩
  /-- `name? ( export string )? funcsig locals`. -/
  | defined {ts us vs ws : List Token} {name exportName : Option String} {s : Signature}
      {locals : List Local} :
      IsOptionalName ts name → IsOptionalExport us exportName → IsSignature vs s →
        IsLocals ws locals →
        IsFunc (ts ++ (us ++ (vs ++ ws))) ⟨name, s, .defined exportName ⟨locals, []⟩⟩

/-- A field of a module. -/
inductive IsField : List Token → Field → Prop where
  /-- `( type ... )`. -/
  | typeDef {ts : List Token} {d : TypeDef} :
      Clause (.keyword .type) (Closed IsTypeDef) ts d → IsField ts (.typeDef d)
  /-- `( func ... )`. -/
  | func {ts : List Token} {f : Func} :
      Clause (.keyword .func) (Closed IsFunc) ts f → IsField ts (.func f)

/-- `name? field*`. -/
inductive IsBody : List Token → Module → Prop where
  /-- A name, if there is one, and the fields: type definitions in their order, and functions in
  theirs. -/
  | intro {ts us : List Token} {name : Option String} {fields : List Field} :
      IsOptionalName ts name → Many IsField us fields →
        IsBody (ts ++ us) ⟨name, fields.filterMap Field.typeDef?, fields.filterMap Field.func?⟩

/-- `( module name? field* )`. -/
def IsModule : List Token → Module → Prop :=
  Clause (.keyword .module_) (Closed IsBody)

end Grammar

end WasmText
