import WasmText.Token.Kind

/-!
# Modules

What a source says: a module with type definitions and functions, in the order in which they are
declared, since references by index count in that order. A function is defined in the module or
imported into it. The bodies of functions hold their locals; instructions are not read yet.
-/

namespace WasmText

/-- The types of values. -/
inductive ValueType where
  | i32 | i64 | f32 | f64
  deriving DecidableEq

namespace ValueType

/-- The keyword of a value type. -/
def keyword : ValueType → Keyword
  | .i32 => .i32 | .i64 => .i64 | .f32 => .f32 | .f64 => .f64

/-- The text of a value type. -/
def spelling (t : ValueType) : String := t.keyword.spelling

/-- The value type that a token of a kind names. -/
def ofKind? : Kind → Option ValueType
  | .keyword .i32 => some .i32
  | .keyword .i64 => some .i64
  | .keyword .f32 => some .f32
  | .keyword .f64 => some .f64
  | _ => none

theorem ofKind?_eq_some_iff {k : Kind} {t : ValueType} :
    ofKind? k = some t ↔ k = .keyword t.keyword := by
  constructor
  · intro h
    unfold ofKind? at h
    split at h <;> cases h <;> rfl
  · rintro rfl
    cases t <;> rfl

/-- The kinds that name a value type, in the order in which messages list them. -/
def kinds : List Kind := [.keyword .f32, .keyword .f64, .keyword .i32, .keyword .i64]

end ValueType

/-- A reference to a declaration. -/
inductive Variable where
  /-- By the number of declarations before it. -/
  | index (n : UInt32)
  /-- By its name, without the dollar sign. -/
  | name (name : String)
  deriving DecidableEq

/-- A clause that declares parameters or locals. -/
inductive Declaration where
  /-- One value with a name. -/
  | named (name : String) (type : ValueType)
  /-- Any number of values without names. -/
  | unnamed (types : List ValueType)
  deriving DecidableEq

namespace Declaration

/-- The name in a clause. -/
def name? : Declaration → Option String
  | .named name _ => some name
  | .unnamed _ => none

/-- The types in a clause. -/
def types : Declaration → List ValueType
  | .named _ type => [type]
  | .unnamed types => types

end Declaration

/-- What a function takes and gives. -/
inductive Signature where
  /-- As a type definition says. -/
  | typeRef (type : Variable)
  /-- As the clauses of the function say. -/
  | explicit (params : List Declaration) (results : List ValueType)
  deriving DecidableEq

/-- The signature of a function that takes and gives nothing. -/
def Signature.empty : Signature := .explicit [] []

/-- A variable of a function body. -/
structure Local where
  /-- Its name, without the dollar sign. -/
  name : Option String
  /-- The type of its values. -/
  type : ValueType
  deriving DecidableEq

/-- An instruction of a function body; there is nothing to tell instructions apart yet. -/
structure Instruction where
  deriving DecidableEq

/-- What a function does. -/
structure Body where
  /-- The variables of the body. -/
  locals : List Local := []
  /-- The instructions of the body. -/
  instructions : List Instruction := []
  deriving DecidableEq

/-- A function of another module: the name of the module and the name of the function there. -/
structure Import where
  /-- The name of the module. -/
  module : String
  /-- The name of the function in that module. -/
  name : String
  deriving DecidableEq

/-- Where the body of a function comes from. -/
inductive Provision where
  /-- From here; the function may be known to the outside by a name. -/
  | defined (exportName : Option String) (body : Body)
  /-- From another module. -/
  | imported (source : Import)
  deriving DecidableEq

/-- A function of a module. -/
structure Func where
  /-- Its name, without the dollar sign. -/
  name : Option String
  /-- What it takes and gives. -/
  signature : Signature
  /-- Where its body comes from. -/
  provision : Provision
  deriving DecidableEq

namespace Func

/-- The locals of a function; a function of another module has none. -/
def locals (f : Func) : List Local :=
  match f.provision with
  | .defined _ body => body.locals
  | .imported _ => []

/-- The name by which a function is known to the outside. -/
def exportName? (f : Func) : Option String :=
  match f.provision with
  | .defined exportName _ => exportName
  | .imported _ => none

/-- The function of another module that a function is. -/
def import? (f : Func) : Option Import :=
  match f.provision with
  | .defined _ _ => none
  | .imported source => some source

end Func

/-- A signature that functions can refer to. -/
structure TypeDef where
  /-- Its name, without the dollar sign. -/
  name : Option String
  /-- The signature. -/
  signature : Signature
  deriving DecidableEq

/-- A field of a module. -/
inductive Field where
  /-- A type definition. -/
  | typeDef (d : TypeDef)
  /-- A function. -/
  | func (f : Func)
  deriving DecidableEq

namespace Field

/-- The type definition that a field is. -/
def typeDef? : Field → Option TypeDef
  | .typeDef d => some d
  | .func _ => none

/-- The function that a field is. -/
def func? : Field → Option Func
  | .typeDef _ => none
  | .func f => some f

end Field

/-- A module. -/
structure Module where
  /-- Its name, without the dollar sign. -/
  name : Option String := none
  /-- Its type definitions. -/
  types : List TypeDef := []
  /-- Its functions. -/
  funcs : List Func := []
  deriving DecidableEq

namespace Module

/-- A module without a name and without fields. -/
def empty : Module := {}

/-- The module with these fields. Type definitions keep their order, and so do functions. -/
def ofFields (name : Option String) (fields : List Field) : Module :=
  ⟨name, fields.filterMap Field.typeDef?, fields.filterMap Field.func?⟩

end Module

end WasmText
