import WasmText.Token.Keyword

/-!
# Kinds of tokens

A token is a mark of punctuation, a literal, the sign of an operator, a keyword, or the error that
ended the source. Kinds fall into categories, and have labels by which messages call them.

## What is proved

* `Mark.ofChar?_eq_some_iff`: a character is read as a mark exactly if it is its character.
* `Kind.mem_all`: the list of all kinds leaves none out.
-/

namespace WasmText

/-- The characters that are tokens by themselves. -/
inductive Mark where
  | dot | equal | leftParen | rightParen | slash | underscore
  deriving DecidableEq

namespace Mark

/-- The character of a mark. -/
def char : Mark → Char
  | .dot => '.' | .equal => '=' | .leftParen => '(' | .rightParen => ')' | .slash => '/'
  | .underscore => '_'

/-- Every mark once. -/
def all : List Mark := [.dot, .equal, .leftParen, .rightParen, .slash, .underscore]

/-- The mark that a character stands for. -/
def ofChar? (c : Char) : Option Mark :=
  all.find? fun m => m.char == c

theorem ofChar?_char (m : Mark) : ofChar? m.char = some m := by
  cases m <;> rfl

theorem ofChar?_eq_some_iff {c : Char} {m : Mark} : ofChar? c = some m ↔ m.char = c := by
  constructor
  · intro h
    simpa using List.find?_some h
  · rintro rfl
    exact ofChar?_char m

/-- The name of a mark in messages. -/
def label : Mark → String
  | .dot => "Dot" | .equal => "Equal" | .leftParen => "LParen" | .rightParen => "RParen"
  | .slash => "Slash" | .underscore => "Underscore"

end Mark

/-- The two readings of an integer operator's operands. -/
inductive Sign where
  | signed | unsigned
  deriving DecidableEq

namespace Sign

/-- The letter that ends an operator of this sign. -/
def letter : Sign → Char
  | .signed => 's' | .unsigned => 'u'

/-- The name of a sign in messages. -/
def label : Sign → String
  | .signed => "S" | .unsigned => "U"

end Sign

/-- Coarse groups of kinds. -/
inductive Category where
  | error | structural | literal | valueType | elemType | unaryOp | binaryOp | relOp | sign
  | conversionOp | memoryArg | blockInstr | op | keyword
  deriving DecidableEq

/-- The name of a category. -/
def Category.label : Category → String
  | .error => "Error" | .structural => "Structural" | .literal => "Literal"
  | .valueType => "ValueType" | .elemType => "ElemType" | .unaryOp => "UnaryOp"
  | .binaryOp => "BinaryOp" | .relOp => "RelOp" | .sign => "Sign"
  | .conversionOp => "ConversionOp" | .memoryArg => "MemoryArg" | .blockInstr => "BlockInstr"
  | .op => "Op" | .keyword => "Keyword"

/-- The group of a keyword. -/
def Keyword.category : Keyword → Category
  | .i32 | .i64 | .f32 | .f64 => .valueType
  | .anyfunc => .elemType
  | .clz | .ctz | .eqz | .popcnt => .unaryOp
  | .add | .and | .div | .mul | .or | .rem | .rotl | .rotr | .shl | .shr | .sub | .xor => .binaryOp
  | .eq | .ge | .gt | .le | .lt | .ne => .relOp
  | .convert | .demote | .extend | .promote | .reinterpret | .trunc => .conversionOp
  | .align | .offset => .memoryArg
  | .block | .if_ | .loop => .blockInstr
  | .brIf | .brTable | .call | .callIndirect | .const | .currentMemory | .drop | .getGlobal
  | .getLocal | .growMemory | .load | .nop | .return_ | .select | .setGlobal | .setLocal | .store
  | .teeLocal | .unreachable => .op
  | .else_ | .end_ | .then_ | .mut_ | .data | .elem | .export_ | .func | .global | .import_
  | .local_ | .memory | .module_ | .param | .result | .start | .table | .type => .keyword

/-- The kinds of tokens. -/
inductive Kind where
  /-- The end of a source that could not be read further. -/
  | error
  /-- A mark of punctuation. -/
  | mark (m : Mark)
  /-- A name, written with a leading dollar sign. -/
  | name
  /-- A number, kept as it was written. -/
  | number
  /-- A string between double quotes. -/
  | string
  /-- The sign that ends an operator. -/
  | sign (s : Sign)
  /-- A keyword. -/
  | keyword (k : Keyword)
  deriving DecidableEq

namespace Kind

/-- The kind of an opening parenthesis. -/
@[match_pattern] abbrev leftParen : Kind := .mark .leftParen

/-- The kind of a closing parenthesis. -/
@[match_pattern] abbrev rightParen : Kind := .mark .rightParen

/-- The name of a kind in messages. -/
def label : Kind → String
  | .error => "Error"
  | .mark m => m.label
  | .name => "Name"
  | .number => "Number"
  | .string => "String"
  | .sign s => s.label
  | .keyword k => k.label

/-- The group of a kind. -/
def category : Kind → Category
  | .error => .error
  | .mark _ => .structural
  | .name | .number | .string => .literal
  | .sign _ => .sign
  | .keyword k => k.category

/-- Every kind once. -/
def all : List Kind :=
  .error :: Mark.all.map .mark ++ [.name, .number, .string, .sign .signed, .sign .unsigned] ++
    Keyword.all.map .keyword

theorem mem_all (k : Kind) : k ∈ all := by
  rcases k with _ | m | _ | _ | _ | s | k
  case mark => cases m <;> simp [all, Mark.all]
  case sign => cases s <;> simp [all]
  case keyword => simp [all, Keyword.mem_all]
  all_goals simp [all]

/-- The kind that a label names. -/
def ofLabel? (label : String) : Option Kind :=
  all.find? fun k => k.label == label

/-- Whether a kind is one of the value types. -/
def isValueType (k : Kind) : Bool :=
  k.category == .valueType

/-- Whether a token of this kind can refer to a declaration. -/
def isVar : Kind → Bool
  | .name | .number => true
  | _ => false

end Kind

end WasmText
