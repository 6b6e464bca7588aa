/-!
# Keywords

The reserved words of the text format. A keyword is written in lower case, its words joined by
underscores; its label, which messages use, joins the same words with a capital each.

## What is proved

* `mem_all`: the list of all keywords leaves none out.
* `ofSpelling?_spelling`, `ofSpelling?_eq_some_iff`: a word is read as a keyword exactly if it is
  its spelling.
-/

namespace WasmText

/-- The reserved words, group by group. -/
inductive Keyword where
  -- Value types
  | i32 | i64 | f32 | f64
  -- Element types
  | anyfunc
  -- Unary operators
  | clz | ctz | eqz | popcnt
  -- Binary operators
  | add | and | div | mul | or | rem | rotl | rotr | shl | shr | sub | xor
  -- Comparisons
  | eq | ge | gt | le | lt | ne
  -- Conversions
  | convert | demote | extend | promote | reinterpret | trunc
  -- Memory arguments
  | align | offset
  -- Block instructions
  | block | if_ | loop
  -- Plain instructions
  | brIf | brTable | call | callIndirect | const | currentMemory | drop | getGlobal | getLocal
  | growMemory | load | nop | return_ | select | setGlobal | setLocal | store | teeLocal
  | unreachable
  -- Structure of modules and bodies
  | else_ | end_ | then_ | mut_ | data | elem | export_ | func | global | import_ | local_
  | memory | module_ | param | result | start | table | type
  deriving DecidableEq

namespace Keyword

/-- The text of a keyword in a source. -/
def spelling : Keyword → String
  | .i32 => "i32" | .i64 => "i64" | .f32 => "f32" | .f64 => "f64"
  | .anyfunc => "anyfunc"
  | .clz => "clz" | .ctz => "ctz" | .eqz => "eqz" | .popcnt => "popcnt"
  | .add => "add" | .and => "and" | .div => "div" | .mul => "mul" | .or => "or" | .rem => "rem"
  | .rotl => "rotl" | .rotr => "rotr" | .shl => "shl" | .shr => "shr" | .sub => "sub"
  | .xor => "xor" | .eq => "eq" | .ge => "ge" | .gt => "gt" | .le => "le" | .lt => "lt"
  | .ne => "ne" | .convert => "convert" | .demote => "demote" | .extend => "extend"
  | .promote => "promote" | .reinterpret => "reinterpret" | .trunc => "trunc" | .align => "align"
  | .offset => "offset" | .block => "block" | .if_ => "if" | .loop => "loop" | .brIf => "br_if"
  | .brTable => "br_table" | .call => "call" | .callIndirect => "call_indirect"
  | .const => "const" | .currentMemory => "current_memory" | .drop => "drop"
  | .getGlobal => "get_global" | .getLocal => "get_local" | .growMemory => "grow_memory"
  | .load => "load" | .nop => "nop" | .return_ => "return" | .select => "select"
  | .setGlobal => "set_global" | .setLocal => "set_local" | .store => "store"
  | .teeLocal => "tee_local" | .unreachable => "unreachable" | .else_ => "else" | .end_ => "end"
  | .then_ => "then" | .mut_ => "mut" | .data => "data" | .elem => "elem" | .export_ => "export"
  | .func => "func" | .global => "global" | .import_ => "import" | .local_ => "local"
  | .memory => "memory" | .module_ => "module" | .param => "param" | .result => "result"
  | .start => "start" | .table => "table" | .type => "type"

/-- Every keyword once. -/
def all : List Keyword :=
  [.i32, .i64, .f32, .f64, .anyfunc, .clz, .ctz, .eqz, .popcnt, .add, .and, .div, .mul, .or, .rem,
   .rotl, .rotr, .shl, .shr, .sub, .xor, .eq, .ge, .gt, .le, .lt, .ne, .convert, .demote, .extend,
   .promote, .reinterpret, .trunc, .align, .offset, .block, .if_, .loop, .brIf, .brTable, .call,
   .callIndirect, .const, .currentMemory, .drop, .getGlobal, .getLocal, .growMemory, .load, .nop,
   .return_, .select, .setGlobal, .setLocal, .store, .teeLocal, .unreachable, .else_, .end_,
   .then_, .mut_, .data, .elem, .export_, .func, .global, .import_, .local_, .memory, .module_,
   .param, .result, .start, .table, .type]

theorem mem_all (k : Keyword) : k ∈ all := by
  cases k <;> decide

/-- The keyword that a word spells. -/
def ofSpelling? (word : String) : Option Keyword :=
  all.find? fun k => k.spelling == word

theorem ofSpelling?_spelling (k : Keyword) : ofSpelling? k.spelling = some k := by
  have spelled : ∀ k ∈ all, ofSpelling? k.spelling = some k := by decide +kernel
  exact spelled k (mem_all k)

theorem ofSpelling?_eq_some_iff {word : String} {k : Keyword} :
    ofSpelling? word = some k ↔ k.spelling = word := by
  constructor
  · intro h
    simpa using List.find?_some h
  · rintro rfl
    exact ofSpelling?_spelling k

/-- Joins the words between underscores, giving a capital to the letter after each and to the first
if `atStart`. -/
def joinCapitalised (atStart : Bool) : List Char → List Char
  | [] => []
  | c :: cs =>
    if c = '_' then joinCapitalised true cs
    else (if atStart then c.toUpper else c) :: joinCapitalised false cs

/-- The name of a keyword in messages. -/
def label (k : Keyword) : String :=
  String.ofList (joinCapitalised true k.spelling.toList)

end Keyword

end WasmText
