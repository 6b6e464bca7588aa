import WasmText.Parse.Signature

/-!
# Fields of a module

    typedef   ::= ( type name? ( func funcsig ) )
    func      ::= ( func name? funcsig local* instr* )
                | ( func name? ( export string ) funcsig local* instr* )
                | ( func name? ( import string string ) funcsig )

The readers here begin after the keyword of the field. Which reader follows which keyword is said by
a table, and can be changed there.

## What is proved

* `FieldTable.find?_register`: the last rule that was registered for a kind is the one that is
  found.
-/

namespace WasmText

namespace Parse

/-- An instruction, if there is one; there are none yet. -/
def instruction : Parse (Option Instruction) :=
  return none

/-- The instructions of a body: none, as long as there is no instruction to read. -/
def instructions : Parse (List Instruction) :=
  return (← instruction).toList

/-- The rest of a type definition. -/
def typeDef : Parse TypeDef := do
  let name ← optionalName
  let _ ← expect .leftParen
  let _ ← expect (.keyword .func)
  let signature ← signature
  let _ ← expect .rightParen
  let _ ← expect .rightParen
  return ⟨name, signature⟩

/-- The rest of a function of another module, after the keyword of the import. -/
def imported (name : Option String) : Parse Func := do
  let module ← string
  let importName ← string
  let _ ← expect .rightParen
  let signature ← signature
  let _ ← expect .rightParen
  return ⟨name, signature, .imported ⟨module, importName⟩⟩

/-- The name by which a function is known to the outside, if there is one. -/
def optionalExport : Parse (Option String) := do
  if ← matchKinds [.leftParen, .keyword .export_] then
    let name ← string
    let _ ← expect .rightParen
    return some name
  else
    return none

/-- The rest of a function that has a body. -/
def defined (name exportName : Option String) : Parse Func := do
  let signature ← signature
  let locals ← locals
  let instructions ← instructions
  let _ ← expect .rightParen
  return ⟨name, signature, .defined exportName ⟨locals, instructions⟩⟩

/-- The rest of a function. -/
def func : Parse Func := do
  let name ← optionalName
  if ← matchKinds [.leftParen, .keyword .import_] then
    imported name
  else
    let exportName ← optionalExport
    defined name exportName

end Parse

/-- What the tokens after the keyword of a field are read as. -/
inductive FieldRule where
  /-- A type definition. -/
  | typeDef
  /-- A function. -/
  | func
  deriving DecidableEq

/-- The reader of a rule. -/
def FieldRule.parse : FieldRule → Parse Field
  | .typeDef => return .typeDef (← Parse.typeDef)
  | .func => return .func (← Parse.func)

/-- Which kind of token after an opening parenthesis begins which field. A kind occurs at most
once. -/
structure FieldTable where
  /-- The kinds with their rules. -/
  entries : List (Kind × FieldRule) := []
  deriving DecidableEq

namespace FieldTable

/-- The table without rules. -/
def empty : FieldTable := {}

/-- The rule for a kind. -/
def find? (table : FieldTable) (kind : Kind) : Option FieldRule :=
  table.entries.lookup kind

/-- Registers a rule for a kind, in the place of an earlier one. -/
def register (table : FieldTable) (kind : Kind) (rule : FieldRule) : FieldTable :=
  ⟨(kind, rule) :: table.entries.filter fun entry => entry.1 ≠ kind⟩

/-- Registers the rules of the text format. -/
def registerStandard (table : FieldTable) : FieldTable :=
  (table.register (.keyword .type) .typeDef).register (.keyword .func) .func

/-- The rules of the text format. -/
def standard : FieldTable := empty.registerStandard

/-- The labels of the kinds that have a rule, in alphabetical order. -/
def labels (table : FieldTable) : List String :=
  (table.entries.map fun entry => entry.1.label).mergeSort fun a b => a ≤ b

theorem lookup_filter_ne {kind kind' : Kind} (h : kind' ≠ kind)
    (entries : List (Kind × FieldRule)) :
    (entries.filter fun entry => entry.1 ≠ kind).lookup kind' = entries.lookup kind' := by
  induction entries with
  | nil => rfl
  | cons entry entries ih =>
    obtain ⟨key, rule⟩ := entry
    by_cases same : key = kind
    · subst same
      rw [List.filter_cons_of_neg (by simp), ih, List.lookup_cons, beq_false_of_ne h]
    · rw [List.filter_cons_of_pos (by simpa using same), List.lookup_cons, List.lookup_cons, ih]

theorem find?_register (table : FieldTable) (kind kind' : Kind) (rule : FieldRule) :
    (table.register kind rule).find? kind' =
      if kind' = kind then some rule else table.find? kind' := by
  unfold register find?
  by_cases same : kind' = kind
  · simp [same]
  · rw [List.lookup_cons, lookup_filter_ne same, if_neg same, beq_false_of_ne same]

end FieldTable

end WasmText
