import WasmText.Parse.Basic
import WasmText.Text.Unquote

/-!
# Names, references and signatures

    var       ::= name | number
    funcsig   ::= ( type var ) | param* result*
    param     ::= ( param type* ) | ( param name type )
    result    ::= ( result type )
    local     ::= ( local type* ) | ( local name type )

A number is a reference only if it is written with decimal digits alone and fits in 32 bits. A local
with a name ends the list of locals, and is then all of it.
-/

namespace WasmText

/-- A name as it is declared: without the dollar sign in front. -/
def Token.declaredName (t : Token) : String :=
  match t.text.toList with
  | '$' :: chars => String.ofList chars
  | _ => t.text

/-- The value of decimal digits. -/
def decimalValue (digits : List Char) : Nat :=
  digits.foldl (fun value c => 10 * value + (c.toNat - '0'.toNat)) 0

/-- The index that a text spells in decimal digits, if it fits in a word. -/
def index? (text : String) : Option UInt32 :=
  if text ≠ "" ∧ text.toList.all Char.isDigit ∧ decimalValue text.toList < UInt32.size then
    some (decimalValue text.toList).toUInt32
  else none

namespace Parse

/-- A name, if there is one. -/
def optionalName : Parse (Option String) :=
  return (← accept [.name]).map Token.declaredName

/-- A reference to a declaration. -/
def reference : Parse Variable := do
  let t ← expectOneOf [.name, .number]
  if t.kind = .name then return .name t.declaredName
  match index? t.text with
  | some n => return .index n
  | none => throw ⟨.malformedIndex t.text, t.span.start⟩

/-- The text that a string spells. -/
def string : Parse String := do
  let t ← expect .string
  match Text.unquote? t.text with
  | some s => return s
  | none => throw ⟨.malformedString t.text, t.span.start⟩

/-- The rest of a clause for parameters or locals, after its keyword. -/
def declaration : Parse Declaration := do
  match ← accept [.name] with
  | some name =>
    let type ← expectValueType
    let _ ← expect .rightParen
    return .named name.declaredName type
  | none =>
    let types ← valueTypes
    let _ ← expect .rightParen
    return .unnamed types

/-- The rest of a clause for a result, after its keyword. -/
def result : Parse ValueType := do
  let type ← expectValueType
  let _ ← expect .rightParen
  return type

/-- The clauses for the parameters. -/
def params : Parse (List Declaration) :=
  clauses [.leftParen, .keyword .param] declaration fun _ => false

/-- The clauses for the results. -/
def results : Parse (List ValueType) :=
  clauses [.leftParen, .keyword .result] result fun _ => false

end Parse

/-- The locals that clauses declare. One with a name stands for all of them. -/
def Local.ofDeclarations (clauses : List Declaration) : List Local :=
  match clauses.getLast? with
  | some (.named name type) => [⟨some name, type⟩]
  | _ => (clauses.flatMap Declaration.types).map fun type => ⟨none, type⟩

namespace Parse

/-- The locals, up to the first one with a name. -/
def locals : Parse (List Local) :=
  return Local.ofDeclarations
    (← clauses [.leftParen, .keyword .local_] declaration fun clause => clause.name?.isSome)

/-- What a function takes and gives. -/
def signature : Parse Signature := do
  if ← matchKinds [.leftParen, .keyword .type] then
    let type ← reference
    let _ ← expect .rightParen
    return .typeRef type
  else
    let params ← params
    let results ← results
    return .explicit params results

end Parse

end WasmText
