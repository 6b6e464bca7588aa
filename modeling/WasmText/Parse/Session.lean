import WasmText.Parse.Module

/-!
# Reading step by step

A session holds a cursor over tokens and a table of field rules. Each step asks something of the
cursor, moves it, runs one reader from where it stands, or registers a rule. A step that fails
leaves the cursor where its reader had come to, and the next step goes on from there.
-/

namespace WasmText

/-- A reading that is under way. -/
structure Session where
  /-- The tokens and the place in them. -/
  cursor : TokenCursor
  /-- Which kinds begin which fields of a module. -/
  table : FieldTable
  deriving DecidableEq

namespace Session

/-- The start of a reading, with no field rules yet. -/
def ofTokens (tokens : List Token) (file : String) : Session := ⟨.ofTokens tokens file, .empty⟩

/-- A step that asks about the session and changes nothing. -/
inductive Query where
  /-- The next token. -/
  | current
  /-- The kind of the token after `n` others. -/
  | kindAt (n : Nat)
  /-- The error that none of these kinds comes next. -/
  | unexpected (expected : List Kind)
  /-- The labels of the kinds that begin a field. -/
  | fieldLabels

/-- A step that runs a reader. -/
inductive Reading where
  /-- One token, of whatever kind. -/
  | advance
  /-- Back over `n` tokens. -/
  | rewind (n : Nat)
  /-- Tokens of these kinds in this order, or none at all. -/
  | matchKinds (kinds : List Kind)
  /-- One token of one of these kinds, or none. -/
  | accept (kinds : List Kind)
  /-- One token of a kind. -/
  | expect (kind : Kind)
  /-- One token of one of these kinds. -/
  | expectOneOf (kinds : List Kind)
  /-- A value type, or nothing. -/
  | acceptValueType
  /-- A value type. -/
  | expectValueType
  /-- What a function takes and gives. -/
  | signature
  /-- The clauses for parameters. -/
  | params
  /-- The rest of a clause for parameters, after its keyword. -/
  | param
  /-- The clauses for results. -/
  | results
  /-- The clauses for locals. -/
  | locals
  /-- A reference to a declaration. -/
  | reference
  /-- A name, or nothing. -/
  | optionalName
  /-- An instruction, or nothing. -/
  | instruction
  /-- The instructions of a body. -/
  | instructions
  /-- The rest of a type definition or of a function, after its keyword. -/
  | fieldRest (rule : FieldRule)
  /-- The rest of a field, by the rule for a kind; nothing if the kind has none. -/
  | field (kind : Kind)
  /-- A module, which may be followed by other tokens. -/
  | module

/-- A step that registers field rules. -/
inductive Registration where
  /-- A rule for a kind. -/
  | rule (kind : Kind) (rule : FieldRule)
  /-- The rules of the text format. -/
  | standard

/-- A step of a session. -/
inductive Step where
  /-- Asks about the session. -/
  | query (q : Query)
  /-- Runs a reader. -/
  | reading (r : Reading)
  /-- Registers field rules. -/
  | registration (r : Registration)

/-- What a step answers: nothing, the value that it was asked for or that its reader found, or the
error with which the reader failed. -/
inductive Answer where
  | done
  | flag (b : Bool)
  | token (t : Token)
  | optionalToken (t : Option Token)
  | optionalKind (k : Option Kind)
  | labels (labels : List String)
  | valueType (t : ValueType)
  | optionalValueType (t : Option ValueType)
  | optionalName (name : Option String)
  | signature (s : Signature)
  | params (ps : List Declaration)
  | param (p : Declaration)
  | results (ts : List ValueType)
  | locals (ls : List Local)
  | reference (v : Variable)
  | instruction (i : Option Instruction)
  | instructions (is : List Instruction)
  | field (f : Field)
  | optionalField (f : Option Field)
  | module (m : Module)
  | error (e : Error)

/-- The answer to a question. -/
def answer (s : Session) : Query → Answer
  | .current => .optionalToken s.cursor.current?
  | .kindAt n => .optionalKind (s.cursor.kindAt? n)
  | .unexpected expected => .error (s.cursor.unexpected expected)
  | .fieldLabels => .labels s.table.labels

/-- The reader that a step runs, with a table of field rules. -/
def Reading.parse (table : FieldTable) : Reading → Parse Answer
  | .advance => return .optionalToken (← Parse.advance)
  | .rewind n => do
    Parse.rewind n
    return .done
  | .matchKinds kinds => return .flag (← Parse.matchKinds kinds)
  | .accept kinds => return .optionalToken (← Parse.accept kinds)
  | .expect kind => return .token (← Parse.expect kind)
  | .expectOneOf kinds => return .token (← Parse.expectOneOf kinds)
  | .acceptValueType => return .optionalValueType (← Parse.acceptValueType)
  | .expectValueType => return .valueType (← Parse.expectValueType)
  | .signature => return .signature (← Parse.signature)
  | .params => return .params (← Parse.params)
  | .param => return .param (← Parse.declaration)
  | .results => return .results (← Parse.results)
  | .locals => return .locals (← Parse.locals)
  | .reference => return .reference (← Parse.reference)
  | .optionalName => return .optionalName (← Parse.optionalName)
  | .instruction => return .instruction (← Parse.instruction)
  | .instructions => return .instructions (← Parse.instructions)
  | .fieldRest rule => return .field (← rule.parse)
  | .field kind =>
    match table.find? kind with
    | some rule => return .optionalField (some (← rule.parse))
    | none => return .optionalField none
  | .module => return .module (← Parse.module table)

/-- The table after a registration. -/
def Registration.apply (table : FieldTable) : Registration → FieldTable
  | .rule kind fields => table.register kind fields
  | .standard => table.registerStandard

/-- Takes a step. -/
def perform (s : Session) : Step → Answer × Session
  | .query q => (s.answer q, s)
  | .reading r =>
    match (r.parse s.table).run s.cursor with
    | .ok a cursor => (a, { s with cursor := cursor })
    | .error e cursor => (.error e, { s with cursor := cursor })
  | .registration r => (.done, { s with table := r.apply s.table })

/-- Takes steps one after the other. -/
def performAll (s : Session) (steps : List Step) : Session :=
  steps.foldl (fun s step => (s.perform step).2) s

end Session

end WasmText
