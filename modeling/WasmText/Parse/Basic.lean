import WasmText.Module.Basic
import WasmText.TokenCursor

/-!
# Reading tokens

A reader moves a cursor over tokens and answers with a value, or fails with an error; the cursor
then stays where the reader had come to. Here are the readers of single tokens, and the reader of a
list of clauses, which goes on while the next tokens open another clause.
-/

namespace WasmText

/-- A reader of tokens. -/
abbrev Parse := EStateM Error TokenCursor

namespace Parse

/-- Passes one token, and answers with it. -/
def advance : Parse (Option Token) :=
  modifyGet fun c => (c.current?, c.skip 1)

/-- Moves back over tokens that were passed. -/
def rewind (n : Nat) : Parse Unit :=
  modify fun c => c.rewind n

/-- Passes tokens of these kinds, in this order, or none at all. -/
def matchKinds (kinds : List Kind) : Parse Bool :=
  modifyGet fun c => if c.startsWith kinds then (true, c.skip kinds.length) else (false, c)

/-- Passes one token if it is of one of these kinds, and answers with it. -/
def accept (kinds : List Kind) : Parse (Option Token) :=
  modifyGet fun c =>
    match c.current? with
    | some t => if t.kind ∈ kinds then (some t, c.skip 1) else (none, c)
    | none => (none, c)

/-- Fails at the next token, which is of none of the kinds that can follow. -/
def unexpected {α : Type} (expected : List Kind) : Parse α := do
  throw ((← get).unexpected expected)

/-- Passes one token of one of these kinds. -/
def expectOneOf (kinds : List Kind) : Parse Token := do
  match ← accept kinds with
  | some t => return t
  | none => unexpected kinds

/-- Passes one token of a kind. -/
def expect (kind : Kind) : Parse Token :=
  expectOneOf [kind]

/-- Passes a token that names a value type, if the next one does. -/
def acceptValueType : Parse (Option ValueType) :=
  modifyGet fun c =>
    match c.kind?.bind ValueType.ofKind? with
    | some t => (some t, c.skip 1)
    | none => (none, c)

/-- Passes a token that names a value type. -/
def expectValueType : Parse ValueType := do
  match ← acceptValueType with
  | some t => return t
  | none => unexpected ValueType.kinds

/-- Passes all the tokens up to the first one that names no value type. -/
def valueTypes : Parse (List ValueType) :=
  modifyGet fun c =>
    let types := c.ahead.takeWhile fun t => (ValueType.ofKind? t.kind).isSome
    (types.filterMap fun t => ValueType.ofKind? t.kind, c.skip types.length)

/-- Clauses, each begun by tokens of the kinds `opening`, and no more of them than `bound` has
items. After a clause that is the `last` of its list, no other is read. -/
def clausesWithin {α : Type} (opening : List Kind) (clause : Parse α) (last : α → Bool) :
    (bound : List Token) → Parse (List α)
  | [] => return []
  | _ :: bound => do
    if ← matchKinds opening then
      let first ← clause
      if last first then return [first]
      let others ← clausesWithin opening clause last bound
      return first :: others
    else
      return []

/-- Clauses, as many as there are. Each takes at least the token that opens it, so the tokens ahead
bound their number. -/
def clauses {α : Type} (opening : List Kind) (clause : Parse α) (last : α → Bool) :
    Parse (List α) := do
  clausesWithin opening clause last (← get).ahead

end Parse

end WasmText
