import WasmText.Parse.Field

/-!
# Modules from tokens

    module    ::= ( module name? typedef* func* )

Type definitions and functions may stand in any order. A row of tokens is read as one module, with
nothing after it.
-/

namespace WasmText

namespace Parse

/-- The fields of a module, no more of them than `bound` has items, and the parenthesis that closes
it. -/
def fieldsWithin (table : FieldTable) : (bound : List Token) → Parse (List Field)
  | [] => unexpected [.leftParen, .rightParen]
  | _ :: bound => do
    let c ← get
    match c.current? with
    | none => unexpected [.leftParen, .rightParen]
    | some t =>
      if t.kind = .rightParen then
        let _ ← advance
        return []
      else
        match (c.kindAt? 1).bind table.find? with
        | some rule =>
          if t.kind = .leftParen then
            set (c.skip 2)
            let field ← rule.parse
            let others ← fieldsWithin table bound
            return field :: others
          else throw ⟨.unknownField t.display, c.position⟩
        | none => throw ⟨.unknownField t.display, c.position⟩

/-- The fields of a module, and the parenthesis that closes it. Each field takes at least the token
that opens it, so the tokens ahead bound their number. -/
def fields (table : FieldTable) : Parse (List Field) := do
  fieldsWithin table (← get).ahead

/-- A module, whose fields begin as a table says. -/
def module (table : FieldTable) : Parse Module := do
  let _ ← expect .leftParen
  let _ ← expect (.keyword .module_)
  let name ← optionalName
  let fields ← fields table
  return .ofFields name fields

/-- The end of the row of tokens. -/
def endOfTokens : Parse Unit := do
  let c ← get
  match c.current? with
  | some t => throw ⟨.trailingToken t.display, c.position⟩
  | none => return ()

/-- A module by the rules of the text format, and nothing after it. -/
def wholeModule : Parse Module := do
  let m ← module .standard
  endOfTokens
  return m

end Parse

namespace Module

/-- The module that a row of tokens spells. -/
def ofTokens (tokens : List Token) (file : String) : Except Error Module :=
  match Parse.wholeModule.run (.ofTokens tokens file) with
  | .ok m _ => .ok m
  | .error e _ => .error e

end Module

end WasmText
