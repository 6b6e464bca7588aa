import WasmText.Lexed
import WasmText.Parse.Module

/-!
# Sources

The way from the text of a source to the module that it says, and the comparison of two sources by
their tokens and by their modules.
-/

namespace WasmText

namespace Module

/-- The module that a source says. A lexical fault anywhere in the source comes before a fault in
the order of its tokens. -/
def ofSource (source file : String) : Except Error Module := do
  Module.ofTokens (← tokenize source file) file

end Module

/-- Whether two results agree: both have values that do, or both have the same error at the same
place. -/
def resultsAgree {α : Type} (agree : α → α → Bool) : Except Error α → Except Error α → Bool
  | .ok a, .ok b => agree a b
  | .error e, .error f => e == f
  | _, _ => false

/-- Whether two sources have the same tokens, wherever they stand, or the same lexical fault at the
same place. -/
def sameTokens (a b : String) : Bool :=
  resultsAgree (fun ts us => ts.map Token.content == us.map Token.content) (tokenize a defaultFile)
    (tokenize b defaultFile)

/-- Whether two sources say the same module, or have the same fault at the same place. -/
def sameModule (a b : String) : Bool :=
  resultsAgree (fun m n => m == n) (Module.ofSource a defaultFile) (Module.ofSource b defaultFile)

end WasmText
