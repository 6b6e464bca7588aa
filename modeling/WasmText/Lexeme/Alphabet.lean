/-!
# Classes of characters

The characters that lexemes are made of. All but the letters after a number are classes of ASCII.
-/

namespace WasmText.Lexeme

/-- Layout separates lexemes and means nothing: spaces, tabs and newlines. -/
def isLayout (c : Char) : Bool :=
  c == ' ' || c == '\t' || c == '\n'

/-- The characters that may stand right after a literal. -/
def isDelimiter (c : Char) : Bool :=
  isLayout c || c == '(' || c == ')'

/-- The characters of a word after its first letter. -/
def isWordChar (c : Char) : Bool :=
  c.isAlphanum || c == '_'

/-- The characters of names that are neither letters nor digits. -/
def nameSymbols : List Char :=
  "+-*/\\^~=<>!?@#$%&|:`.'_".toList

/-- The characters of a name after its dollar sign. -/
def isNameChar (c : Char) : Bool :=
  c.isAlphanum || nameSymbols.contains c

/-- The characters that may begin a number. -/
def isNumberStart (c : Char) : Bool :=
  c == '+' || c == '-' || c.isDigit

/-- The characters that a string may hold only in the form of an escape. -/
def isControl (c : Char) : Bool :=
  c ≤ '\x1f' || c == '\x7f'

/-- The letters that, after a backslash, stand for one character of a string. -/
def isEscapeLetter (c : Char) : Bool :=
  c == 'n' || c == 't' || c == '\\' || c == '\'' || c == '"'

/-- Whether the text that follows a literal lets it end there. -/
def isDelimited : List Char → Bool
  | [] => true
  | c :: _ => isDelimiter c

end WasmText.Lexeme
