import WasmText.Text.Utf8
import WasmText.Token.Basic

/-!
# A cursor in a source

A cursor divides a source into the characters before a mark, the characters between the mark and the
cursor, which are pending, and the rest. It moves on by reading, and can take back the character
that was read last, once. Characters that were taken in any other way cannot be taken back.

Tokens can be pushed to stand before those that are lexed from the cursor on.

## What is proved

* `source_read`, `source_unread`, `source_accept`, `source_ignore`, `source_discardRun`,
  `source_push`: the source stays what it is.
-/

namespace WasmText

/-- A source that is being read. -/
structure CharCursor where
  /-- The characters before the mark, the nearest one first. -/
  passed : List Char
  /-- The pending characters that cannot be taken back, the nearest one first. -/
  pending : List Char
  /-- The pending character that was read last and can be taken back. -/
  held : Option Char
  /-- The characters that come next. -/
  rest : List Char
  /-- The tokens that were pushed, in the order of pushing. -/
  pushed : List Token
  /-- The name of the file. -/
  file : String
  deriving DecidableEq

namespace CharCursor

/-- The cursor at the start of a source. -/
def ofSource (source file : String) : CharCursor := ⟨[], [], none, source.toList, [], file⟩

/-- The characters between the mark and the cursor, the nearest to the cursor first. -/
def sinceMark (c : CharCursor) : List Char := c.held.toList ++ c.pending

/-- The characters between the mark and the cursor, in the order of the source. -/
def pendingText (c : CharCursor) : List Char := c.sinceMark.reverse

/-- The whole source. -/
def source (c : CharCursor) : List Char := c.passed.reverse ++ c.pendingText ++ c.rest

/-- The byte offset of the mark. -/
def start (c : CharCursor) : Nat := Text.utf8Length c.passed

/-- The byte offset of the cursor. -/
def offset (c : CharCursor) : Nat := c.start + Text.utf8Length c.sinceMark

/-- Whether the source is read to its end. -/
def atEnd (c : CharCursor) : Bool := c.rest.isEmpty

/-- The next character. -/
def peek (c : CharCursor) : Option Char := c.rest.head?

/-- Reads a character, which can then be taken back. At the end nothing is read, and nothing can be
taken back. -/
def read (c : CharCursor) : Option Char × CharCursor :=
  match c.rest with
  | [] => (none, { c with pending := c.sinceMark, held := none })
  | d :: rest => (some d, { c with pending := c.sinceMark, held := some d, rest := rest })

/-- Takes back the character that was read last, if nothing else happened since. -/
def unread (c : CharCursor) : CharCursor :=
  { c with held := none, rest := c.held.toList ++ c.rest }

/-- Reads a character if it is one of `valid`; whether or not there is one, no earlier character can
be taken back. -/
def accept (valid : List Char) (c : CharCursor) : Bool × CharCursor :=
  match c.read with
  | (some d, c') => if valid.contains d then (true, c') else (false, c'.unread)
  | (none, c') => (false, c')

/-- Moves the mark to the cursor. -/
def ignore (c : CharCursor) : CharCursor :=
  { c with passed := c.sinceMark ++ c.passed, pending := [], held := none }

/-- Passes the characters up to the first that is none of `valid`, and moves the mark there. -/
def discardRun (valid : List Char) (c : CharCursor) : CharCursor :=
  { c.ignore with
    passed := (c.rest.takeWhile valid.contains).reverse ++ c.ignore.passed
    rest := c.rest.dropWhile valid.contains }

/-- Puts a token before those that are lexed from the cursor on. -/
def push (t : Token) (c : CharCursor) : CharCursor :=
  { c with pushed := c.pushed ++ [t] }

/-! ### The source is kept -/

@[simp] theorem source_ofSource (source file : String) :
    (ofSource source file).source = source.toList := by
  simp [ofSource, CharCursor.source, pendingText, sinceMark]

@[simp] theorem source_read (c : CharCursor) : c.read.2.source = c.source := by
  unfold read
  split <;> simp_all [source, pendingText, sinceMark]

@[simp] theorem source_unread (c : CharCursor) : c.unread.source = c.source := by
  cases h : c.held <;> simp [unread, source, pendingText, sinceMark, h]

@[simp] theorem source_accept (valid : List Char) (c : CharCursor) :
    (c.accept valid).2.source = c.source := by
  have read := source_read c
  unfold accept
  split
  · split <;> simp_all
  · simp_all

@[simp] theorem source_ignore (c : CharCursor) : c.ignore.source = c.source := by
  simp [ignore, source, pendingText, sinceMark]

@[simp] theorem source_discardRun (valid : List Char) (c : CharCursor) :
    (c.discardRun valid).source = c.source := by
  simp [discardRun, ignore, source, pendingText, sinceMark]

@[simp] theorem source_push (t : Token) (c : CharCursor) : (c.push t).source = c.source := rfl

end CharCursor

end WasmText
