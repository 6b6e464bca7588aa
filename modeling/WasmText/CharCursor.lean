import WasmText.Scanner

/-!
# Moves of a cursor

A cursor is moved by hand, one move after the other. From any place that it comes to, the rest of the
source can be lexed.

## What is proved

* `source_perform`: no move changes the source.
-/

namespace WasmText

namespace CharCursor

/-- The tokens that were pushed, and what is lexed from the cursor on. -/
def lex (c : CharCursor) : Lexed := Scanner.run .any c

/-- A move of a cursor. -/
inductive Move where
  /-- Reads a character. -/
  | read
  /-- Looks at the next character. -/
  | peek
  /-- Takes back the character that was read last. -/
  | unread
  /-- Reads a character if it is one of these. -/
  | accept (valid : List Char)
  /-- Passes a run of these characters, and moves the mark behind it. -/
  | discardRun (valid : List Char)
  /-- Moves the mark to the cursor. -/
  | ignore
  /-- Puts a token before those that are still to be lexed. -/
  | push (t : Token)
  /-- Looks at what would be lexed from here on. -/
  | lex

/-- What a move answers. -/
inductive Answer where
  /-- Nothing. -/
  | done
  /-- A character, or that there is none. -/
  | char (c : Option Char)
  /-- Whether the move was made. -/
  | flag (made : Bool)
  /-- The tokens that are lexed from here on. -/
  | lexed (l : Lexed)

/-- Makes a move. -/
def perform (c : CharCursor) : Move → Answer × CharCursor
  | .read => (.char c.read.1, c.read.2)
  | .peek => (.char c.peek, c)
  | .unread => (.done, c.unread)
  | .accept valid => (.flag (c.accept valid).1, (c.accept valid).2)
  | .discardRun valid => (.done, c.discardRun valid)
  | .ignore => (.done, c.ignore)
  | .push t => (.done, c.push t)
  | .lex => (.lexed c.lex, c)

/-- Makes moves one after the other. -/
def performAll (c : CharCursor) (moves : List Move) : CharCursor :=
  moves.foldl (fun c move => (c.perform move).2) c

theorem source_perform (c : CharCursor) (move : Move) : (c.perform move).2.source = c.source := by
  cases move <;> simp [perform]

end CharCursor

end WasmText
