import WasmText.CharCursor
import WasmText.Text.Slice

/-!
# A cursor of byte offsets

The cursor in a source once more, by byte offsets alone: the place of the cursor, the mark, and the
size of the character that was read last, which is zero if it cannot be taken back. What comes next
and what is pending are slices of the source, so each move can go wrong: a slice may begin or end
inside a character or outside the source, and taking back may step before its start. A move that goes
wrong has no result.

## What is proved

* `accept?_advances`: a character that is accepted leaves less of the source, so a run comes to an
  end.
* `discardRun?_eq`: a run is a loop.
-/

namespace WasmText

/-- A source that is being read, by byte offsets. -/
structure ByteCursor where
  /-- The source. -/
  source : String
  /-- The offset of the cursor. -/
  pos : Nat
  /-- The offset of the mark. -/
  start : Nat
  /-- The size of the character that was read last, or zero if it cannot be taken back. -/
  lastSize : Nat
  /-- The tokens that were pushed, in the order of pushing. -/
  pushed : List Token
  deriving DecidableEq

namespace ByteCursor

/-- The cursor at the start of a source. -/
def ofSource (source : String) : ByteCursor := ⟨source, 0, 0, 0, []⟩

/-- What comes after the cursor. -/
def remainder? (b : ByteCursor) : Option (List Char) :=
  Text.sliceFrom? b.pos b.source.toList

/-- What stands between the mark and the cursor. -/
def pending? (b : ByteCursor) : Option (List Char) :=
  Text.slice? b.start b.pos b.source.toList

/-- Whether the cursor is at the end of the source. -/
def atEnd (b : ByteCursor) : Bool := b.source.utf8ByteSize ≤ b.pos

/-- The next character, or that there is none. -/
def peek? (b : ByteCursor) : Option (Option Char) :=
  b.remainder?.map List.head?

/-- Reads a character. -/
def read? (b : ByteCursor) : Option (Option Char × ByteCursor) := do
  match (← b.remainder?).head? with
  | some d => return (some d, { b with pos := b.pos + d.utf8Size, lastSize := d.utf8Size })
  | none => return (none, { b with lastSize := 0 })

/-- Takes back the character that was read last. -/
def unread? (b : ByteCursor) : Option ByteCursor :=
  if b.lastSize ≤ b.pos then some { b with pos := b.pos - b.lastSize, lastSize := 0 } else none

/-- Reads a character, and takes it back if it is none of `valid`. -/
def accept? (valid : List Char) (b : ByteCursor) : Option (Bool × ByteCursor) := do
  match ← b.read? with
  | (some d, b') => if valid.contains d then return (true, b') else return (false, ← b'.unread?)
  | (none, b') => return (false, ← b'.unread?)

/-- Moves the mark to the cursor. -/
def ignore (b : ByteCursor) : ByteCursor := { b with start := b.pos, lastSize := 0 }

/-- Puts a token before those that are lexed from the cursor on. -/
def push (t : Token) (b : ByteCursor) : ByteCursor := { b with pushed := b.pushed ++ [t] }

theorem read?_advances {b b' : ByteCursor} {d : Char} (h : b.read? = some (some d, b')) :
    b'.source = b.source ∧ b.pos < b'.pos ∧ b'.pos ≤ b.source.utf8ByteSize := by
  obtain ⟨rest, found, h⟩ := Option.bind_eq_some_iff.1 h
  split at h
  · rename_i next
    cases h
    obtain ⟨us, append, length⟩ := Text.sliceFrom?_eq_some found
    obtain ⟨rest, rfl⟩ := List.head?_eq_some_iff.1 next
    have size := congrArg Text.utf8Length append
    rw [Text.utf8Length_append, Text.utf8Length_cons, Text.utf8Length_toList] at size
    have positive := d.utf8Size_pos
    exact ⟨rfl, by dsimp only; omega, by dsimp only; omega⟩
  · cases h

/-- A character that is accepted is passed. -/
theorem accept?_advances {valid : List Char} {b b' : ByteCursor}
    (h : b.accept? valid = some (true, b')) :
    b'.source = b.source ∧ b.pos < b'.pos ∧ b'.pos ≤ b.source.utf8ByteSize := by
  obtain ⟨⟨next, b₁⟩, read, h⟩ := Option.bind_eq_some_iff.1 h
  cases next with
  | none =>
    obtain ⟨b₂, -, h⟩ := Option.bind_eq_some_iff.1 h
    cases h
  | some d =>
    dsimp only at h
    split at h
    · cases h
      exact read?_advances read
    · obtain ⟨b₂, -, h⟩ := Option.bind_eq_some_iff.1 h
      cases h

/-- Accepts characters as long as one of `valid` comes next, and moves the mark there. -/
def discardRun? (valid : List Char) (b : ByteCursor) : Option ByteCursor :=
  match _ : b.accept? valid with
  | none => none
  | some (true, b') => b'.discardRun? valid
  | some (false, b') => some b'.ignore
termination_by b.source.utf8ByteSize - b.pos
decreasing_by
  rename_i accepted
  obtain ⟨same, further, inside⟩ := accept?_advances accepted
  rw [same]
  omega

/-- A run is passed by accepting character after character. -/
theorem discardRun?_eq (valid : List Char) (b : ByteCursor) :
    b.discardRun? valid =
      (b.accept? valid).bind fun accepted =>
        if accepted.1 then accepted.2.discardRun? valid else some accepted.2.ignore := by
  rw [discardRun?]
  split
  · rename_i accepted
    rw [accepted]
    rfl
  · rename_i accepted
    rw [accepted]
    rfl
  · rename_i accepted
    rw [accepted]
    rfl

/-- Makes a move. -/
def perform? (b : ByteCursor) : CharCursor.Move → Option ByteCursor
  | .read => b.read?.map Prod.snd
  | .peek => b.peek?.map fun _ => b
  | .unread => b.unread?
  | .accept valid => (b.accept? valid).map Prod.snd
  | .discardRun valid => b.discardRun? valid
  | .ignore => some b.ignore
  | .push t => some (b.push t)
  | .lex => some b

/-- Makes moves one after the other. -/
def performAll? (b : ByteCursor) (moves : List CharCursor.Move) : Option ByteCursor :=
  moves.foldlM perform? b

end ByteCursor

end WasmText
