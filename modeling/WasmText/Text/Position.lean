/-!
# Places in a source

A `Position` is a byte offset in a named file; a `Span` is the stretch between two of them. Offsets
are machine words of 32 bits: a place that many bytes further than a word can count wraps round.
-/

namespace WasmText

/-- The name of a source that was given none. -/
def defaultFile : String := "shell"

/-- The name of a source, if it was given one or not. -/
def fileName (given : Option String) : String := given.getD defaultFile

/-- A place in a source: a byte offset and the name of the file. -/
structure Position where
  /-- The number of bytes before the place. -/
  offset : UInt32
  /-- The name of the source. -/
  file : String
  deriving DecidableEq

/-- The place after `bytes` bytes of a file. -/
def Position.ofBytes (file : String) (bytes : Nat) : Position := ⟨bytes.toUInt32, file⟩

/-- A stretch of a source, from `start` up to but not including `stop`. -/
structure Span where
  /-- Where the stretch begins. -/
  start : Position
  /-- Where the stretch ends. -/
  stop : Position
  deriving DecidableEq

/-- The stretch of a file between two byte offsets. -/
def Span.ofBytes (file : String) (start stop : Nat) : Span :=
  ⟨.ofBytes file start, .ofBytes file stop⟩

end WasmText
