import WasmText.CharCursor.Bytes
import WasmText.Proofs.Scanning

/-!
# The cursor of byte offsets

A cursor in a source, and the same cursor by byte offsets, make the same moves: every move of the
offsets is the image of a move of the cursor, so none goes wrong, and everything that holds of the
images holds after any moves. What can be taken back is the character that was read last, if nothing
happened since; so taking back never steps before the mark or into a character.

## What is proved

* `remainder?_bytes`, `pending?_bytes`: the slices are what comes next and what is pending.
* `read?_bytes`, `unread?_bytes`, `accept?_bytes`, `discardRun?_bytes`: a square for each move.
* `performAll?_bytes`: the moves of the offsets, all of them.
* `valid_bytes`, `takesBack_bytes`: what holds of offsets, and what the next moves do.
* `byte_cursor_exact`: the offsets after any moves from the start of a source.
-/

namespace WasmText

open Text

namespace CharCursor

/-- A cursor by its byte offsets. -/
def bytes (c : CharCursor) : ByteCursor :=
  ⟨String.ofList c.source, c.offset, c.start, utf8Length c.held.toList, c.pushed⟩

/-! ### One square for each move -/

theorem source_eq (c : CharCursor) :
    c.source = c.passed.reverse ++ (c.pendingText ++ c.rest) :=
  List.append_assoc _ _ _

theorem offset_eq (c : CharCursor) :
    c.offset = utf8Length (c.passed.reverse ++ c.pendingText) := by
  simp [offset, start, pendingText]

theorem remainder?_bytes (c : CharCursor) : c.bytes.remainder? = some c.rest := by
  rw [ByteCursor.remainder?, bytes, String.toList_ofList]
  show sliceFrom? c.offset c.source = _
  rw [offset_eq, source]
  exact sliceFrom?_append _ _

theorem pending?_bytes (c : CharCursor) : c.bytes.pending? = some c.pendingText := by
  have mark : utf8Length c.passed.reverse = c.start := utf8Length_reverse c.passed
  have pending : utf8Length c.pendingText = utf8Length c.sinceMark := utf8Length_reverse _
  have sliced := slice?_append c.passed.reverse c.pendingText c.rest
  rw [mark, pending, ← source_eq] at sliced
  rw [ByteCursor.pending?, bytes, String.toList_ofList]
  exact sliced

theorem peek?_bytes (c : CharCursor) : c.bytes.peek? = some c.peek := by
  rw [ByteCursor.peek?, remainder?_bytes]
  rfl

theorem utf8ByteSize_source (c : CharCursor) :
    c.bytes.source.utf8ByteSize = c.bytes.pos + utf8Length c.rest := by
  rw [← utf8Length_toList]
  show utf8Length (String.ofList c.source).toList = c.offset + utf8Length c.rest
  rw [String.toList_ofList, offset_eq, source, utf8Length_append]

theorem atEnd_bytes (c : CharCursor) : c.bytes.atEnd = c.atEnd := by
  have size := c.utf8ByteSize_source
  rw [Bool.eq_iff_iff, ByteCursor.atEnd, atEnd, List.isEmpty_iff, decide_eq_true_eq,
    ← utf8Length_eq_zero_iff]
  omega

/-- Reading a character moves the offset by its size. -/
theorem read_bytes_cons {c : CharCursor} {d : Char} {rest : List Char} (h : c.rest = d :: rest) :
    c.read.2.bytes =
      { c.bytes with pos := c.bytes.pos + d.utf8Size, lastSize := d.utf8Size } := by
  have kept := c.source_read
  have moved : c.read.2.offset = c.offset + d.utf8Size := by
    rw [read_cons h]
    simp [offset, start, sinceMark]
    omega
  rw [bytes, kept, moved, read_cons h]
  simp [bytes, start]

theorem read?_bytes (c : CharCursor) : c.bytes.read? = some (c.read.1, c.read.2.bytes) := by
  rw [ByteCursor.read?, remainder?_bytes]
  cases next : c.rest with
  | nil =>
    rw [read_nil next]
    rfl
  | cons d rest =>
    rw [read_bytes_cons next, read_cons next]
    rfl

theorem unread_bytes (c : CharCursor) :
    c.unread.bytes = { c.bytes with pos := c.bytes.pos - c.bytes.lastSize, lastSize := 0 } := by
  have moved : c.unread.offset = c.offset - utf8Length c.held.toList := by
    simp [offset, start, sinceMark, unread]
    omega
  rw [bytes, c.source_unread, moved]
  rfl

theorem lastSize_le (c : CharCursor) : c.bytes.start + c.bytes.lastSize ≤ c.bytes.pos := by
  simp [bytes, offset, sinceMark]

theorem unread?_bytes (c : CharCursor) : c.bytes.unread? = some c.unread.bytes := by
  rw [ByteCursor.unread?, if_pos (Nat.le_trans (Nat.le_add_left _ _) c.lastSize_le), unread_bytes]

theorem accept?_bytes (valid : List Char) (c : CharCursor) :
    c.bytes.accept? valid = some ((c.accept valid).1, (c.accept valid).2.bytes) := by
  rw [ByteCursor.accept?, read?_bytes, Option.bind_eq_bind, Option.bind_some]
  unfold accept
  cases next : c.rest with
  | nil =>
    rw [read_nil next]
    dsimp only
    rw [unread?_bytes]
    rfl
  | cons d rest =>
    rw [read_cons next]
    dsimp only
    by_cases member : valid.contains d = true
    · rw [if_pos member, if_pos member]
      rfl
    · rw [if_neg member, if_neg member, unread?_bytes]
      rfl

theorem ignore_bytes (c : CharCursor) : c.ignore.bytes = c.bytes.ignore := by
  have moved : c.ignore.start = c.offset := by
    simp [ignore, start, offset, Nat.add_comm]
  have stays : c.ignore.offset = c.offset := by
    rw [offset, moved]
    rfl
  rw [bytes, c.source_ignore, moved, stays]
  rfl

/-- A run of characters is passed in the same steps. -/
theorem discardRun?_bytes (valid : List Char) (c : CharCursor) :
    c.bytes.discardRun? valid = some (c.discardRun valid).bytes := by
  -- On what comes next, of which every accepted character takes one.
  induction next : c.rest generalizing c with
  | nil =>
    rw [ByteCursor.discardRun?_eq, accept?_bytes, discardRun_eq, accept_eq,
      acceptIf_false (by simp [next])]
    exact congrArg some (ignore_bytes _).symm
  | cons d rest ih =>
    rw [ByteCursor.discardRun?_eq, accept?_bytes, discardRun_eq, accept_eq]
    by_cases member : valid.contains d = true
    · rw [acceptIf_cons_true next member]
      exact ih _ rfl
    · rw [acceptIf_false (by simpa [next] using member)]
      exact congrArg some (ignore_bytes _).symm

theorem perform?_bytes (c : CharCursor) (move : Move) :
    c.bytes.perform? move = some (c.perform move).2.bytes := by
  cases move with
  | read => exact congrArg (Option.map Prod.snd) (read?_bytes c)
  | peek => exact congrArg (Option.map fun _ => c.bytes) (peek?_bytes c)
  | unread => exact unread?_bytes c
  | accept valid => exact congrArg (Option.map Prod.snd) (accept?_bytes valid c)
  | discardRun valid => exact discardRun?_bytes valid c
  | ignore => exact congrArg some (ignore_bytes c).symm
  | push t => rfl
  | lex => rfl

/-- No move goes wrong, and the offsets are those of the cursor that makes the same moves. -/
theorem performAll?_bytes (c : CharCursor) (moves : List Move) :
    c.bytes.performAll? moves = some (c.performAll moves).bytes := by
  induction moves generalizing c with
  | nil => rfl
  | cons move moves ih =>
    rw [ByteCursor.performAll?, List.foldlM_cons, perform?_bytes]
    exact ih _

theorem bytes_ofSource (source file : String) :
    (ofSource source file).bytes = ByteCursor.ofSource source := by
  rw [bytes, source_ofSource, String.ofList_toList]
  rfl

end CharCursor

/-! ### What holds of offsets -/

namespace ByteCursor

/-- Offsets that fit a source. -/
structure Valid (b : ByteCursor) : Prop where
  /-- The mark is not behind the place to which the cursor can go back. -/
  start_le : b.start ≤ b.pos - b.lastSize
  /-- Going back stays in the source. -/
  lastSize_le : b.lastSize ≤ b.pos
  /-- So does the cursor. -/
  pos_le : b.pos ≤ b.source.utf8ByteSize
  /-- A character begins at the mark, or the source ends there. -/
  start_valid : (⟨b.start⟩ : String.Pos.Raw).IsValid b.source
  /-- A character begins at the cursor, or the source ends there. -/
  pos_valid : (⟨b.pos⟩ : String.Pos.Raw).IsValid b.source
  /-- A character begins where the cursor can go back to, or the source ends there. -/
  back_valid : (⟨b.pos - b.lastSize⟩ : String.Pos.Raw).IsValid b.source
  /-- What can be taken back is the character before the cursor. -/
  last : b.lastSize = 0 ∨ ∃ d before after, before ++ d :: after = b.source.toList ∧
    utf8Length (before ++ [d]) = b.pos ∧ b.lastSize = d.utf8Size
  /-- What is pending and what comes next are the source from the mark on. -/
  slices : ∃ pending rest, b.pending? = some pending ∧ b.remainder? = some rest ∧
    sliceFrom? b.start b.source.toList = some (pending ++ rest)
  /-- The cursor is at the end exactly if there is no next character. -/
  at_end : b.atEnd = true ↔ b.peek? = some none

/-- What the next moves do. -/
structure TakesBack (b : ByteCursor) : Prop where
  /-- A character that is read can be taken back, once. -/
  read_unread : ∃ next b₁ b₂, b.read? = some (next, b₁) ∧ b₁.unread? = some b₂ ∧ b₂.pos = b.pos ∧
    b₂.pending? = b.pending? ∧ b₂.unread? = some b₂
  /-- Where no character is accepted, the cursor and the mark stay where they are. -/
  accept : ∀ valid, ∃ made b', b.accept? valid = some (made, b') ∧
    (made = false → b'.pos = b.pos ∧ b'.start = b.start)
  /-- Nothing can be taken back once the mark is at the cursor. -/
  ignore : b.ignore.unread? = some b.ignore
  /-- Nothing can be taken back after reading at the end. -/
  at_end : ∀ b', b.read? = some (none, b') → b'.pos = b.pos ∧ b'.unread? = some b'
  /-- A run ends before the first character that does not belong to it, and nothing is pending
  there. -/
  discardRun : ∀ valid, ∃ b' run rest, b.discardRun? valid = some b' ∧
    b.remainder? = some (run ++ rest) ∧ (∀ d ∈ run, d ∈ valid) ∧ (∀ d ∈ rest.head?, d ∉ valid) ∧
    b'.pos = b.pos + utf8Length run ∧ b'.remainder? = some rest ∧ b'.pending? = some []

end ByteCursor

theorem isValid_of_append {s : String} {us vs : List Char} {n : Nat} (append : us ++ vs = s.toList)
    (length : utf8Length us = n) : (⟨n⟩ : String.Pos.Raw).IsValid s := by
  refine String.Pos.Raw.isValid_iff_exists_append.2 ⟨String.ofList us, String.ofList vs, ?_, ?_⟩
  · rw [← String.ofList_append, append, String.ofList_toList]
  · rw [String.Pos.Raw.ext_iff, String.byteIdx_rawEndPos, ← utf8Length_toList, String.toList_ofList,
      length]

namespace CharCursor

theorem toList_bytes (c : CharCursor) : c.bytes.source.toList = c.source :=
  String.toList_ofList

theorem valid_bytes (c : CharCursor) : c.bytes.Valid := by
  have room := c.lastSize_le
  have size := c.utf8ByteSize_source
  have source := c.toList_bytes
  have pending : c.pendingText = c.pending.reverse ++ c.held.toList := by
    rw [pendingText, sinceMark, List.reverse_append]
    cases c.held <;> rfl
  have back : utf8Length (c.passed.reverse ++ c.pending.reverse) =
      c.bytes.pos - c.bytes.lastSize := by
    simp [bytes, offset, start, sinceMark]
    omega
  have parts : (c.passed.reverse ++ c.pending.reverse) ++ (c.held.toList ++ c.rest) =
      c.bytes.source.toList := by
    rw [source, source_eq, pending, List.append_assoc, List.append_assoc]
  constructor
  · omega
  · omega
  · omega
  · exact isValid_of_append (source.trans c.source_eq).symm (utf8Length_reverse c.passed)
  · exact isValid_of_append source.symm c.offset_eq.symm
  · exact isValid_of_append parts back
  · cases last : c.held with
    | none => exact Or.inl (by simp [bytes, last])
    | some d =>
      rw [last] at parts
      refine Or.inr ⟨d, _, c.rest, parts, ?_, by simp [bytes, last]⟩
      simp [bytes, offset, start, sinceMark, last]
      omega
  · refine ⟨c.pendingText, c.rest, c.pending?_bytes, c.remainder?_bytes, ?_⟩
    have sliced := sliceFrom?_append c.passed.reverse (c.pendingText ++ c.rest)
    rwa [utf8Length_reverse, ← source_eq, ← source] at sliced
  · rw [atEnd_bytes, peek?_bytes, Option.some.injEq, atEnd, peek, List.isEmpty_iff,
      List.head?_eq_none_iff]

theorem unread_read (c : CharCursor) : c.read.2.unread = c.settle := by
  cases next : c.rest with
  | nil =>
    rw [read_nil next]
    rfl
  | cons d rest =>
    rw [read_cons next, settle, next]
    rfl

theorem accept_false {valid : List Char} {c : CharCursor} (h : (c.accept valid).1 = false) :
    (c.accept valid).2 = c.settle := by
  rw [accept_eq] at h ⊢
  by_cases member : ∃ d ∈ c.rest.head?, valid.contains d = true
  · obtain ⟨d, next, member⟩ := member
    obtain ⟨rest, next⟩ := List.head?_eq_some_iff.1 next
    rw [acceptIf_cons_true next member] at h
    cases h
  · rw [acceptIf_false fun d next => Bool.eq_false_iff.2 fun inside => member ⟨d, next, inside⟩]

theorem takesBack_bytes (c : CharCursor) : c.bytes.TakesBack := by
  have settled : c.settle.bytes.unread? = some c.settle.bytes := unread?_bytes c.settle
  constructor
  · refine ⟨c.read.1, c.read.2.bytes, c.settle.bytes, c.read?_bytes, ?_, rfl, rfl, settled⟩
    rw [unread?_bytes, unread_read]
  · intro valid
    refine ⟨_, _, accept?_bytes valid c, fun refused => ?_⟩
    rw [accept_false refused]
    exact ⟨rfl, rfl⟩
  · rw [← ignore_bytes, unread?_bytes]
    rfl
  · intro b' read
    rw [read?_bytes, Option.some.injEq, Prod.mk.injEq] at read
    obtain ⟨nothing, rfl⟩ := read
    cases next : c.rest with
    | nil =>
      rw [read_nil next]
      exact ⟨rfl, settled⟩
    | cons d rest =>
      rw [read_cons next] at nothing
      cases nothing
  · intro valid
    refine ⟨_, c.rest.takeWhile valid.contains, c.rest.dropWhile valid.contains,
      discardRun?_bytes valid c, ?_, ?_, ?_, ?_, remainder?_bytes _, pending?_bytes _⟩
    · rw [List.takeWhile_append_dropWhile, remainder?_bytes]
    · intro d inside
      simpa using List.mem_takeWhile_imp inside
    · intro d next
      have stopped := List.head?_dropWhile_not valid.contains c.rest
      rw [next] at stopped
      simpa using stopped
    · simp [bytes, discardRun, offset, start, ignore, sinceMark]
      omega

end CharCursor

/-- The offsets of a cursor after any moves from the start of a source. No move goes wrong on the way:
the offsets are those of the cursor that makes the same moves in terms of characters. They fit the
source, and what is pending and what comes next are slices of it; a character can be taken back only
right after it was read. -/
theorem byte_cursor_exact (source file : String) (moves : List CharCursor.Move) :
    ∃ b, (ByteCursor.ofSource source).performAll? moves = some b ∧
      b = ((CharCursor.ofSource source file).performAll moves).bytes ∧
      b.source = source ∧ b.Valid ∧ b.TakesBack := by
  refine ⟨_, ?_, rfl, ?_, CharCursor.valid_bytes _, CharCursor.takesBack_bytes _⟩
  · rw [← CharCursor.bytes_ofSource source file, CharCursor.performAll?_bytes]
  · have kept := (CharCursor.performAll_keeps (.ofSource source file) moves).1
    rw [CharCursor.bytes, kept, CharCursor.source_ofSource, String.ofList_toList]

end WasmText
