import WasmText.Lexed
import WasmText.Proofs.Lexeme.Stands

/-!
# Cutting sources

A source without a lexical fault is cut into layout and lexemes, each of which may stand where it
is, in one way; and its tokens are the tokens of these lexemes, each at the place of its text.

## What is proved

* `scan_induction`: induction on a text by its lexemes.
* `spells_iff`: the cut of a text is the only one that spells it, if there is one.
* `says_place`: the tokens of a cut stand at the places of their texts.
* `tokenize_ok_iff_cut`: a source has tokens exactly if some cut spells it, this cut is unique, and
  the tokens are its tokens.
-/

namespace WasmText

open Text Lexeme

/-! ### Cuts of a text -/

namespace Cut

/-- The lexemes of a cut. -/
def lexemes : Cut → List Lexeme
  | .finished _ => []
  | .stopped _ _ _ => []
  | .lexeme _ l next => l :: next.lexemes

/-- A cut of a text into layout and lexemes, each of which may stand before what follows it. -/
inductive Spells : Cut → List Char → Prop where
  /-- Nothing but layout. -/
  | finished {w : List Char} : IsRun isLayout w → Spells (.finished w) w
  /-- Layout, a lexeme, and the rest of the cut. -/
  | lexeme {w rest : List Char} {l : Lexeme} {next : Cut} :
      IsRun isLayout w → l.Stands rest → Spells next rest →
        Spells (.lexeme w l next) (w ++ (l.text ++ rest))

/-! ### The first lexeme -/

theorem ofChars_layout {w : List Char} (layout : IsRun isLayout w) : ofChars w = .finished w :=
  ofChars_of_end (List.dropWhile_eq_nil_iff.2 layout)

theorem ofChars_fault {w cs passed : List Char} {c : Char} {cause : Cause}
    (layout : IsRun isLayout w) (not_layout : isLayout c = false)
    (fault : scan c cs = .fault passed cause) :
    ofChars (w ++ c :: cs) = .stopped w passed cause := by
  have stops := stops_of_cons not_layout cs
  rw [ofChars_of_fault (dropWhile_append_of_stops layout stops) fault,
    takeWhile_append_of_stops layout stops]

theorem ofChars_found {w cs rest : List Char} {c : Char} {l : Lexeme} (layout : IsRun isLayout w)
    (not_layout : isLayout c = false) (found : scan c cs = .found l rest) :
    ofChars (w ++ c :: cs) = .lexeme w l
      (if endsBefore l rest then ofChars rest
      else .stopped [] [] (.missingDelimiter (Diagnostic.describe rest.head?))) := by
  have stops := stops_of_cons not_layout cs
  rw [ofChars_of_found (dropWhile_append_of_stops layout stops) found,
    takeWhile_append_of_stops layout stops]

/-- A text is layout, or has a fault after layout, or a lexeme and then a text. -/
@[elab_as_elim]
theorem scan_induction {motive : List Char → Prop}
    (finished : ∀ w, IsRun isLayout w → motive w)
    (fault : ∀ w c cs passed cause, IsRun isLayout w → isLayout c = false →
      scan c cs = .fault passed cause → motive (w ++ c :: cs))
    (found : ∀ w c cs l rest, IsRun isLayout w → isLayout c = false →
      scan c cs = .found l rest → motive rest → motive (w ++ c :: cs))
    (cs : List Char) : motive cs := by
  induction size : cs.length using Nat.strongRecOn generalizing cs with
  | _ n ih =>
  have layout : IsRun isLayout (cs.takeWhile isLayout) := (longest_run isLayout cs).taken
  have parts := (longest_run isLayout cs).append
  have stops := dropWhile_stops isLayout cs
  cases after : cs.dropWhile isLayout with
  | nil => exact finished cs (List.dropWhile_eq_nil_iff.1 after)
  | cons c rest =>
    rw [after] at parts stops
    rw [← parts]
    cases scanned : scan c rest with
    | fault passed cause => exact fault _ c rest passed cause layout (stops c rfl) scanned
    | found l others =>
      have shorter : others.length < n := by
        have less := scan_length_lt scanned
        have all := congrArg List.length parts
        rw [List.length_append] at all
        omega
      exact found _ c rest l others layout (stops c rfl) scanned (ih _ shorter others rfl)

/-! ### The cut that is found -/

/-- Whether a cut goes to the end of the text. -/
def isWhole : Cut → Bool
  | .finished _ => true
  | .stopped _ _ _ => false
  | .lexeme _ _ next => next.isWhole

theorem ofChars_of_spells {cut : Cut} {cs : List Char} (h : cut.Spells cs) :
    ofChars cs = cut ∧ cut.isWhole = true := by
  induction h with
  | finished layout => exact ⟨ofChars_layout layout, rfl⟩
  | @lexeme w rest l next layout stands _ ih =>
    obtain ⟨c, cs, text_eq, not_layout⟩ := stands.head
    have append : l.text ++ rest = c :: (cs ++ rest) := by rw [text_eq, List.cons_append]
    obtain ⟨found, ends⟩ := scan_found_iff.2 ⟨append, stands⟩
    refine ⟨?_, ih.2⟩
    rw [append, ofChars_found layout not_layout found, if_pos ends, ih.1]

theorem spells_ofChars {cs : List Char} (whole : (ofChars cs).isWhole = true) :
    (ofChars cs).Spells cs := by
  induction cs using scan_induction with
  | finished w layout =>
    rw [ofChars_layout layout]
    exact .finished layout
  | fault w c cs passed cause layout not_layout scanned =>
    rw [ofChars_fault layout not_layout scanned] at whole
    cases whole
  | found w c cs l rest layout not_layout scanned ih =>
    rw [ofChars_found layout not_layout scanned] at whole ⊢
    by_cases ends : endsBefore l rest = true
    · rw [if_pos ends] at whole ⊢
      obtain ⟨append, stands⟩ := scan_found_iff.1 ⟨scanned, ends⟩
      rw [← append]
      exact .lexeme layout stands (ih whole)
    · rw [if_neg ends] at whole
      cases whole

/-- There is at most one cut that spells a text, and it is found. -/
theorem spells_iff {cut : Cut} {cs : List Char} :
    cut.Spells cs ↔ ofChars cs = cut ∧ cut.isWhole = true := by
  constructor
  · exact ofChars_of_spells
  · intro h
    obtain ⟨rfl, whole⟩ := h
    exact spells_ofChars whole

theorem Spells.unique {cut cut' : Cut} {cs : List Char} (h : cut.Spells cs) (h' : cut'.Spells cs) :
    cut = cut' :=
  (spells_iff.1 h).1.symm.trans (spells_iff.1 h').1

theorem error_place (file : String) (offset : Nat) (cut : Cut) :
    (cut.place file offset).error = none ↔ cut.isWhole = true := by
  induction cut generalizing offset with
  | finished w => simp [place, Lexed.finished, isWhole]
  | stopped w passed cause => simp [place, Lexed.stopped, isWhole]
  | lexeme w l next ih => simpa [place, Lexed.after, isWhole] using ih _

end Cut

theorem tokenize_eq_ok_iff_spells {source file : String} {tokens : List Token} :
    tokenize source file = .ok tokens ↔
      ∃ cut : Cut, cut.Spells source.toList ∧ (cut.place file 0).tokens = tokens := by
  have whole := Cut.error_place file 0 (Cut.ofChars source.toList)
  unfold tokenize lex lexFrom
  constructor
  · intro h
    split at h
    · cases h
    · rename_i no_error
      cases h
      exact ⟨_, Cut.spells_ofChars (whole.1 no_error), rfl⟩
  · intro h
    obtain ⟨cut, spelled, rfl⟩ := h
    obtain ⟨rfl, is_whole⟩ := Cut.spells_iff.1 spelled
    rw [whole.2 is_whole]

/-! ### The tokens of a cut -/

theorem mem_place {file : String} {start : Nat} {pieces : List (Kind × List Char)} {t : Token}
    (member : t ∈ Lexeme.place file start pieces) : (t.kind, t.text.toList) ∈ pieces := by
  induction pieces generalizing start with
  | nil => cases member
  | cons piece pieces ih =>
    rcases List.mem_cons.1 member with rfl | inside
    · rw [String.toList_ofList]
      exact List.mem_cons_self
    · exact List.mem_cons_of_mem piece (ih inside)

/-- A token that stands in a file right after a text. -/
structure Token.StandsAfter (t : Token) (file : String) (before : List Char) : Prop where
  /-- It begins where the text ends. -/
  start : t.span.start.offset.toNat = utf8Length before
  /-- It is as long as its own text. -/
  stop : t.span.stop.offset.toNat = utf8Length before + utf8Length t.text.toList
  /-- Its first place is in the file. -/
  startFile : t.span.start.file = file
  /-- Its last place is in the file. -/
  stopFile : t.span.stop.file = file

namespace Cut

/-- Tokens that say pieces of text one after the other, the first one after a text. -/
inductive SaysPieces (file : String) : List Char → List (Kind × List Char) → List Token → Prop where
  /-- Nothing. -/
  | nil {before : List Char} : SaysPieces file before [] []
  /-- A token, and then more. -/
  | cons {before chars : List Char} {kind : Kind} {pieces : List (Kind × List Char)} {t : Token}
      {ts : List Token} :
      t.kind = kind → t.text.toList = chars → t.StandsAfter file before →
        SaysPieces file (before ++ chars) pieces ts →
        SaysPieces file before ((kind, chars) :: pieces) (t :: ts)

/-- Tokens that say the lexemes of a cut one after the other, the cut beginning after a text. -/
inductive Says (file : String) : List Char → Cut → List Token → Prop where
  /-- No lexemes. -/
  | finished {before w : List Char} : Says file before (.finished w) []
  /-- The tokens of a lexeme, and those of the rest of the cut. -/
  | lexeme {before w : List Char} {l : Lexeme} {next : Cut} {ts us : List Token} :
      SaysPieces file (before ++ w) l.pieces ts → Says file (before ++ w ++ l.text) next us →
        Says file before (.lexeme w l next) (ts ++ us)

theorem toNat_offset_ofBytes {file : String} {bytes : Nat} (fits : bytes < UInt32.size) :
    (Position.ofBytes file bytes).offset.toNat = bytes := by
  rw [Position.ofBytes, Nat.toUInt32, UInt32.toNat_ofNat_of_lt' fits]

theorem saysPieces_place {file : String} {before : List Char} {pieces : List (Kind × List Char)}
    (fits : utf8Length before + utf8Length (pieces.flatMap Prod.snd) < UInt32.size) :
    SaysPieces file before pieces (Lexeme.place file (utf8Length before) pieces) := by
  induction pieces generalizing before with
  | nil => exact .nil
  | cons piece pieces ih =>
    obtain ⟨kind, chars⟩ := piece
    simp only [List.flatMap_cons, utf8Length_append] at fits
    have after : utf8Length (before ++ chars) + utf8Length (pieces.flatMap Prod.snd) <
        UInt32.size := by
      rw [utf8Length_append]
      omega
    have rest := ih after
    rw [utf8Length_append] at rest
    refine .cons rfl String.toList_ofList ⟨?_, ?_, rfl, rfl⟩ rest
    · exact toNat_offset_ofBytes (by omega)
    · rw [String.toList_ofList]
      exact toNat_offset_ofBytes (by omega)

/-- The tokens of a cut stand at the places of their texts. -/
theorem says_place {file : String} {before cs : List Char} {cut : Cut} (spelled : cut.Spells cs)
    (fits : utf8Length before + utf8Length cs < UInt32.size) :
    Says file before cut (cut.place file (utf8Length before)).tokens := by
  induction spelled generalizing before with
  | finished => exact .finished
  | @lexeme w rest l next _ _ _ ih =>
    rw [utf8Length_append, utf8Length_append] at fits
    have before_l : utf8Length (before ++ w) + utf8Length l.text < UInt32.size := by
      rw [utf8Length_append]
      omega
    have before_next : utf8Length (before ++ w ++ l.text) + utf8Length rest < UInt32.size := by
      rw [utf8Length_append, utf8Length_append]
      omega
    have pieces : Cut.SaysPieces file (before ++ w) l.pieces _ := saysPieces_place before_l
    have others := ih before_next
    rw [utf8Length_append] at pieces
    rw [utf8Length_append, utf8Length_append] at others
    exact .lexeme pieces others

end Cut

/-- A source has tokens exactly if some cut spells it; there is at most one such cut, and the tokens
are those of its lexemes, each at the place of its text. -/
theorem tokenize_ok_iff_cut {source : String} (fits : source.utf8ByteSize < UInt32.size)
    (file : String) :
    ((∃ tokens, tokenize source file = .ok tokens) ↔ ∃ cut : Cut, cut.Spells source.toList) ∧
      (∀ cut cut' : Cut, cut.Spells source.toList → cut'.Spells source.toList → cut = cut') ∧
      ∀ (tokens : List Token) (cut : Cut), tokenize source file = .ok tokens →
        cut.Spells source.toList → Cut.Says file [] cut tokens := by
  refine ⟨?_, ?_, ?_⟩
  · constructor
    · intro h
      obtain ⟨tokens, tokenized⟩ := h
      obtain ⟨cut, spelled, -⟩ := tokenize_eq_ok_iff_spells.1 tokenized
      exact ⟨cut, spelled⟩
    · intro h
      obtain ⟨cut, spelled⟩ := h
      exact ⟨_, tokenize_eq_ok_iff_spells.2 ⟨cut, spelled, rfl⟩⟩
  · intro cut cut' spelled spelled'
    exact spelled.unique spelled'
  · intro tokens cut tokenized spelled
    obtain ⟨cut', spelled', rfl⟩ := tokenize_eq_ok_iff_spells.1 tokenized
    obtain rfl := spelled.unique spelled'
    refine Cut.says_place spelled ?_
    rw [utf8Length_toList]
    simpa using fits

/-- A source with an operator and a name. -/
theorem tokenize_ok_iff_cut_operator :
    "(div_s $x)".utf8ByteSize < UInt32.size ∧
      (∃ tokens, tokenize "(div_s $x)" defaultFile = .ok tokens) ∧
      ∀ (tokens : List Token) (cut : Cut), tokenize "(div_s $x)" defaultFile = .ok tokens →
        cut.Spells "(div_s $x)".toList → Cut.Says defaultFile [] cut tokens := by
  have fits : "(div_s $x)".utf8ByteSize < UInt32.size := by decide
  obtain ⟨cuts, -, said⟩ := tokenize_ok_iff_cut fits defaultFile
  refine ⟨fits, cuts.2 ?_, said⟩
  have ends_word : EndsWord " $x)".toList := by decide
  have name : (Lexeme.name ['x']).Stands [')'] := .name (by decide) (by decide) rfl
  have closed : (Cut.lexeme [] (.mark .rightParen) (.finished [])).Spells [')'] :=
    .lexeme (by decide) (.mark _ _) (.finished (by decide))
  exact ⟨_, .lexeme (w := []) (by decide) (.mark .leftParen _)
    (.lexeme (w := []) (by decide) (.operator .div .signed ends_word)
      (.lexeme (w := [' ']) (by decide) name closed))⟩

end WasmText
