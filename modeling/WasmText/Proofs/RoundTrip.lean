import WasmText.Proofs.Printing
import WasmText.Proofs.Reading.Module
import WasmText.Source

/-!
# Printing and reading

A text of a module is any source that can be cut into lexemes that spell the pieces of the module.
Strings may be spelled by any items for their bytes, indices by any decimal digits of their value,
and the layout may be any that keeps the lexemes apart. Every printable module has such texts, each
of them is read as the module, and only printable modules are read from any source.

## What is proved

* `Module.IsText.ofSource`: a text of a printable module is read as the module.
* `isText_layOut`: lexemes that spell a printable module, laid out with single spaces, are a text of
  it.
* `module_round_trip`: the modules that are read are the printable ones, and printing one and
  reading it again gives it back.
-/

namespace WasmText

open Lexeme

/-- How a piece may be spelled. -/
inductive Piece.Spells : Piece → Lexeme → Prop where
  /-- A mark as itself. -/
  | mark (m : Mark) : Spells (.mark m) (.mark m)
  /-- A keyword as itself. -/
  | word (k : Keyword) : Spells (.word k) (.word k)
  /-- A name after a dollar sign. -/
  | name (x : String) : Spells (.name x) (.name x.toList)
  /-- An index by decimal digits of its value. -/
  | index {n : UInt32} {chars : List Char} :
      IsNumeral (String.ofList chars) n.toNat → Spells (.index n) (.number chars)
  /-- A string by items for the bytes of its text. -/
  | string {s : String} {items : List Item} :
      Quotes items s → Spells (.string s) (.string (spellItems items))

/-- A source whose lexemes spell the pieces of a module. -/
def Module.IsText (m : Module) (text : String) : Prop :=
  ∃ cut : Cut, cut.Spells text.toList ∧ List.Forall₂ Piece.Spells m.pieces cut.lexemes

/-! ### Reading a text -/

theorem Piece.Spells.token {p : Piece} {l : Lexeme} (h : p.Spells l) (file : String) (start : Nat) :
    ∃ t, l.tokens file start = [t] ∧ p.Says t := by
  cases h with
  | mark m => exact ⟨_, rfl, rfl⟩
  | word k => exact ⟨_, rfl, rfl⟩
  | name x => exact ⟨_, rfl, rfl, String.toList_ofList⟩
  | index value => exact ⟨_, rfl, rfl, value⟩
  | string quotes => exact ⟨_, rfl, rfl, unquote?_quoted_iff.2 quotes⟩

theorem saysAll_place {cut : Cut} {cs : List Char} (spelled : cut.Spells cs) {ps : List Piece}
    (spells : List.Forall₂ Piece.Spells ps cut.lexemes) (file : String) (offset : Nat) :
    SaysAll ps (cut.place file offset).tokens := by
  induction spelled generalizing ps offset with
  | finished =>
    rw [List.forall₂_nil_right_iff.1 spells]
    exact saysAll_nil_iff.2 rfl
  | @lexeme w rest l next _ _ _ ih =>
    obtain ⟨p, qs, first, others, rfl⟩ := List.forall₂_cons_right_iff.1 spells
    obtain ⟨t, placed, said⟩ := first.token file (offset + Text.utf8Length w)
    refine saysAll_cons_iff.2 ⟨t, _, said, ih others (offset + Text.utf8Length w +
      Text.utf8Length l.text), ?_⟩
    simp only [Cut.place, Lexed.after, placed]
    rfl

/-- A text of a printable module is read as the module. -/
theorem Module.IsText.ofSource {m : Module} {text : String} (h : m.IsText text)
    (printable : m.Printable) (file : String) : Module.ofSource text file = .ok m := by
  obtain ⟨cut, spelled, spells⟩ := h
  have tokenized : tokenize text file = .ok (cut.place file 0).tokens :=
    tokenize_eq_ok_iff_spells.2 ⟨cut, spelled, rfl⟩
  have derived := Grammar.isModule_of_saysAll printable (saysAll_place spelled spells file 0)
  have read : Module.ofTokens (cut.place file 0).tokens file = .ok m :=
    ofTokens_eq_ok_iff_answers.2 (answers_module_iff.2 derived)
  unfold Module.ofSource
  rw [tokenized]
  exact read

/-- What is read from a source is printable. -/
theorem printable_of_ofSource {source file : String} {m : Module}
    (h : Module.ofSource source file = .ok m) : m.Printable := by
  unfold Module.ofSource at h
  rcases tokenized : tokenize source file with e | tokens
  · rw [tokenized] at h
    cases h
  · rw [tokenized] at h
    have derived : Grammar.IsModule tokens m :=
      answers_module_iff.1 (ofTokens_eq_ok_iff_answers.1 h)
    exact Grammar.printable_of_isModule derived (namesSpelled_of_tokenize tokenized)

/-! ### Laying out lexemes -/

/-- The layout between two lexemes: none inside parentheses, and else a space. -/
def gap (l l' : Lexeme) : List Char :=
  if l = .mark .leftParen ∨ l' = .mark .rightParen then [] else [' ']

/-- The text of lexemes with gaps between them. -/
def layOut : List Lexeme → List Char
  | [] => []
  | [l] => l.text
  | l :: l' :: ls => l.text ++ (gap l l' ++ layOut (l' :: ls))

theorem text_prefix_layOut (l : Lexeme) (ls : List Lexeme) : l.text <+: layOut (l :: ls) := by
  cases ls with
  | nil => exact List.prefix_rfl
  | cons l' ls => exact List.prefix_append _ _

theorem isRun_gap (l l' : Lexeme) : IsRun isLayout (gap l l') := by
  unfold gap
  split <;> decide

/-- A lexeme that may stand before every delimiter may stand before every gap. -/
theorem stands_gap {l l' : Lexeme} {ls : List Lexeme}
    (stands : ∀ rest, isDelimited rest = true → l.Stands rest) :
    l.Stands (gap l l' ++ layOut (l' :: ls)) := by
  by_cases opens : l = .mark .leftParen
  · rw [opens]
    exact .mark _ _
  by_cases closes : l' = .mark .rightParen
  · refine stands _ ?_
    obtain ⟨rest, begins⟩ := text_prefix_layOut l' ls
    simp only [gap, closes, or_true, if_true, List.nil_append] at begins ⊢
    rw [← begins]
    rfl
  · refine stands _ ?_
    simp only [gap, opens, closes, or_self, if_false]
    rfl

theorem spells_layOut {ls : List Lexeme}
    (stands : ∀ l ∈ ls, ∀ rest, isDelimited rest = true → l.Stands rest) {w : List Char}
    (layout : IsRun isLayout w) : ∃ cut : Cut, cut.Spells (w ++ layOut ls) ∧ cut.lexemes = ls := by
  induction ls generalizing w with
  | nil =>
    rw [layOut, List.append_nil]
    exact ⟨.finished w, .finished layout, rfl⟩
  | cons l ls ih =>
    have first := stands l List.mem_cons_self
    have others := fun l' member => stands l' (List.mem_cons_of_mem l member)
    cases ls with
    | nil =>
      refine ⟨.lexeme w l (.finished []), ?_, rfl⟩
      have spelled := Cut.Spells.lexeme layout (first [] rfl) (.finished (w := []) (by decide))
      rwa [List.append_nil] at spelled
    | cons l' ls =>
      obtain ⟨next, spelled, lexemes⟩ := ih others (isRun_gap l l')
      exact ⟨.lexeme w l next, .lexeme layout (stands_gap first) spelled,
        by rw [Cut.lexemes, lexemes]⟩

/-! ### Printing -/

/-- A spelling of a piece of a printable module may stand before every delimiter. -/
theorem Piece.Spells.stands {p : Piece} {l : Lexeme} (h : p.Spells l) (printable : p.Printable)
    (rest : List Char) (delimited : isDelimited rest = true) : l.Stands rest := by
  cases h with
  | mark m => exact .mark m rest
  | word k => exact .word k (endsWord_of_isDelimited delimited)
  | name x =>
    obtain ⟨nonempty, run⟩ := printable
    exact .name (fun nil => nonempty (String.toList_eq_nil_iff.1 nil)) run delimited
  | @index n chars value =>
    obtain ⟨nonempty, digits, -⟩ := value
    rw [String.toList_ofList] at digits
    cases chars with
    | nil => exact absurd rfl nonempty
    | cons c chars =>
      have number := IsNumber.intro .none (.decimal (.whole digits) .none)
      rw [List.nil_append, List.append_nil] at number
      refine .number ?_ number delimited
      simp [isNumberStart, digits c List.mem_cons_self]
  | string quotes => exact .string _ delimited

theorem stands_of_spells {ps : List Piece} {ls : List Lexeme}
    (spells : List.Forall₂ Piece.Spells ps ls) (printable : Piece.AllPrintable ps) :
    ∀ l ∈ ls, ∀ rest, isDelimited rest = true → l.Stands rest := by
  induction spells with
  | nil => simp
  | cons first _ ih =>
    obtain ⟨name, names⟩ := List.forall_mem_cons.1 printable
    exact List.forall_mem_cons.2 ⟨first.stands name, ih names⟩

/-- Lexemes that spell a printable module, laid out with single spaces, are a text of it. -/
theorem isText_layOut {m : Module} (printable : m.Printable) {ls : List Lexeme}
    (spells : List.Forall₂ Piece.Spells m.pieces ls) : m.IsText (String.ofList (layOut ls)) := by
  have stands := stands_of_spells spells printable.pieces
  obtain ⟨cut, spelled, lexemes⟩ := spells_layOut stands (w := []) (by decide)
  refine ⟨cut, ?_, by rwa [lexemes]⟩
  rwa [String.toList_ofList]

/-- The lexeme by which a piece is printed. -/
def Piece.lexeme : Piece → Lexeme
  | .mark m => .mark m
  | .word k => .word k
  | .name x => .name x.toList
  | .index n => .number (Nat.toDigits 10 n.toNat)
  | .string s => .string (spellItems (quoteItems s))

/-- A module, printed. -/
def Module.print (m : Module) : String :=
  String.ofList (layOut (m.pieces.map Piece.lexeme))

theorem toNat_digitChar : ∀ d < 10, d.digitChar.toNat - '0'.toNat = d := by
  decide

theorem decimalValue_toDigits (n : Nat) : decimalValue (Nat.toDigits 10 n) = n := by
  induction n using Nat.strongRecOn with
  | _ n ih =>
  rw [Nat.toDigits_eq_if (by decide)]
  split
  · rename_i single
    simpa [decimalValue] using toNat_digitChar n single
  · have tens := ih (n / 10) (by omega)
    have ones := toNat_digitChar (n % 10) (Nat.mod_lt n (by decide))
    have step : decimalValue (Nat.toDigits 10 (n / 10) ++ [(n % 10).digitChar]) =
        10 * decimalValue (Nat.toDigits 10 (n / 10)) + ((n % 10).digitChar.toNat - '0'.toNat) := by
      simp [decimalValue, List.foldl_append]
    rw [step, tens, ones, Nat.div_add_mod]

theorem isNumeral_toDigits (n : Nat) : IsNumeral (String.ofList (Nat.toDigits 10 n)) n := by
  refine ⟨?_, ?_, ?_⟩
  · intro empty
    have no_digits := congrArg String.toList empty
    rw [String.toList_ofList, Nat.toDigits_eq_if (by decide)] at no_digits
    split at no_digits
    · cases no_digits
    · exact List.append_ne_nil_of_right_ne_nil _ (List.cons_ne_nil _ _) no_digits
  · rw [String.toList_ofList]
    intro c digit
    exact Nat.isDigit_of_mem_toDigits (by decide) (by decide) digit
  · rw [String.toList_ofList, ← decimalValue_eq_ofDigits]
    exact decimalValue_toDigits n

theorem Piece.spells_lexeme (p : Piece) : p.Spells p.lexeme := by
  cases p with
  | mark m => exact .mark m
  | word k => exact .word k
  | name x => exact .name x
  | index n => exact .index (isNumeral_toDigits n.toNat)
  | string s => exact .string (quotes_quoteItems s)

/-- A printed module is a text of it. -/
theorem isText_print {m : Module} (printable : m.Printable) : m.IsText m.print :=
  isText_layOut printable
    (List.forall₂_map_right_iff.2 (List.forall₂_same.2 fun p _ => p.spells_lexeme))

/-- Only printable modules are read, every text of a printable module is read as the module, its
lexemes may be spelled in any way and laid out with single spaces, and so printing a module that was
read and reading it again gives the same module. -/
theorem module_round_trip (file : String) :
    (∀ source m, Module.ofSource source file = .ok m → m.Printable) ∧
      (∀ m text, m.Printable → m.IsText text → Module.ofSource text file = .ok m) ∧
      (∀ m ls, m.Printable → List.Forall₂ Piece.Spells m.pieces ls →
        Module.ofSource (String.ofList (layOut ls)) file = .ok m) ∧
      (∀ m, m.Printable → Module.ofSource m.print file = .ok m) ∧
      ∀ source m, Module.ofSource source file = .ok m → Module.ofSource m.print file = .ok m := by
  refine ⟨?_, ?_, ?_, ?_, ?_⟩
  · intro source m
    exact printable_of_ofSource
  · intro m text printable is_text
    exact is_text.ofSource printable file
  · intro m ls printable spells
    exact (isText_layOut printable spells).ofSource printable file
  · intro m printable
    exact (isText_print printable).ofSource printable file
  · intro source m read
    have printable := printable_of_ofSource read
    exact (isText_print printable).ofSource printable file

/-- A module with an imported function, whose name of two characters is spelled with an escape. -/
theorem module_round_trip_imported :
    Module.ofSource "(module $m (func (import \"a\\0a\" \"b\") (type 40)))" defaultFile =
      .ok ⟨some "m", [], [⟨none, .typeRef (.index 40), .imported ⟨"a\n", "b"⟩⟩]⟩ := by
  have printed : Module.print ⟨some "m", [], [⟨none, .typeRef (.index 40), .imported ⟨"a\n", "b"⟩⟩]⟩ =
      "(module $m (func (import \"a\\0a\" \"b\") (type 40)))" := by decide +kernel
  have printable :
      Module.Printable ⟨some "m", [], [⟨none, .typeRef (.index 40), .imported ⟨"a\n", "b"⟩⟩]⟩ := by
    refine ⟨?_, by simp, ?_⟩
    · rintro x ⟨⟩
      exact ⟨by decide, by decide⟩
    · intro f member
      rw [List.mem_singleton.1 member]
      exact ⟨by simp, trivial, trivial⟩
  obtain ⟨-, -, -, reads_print, -⟩ := module_round_trip defaultFile
  rw [← printed]
  exact reads_print _ printable

end WasmText
