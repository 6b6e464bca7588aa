import WasmText.Proofs.Phases
import WasmText.Proofs.Quoting

/-!
# String tokens

The lexer finds the end of a string, and later its text is read from the token; each of the two
looks at the escapes by rules of its own. They agree: a string token of a source is a row of items
between quotes, and its bytes are those of the items. Nothing can be wrong with such a token but that
its bytes are not valid UTF-8, and nothing else is ever said of it.

## What is proved

* `unquote?_eq_none_iff`: a literal spells no text exactly if its bytes are not valid UTF-8.
* `exists_literal_of_mem_place`: a string token is a row of items between quotes, in its place.
* `string_token_exact`: how the string tokens of a source are read, and when one is reported.
-/

namespace WasmText

open Text Lexeme Cut TokenCursor Grammar Parse

/-! ### Literals -/

/-- A row of items between quotes. -/
def literal (items : List Item) : List Char :=
  '"' :: (spellItems items ++ ['"'])

/-- The token of a literal that begins at a byte offset of a file. -/
def literalToken (file : String) (start : Nat) (items : List Item) : Token :=
  ⟨.string, String.ofList (literal items),
    .ofBytes file start (start + utf8Length (literal items))⟩

theorem toList_text_literalToken (file : String) (start : Nat) (items : List Item) :
    (literalToken file start items).text.toList = literal items :=
  String.toList_ofList

theorem decodeBytes?_eq_none_iff {bytes : List UInt8} :
    decodeBytes? bytes = none ↔ ¬ bytes.toByteArray.IsValidUTF8 := by
  unfold decodeBytes? String.fromUTF8?
  by_cases valid : bytes.toByteArray.IsValidUTF8
  · simp [valid]
  · simp [valid]

/-- How the text of a literal is read: the quotes are found, no escape is broken, and what can be
wrong is only that the bytes are not valid UTF-8. -/
structure ReadsLiteral (text : String) (items : List Item) : Prop where
  /-- The body is what stands between the quotes. -/
  body : body? text.toList = some (spellItems items)
  /-- It has the bytes of the items. -/
  bytes : bodyBytes? (spellItems items) = some (itemBytes items)
  /-- These may be no text. -/
  text : unquote? text = none ↔ ¬ (itemBytes items).toByteArray.IsValidUTF8

theorem readsLiteral_of_eq {text : String} {items : List Item}
    (spelled : text.toList = literal items) : ReadsLiteral text items where
  body := by rw [spelled, literal, body?_quoted]
  bytes := bodyBytes?_spellItems items
  text := by
    unfold unquote?
    rw [spelled, literal, body?_quoted, Option.bind_some, bodyBytes?_spellItems, Option.bind_some,
      decodeBytes?_eq_none_iff]

/-! ### The string tokens of a source -/

/-- A string that is scanned is a row of items. -/
theorem items_of_scan {c : Char} {cs body rest : List Char}
    (found : scan c cs = .found (.string body) rest) : ∃ items, spellItems items = body := by
  have text := scan_append found
  rw [text_string] at text
  obtain ⟨rfl, -⟩ := List.cons.inj text
  have scanned : scanString cs = .found (.string body) rest := by simpa [scan] using found
  unfold scanString at scanned
  split at scanned
  · rename_i taken
    cases scanned
    obtain ⟨items, spelled, -⟩ := scanBody_eq_found_iff.1 taken
    exact ⟨items, spelled⟩
  · cases scanned

theorem string_of_mem_tokens {file : String} {start : Nat} {l : Lexeme} {t : Token}
    (member : t ∈ l.tokens file start) (is_string : t.kind = .string) :
    ∃ body, l = .string body := by
  have piece := mem_place member
  rw [is_string] at piece
  cases l <;> simp [pieces] at piece ⊢

/-- A string token of a text that begins at a byte offset is a row of items between quotes, at the
place where the text has it. -/
theorem exists_literal_of_mem_place {cs : List Char} {file : String} {offset : Nat} {t : Token}
    (member : t ∈ ((ofChars cs).place file offset).tokens) (is_string : t.kind = .string) :
    ∃ before items after, cs = before ++ (literal items ++ after) ∧
      t = literalToken file (offset + utf8Length before) items := by
  induction cs using scan_induction generalizing offset with
  | finished w layout =>
    rw [ofChars_layout layout] at member
    cases member
  | fault w c cs passed cause layout not_layout scanned =>
    rw [ofChars_fault layout not_layout scanned] at member
    obtain rfl := List.mem_singleton.1 member
    cases is_string
  | found w c cs l rest layout not_layout scanned ih =>
    rw [ofChars_found layout not_layout scanned] at member
    rw [← scan_append scanned]
    rcases List.mem_append.1 member with here | later
    · obtain ⟨body, rfl⟩ := string_of_mem_tokens here is_string
      obtain ⟨items, rfl⟩ := items_of_scan scanned
      refine ⟨w, items, rest, by rw [text_string, literal], ?_⟩
      obtain rfl := List.mem_singleton.1 here
      rfl
    · by_cases ends : endsBefore l rest = true
      · rw [if_pos ends] at later
        obtain ⟨before, items, after, rfl, rfl⟩ := ih later
        exact ⟨w ++ (l.text ++ before), items, after, by simp, by simp [Nat.add_assoc]⟩
      · rw [if_neg ends] at later
        obtain rfl := List.mem_singleton.1 later
        cases is_string

/-- The error of a row of tokens that blames a string stands at one that spells no text. -/
theorem exists_string_of_malformed {tokens : List Token} {file text : String} {e : Error}
    (failed : Module.ofTokens tokens file = .error e) (cause : e.cause = .malformedString text) :
    ∃ t ∈ tokens, t.kind = .string ∧ t.text = text ∧ unquote? t.text = none ∧
      e.position = t.span.start := by
  obtain ⟨before, t, after, rfl, blames, place⟩ := exists_blamed failed (by simp [cause])
  rw [cause] at blames
  obtain ⟨u, same, is_string, is_text, no_text⟩ := blames.string
  obtain rfl := Option.some.inj same
  exact ⟨t, by simp, is_string, is_text, no_text, place⟩

/-- Every string token of a source is a row of items between quotes. It spells no text exactly if
the bytes of the items are not valid UTF-8, and is never rejected for its quotes or for an escape. So
a source whose error blames a string has a literal whose bytes are not valid UTF-8, and the error
stands at the opening quote of it. -/
theorem string_token_exact (source file : String) :
    (∀ t ∈ (lex source file).tokens, t.kind = .string →
      (∃ items, t.text.toList = literal items) ∧
        ∀ items, t.text.toList = literal items → ReadsLiteral t.text items) ∧
      ∀ e text, Module.ofSource source file = .error e → e.cause = .malformedString text →
        ∃ before items after, source.toList = before ++ (literal items ++ after) ∧
          literalToken file (utf8Length before) items ∈ (lex source file).tokens ∧
          text.toList = literal items ∧ ¬ (itemBytes items).toByteArray.IsValidUTF8 ∧
          e.position = .ofBytes file (utf8Length before) := by
  have found {t : Token} (member : t ∈ (lex source file).tokens) (is_string : t.kind = .string) :
      ∃ before items after, source.toList = before ++ (literal items ++ after) ∧
        t = literalToken file (utf8Length before) items := by
    obtain ⟨before, items, after, text, same⟩ := exists_literal_of_mem_place member is_string
    exact ⟨before, items, after, text, by rw [same, Nat.zero_add]⟩
  constructor
  · intro t member is_string
    obtain ⟨before, items, -, -, rfl⟩ := found member is_string
    exact ⟨⟨items, toList_text_literalToken _ _ _⟩, fun items spelled => readsLiteral_of_eq spelled⟩
  · intro e text failed cause
    cases lexed : (lex source file).error with
    | some e' =>
      -- No lexical fault blames a string for its text.
      rw [ofSource_of_lex_some lexed] at failed
      cases failed
      obtain ⟨-, -, -, lexical, -⟩ := tokens_of_lex_error lexed
      rw [cause] at lexical
      cases lexical
    | none =>
      rw [ofSource_of_lex_none lexed] at failed
      obtain ⟨t, member, is_string, rfl, no_text, place⟩ := exists_string_of_malformed failed cause
      obtain ⟨before, items, after, source_eq, rfl⟩ := found member is_string
      have spelled := toList_text_literalToken file (utf8Length before) items
      exact ⟨before, items, after, source_eq, member, spelled,
        (readsLiteral_of_eq spelled).text.1 no_text, place⟩

/-- The name of an export whose only byte is none of UTF-8. -/
theorem string_token_exact_export :
    Module.ofSource "(module (func (export \"\\ff\")))" defaultFile =
        .error ⟨.malformedString "\"\\ff\"", .ofBytes defaultFile 22⟩ ∧
      ∃ before items after, "(module (func (export \"\\ff\")))".toList =
          before ++ (literal items ++ after) ∧
        "\"\\ff\"".toList = literal items ∧ ¬ (itemBytes items).toByteArray.IsValidUTF8 ∧
        Position.ofBytes defaultFile 22 = .ofBytes defaultFile (utf8Length before) := by
  have failed : Module.ofSource "(module (func (export \"\\ff\")))" defaultFile =
      .error ⟨.malformedString "\"\\ff\"", .ofBytes defaultFile 22⟩ := by decide +kernel
  obtain ⟨before, items, after, source_eq, -, spelled, not_valid, place⟩ :=
    (string_token_exact _ defaultFile).2 _ _ failed rfl
  exact ⟨failed, before, items, after, source_eq, spelled, not_valid, place⟩

end WasmText
