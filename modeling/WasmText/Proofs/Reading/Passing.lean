import Mathlib.Tactic.Common
import WasmText.TokenCursor

/-!
# Passing tokens

Two cursors in the same row are compared by the tokens between them. What a reader sees from a cursor
is the next token, and the one after it if the next one is an opening parenthesis.

## What is proved

* `Passes.append`, `passes_append_iff`: passing tokens is passing one part and then the other.
* `Alike.append`: rows that look the same after some tokens look the same from there.
* `position_of_current?`, `unexpected_eq`: what the error of an unexpected token names, and where it
  stands.
-/

namespace WasmText

namespace TokenCursor

/-- A cursor that is `ts` further on in the same row. -/
structure Passes (c : TokenCursor) (ts : List Token) (c' : TokenCursor) : Prop where
  /-- The tokens were the next ones. -/
  ahead : c.ahead = ts ++ c'.ahead
  /-- Now they are behind. -/
  behind : c'.behind = ts.reverse ++ c.behind
  /-- The row is of the same file. -/
  file : c'.file = c.file

theorem passes_nil_iff {c c' : TokenCursor} : c.Passes [] c' ↔ c' = c := by
  constructor
  · intro h
    obtain ⟨ahead, behind, file⟩ := h
    cases c
    cases c'
    simp_all
  · rintro rfl
    exact ⟨rfl, rfl, rfl⟩

theorem Passes.append {c c' c'' : TokenCursor} {ts us : List Token} (first : c.Passes ts c')
    (second : c'.Passes us c'') : c.Passes (ts ++ us) c'' := by
  refine ⟨?_, ?_, second.file.trans first.file⟩
  · rw [first.ahead, second.ahead, List.append_assoc]
  · rw [second.behind, first.behind, List.reverse_append, List.append_assoc]

theorem passes_append_iff {c c'' : TokenCursor} {ts us : List Token} :
    c.Passes (ts ++ us) c'' ↔ ∃ c', c.Passes ts c' ∧ c'.Passes us c'' := by
  constructor
  · intro h
    obtain ⟨ahead, behind, file⟩ := h
    refine ⟨⟨ts.reverse ++ c.behind, us ++ c''.ahead, c.file⟩, ⟨?_, rfl, rfl⟩, ⟨rfl, ?_, file⟩⟩
    · rw [ahead, List.append_assoc]
    · rw [behind, List.reverse_append, List.append_assoc]
  · intro h
    obtain ⟨c', first, second⟩ := h
    exact first.append second

theorem passes_skip (c : TokenCursor) (n : Nat) : c.Passes (c.ahead.take n) (c.skip n) :=
  ⟨(List.take_append_drop n c.ahead).symm, rfl, rfl⟩

theorem Passes.eq_skip {c c' : TokenCursor} {ts : List Token} (h : c.Passes ts c') :
    c' = c.skip ts.length := by
  obtain ⟨ahead, behind, file⟩ := h
  cases c'
  simp_all [skip]

theorem passes_iff {c c' : TokenCursor} {ts : List Token} :
    c.Passes ts c' ↔ ts <+: c.ahead ∧ c' = c.skip ts.length := by
  constructor
  · intro h
    exact ⟨⟨c'.ahead, h.ahead.symm⟩, h.eq_skip⟩
  · intro h
    obtain ⟨⟨rest, h⟩, rfl⟩ := h
    have passed := c.passes_skip ts.length
    rwa [← h, List.take_left] at passed

theorem Passes.unique {c c' : TokenCursor} {ts us : List Token} (h : c.Passes ts c')
    (h' : c.Passes us c') : ts = us :=
  List.append_cancel_right (h.ahead.symm.trans h'.ahead)

theorem passes_ofTokens (ts rest : List Token) (file : String) :
    (ofTokens (ts ++ rest) file).Passes ts ⟨ts.reverse, rest, file⟩ :=
  ⟨rfl, (List.append_nil _).symm, rfl⟩

/-- Passing tokens leaves fewer of them ahead. -/
theorem Passes.length_le {c c' : TokenCursor} {ts : List Token} {n : Nat} (h : c.Passes ts c')
    (some_passed : ts ≠ []) (bounded : c.ahead.length ≤ n + 1) : c'.ahead.length ≤ n := by
  have passed := List.length_pos_iff.2 some_passed
  rw [h.ahead, List.length_append] at bounded
  omega

theorem Passes.current? {c c' : TokenCursor} {t : Token} {ts : List Token}
    (h : c.Passes (t :: ts) c') : c.current? = some t := by
  rw [TokenCursor.current?, h.ahead]
  rfl

theorem passes_of_current? {c : TokenCursor} {t : Token} (next : c.current? = some t) :
    c.Passes [t] (c.skip 1) := by
  obtain ⟨rest, ahead⟩ := List.head?_eq_some_iff.1 next
  exact passes_iff.2 ⟨⟨rest, ahead.symm⟩, rfl⟩

theorem Passes.kindAt?_one {c c' : TokenCursor} {t u : Token} {ts : List Token}
    (h : c.Passes (t :: u :: ts) c') : c.kindAt? 1 = some u.kind := by
  rw [kindAt?, h.ahead]
  rfl

theorem passes_of_kindAt?_one {c : TokenCursor} {t : Token} {kind : Kind}
    (first : c.current? = some t) (second : c.kindAt? 1 = some kind) :
    ∃ u, u.kind = kind ∧ c.Passes [t, u] (c.skip 2) := by
  obtain ⟨rest, ahead⟩ := List.head?_eq_some_iff.1 first
  obtain ⟨u, next, of_kind⟩ := Option.map_eq_some_iff.1 second
  rw [ahead, List.getElem?_cons_succ, ← List.head?_eq_getElem?] at next
  obtain ⟨rest', rfl⟩ := List.head?_eq_some_iff.1 next
  exact ⟨u, of_kind, passes_iff.2 ⟨⟨rest', ahead.symm⟩, rfl⟩⟩

/-- The kind of the token that an opening parenthesis stands before, at the start of a row. -/
def opening? : List Token → Option Kind
  | o :: k :: _ => if o.kind = .leftParen then some k.kind else none
  | _ => none

theorem opening?_eq_some_iff {ts : List Token} {kind : Kind} :
    opening? ts = some kind ↔ ∃ o k us, ts = o :: k :: us ∧ o.kind = .leftParen ∧ k.kind = kind := by
  rcases ts with _ | ⟨o, _ | ⟨k, us⟩⟩
  · simp [opening?]
  · simp [opening?]
  · simp [opening?]

theorem startsWith_iff {c : TokenCursor} {kinds : List Kind} :
    c.startsWith kinds = true ↔ ∃ ts c', ts.map Token.kind = kinds ∧ c.Passes ts c' := by
  unfold startsWith
  rw [beq_iff_eq]
  constructor
  · intro h
    exact ⟨_, _, h, c.passes_skip kinds.length⟩
  · intro h
    obtain ⟨ts, c', rfl, h⟩ := h
    rw [h.ahead, List.length_map, List.take_left]

theorem startsWith_opening_iff {c : TokenCursor} {kind : Kind} :
    c.startsWith [.leftParen, kind] = true ↔ opening? c.ahead = some kind := by
  rw [opening?_eq_some_iff]
  rcases h : c.ahead with _ | ⟨o, _ | ⟨k, us⟩⟩
  · simp [startsWith, h]
  · simp [startsWith, h]
  · simp [startsWith, h]

/-! ### What a reader sees -/

/-- Rows of tokens that look the same to a reader. It sees the next token, and if that is an opening
parenthesis, the one after it. -/
inductive Alike : List Token → List Token → Prop where
  /-- The same token, which opens nothing. -/
  | token {t : Token} {ts us : List Token} : t.kind ≠ .leftParen → Alike (t :: ts) (t :: us)
  /-- The same two tokens. -/
  | pair {t u : Token} {ts us : List Token} : Alike (t :: u :: ts) (t :: u :: us)

theorem Alike.append {ts us : List Token} (h : Alike ts us) (vs : List Token) :
    Alike (vs ++ ts) (vs ++ us) := by
  rcases vs with _ | ⟨v, _ | ⟨w, vs⟩⟩
  · exact h
  · cases h with
    | token _ => exact .pair
    | pair => exact .pair
  · exact .pair

theorem Alike.head?_eq {ts us : List Token} (h : Alike ts us) : ts.head? = us.head? := by
  cases h with
  | token _ => rfl
  | pair => rfl

theorem opening?_cons_of_ne {t : Token} (h : t.kind ≠ .leftParen) (ts : List Token) :
    opening? (t :: ts) = none := by
  cases ts with
  | nil => rfl
  | cons u ts => exact if_neg h

theorem Alike.opening?_eq {ts us : List Token} (h : Alike ts us) : opening? ts = opening? us := by
  cases h with
  | token no_opening => rw [opening?_cons_of_ne no_opening, opening?_cons_of_ne no_opening]
  | pair => rfl

theorem Passes.alike {c c₁ c' c₁' : TokenCursor} {ts : List Token} (h : c.Passes ts c₁)
    (h' : c'.Passes ts c₁') (same : Alike c₁.ahead c₁'.ahead) : Alike c.ahead c'.ahead := by
  rw [h.ahead, h'.ahead]
  exact same.append ts

/-! ### The error of an unexpected token -/

theorem position_of_current? {c : TokenCursor} {t : Token} (next : c.current? = some t) :
    c.position = t.span.start := by
  obtain ⟨rest, ahead⟩ := List.head?_eq_some_iff.1 next
  rw [position, ahead]

/-- At the end of the row the cursor is where the last token ends. -/
theorem position_of_getLast? {c : TokenCursor} {t : Token} (at_end : c.current? = none)
    (last : c.tokens.getLast? = some t) : c.position = t.span.stop := by
  have nothing := List.head?_eq_none_iff.1 at_end
  rw [tokens, nothing, List.append_nil, List.getLast?_reverse] at last
  obtain ⟨rest, behind⟩ := List.head?_eq_some_iff.1 last
  rw [position, nothing, behind]

theorem position_of_tokens_nil {c : TokenCursor} (nothing : c.tokens = []) :
    c.position = .ofBytes c.file 0 := by
  obtain ⟨behind, ahead⟩ := List.append_eq_nil_iff.1 nothing
  rw [position, ahead, List.reverse_eq_nil_iff.1 behind]

/-- An error names the token that comes next, or the end, which is where the last token of the row
ends. -/
theorem unexpected_eq (c : TokenCursor) (expected : List Kind) :
    c.unexpected expected =
      match c.current?, c.tokens.getLast? with
      | some t, _ => ⟨.unexpectedToken expected t.display, t.span.start⟩
      | none, some t => ⟨.unexpectedEnd expected, t.span.stop⟩
      | none, none => ⟨.unexpectedEnd expected, .ofBytes c.file 0⟩ := by
  unfold TokenCursor.unexpected
  cases next : c.current? with
  | some t => rw [position_of_current? next]
  | none =>
    cases last : c.tokens.getLast? with
    | some t => rw [position_of_getLast? next last]
    | none => rw [position_of_tokens_nil (List.getLast?_eq_none_iff.1 last)]

theorem Passes.getLast?_tokens {c c' : TokenCursor} {t : Token} {ts : List Token}
    (h : c.Passes (ts ++ [t]) c') (at_end : c'.current? = none) : c'.tokens.getLast? = some t := by
  rw [tokens, List.head?_eq_none_iff.1 at_end, h.behind]
  simp

/-- After a token, an error names the next one or the end, which is where that token ends. -/
theorem Passes.unexpected {c c' : TokenCursor} {t : Token} {ts : List Token}
    (h : c.Passes (ts ++ [t]) c') (expected : List Kind) :
    c'.unexpected expected =
      match c'.current? with
      | some u => ⟨.unexpectedToken expected u.display, u.span.start⟩
      | none => ⟨.unexpectedEnd expected, t.span.stop⟩ := by
  rw [unexpected_eq]
  cases next : c'.current? with
  | some u => rfl
  | none => rw [h.getLast?_tokens next]

theorem position_unexpected (c : TokenCursor) (expected : List Kind) :
    (c.unexpected expected).position = c.position := by
  unfold unexpected
  split <;> rfl

end TokenCursor

end WasmText
