import WasmText.Proofs.Lossless
import WasmText.Proofs.Reading.InStep
import WasmText.Source

/-!
# Layout means nothing

What a source says does not depend on its layout. Its tokens can be written with any layout between
them, as long as there is some: the source that results has the same tokens, and is read as the same
module or has an error with the same cause. Only inside an operator with a sign, which is three
tokens, there may be no layout.

## What is proved

* `continuesOperator_append`: the operators of a row of lexemes are those of its lexemes.
* `spells_spellWith`: the tokens of some lexemes, with layout between them, are cut into these
  lexemes.
* `operator_of_sign`: a sign is always the end of an operator.
* `layout_insensitive`: what a source says with another layout.
-/

namespace WasmText

open Text Lexeme Cut

/-- Whether a row of kinds begins with an operator: a keyword, an underscore and a sign. -/
def beginsOperator : List Kind → Bool
  | .keyword _ :: .mark .underscore :: .sign _ :: _ => true
  | _ => false

/-- Whether, in a row of kinds, the one with a number continues an operator: as its underscore or as
its sign. -/
def continuesOperator (kinds : List Kind) : Nat → Bool
  | 0 => false
  | 1 => beginsOperator kinds
  | i + 2 => beginsOperator (kinds.drop i) || beginsOperator (kinds.drop (i + 1))

/-- Gaps that keep the tokens of a row apart: one before each of them, and one after the last. -/
structure Separates (gaps : List (List Char)) (last : List Char) (ts : List Token) : Prop where
  /-- There is a gap for each token. -/
  length : gaps.length = ts.length
  /-- The gaps are layout. -/
  layout : ∀ gap ∈ gaps, IsRun isLayout gap
  /-- So is the last one. -/
  lastLayout : IsRun isLayout last
  /-- Inside an operator there is no layout. -/
  inside : ∀ i < ts.length, continuesOperator (ts.map Token.kind) i = true → gaps[i]? = some []
  /-- Between other tokens there is some. -/
  between : ∀ i < ts.length, 0 < i → continuesOperator (ts.map Token.kind) i = false →
    gaps[i]? ≠ some []

instance (gaps : List (List Char)) (last : List Char) (ts : List Token) :
    Decidable (Separates gaps last ts) :=
  decidable_of_iff
    (gaps.length = ts.length ∧ (∀ gap ∈ gaps, IsRun isLayout gap) ∧ IsRun isLayout last ∧
      (∀ i < ts.length, continuesOperator (ts.map Token.kind) i = true → gaps[i]? = some []) ∧
      ∀ i < ts.length, 0 < i → continuesOperator (ts.map Token.kind) i = false →
        gaps[i]? ≠ some [])
    ⟨fun ⟨length, layout, last, inside, between⟩ => ⟨length, layout, last, inside, between⟩,
      fun ⟨length, layout, last, inside, between⟩ => ⟨length, layout, last, inside, between⟩⟩

/-! ### The operators of a row of lexemes -/

/-- The kinds of the tokens of a lexeme. -/
def Lexeme.kinds (l : Lexeme) : List Kind := l.pieces.map Prod.fst

theorem continuesOperator_of_lt {l : Lexeme} {i : Nat} (inside : i + 1 < l.kinds.length)
    (kinds : List Kind) : continuesOperator (l.kinds ++ kinds) (i + 1) = true := by
  cases l with
  | operator k s =>
    have two : i = 0 ∨ i = 1 := by
      have three : (Lexeme.operator k s).kinds.length = 3 := rfl
      omega
    rcases two with rfl | rfl <;> rfl
  | _ => exact absurd inside (Nat.not_lt.2 (Nat.le_add_left 1 i))

/-- No operator begins before a lexeme and goes on into it. -/
theorem beginsOperator_cons (kind : Kind) (ls : List Lexeme) :
    beginsOperator (kind :: ls.flatMap Lexeme.kinds) = false := by
  cases kind with
  | keyword k =>
    rcases ls with _ | ⟨l, ls⟩
    · rfl
    cases l with
    | mark m =>
      -- After the underscore there would have to be a sign, but no lexeme begins with one.
      cases m with
      | underscore =>
        rcases ls with _ | ⟨l, ls⟩
        · rfl
        · cases l <;> rfl
      | _ => rfl
    | _ => rfl
  | _ => rfl

theorem continuesOperator_cons {kind : Kind} {kinds : List Kind}
    (begins : beginsOperator (kind :: kinds) = false) (i : Nat) :
    continuesOperator (kind :: kinds) (i + 1) = continuesOperator kinds i := by
  match i with
  | 0 => exact begins
  | 1 =>
    have second : continuesOperator (kind :: kinds) 2 =
        (beginsOperator (kind :: kinds) || beginsOperator kinds) := rfl
    rw [second, begins]
    rfl
  | i + 2 => rfl

theorem continuesOperator_append (l : Lexeme) (ls : List Lexeme) (i : Nat) :
    continuesOperator (l.kinds ++ ls.flatMap Lexeme.kinds) (l.kinds.length + i) =
      continuesOperator (ls.flatMap Lexeme.kinds) i := by
  have single (kind : Kind) :
      continuesOperator (kind :: ls.flatMap Lexeme.kinds) (1 + i) =
        continuesOperator (ls.flatMap Lexeme.kinds) i := by
    rw [Nat.add_comm]
    exact continuesOperator_cons (beginsOperator_cons kind ls) i
  cases l with
  | operator k s =>
    have third := continuesOperator_cons (beginsOperator_cons (.sign s) ls) i
    have underscore (kinds : List Kind) : beginsOperator (.mark .underscore :: kinds) = false := rfl
    have second := (continuesOperator_cons (underscore _) (i + 1)).trans third
    rw [Nat.add_comm]
    exact second
  | _ => exact single _

/-! ### Laying out lexemes -/

/-- The kind and the text of a token: the piece of text that it is. -/
def Token.piece (t : Token) : Kind × List Char := (t.kind, t.text.toList)

theorem piece_place (file : String) (start : Nat) (pieces : List (Kind × List Char)) :
    (Lexeme.place file start pieces).map Token.piece = pieces := by
  induction pieces generalizing start with
  | nil => rfl
  | cons piece pieces ih => simp [Lexeme.place, Token.piece, ih]

theorem pieces_place {cut : Cut} {cs : List Char} (spelled : cut.Spells cs) (file : String)
    (offset : Nat) :
    (cut.place file offset).tokens.map Token.piece = cut.lexemes.flatMap Lexeme.pieces := by
  induction spelled generalizing offset with
  | finished => rfl
  | lexeme _ _ _ ih =>
    simp [Cut.place, Lexed.after, Cut.lexemes, Lexeme.tokens, piece_place, ih]

/-- Tokens with nothing between them are written one after the other. -/
theorem spellWith_append {gaps : List (List Char)} {ts us : List Token}
    (closed : ∀ i < ts.length, gaps[i]? = some []) :
    spellWith gaps (ts ++ us) =
      (ts.map Token.piece).flatMap Prod.snd ++ spellWith (gaps.drop ts.length) us := by
  induction ts generalizing gaps with
  | nil => rfl
  | cons t ts ih =>
    have first := closed 0 (Nat.zero_lt_succ _)
    cases gaps with
    | nil => cases first
    | cons gap gaps =>
      obtain rfl : gap = [] := Option.some.inj first
      have closed' : ∀ i < ts.length, gaps[i]? = some [] := fun i within =>
        closed (i + 1) (Nat.succ_lt_succ within)
      rw [List.cons_append, spellWith_cons, ih closed']
      simp [Token.piece]

theorem isDelimited_append {w rest : List Char} (layout : IsRun isLayout w)
    (some_layout : w = [] → isDelimited rest = true) : isDelimited (w ++ rest) = true := by
  cases w with
  | nil => exact some_layout rfl
  | cons c w =>
    have first := layout c List.mem_cons_self
    simp [isDelimited, isDelimiter, first]

theorem kinds_of_pieces {ts : List Token} {ls : List Lexeme}
    (said : ts.map Token.piece = ls.flatMap Lexeme.pieces) :
    ts.map Token.kind = ls.flatMap Lexeme.kinds := by
  have kinds := congrArg (List.map Prod.fst) said
  rw [List.map_map, List.map_flatMap] at kinds
  exact kinds

/-- The gaps in and after the first lexeme of a row. -/
theorem Separates.lexeme {gaps : List (List Char)} {last : List Char} {ts us : List Token}
    {l : Lexeme} {ls : List Lexeme} (h : Separates gaps last (ts ++ us))
    (first : ts.map Token.piece = l.pieces) (others : us.map Token.piece = ls.flatMap Lexeme.pieces) :
    (∀ i, i + 1 < ts.length → gaps[i + 1]? = some []) ∧
      (us ≠ [] → gaps[ts.length]? ≠ some []) ∧ Separates (gaps.drop ts.length) last us := by
  have first_kinds : ts.map Token.kind = l.kinds := by
    rw [Lexeme.kinds, ← first, List.map_map]
    rfl
  have length : ts.length = l.kinds.length := by rw [← first_kinds, List.length_map]
  have some_token : 0 < ts.length := by
    rw [length, Lexeme.kinds, List.length_map]
    exact List.length_pos_iff.2 (pieces_ne_nil l)
  have kinds : (ts ++ us).map Token.kind = l.kinds ++ ls.flatMap Lexeme.kinds := by
    rw [List.map_append, first_kinds, kinds_of_pieces others]
  have continues (i : Nat) : continuesOperator ((ts ++ us).map Token.kind) (ts.length + i) =
      continuesOperator (us.map Token.kind) i := by
    rw [kinds, length, continuesOperator_append, kinds_of_pieces others]
  have inside_iff (i : Nat) : ts.length + i < (ts ++ us).length ↔ i < us.length := by
    rw [List.length_append]
    omega
  refine ⟨?_, ?_, ?_, ?_, h.lastLayout, ?_, ?_⟩
  · intro i within
    refine h.inside (i + 1) (by rw [List.length_append]; omega) ?_
    rw [kinds]
    exact continuesOperator_of_lt (length ▸ within) _
  · intro more
    have within := (inside_iff 0).2 (List.length_pos_iff.2 more)
    exact h.between ts.length within some_token (continues 0)
  · rw [List.length_drop, h.length, List.length_append, Nat.add_sub_cancel_left]
  · exact fun gap member => h.layout gap (List.mem_of_mem_drop member)
  · intro i within continued
    rw [List.getElem?_drop]
    exact h.inside _ ((inside_iff i).2 within) ((continues i).trans continued)
  · intro i within _ apart
    rw [List.getElem?_drop]
    exact h.between _ ((inside_iff i).2 within) (by omega) ((continues i).trans apart)

/-- What is laid out after a lexeme lets it end. -/
theorem Separates.isDelimited {gaps : List (List Char)} {last : List Char} {ts : List Token}
    (h : Separates gaps last ts) (apart : ts ≠ [] → gaps[0]? ≠ some []) :
    isDelimited (spellWith gaps ts ++ last) = true := by
  cases ts with
  | nil =>
    rw [spellWith_nil, List.nil_append, ← List.append_nil last]
    exact isDelimited_append h.lastLayout fun _ => rfl
  | cons t ts =>
    cases gaps with
    | nil => cases h.length
    | cons gap gaps =>
      have nonempty : gap ≠ [] := fun nothing => apart (by simp) (congrArg some nothing)
      rw [spellWith_cons, List.append_assoc]
      exact isDelimited_append (h.layout gap List.mem_cons_self) fun nothing =>
        absurd nothing nonempty

/-- The tokens of some lexemes, with layout between them, are cut into these lexemes. -/
theorem spells_spellWith {ls : List Lexeme} {ts : List Token} {gaps : List (List Char)}
    {last : List Char} (said : ts.map Token.piece = ls.flatMap Lexeme.pieces)
    (stands : ∀ l ∈ ls, l.Stands []) (apart : Separates gaps last ts) :
    ∃ cut : Cut, cut.Spells (spellWith gaps ts ++ last) ∧ cut.lexemes = ls := by
  induction ls generalizing ts gaps with
  | nil =>
    obtain rfl := List.map_eq_nil_iff.1 said
    rw [spellWith_nil]
    exact ⟨.finished last, .finished apart.lastLayout, rfl⟩
  | cons l ls ih =>
    -- The tokens `us` of the first lexeme stand together, and a gap separates them from the others.
    obtain ⟨us, vs, rfl, first, others⟩ := List.map_eq_append_iff.1 said
    obtain ⟨closed, open_, next⟩ := apart.lexeme first others
    obtain ⟨cut, spelled, lexemes⟩ := ih others (fun l' member =>
      stands l' (List.mem_cons_of_mem l member)) next
    obtain ⟨u, us, rfl⟩ := List.exists_cons_of_ne_nil
      (show us ≠ [] by rintro rfl; exact pieces_ne_nil l first.symm)
    cases gaps with
    | nil => cases apart.length
    | cons gap gaps =>
      have text : l.text = u.text.toList ++ (us.map Token.piece).flatMap Prod.snd := by
        rw [Lexeme.text, ← first]
        rfl
      have closed' : ∀ i < us.length, gaps[i]? = some [] := fun i within =>
        closed i (Nat.succ_lt_succ within)
      have whole : spellWith (gap :: gaps) (u :: us ++ vs) ++ last =
          gap ++ (l.text ++ (spellWith (gaps.drop us.length) vs ++ last)) := by
        rw [List.cons_append, spellWith_cons, spellWith_append closed', text]
        simp [List.append_assoc]
      have delimited : Lexeme.isDelimited (spellWith (gaps.drop us.length) vs ++ last) = true := by
        refine next.isDelimited fun more => ?_
        rw [List.getElem?_drop]
        exact open_ more
      have layout := apart.layout gap List.mem_cons_self
      have first_stands := (stands l List.mem_cons_self).of_isDelimited delimited
      rw [whole]
      exact ⟨.lexeme gap l cut, .lexeme layout first_stands spelled, by rw [Cut.lexemes, lexemes]⟩

theorem stands_of_mem_lexemes {cut : Cut} {cs : List Char} (spelled : cut.Spells cs) :
    ∀ l ∈ cut.lexemes, l.Stands [] := by
  induction spelled with
  | finished => simp [Cut.lexemes]
  | lexeme _ stands _ ih => exact List.forall_mem_cons.2 ⟨stands.of_isDelimited rfl, ih⟩

/-! ### Signs -/

/-- Three tokens of a row that are an operator with a sign, the last one with the number `i`: they
stand side by side. -/
def EndsOperator (ts : List Token) (i : Nat) : Prop :=
  ∃ (j : Nat) (k : Keyword) (s : Sign) (t u v : Token), i = j + 2 ∧
    ts[j]? = some t ∧ ts[j + 1]? = some u ∧ ts[j + 2]? = some v ∧
    t.kind = .keyword k ∧ u.kind = .mark .underscore ∧ v.kind = .sign s ∧
    t.span.stop = u.span.start ∧ u.span.stop = v.span.start

theorem EndsOperator.append {ts : List Token} {i : Nat} (h : EndsOperator ts i) (us : List Token) :
    EndsOperator (us ++ ts) (us.length + i) := by
  obtain ⟨j, k, s, t, u, v, rfl, first, second, third, parts⟩ := h
  have shifted (n : Nat) : (us ++ ts)[us.length + n]? = ts[n]? := by
    rw [List.getElem?_append_right (Nat.le_add_right _ _), Nat.add_sub_cancel_left]
  exact ⟨us.length + j, k, s, t, u, v, rfl, (shifted j).trans first, (shifted (j + 1)).trans second,
    (shifted (j + 2)).trans third, parts⟩

theorem EndsOperator.lexeme {file : String} {start i : Nat} {l : Lexeme} {t : Token} {s : Sign}
    (found : (l.tokens file start)[i]? = some t) (is_sign : t.kind = .sign s) (us : List Token) :
    EndsOperator (l.tokens file start ++ us) i := by
  have piece := mem_place (List.mem_of_getElem? found)
  rw [is_sign] at piece
  cases l with
  | operator k s' =>
    match i, found with
    | 0, found => cases found; cases is_sign
    | 1, found => cases found; cases is_sign
    | 2, found => exact ⟨0, k, s', _, _, _, rfl, rfl, rfl, rfl, rfl, rfl, rfl, rfl, rfl⟩
  | _ => simp [Lexeme.pieces] at piece

/-- A sign is always the end of an operator. -/
theorem operator_of_sign {cut : Cut} {file : String} {offset i : Nat} {t : Token} {s : Sign}
    (found : (cut.place file offset).tokens[i]? = some t) (is_sign : t.kind = .sign s) :
    EndsOperator (cut.place file offset).tokens i := by
  induction cut generalizing offset i with
  | finished => cases found
  | stopped layout passed cause =>
    obtain rfl := List.mem_singleton.1 (List.mem_of_getElem? found)
    cases is_sign
  | lexeme layout l next ih =>
    simp only [Cut.place, Lexed.after] at found ⊢
    rw [List.getElem?_append] at found
    split at found
    · exact .lexeme found is_sign _
    · rename_i later
      have ends := (ih found).append (l.tokens file (offset + utf8Length layout))
      rwa [Nat.add_sub_cancel' (Nat.le_of_not_lt later)] at ends

/-! ### The same tokens -/

theorem content_eq_of_piece {ts us : List Token} (same : ts.map Token.piece = us.map Token.piece) :
    ts.map Token.content = us.map Token.content := by
  have content : Token.content = (fun p => (p.1, String.ofList p.2)) ∘ Token.piece := by
    funext t
    simp [Token.content, Token.piece]
  rw [content, ← List.map_map, ← List.map_map, same]

theorem readsAs_of_content {ts us : List Token}
    (same : ts.map Token.content = us.map Token.content) : List.Forall₂ Token.ReadsAs ts us := by
  induction ts generalizing us with
  | nil =>
    obtain rfl := List.map_eq_nil_iff.1 same.symm
    exact .nil
  | cons t ts ih =>
    obtain ⟨u, us, rfl, first, others⟩ := List.map_eq_cons_iff.1 same.symm
    obtain ⟨kind, text⟩ := Prod.mk.inj first
    exact .cons ⟨kind.symm, fun _ => text.symm⟩ (ih others.symm)

/-- Tokens that say the same are blamed in the same words. -/
theorem SameBlame.eq_of_content {t u : Option Token} {cause cause' : Cause}
    (h : SameBlame t u cause cause') (same : t.map Token.content = u.map Token.content) :
    cause = cause' := by
  have content {t u : Token} (same : t.content = u.content) :
      t.text = u.text ∧ t.display = u.display := by
    obtain ⟨kind, text⟩ := Prod.mk.inj same
    exact ⟨text, by rw [Token.display, Token.display, kind, text]⟩
  cases h with
  | unexpectedEnd => rfl
  | unexpectedToken => rw [(content (Option.some.inj same)).2]
  | unknownField => rw [(content (Option.some.inj same)).2]
  | malformedIndex => rw [(content (Option.some.inj same)).1]
  | malformedString => rw [(content (Option.some.inj same)).1]
  | trailingToken => rw [(content (Option.some.inj same)).2]

/-- Rows of tokens that say the same are read as the same module, or have errors with the same
cause. -/
theorem ofTokens_of_content {ts us : List Token} (same : ts.map Token.content = us.map Token.content)
    (file file' : String) :
    (∃ m, Module.ofTokens ts file = .ok m ∧ Module.ofTokens us file' = .ok m) ∨
      ∃ e e', Module.ofTokens ts file = .error e ∧ Module.ofTokens us file' = .error e' ∧
        e'.cause = e.cause := by
  rcases TwoRows.ofTokens_agree ⟨ts, us, file, file', readsAs_of_content same⟩ with
    read | ⟨e, e', failed, failed', i, -, -, blame⟩
  · exact Or.inl read
  · have token := congrArg (·[i]?) same
    simp only [List.getElem?_map] at token
    exact Or.inr ⟨e, e', failed, failed', (blame.eq_of_content token).symm⟩

/-- The layout of a source means nothing. Its tokens, with other layout that keeps them apart, are a
source with the same tokens, which is read as the same module or has an error with the same cause;
and signs only occur as the ends of operators, inside which there may be no layout. -/
theorem layout_insensitive {source file : String} {ts : List Token}
    (tokenized : tokenize source file = .ok ts) :
    (∀ i t s, ts[i]? = some t → t.kind = .sign s → EndsOperator ts i) ∧
      ∀ gaps last file', Separates gaps last ts →
        (∃ us, tokenize (String.ofList (spellWith gaps ts ++ last)) file' = .ok us ∧
          us.map Token.content = ts.map Token.content) ∧
        ((∃ m, Module.ofSource source file = .ok m ∧
            Module.ofSource (String.ofList (spellWith gaps ts ++ last)) file' = .ok m) ∨
          ∃ e e', Module.ofSource source file = .error e ∧
            Module.ofSource (String.ofList (spellWith gaps ts ++ last)) file' = .error e' ∧
            e'.cause = e.cause) := by
  obtain ⟨cut, spelled, rfl⟩ := tokenize_eq_ok_iff_spells.1 tokenized
  refine ⟨fun i t s found is_sign => operator_of_sign found is_sign, ?_⟩
  intro gaps last file' apart
  have said := pieces_place spelled file 0
  obtain ⟨cut', spelled', lexemes⟩ := spells_spellWith said (stands_of_mem_lexemes spelled) apart
  have tokenized' : tokenize (String.ofList (spellWith gaps (cut.place file 0).tokens ++ last)) file' =
      .ok (cut'.place file' 0).tokens :=
    tokenize_eq_ok_iff_spells.2 ⟨cut', by rwa [String.toList_ofList], rfl⟩
  have same : (cut.place file 0).tokens.map Token.content =
      (cut'.place file' 0).tokens.map Token.content := by
    refine content_eq_of_piece (said.trans ?_)
    rw [pieces_place spelled' file' 0, lexemes]
  refine ⟨⟨_, tokenized', same.symm⟩, ?_⟩
  unfold Module.ofSource
  rw [tokenized, tokenized']
  exact ofTokens_of_content same file file'

/-- A source with an operator, and the same tokens with other layout. -/
theorem layout_insensitive_operator :
    tokenize "(div_s $x)" defaultFile = .ok (lex "(div_s $x)" defaultFile).tokens ∧
      Separates [[' '], ['\n'], [], [], ['\t', ' '], [' ']] ['\n']
        (lex "(div_s $x)" defaultFile).tokens ∧
      ∃ us, tokenize " (\ndiv_s\t $x )\n" defaultFile = .ok us ∧
        us.map Token.content = (lex "(div_s $x)" defaultFile).tokens.map Token.content := by
  have tokenized : tokenize "(div_s $x)" defaultFile = .ok (lex "(div_s $x)" defaultFile).tokens := by
    decide +kernel
  have apart : Separates [[' '], ['\n'], [], [], ['\t', ' '], [' ']] ['\n']
      (lex "(div_s $x)" defaultFile).tokens := by decide +kernel
  have text : String.ofList (spellWith [[' '], ['\n'], [], [], ['\t', ' '], [' ']]
      (lex "(div_s $x)" defaultFile).tokens ++ ['\n']) = " (\ndiv_s\t $x )\n" := by decide +kernel
  have same := ((layout_insensitive tokenized).2 _ _ defaultFile apart).1
  rw [text] at same
  exact ⟨tokenized, apart, same⟩

end WasmText
