import Mathlib.Data.List.TakeWhile
import WasmText.Lexeme.Alphabet

/-!
# Longest texts

A scan that takes each part of a lexeme as far as it goes is compared with a language, a set of
texts: what it takes should be the longest text of the language that the input begins with.

## What is proved

* `Longest.append`: the longest text of two languages in a row is made of the longest texts of each,
  if no text of the second begins with a character that the first has taken.
* `longest_run`: a run of characters in a class is taken as a whole.
* `takeWhile_append_of_stops`, `dropWhile_append_of_stops`: a run ends where the class does.
-/

namespace WasmText.Lexeme

/-- A text, divided after the longest text of a language that it begins with. -/
structure Longest (belongs : List Char → Prop) (cs first rest : List Char) : Prop where
  /-- The two parts are the text. -/
  append : first ++ rest = cs
  /-- The first part belongs to the language. -/
  taken : belongs first
  /-- Nothing that belongs to the language goes further. -/
  longest {part : List Char} : belongs part → part <+: cs → part <+: first

theorem Longest.congr {belongs belongs' : List Char → Prop} {cs taken rest : List Char}
    (h : Longest belongs cs taken rest) (same : ∀ part, belongs part ↔ belongs' part) :
    Longest belongs' cs taken rest :=
  ⟨h.append, (same taken).1 h.taken, fun member => h.longest ((same _).2 member)⟩

theorem Longest.unique {belongs : List Char → Prop} {cs us vs us' vs' : List Char}
    (h : Longest belongs cs us vs) (h' : Longest belongs cs us' vs') : us = us' ∧ vs = vs' := by
  have one : us <+: us' := h'.longest h.taken ⟨vs, h.append⟩
  have other : us' <+: us := h.longest h'.taken ⟨vs', h'.append⟩
  obtain rfl := List.IsPrefix.eq_of_length_le one other.length_le
  exact ⟨rfl, List.append_cancel_left (h.append.trans h'.append.symm)⟩

/-- A text of a language that can not be made longer is the longest. -/
theorem Longest.eq_of_stops {belongs : List Char → Prop} {cs taken rest part rest' : List Char}
    (h : Longest belongs cs taken rest) (append : part ++ rest' = cs) (member : belongs part)
    (stops : ∀ c more, c ∈ rest'.head? → ¬ belongs (part ++ c :: more)) :
    taken = part ∧ rest = rest' := by
  obtain ⟨more, taken_eq⟩ := h.longest member ⟨rest', append⟩
  cases more with
  | nil =>
    rw [List.append_nil] at taken_eq
    have parts := h.append.trans append.symm
    rw [← taken_eq] at parts
    exact ⟨taken_eq.symm, List.append_cancel_left parts⟩
  | cons c more =>
    have parts := h.append.trans append.symm
    rw [← taken_eq, List.append_assoc] at parts
    have rest_eq : c :: more ++ rest = rest' := List.append_cancel_left parts
    have member := h.taken
    rw [← taken_eq] at member
    exact absurd member (stops c more (by rw [← rest_eq]; rfl))

/-- The longest texts of two languages in a row. -/
theorem Longest.append_of_apart {first second : List Char → Prop} {cs us vs ws xs : List Char}
    (h : Longest first cs us vs) (h' : Longest second vs ws xs)
    (apart : ∀ c ∈ us, ∀ part, ¬ second (c :: part)) :
    Longest (fun cs => ∃ ps qs, first ps ∧ second qs ∧ ps ++ qs = cs) cs (us ++ ws) xs := by
  refine ⟨?_, ⟨us, ws, h.taken, h'.taken, rfl⟩, ?_⟩
  · rw [List.append_assoc, h'.append, h.append]
  · rintro part ⟨ps, qs, in_first, in_second, rfl⟩ ⟨more, begins⟩
    rw [List.append_assoc] at begins
    obtain ⟨left, us_eq⟩ := h.longest in_first ⟨_, begins⟩
    have parts := begins.trans h.append.symm
    rw [← us_eq, List.append_assoc] at parts
    have rest_eq : qs ++ more = left ++ vs := List.append_cancel_left parts
    -- Where `ps` stops short of `us`, the second part would begin with a character of `us`.
    cases left with
    | nil =>
      rw [List.append_nil] at us_eq
      have inner : qs <+: ws := h'.longest in_second ⟨more, rest_eq⟩
      rw [← us_eq]
      exact (List.prefix_append_right_inj ps).2 inner
    | cons c left =>
      cases qs with
      | nil =>
        rw [List.append_nil, ← us_eq, List.append_assoc]
        exact List.prefix_append _ _
      | cons d qs =>
        obtain ⟨rfl, -⟩ := List.cons.inj rest_eq
        exact absurd in_second (apart d (by rw [← us_eq]; simp) qs)

/-! ### Runs -/

/-- A run of characters in a class. -/
def IsRun (belongs : Char → Bool) (cs : List Char) : Prop :=
  ∀ c ∈ cs, belongs c = true

instance (belongs : Char → Bool) (cs : List Char) : Decidable (IsRun belongs cs) :=
  decidable_of_iff (cs.all belongs = true) List.all_eq_true

theorem longest_run (belongs : Char → Bool) (cs : List Char) :
    Longest (IsRun belongs) cs (cs.takeWhile belongs) (cs.dropWhile belongs) := by
  refine ⟨List.takeWhile_append_dropWhile, fun c => List.mem_takeWhile_imp, ?_⟩
  rintro part run ⟨more, rfl⟩
  rw [List.takeWhile_append_of_pos run]
  exact List.prefix_append part _

theorem run_stops {belongs : Char → Bool} {part rest : List Char}
    (stops : ∀ c ∈ rest.head?, belongs c = false) (c : Char) (more : List Char)
    (next : c ∈ rest.head?) : ¬ IsRun belongs (part ++ c :: more) := by
  intro run
  have member := run c (by simp)
  rw [stops c next] at member
  cases member

theorem stops_of_cons {belongs : Char → Bool} {c : Char} (h : belongs c = false)
    (cs : List Char) : ∀ d ∈ (c :: cs).head?, belongs d = false := by
  rintro d ⟨⟩
  exact h

theorem takeWhile_append_of_stops {belongs : Char → Bool} {part rest : List Char}
    (run : IsRun belongs part) (stops : ∀ c ∈ rest.head?, belongs c = false) :
    (part ++ rest).takeWhile belongs = part :=
  ((longest_run belongs _).eq_of_stops rfl run (run_stops stops)).1

theorem dropWhile_append_of_stops {belongs : Char → Bool} {part rest : List Char}
    (run : IsRun belongs part) (stops : ∀ c ∈ rest.head?, belongs c = false) :
    (part ++ rest).dropWhile belongs = rest :=
  ((longest_run belongs _).eq_of_stops rfl run (run_stops stops)).2

theorem dropWhile_stops (belongs : Char → Bool) (cs : List Char) :
    ∀ c ∈ (cs.dropWhile belongs).head?, belongs c = false := by
  intro c next
  have stopped := List.head?_dropWhile_not belongs cs
  rw [next] at stopped
  exact stopped

end WasmText.Lexeme
