import WasmText.Lexed
import WasmText.Parse.Session
import WasmText.Proofs.Openings
import WasmText.Proofs.Reading.Module
import WasmText.Proofs.Sessions

/-!
# Modules by registered rules

Which kind of token opens which field is registered rule by rule, and a later rule for a kind takes
the place of an earlier one. Any kind can be registered, a closing parenthesis too; or none, and then
a module has no fields. From any place in a row of tokens a module is read by the rules that stand,
up to the parenthesis that closes it.

## What is proved

* `performAll_registrations`: registering moves nothing.
* `find?_registered_iff`: the last rule that was registered for a kind is the one that stands.
* `perform_module_iff`: a session reads a module from where it stands, and keeps its tokens and rules.
* `module_by_registrations`: modules by any rules, and where they fail.
-/

namespace WasmText

open TokenCursor Grammar Parse

/-! ### The rules that stand -/

/-- The last rule that was registered for a kind. -/
def LastRule (registered : List (Kind × FieldRule)) (kind : Kind) (rule : FieldRule) : Prop :=
  ∃ before after, registered = before ++ (kind, rule) :: after ∧ ∀ r ∈ after, r.1 ≠ kind

theorem LastRule.mem {rs : List (Kind × FieldRule)} {kind : Kind} {rule : FieldRule}
    (h : LastRule rs kind rule) : (kind, rule) ∈ rs := by
  obtain ⟨before, after, rfl, -⟩ := h
  simp

theorem lastRule_cons_iff {r : Kind × FieldRule} {rs : List (Kind × FieldRule)} {kind : Kind}
    {rule : FieldRule} :
    LastRule (r :: rs) kind rule ↔
      LastRule rs kind rule ∨ r = (kind, rule) ∧ ∀ r' ∈ rs, r'.1 ≠ kind := by
  constructor
  · intro h
    obtain ⟨before, after, split, last⟩ := h
    cases before with
    | nil =>
      obtain ⟨rfl, rfl⟩ := List.cons.inj split
      exact Or.inr ⟨rfl, last⟩
    | cons b before =>
      obtain ⟨rfl, rfl⟩ := List.cons.inj split
      exact Or.inl ⟨before, after, rfl, last⟩
  · intro h
    rcases h with ⟨before, after, rfl, last⟩ | ⟨rfl, last⟩
    · exact ⟨r :: before, after, rfl, last⟩
    · exact ⟨[], rs, rfl, last⟩

/-- The table after some registrations. -/
def FieldTable.registerAll (table : FieldTable) (rs : List (Kind × FieldRule)) : FieldTable :=
  rs.foldl (fun table r => table.register r.1 r.2) table

/-- The rule of a kind is the last one that was registered for it, or the one that the table had. -/
theorem find?_registerAll_iff {table : FieldTable} {rs : List (Kind × FieldRule)} {kind : Kind}
    {rule : FieldRule} :
    (table.registerAll rs).find? kind = some rule ↔
      LastRule rs kind rule ∨ (∀ r ∈ rs, r.1 ≠ kind) ∧ table.find? kind = some rule := by
  induction rs generalizing table with
  | nil => simp [FieldTable.registerAll, LastRule]
  | cons r rs ih =>
    obtain ⟨key, rule'⟩ := r
    rw [lastRule_cons_iff, List.forall_mem_cons]
    have rest := @ih (table.register key rule')
    rw [FieldTable.find?_register] at rest
    refine rest.trans ?_
    by_cases same : kind = key
    · subst same
      simp [and_comm]
    · simp [same, Ne.symm same]

theorem find?_registered_iff {rs : List (Kind × FieldRule)} {kind : Kind} {rule : FieldRule} :
    (FieldTable.empty.registerAll rs).find? kind = some rule ↔ LastRule rs kind rule := by
  rw [find?_registerAll_iff]
  simp [FieldTable.find?, FieldTable.empty]

namespace Session

/-- Registering rules moves nothing. -/
theorem performAll_registrations (s : Session) (rs : List (Kind × FieldRule)) :
    s.performAll (rs.map fun r => .registration (.rule r.1 r.2)) =
      { s with table := s.table.registerAll rs } := by
  induction rs generalizing s with
  | nil => rfl
  | cons r rs ih => exact ih { s with table := s.table.register r.1 r.2 }

/-! ### Reading by them -/

theorem perform_module_of_answers {c c' : TokenCursor} {table : FieldTable} {m : Module}
    (answered : Answers (Parse.module table) c m c') :
    perform ⟨c, table⟩ (.reading .module) = (.module m, ⟨c', table⟩) :=
  perform_of_answers answered.map

theorem perform_module_of_fails {c c' : TokenCursor} {table : FieldTable} {e : Error}
    (failed : FailsWith (Parse.module table) c e c') :
    perform ⟨c, table⟩ (.reading .module) = (.error e, ⟨c', table⟩) :=
  perform_of_fails failed.bind_left

/-- A session reads a module from where it stands, and keeps its rules. -/
theorem perform_module_iff {c : TokenCursor} {table : FieldTable} {m : Module} {s : Session} :
    perform ⟨c, table⟩ (.reading .module) = (.module m, s) ↔
      s.table = table ∧ Answers (Parse.module table) c m s.cursor := by
  constructor
  · intro performed
    cases run : (Parse.module table).run c with
    | ok m' c' =>
      obtain ⟨⟨⟩, rfl⟩ := Prod.ext_iff.1 ((perform_module_of_answers run).symm.trans performed)
      exact ⟨rfl, run⟩
    | error e c' =>
      obtain ⟨⟨⟩, -⟩ := Prod.ext_iff.1 ((perform_module_of_fails run).symm.trans performed)
  · rintro ⟨rfl, answered⟩
    exact perform_module_of_answers answered

end Session

/-- By whatever rules were registered, and from whatever place, a module is read exactly if the next
tokens say one by the last rules for their kinds; then the session stands after it, with the same
tokens and rules. If the name and some fields were read and the next token neither closes the module
nor opens a field by these rules, the error blames this token, and the session stands before it. -/
theorem module_by_registrations (rs : List (Kind × FieldRule)) (c : TokenCursor) :
    ∃ table,
      Session.performAll ⟨c, .empty⟩ (rs.map fun r => .registration (.rule r.1 r.2)) = ⟨c, table⟩ ∧
      (∀ kind rule, table.find? kind = some rule ↔ LastRule rs kind rule) ∧
      (∀ m s, Session.perform ⟨c, table⟩ (.reading .module) = (.module m, s) ↔
        s.table = table ∧ s.cursor.tokens = c.tokens ∧
          ∃ ts, IsModuleBy table ts m ∧ c.Passes ts s.cursor) ∧
      ∀ c₁ t, AmongFields table c c₁ → c₁.current? = some t → t.kind ≠ .rightParen →
        (∀ kind, opening? c₁.ahead = some kind → ∀ rule, ¬ LastRule rs kind rule) →
        Session.perform ⟨c, table⟩ (.reading .module) =
          (.error ⟨.unknownField t.display, t.span.start⟩, ⟨c₁, table⟩) := by
  refine ⟨FieldTable.empty.registerAll rs, Session.performAll_registrations _ rs,
    fun _ _ => find?_registered_iff, ?_, ?_⟩
  · intro m s
    rw [Session.perform_module_iff, answers_moduleBy_iff]
    refine and_congr_right fun _ => ⟨?_, And.right⟩
    rintro ⟨ts, said, passed⟩
    exact ⟨by rw [passed.eq_skip, tokens_skip], ts, said, passed⟩
  · intro c₁ t among next not_closing no_rule
    rw [← position_of_current? next]
    refine Session.perform_module_of_fails (among.fails (.unknown next not_closing ?_))
    intro kind opened
    refine Option.eq_none_iff_forall_ne_some.2 fun rule found => ?_
    exact no_rule kind opened rule (find?_registered_iff.1 found)

/-- Functions may be opened by `( )`, and then `( func` opens none. -/
theorem module_by_registrations_closing :
    ∃ table,
      Session.performAll ⟨.ofTokens (lex "(module ()) (func" defaultFile).tokens defaultFile, .empty⟩
          [.registration (.rule .rightParen .func)] =
        ⟨.ofTokens (lex "(module ()) (func" defaultFile).tokens defaultFile, table⟩ ∧
      (Session.perform ⟨.ofTokens (lex "(module ()) (func" defaultFile).tokens defaultFile, table⟩
          (.reading .module)).1 =
        .error ⟨.unknownField "LParen(()", .ofBytes defaultFile 12⟩ := by
  have row : (lex "(module ()) (func" defaultFile).tokens =
      [⟨.leftParen, "(", .ofBytes defaultFile 0 1⟩,
        ⟨.keyword .module_, "module", .ofBytes defaultFile 1 7⟩,
        ⟨.leftParen, "(", .ofBytes defaultFile 8 9⟩, ⟨.rightParen, ")", .ofBytes defaultFile 9 10⟩,
        ⟨.rightParen, ")", .ofBytes defaultFile 10 11⟩,
        ⟨.leftParen, "(", .ofBytes defaultFile 12 13⟩,
        ⟨.keyword .func, "func", .ofBytes defaultFile 13 17⟩] := by decide +kernel
  obtain ⟨table, registered, stands, -, fails⟩ := module_by_registrations [(.rightParen, .func)]
    (.ofTokens (lex "(module ()) (func" defaultFile).tokens defaultFile)
  refine ⟨table, registered, ?_⟩
  rw [row] at fails ⊢
  have found : table.find? .rightParen = some .func := (stands _ _).2 ⟨[], [], rfl, by simp⟩
  have empty : IsFunc [] ⟨none, .explicit [] [], .defined none ⟨[], []⟩⟩ :=
    .defined .absent .absent isSignature_nil isLocals_nil
  have field : IsFieldBy table
      [⟨.leftParen, "(", .ofBytes defaultFile 8 9⟩, ⟨.rightParen, ")", .ofBytes defaultFile 9 10⟩,
        ⟨.rightParen, ")", .ofBytes defaultFile 10 11⟩]
      (.func ⟨none, .explicit [] [], .defined none ⟨[], []⟩⟩) :=
    .intro found (.intro rfl rfl ⟨_, .intro empty rfl, rfl⟩)
  have no_rule : ∀ rule, ¬ LastRule [(.rightParen, .func)] (.keyword .func) rule := by
    intro rule last
    simpa using last.mem
  refine congrArg Prod.fst (fails (skip _ 5) _ (.intro rfl rfl .absent (.cons field .nil)
    (passes_skip _ 5) (by simp)) rfl (by decide) ?_)
  rintro _ ⟨⟩
  exact no_rule

end WasmText
