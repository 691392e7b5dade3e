import CppToPython.Grammar.Program

/-! # Running rules

What `Rule.run` does with each kind of rule. A rule can be run on tokens and on bare lexemes, and
the equations are the same. More levels change nothing, unless the levels run out.
-/

namespace CppToPython

/-- A lexeme counts as a token at the start of a text. -/
instance : Symbol Lexeme where
  token l := ⟨l, .start⟩

namespace Symbol

def lexeme {σ : Type} [Symbol σ] (s : σ) : Lexeme := (token s).toLexeme

@[simp]
theorem lexeme_token (token : Token) : lexeme token = token.toLexeme := rfl

@[simp]
theorem lexeme_self (l : Lexeme) : lexeme l = l := rfl

@[simp]
theorem map_lexeme_self (next : Option Lexeme) : next.map lexeme = next := by
  cases next with
  | none => rfl
  | some l => rfl

theorem map_lexeme_head? (tokens : List Token) :
    tokens.head?.map lexeme = (tokens.map Token.toLexeme).head? :=
  List.head?_map.symm

end Symbol

namespace Parsed

variable {σ α β : Type} {ls ms : List σ}

@[simp]
theorem outcome_extend (h : ls <:+ ms) (p : Parsed α ls) : (p.extend h).outcome = p.outcome := by
  cases p <;> rfl

@[simp]
theorem outcome_map (f : α → β) (p : Parsed α ls) :
    (p.map f).outcome = p.outcome.map fun (a, rest) => (f a, rest) := by
  cases p <;> rfl

theorem suffix_of_outcome_eq_ok {p : Parsed α ls} {a : α} {rest : List σ}
    (h : p.outcome = .ok (a, rest)) : rest <:+ ls := by
  cases p with
  | ok b left hs =>
      cases h
      exact hs
  | fail => cases h

theorem suffix_of_outcome_eq_error {p : Parsed α ls} {e : Expectation} {rest : List σ}
    (h : p.outcome = .error (e, rest)) : rest <:+ ls := by
  cases p with
  | ok => cases h
  | fail expected left hs =>
      cases h
      exact hs

end Parsed

namespace Rule

variable {σ α β γ : Type} [Symbol σ] {levels : Nat}

/-! ### Equations -/

@[simp]
theorem run_pure (a : α) (ls : List σ) : (pure a : Rule α).run levels ls = .ok (a, ls) := rfl

@[simp]
theorem run_refuse (expected : Expectation) (ls : List σ) :
    (refuse expected : Rule α).run levels ls = .error (expected, ls) := rfl

@[simp]
theorem run_skip (ls : List σ) : skip.run levels ls = .ok ((), ls.tail) := rfl

@[simp]
theorem run_nested_zero (n : Nested α) (ls : List σ) :
    (nested n).run 0 ls = .error (.nesting, ls) := rfl

@[simp]
theorem run_nested_succ (n : Nested α) (ls : List σ) :
    (nested n).run (levels + 1) ls = n.rule.run levels ls := rfl

@[simp]
theorem run_bind (r : Rule α) (f : α → Rule β) (ls : List σ) :
    (r >>= f).run levels ls =
      match r.run levels ls with
      | .ok (a, rest) => (f a).run levels rest
      | .error e => .error e := by
  simp only [run, bind, parser, Parser.andThen]
  cases r.parser (Nested.parser levels) ls with
  | ok a rest h => exact Parsed.outcome_extend h _
  | fail expected rest h => rfl

@[simp]
theorem run_map (f : α → β) (r : Rule α) (ls : List σ) :
    (f <$> r).run levels ls = (r.run levels ls).map fun (a, rest) => (f a, rest) := by
  rw [show f <$> r = r >>= fun a => pure (f a) from rfl, run_bind]
  cases r.run levels ls <;> rfl

theorem run_skip_bind (f : Unit → Rule α) (s : σ) (ls : List σ) :
    (skip >>= f).run levels (s :: ls) = (f ()).run levels ls := by
  rw [run_bind, run_skip, List.tail_cons]

theorem run_peek_map (n : Nat) (ls : List σ) :
    (peek n).run levels ls = .ok (ls[n]?.map Symbol.lexeme, ls) := by
  have hrun : (peek n).run levels ls =
      .ok ((ls[n]?.map Symbol.token).map Token.toLexeme, ls) := rfl
  rw [hrun, Option.map_map]
  rfl

theorem run_peek_bind_map (n : Nat) (f : Option Lexeme → Rule α) (ls : List σ) :
    (peek n >>= f).run levels ls = (f (ls[n]?.map Symbol.lexeme)).run levels ls := by
  rw [run_bind, run_peek_map]

@[simp]
theorem run_peek (n : Nat) (ls : List Lexeme) : (peek n).run levels ls = .ok (ls[n]?, ls) := by
  rw [run_peek_map, Symbol.map_lexeme_self]

@[simp]
theorem run_first_nil (expected : Expectation) (choose : Lexeme → Option (Rule α)) :
    (first expected choose).run levels ([] : List σ) = .error (expected, []) := rfl

theorem run_first_cons (expected : Expectation) (choose : Lexeme → Option (Rule α)) (s : σ)
    (ls : List σ) :
    (first expected choose).run levels (s :: ls) =
      match choose (Symbol.lexeme s) with
      | none => .error (expected, s :: ls)
      | some r => r.run levels ls := by
  rw [first, run_bind, run_peek_map]
  simp only [List.getElem?_cons_zero, Option.map_some, Option.bind_some]
  cases choose (Symbol.lexeme s) with
  | none => rfl
  | some r => simp only [run_bind, run_skip, List.tail_cons]

section Loop

variable (stop : Token → Bool) (expected : Expectation) (choose : Token → Option γ)
  (item : γ → Rule α)

theorem run_loop_nil :
    (loop stop expected choose item).run levels ([] : List σ) = .ok ([], []) := by
  simp only [run, parser, Parser.loop, Parsed.outcome]

theorem run_loop_cons (s : σ) (ls : List σ) :
    (loop stop expected choose item).run levels (s :: ls) =
      if stop (Symbol.token s) then .ok ([], s :: ls)
      else
        match choose (Symbol.token s) with
        | none => .error (expected, s :: ls)
        | some c =>
            (item c >>= fun a => (a :: ·) <$> loop stop expected choose item).run levels ls := by
  simp only [run_bind, run_map]
  simp only [run, parser]
  rw [Parser.loop]
  split
  · rfl
  · cases choose (Symbol.token s) with
    | none => rfl
    | some c =>
        simp only [Option.map_some]
        cases (item c).parser (Nested.parser levels) ls with
        | ok a rest h => exact (Parsed.outcome_extend _ _).trans (Parsed.outcome_map _ _)
        | fail expected rest h => rfl

end Loop

/-! ### Successes and failures -/

section Outcomes

variable {r : Rule α} {f : α → Rule β} {ls rest : List σ} {a : α} {b : β} {e : Expectation}

theorem suffix_of_run_eq_ok (h : r.run levels ls = .ok (a, rest)) : rest <:+ ls :=
  Parsed.suffix_of_outcome_eq_ok h

theorem suffix_of_run_eq_error (h : r.run levels ls = .error (e, rest)) : rest <:+ ls :=
  Parsed.suffix_of_outcome_eq_error h

theorem run_bind_eq_ok :
    (r >>= f).run levels ls = .ok (b, rest) ↔
      ∃ a mid, r.run levels ls = .ok (a, mid) ∧ (f a).run levels mid = .ok (b, rest) := by
  rw [run_bind]
  constructor
  · intro h
    cases hr : r.run levels ls with
    | error e =>
        rw [hr] at h
        cases h
    | ok result =>
        rw [hr] at h
        exact ⟨result.1, result.2, rfl, h⟩
  · rintro ⟨a, mid, hr, hf⟩
    rw [hr]
    exact hf

theorem run_bind_eq_error :
    (r >>= f).run levels ls = .error (e, rest) ↔
      r.run levels ls = .error (e, rest) ∨
        ∃ a mid, r.run levels ls = .ok (a, mid) ∧ (f a).run levels mid = .error (e, rest) := by
  rw [run_bind]
  constructor
  · intro h
    cases hr : r.run levels ls with
    | error e =>
        rw [hr] at h
        cases h
        exact .inl rfl
    | ok result =>
        rw [hr] at h
        exact .inr ⟨result.1, result.2, rfl, h⟩
  · rintro (hr | ⟨a, mid, hr, hf⟩)
    · rw [hr]
    · rw [hr]
      exact hf

theorem run_map_eq_ok {f : α → β} :
    (f <$> r).run levels ls = .ok (b, rest) ↔ ∃ a, r.run levels ls = .ok (a, rest) ∧ f a = b := by
  rw [run_map]
  cases hr : r.run levels ls with
  | error e => simp [Except.map]
  | ok result =>
      obtain ⟨a, left⟩ := result
      simp only [Except.map, Except.ok.injEq, Prod.mk.injEq]
      constructor
      · rintro ⟨rfl, rfl⟩
        exact ⟨a, ⟨rfl, rfl⟩, rfl⟩
      · rintro ⟨a, ⟨rfl, rfl⟩, rfl⟩
        exact ⟨rfl, rfl⟩

theorem run_pure_eq_ok {a b : α} :
    (pure a : Rule α).run levels ls = .ok (b, rest) ↔ a = b ∧ ls = rest := by
  simp only [run_pure, Except.ok.injEq, Prod.mk.injEq]

section First

variable {expected : Expectation} {choose : Lexeme → Option (Rule α)}

theorem run_first_eq_ok_iff :
    (first expected choose).run levels ls = .ok (a, rest) ↔
      ∃ s ms r, ls = s :: ms ∧ choose (Symbol.lexeme s) = some r ∧
        r.run levels ms = .ok (a, rest) := by
  cases ls with
  | nil => simp
  | cons s ms =>
      rw [run_first_cons]
      constructor
      · intro h
        cases hc : choose (Symbol.lexeme s) with
        | none =>
            rw [hc] at h
            cases h
        | some r =>
            rw [hc] at h
            exact ⟨s, ms, r, rfl, hc, h⟩
      · rintro ⟨s', ms', r, same, hc, hr⟩
        cases same
        rw [hc]
        exact hr

theorem run_first_eq_ok {ls rest : List Lexeme} :
    (first expected choose).run levels ls = .ok (a, rest) ↔
      ∃ l ms r, ls = l :: ms ∧ choose l = some r ∧ r.run levels ms = .ok (a, rest) :=
  run_first_eq_ok_iff

theorem length_lt_of_run_first (h : (first expected choose).run levels ls = .ok (a, rest)) :
    rest.length < ls.length := by
  obtain ⟨s, ms, r, rfl, _, hr⟩ := run_first_eq_ok_iff.mp h
  exact Nat.lt_succ_of_le (suffix_of_run_eq_ok hr).length_le

end First

end Outcomes

/-! ### One item after the other -/

/-- The rule `all` reads what `item` reads again and again, up to a lexeme that stops it. -/
structure Repeats (σ : Type) [Symbol σ] (levels : Nat) (all : Rule (List α)) (item : Rule α)
    (stops : Option Lexeme → Bool) : Prop where
  run : ∀ ls : List σ, all.run levels ls =
    if stops (ls.head?.map Symbol.lexeme) then .ok ([], ls)
    else (item >>= fun a => (a :: ·) <$> all).run levels ls
  shorter : ∀ {ls rest : List σ} {a}, item.run levels ls = .ok (a, rest) →
    rest.length < ls.length

section

variable {all : Rule (List α)} {item : Rule α} {stops : Option Lexeme → Bool} {ls : List σ}

theorem Repeats.run_of_stops (h : Repeats σ levels all item stops)
    (hs : stops (ls.head?.map Symbol.lexeme) = true) : all.run levels ls = .ok ([], ls) := by
  rw [h.run, if_pos hs]

theorem Repeats.run_of_item (h : Repeats σ levels all item stops)
    (hs : stops (ls.head?.map Symbol.lexeme) = false) {a : α} {mid : List σ}
    (hi : item.run levels ls = .ok (a, mid)) :
    all.run levels ls = (all.run levels mid).map fun (as, rest) => (a :: as, rest) := by
  rw [h.run, if_neg (Bool.eq_false_iff.mp hs), run_bind, hi]
  exact run_map ..

end

theorem repeats_many (stop : Lexeme → Bool) (expected : Expectation)
    (choose : Lexeme → Option (Rule α)) :
    Repeats σ levels (many stop expected choose) (first expected choose)
      (fun next => next.elim true stop) where
  run ls := by
    cases ls with
    | nil => exact run_loop_nil ..
    | cons s ls =>
        refine (run_loop_cons _ expected _ _ s ls).trans ?_
        by_cases hstop : stop (Symbol.lexeme s) = true
        · exact (if_pos hstop).trans (if_pos hstop).symm
        refine (if_neg hstop).trans (Eq.trans ?_ (if_neg hstop).symm)
        rw [run_bind (first expected choose), run_first_cons, Symbol.lexeme]
        cases hc : choose (Symbol.token s).toLexeme with
        | none => rfl
        | some r =>
            simp only [Option.map_some, run_bind, hc, Option.getD_some]
            rfl
  shorter := length_lt_of_run_first

/-- A marked item is chosen by its mark, so no expectation is ever reported there. -/
theorem repeats_marked (mark : Lexeme → Option β) (item : Rule α) (expected : Expectation) :
    Repeats σ levels (marked mark item)
      (first expected fun l => (mark l).map fun b => Prod.mk b <$> item)
      (fun next => next.elim true fun l => (mark l).isNone) where
  run ls := by
    cases ls with
    | nil => exact run_loop_nil ..
    | cons s ls =>
        refine (run_loop_cons _ _ _ _ s ls).trans ?_
        rcases Option.eq_none_or_eq_some (mark (Symbol.lexeme s)) with hm | ⟨b, hm⟩
        · have hstop : (mark (Symbol.lexeme s)).isNone = true := by rw [hm, Option.isNone_none]
          exact (if_pos hstop).trans (if_pos hstop).symm
        · have hstop : ¬ (mark (Symbol.lexeme s)).isNone = true := by simp [hm]
          refine (if_neg hstop).trans (Eq.trans ?_ (if_neg hstop).symm)
          rw [run_bind (first _ _), run_first_cons, hm]
          have hb : mark (Symbol.token s).toLexeme = some b := hm
          rw [hb]
          exact run_bind ..
  shorter := length_lt_of_run_first

/-! ### More levels -/

/-- The outcome is the same, or the levels had run out. -/
def Kept (less more : Except (Expectation × List σ) (α × List σ)) : Prop :=
  more = less ∨ ∃ rest, less = .error (.nesting, rest)

theorem Kept.bind {r : Rule α} {f : α → Rule β} {m n : Nat} {ls : List σ}
    (hr : Kept (r.run m ls) (r.run n ls))
    (hf : ∀ a rest, r.run m ls = .ok (a, rest) → Kept ((f a).run m rest) ((f a).run n rest)) :
    Kept ((r >>= f).run m ls) ((r >>= f).run n ls) := by
  rw [run_bind, run_bind]
  rcases hr with hsame | ⟨rest, hout⟩
  · rw [hsame]
    cases hrun : r.run m ls with
    | error e => exact .inl rfl
    | ok result => exact hf _ _ hrun
  · rw [hout]
    exact .inr ⟨rest, rfl⟩

theorem kept_of {m n : Nat} (hnested : ∀ {β : Type} (n' : Nested β) (ls : List σ),
      Kept ((nested n').run m ls) ((nested n').run n ls)) (r : Rule α) (ls : List σ) :
    Kept (r.run m ls) (r.run n ls) := by
  induction r generalizing ls with
  | done | refuse | ahead | skip => exact .inl rfl
  | nested n' => exact hnested n' ls
  | andThen r f ihr ihf => exact Kept.bind (ihr ls) fun a rest _ => ihf a rest
  | loop stop expected choose item ih =>
      induction hlength : ls.length using Nat.strongRecOn generalizing ls with
      | ind length ihlength =>
          cases ls with
          | nil => exact .inl (by rw [run_loop_nil, run_loop_nil])
          | cons s ls =>
              rw [run_loop_cons, run_loop_cons]
              split
              · exact .inl rfl
              cases choose (Symbol.token s) with
              | none => exact .inl rfl
              | some c =>
                  refine Kept.bind (ih c ls) fun a rest hrun => ?_
                  refine Kept.bind (ihlength rest.length ?_ rest rfl) fun _ _ _ => .inl rfl
                  rw [← hlength]
                  exact Nat.lt_succ_of_le (suffix_of_run_eq_ok hrun).length_le

theorem run_of_le {m n : Nat} (h : m ≤ n) (r : Rule α) (ls : List σ) :
    Kept (r.run m ls) (r.run n ls) := by
  induction m generalizing n α ls with
  | zero => exact kept_of (fun _ ls => .inr ⟨ls, rfl⟩) r ls
  | succ m ih =>
      obtain ⟨n, rfl⟩ := Nat.exists_eq_add_of_le' (Nat.lt_of_lt_of_le (Nat.succ_pos m) h)
      apply kept_of
      intro β n' ls
      rw [run_nested_succ, run_nested_succ]
      exact ih (Nat.le_of_succ_le_succ h) n'.rule ls

end Rule

end CppToPython
