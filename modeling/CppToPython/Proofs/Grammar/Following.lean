import CppToPython.Proofs.Grammar.StmtReading

/-! # Rules that stop at the same place

A rule that has stopped before a token has seen the lexeme of that token and nothing after it, so
it stops there as well when other lexemes follow, or when the tokens stand elsewhere. There is one
exception: a `void` in the place of parameters is looked at together with the lexeme after it.

`Follows` says this of a rule on tokens and on lexemes, and passes from parts to whole.
-/

namespace CppToPython

open CppToPython.Rule

variable {α β : Type}

/-- The lexemes end where the parameters of a function are next. -/
def AtParameters (ls : List Lexeme) : Prop :=
  ∃ front type name, ls = front ++ [ReturnType.lexeme type, .identifier name, .openParen]

/-- A lone `void` comes into being: a `void` is next in the place of parameters, and only `rest'`
    closes them. -/
def LoneVoid (before rest rest' : List Lexeme) : Prop :=
  AtParameters before ∧ rest.head? = some (.word "void") ∧ rest[1]? ≠ some .closeParen ∧
    rest'[1]? = some .closeParen

/-- The lexemes of `ts` are `ls`, up to where `rest` and `rest'` are left and one lexeme further. -/
structure SameUpTo (used : List Token) (ts rest : List Token) (ls rest' : List Lexeme) : Prop where
  tokens : ts = used ++ rest
  lexemes : ls = used.map Token.toLexeme ++ rest'
  next : (rest.map Token.toLexeme).head? = rest'.head?

/-- Where the rule stops on the tokens `ts`, it stops on `ls` if they are the same up to there: with
    the same value or with a failure. The lexemes `before` have been read already. -/
structure FollowsOn (levels : Nat) (before : List Lexeme) (r : Rule α) (ts : List Token)
    (ls : List Lexeme) : Prop where
  ok : ∀ {used rest rest' a}, SameUpTo used ts rest ls rest' →
    r.run levels ts = .ok (a, rest) → r.run levels ls = .ok (a, rest')
  error : ∀ {used rest rest' e}, SameUpTo used ts rest ls rest' →
    r.run levels ts = .error (e, rest) →
      (∃ e', r.run levels ls = .error (e', rest') ∧
        ((rest.map Token.toLexeme)[1]? = rest'[1]? → e' = e)) ∨
      LoneVoid (before ++ used.map Token.toLexeme) (rest.map Token.toLexeme) rest'

/-- The rule stops at the same places on all lists. -/
def Follows (levels : Nat) (before : List Lexeme) (r : Rule α) : Prop :=
  ∀ ts ls, FollowsOn levels before r ts ls

theorem not_cons_suffix {γ : Type} {x : γ} {xs : List γ} : ¬ x :: xs <:+ xs := by
  intro h
  exact absurd h.length_le (by simp)

namespace SameUpTo

variable {used ts rest : List Token} {ls rest' : List Lexeme}

theorem head? (h : SameUpTo used ts rest ls rest') :
    (ts.map Token.toLexeme).head? = ls.head? := by
  rw [h.tokens, h.lexemes, List.map_append, List.head?_append, List.head?_append, h.next]

/-- What is left at the end of two steps is left after the first one, too. -/
theorem split (h : SameUpTo used ts rest ls rest') {mid : List Token} (hmid : mid <:+ ts)
    (hrest : rest <:+ mid) :
    ∃ front more, used = front ++ more ∧
      SameUpTo front ts mid ls (more.map Token.toLexeme ++ rest') ∧
      SameUpTo more mid rest (more.map Token.toLexeme ++ rest') rest' := by
  obtain ⟨more, rfl⟩ := hrest
  obtain ⟨front, hfront⟩ := hmid
  have hts := h.tokens
  rw [← hfront, ← List.append_assoc] at hts
  have hused := List.append_cancel_right hts
  have hmore : SameUpTo more (more ++ rest) rest (more.map Token.toLexeme ++ rest') rest' :=
    ⟨rfl, rfl, h.next⟩
  refine ⟨front, more, hused.symm, ⟨hfront.symm, ?_, hmore.head?⟩, hmore⟩
  rw [h.lexemes, ← hused, List.map_append, List.append_assoc]

theorem nil_of_self (h : SameUpTo used ts ts ls rest') : used = [] ∧ ls = rest' := by
  obtain rfl := List.self_eq_append_left.mp h.tokens
  exact ⟨rfl, h.lexemes⟩

theorem tail {t : Token} (h : SameUpTo used (t :: ts) rest (t.toLexeme :: ls) rest')
    (hrest : rest <:+ ts) : ∃ more, used = t :: more ∧ SameUpTo more ts rest ls rest' := by
  have hts := h.tokens
  have hls := h.lexemes
  cases used with
  | nil =>
      cases hts
      exact absurd hrest not_cons_suffix
  | cons u more =>
      rw [List.cons_append, List.cons.injEq] at hts
      rw [List.map_cons, List.cons_append, List.cons.injEq] at hls
      obtain ⟨rfl, hts⟩ := hts
      exact ⟨more, rfl, hts, hls.2, h.next⟩

end SameUpTo

namespace FollowsOn

variable {levels : Nat} {before : List Lexeme} {ts : List Token} {ls : List Lexeme}

theorem congr {r q : Rule α} (hts : r.run levels ts = q.run levels ts)
    (hls : r.run levels ls = q.run levels ls) (h : FollowsOn levels before q ts ls) :
    FollowsOn levels before r ts ls where
  ok hsame hr := by
    rw [hls]
    exact h.ok hsame (hts ▸ hr)
  error hsame hr := by
    rw [hls]
    exact h.error hsame (hts ▸ hr)

/-- Only lists with the same first lexeme matter. -/
theorem of_head {r : Rule α}
    (h : (ts.map Token.toLexeme).head? = ls.head? → FollowsOn levels before r ts ls) :
    FollowsOn levels before r ts ls where
  ok hsame := (h hsame.head?).ok hsame
  error hsame := (h hsame.head?).error hsame

theorem bind {r : Rule α} {f : α → Rule β} (h : FollowsOn levels before r ts ls)
    (hf : ∀ used a mid mid', ts = used ++ mid → r.run levels ts = .ok (a, mid) →
      FollowsOn levels (before ++ used.map Token.toLexeme) (f a) mid mid') :
    FollowsOn levels before (r >>= f) ts ls where
  ok := by
    intro used rest rest' b hsame hrun
    obtain ⟨a, mid, hr, hfa⟩ := run_bind_eq_ok.mp hrun
    obtain ⟨front, more, _, hfront, hmore⟩ :=
      hsame.split (suffix_of_run_eq_ok hr) (suffix_of_run_eq_ok hfa)
    have hnext := (hf front a mid _ hfront.tokens hr).ok hmore hfa
    exact run_bind_eq_ok.mpr ⟨a, _, h.ok hfront hr, hnext⟩
  error := by
    intro used rest rest' e hsame hrun
    rcases run_bind_eq_error.mp hrun with hr | ⟨a, mid, hr, hfa⟩
    · refine (h.error hsame hr).imp_left ?_
      rintro ⟨e', hls, he⟩
      exact ⟨e', run_bind_eq_error.mpr (.inl hls), he⟩
    · obtain ⟨front, more, rfl, hfront, hmore⟩ :=
        hsame.split (suffix_of_run_eq_ok hr) (suffix_of_run_eq_error hfa)
      have hfail := (hf front a mid _ hfront.tokens hr).error hmore hfa
      rw [List.append_assoc, ← List.map_append] at hfail
      refine hfail.imp_left ?_
      rintro ⟨e', hls, he⟩
      exact ⟨e', run_bind_eq_error.mpr (.inr ⟨a, _, h.ok hfront hr, hls⟩), he⟩

theorem pure (a : α) : FollowsOn levels before (pure a) ts ls where
  ok := by
    intro used rest rest' b hsame hr
    obtain ⟨rfl, rfl⟩ := run_pure_eq_ok.mp hr
    rw [hsame.nil_of_self.2, run_pure]
  error _ hr := by cases hr

theorem map {r : Rule α} (h : FollowsOn levels before r ts ls) (f : α → β) :
    FollowsOn levels before (f <$> r) ts ls :=
  h.bind fun _ _ _ _ _ _ => pure _

theorem peek {f : Option Lexeme → Rule α}
    (h : (ts.map Token.toLexeme).head? = ls.head? → FollowsOn levels before (f ls.head?) ts ls) :
    FollowsOn levels before (Rule.peek 0 >>= f) ts ls := by
  refine of_head fun hhead => congr ?_ ?_ (h hhead)
  · rw [run_peek_bind_map, ← List.head?_eq_getElem?, Symbol.map_lexeme_head?, hhead]
  · rw [run_peek_bind, List.head?_eq_getElem?]

theorem refused {r : Rule α} {e e' : Expectation} (hts : r.run levels ts = .error (e, ts))
    (hls : r.run levels ls = .error (e', ls))
    (he : (ts.map Token.toLexeme)[1]? = ls[1]? → e' = e) : FollowsOn levels before r ts ls where
  ok _ hr := by
    rw [hts] at hr
    cases hr
  error := by
    intro used rest rest' f hsame hr
    rw [hts] at hr
    cases hr
    obtain ⟨_, rfl⟩ := hsame.nil_of_self
    exact .inl ⟨e', hls, he⟩

theorem passed {r q : Rule α} {t : Token} (hts : r.run levels (t :: ts) = q.run levels ts)
    (hls : r.run levels (t.toLexeme :: ls) = q.run levels ls)
    (h : FollowsOn levels (before ++ [t.toLexeme]) q ts ls) :
    FollowsOn levels before r (t :: ts) (t.toLexeme :: ls) where
  ok := by
    intro used rest rest' a hsame hr
    rw [hts] at hr
    rw [hls]
    obtain ⟨more, _, hmore⟩ := hsame.tail (suffix_of_run_eq_ok hr)
    exact h.ok hmore hr
  error := by
    intro used rest rest' e hsame hr
    rw [hts] at hr
    rw [hls]
    obtain ⟨more, rfl, hmore⟩ := hsame.tail (suffix_of_run_eq_error hr)
    have hfail := h.error hmore hr
    rwa [List.append_assoc, List.singleton_append] at hfail

end FollowsOn

/-- The rule gets past the token `t` when it is next. -/
structure Passes (levels : Nat) (r : Rule α) (t : Token) : Prop where
  ok : ∀ {ts rest a}, r.run levels (t :: ts) = .ok (a, rest) → rest <:+ ts
  error : ∀ {ts rest e}, r.run levels (t :: ts) = .error (e, rest) → rest <:+ ts

namespace Passes

variable {levels : Nat} {t : Token}

theorem bind {r : Rule α} (h : Passes levels r t) (f : α → Rule β) :
    Passes levels (r >>= f) t where
  ok hr := by
    obtain ⟨a, mid, hr, hf⟩ := run_bind_eq_ok.mp hr
    exact (suffix_of_run_eq_ok hf).trans (h.ok hr)
  error hr := by
    rcases run_bind_eq_error.mp hr with hr | ⟨a, mid, hr, hf⟩
    · exact h.error hr
    · exact (suffix_of_run_eq_error hf).trans (h.ok hr)

theorem skip (t : Token) : Passes levels Rule.skip t where
  ok hr := by
    cases hr
    exact List.suffix_refl _
  error hr := by cases hr

theorem first {expected : Expectation} {choose : Lexeme → Option (Rule α)} {r : Rule α}
    (h : choose t.toLexeme = some r) : Passes levels (Rule.first expected choose) t where
  ok hr := by
    rw [run_first_cons, Symbol.lexeme_token, h] at hr
    exact suffix_of_run_eq_ok hr
  error hr := by
    rw [run_first_cons, Symbol.lexeme_token, h] at hr
    exact suffix_of_run_eq_error hr

end Passes

/-- A look at the lexeme after the next one does no harm when the next one is passed anyway. -/
theorem FollowsOn.peek_second {levels : Nat} {before : List Lexeme} {t : Token} {ts : List Token}
    {ls : List Lexeme} {f : Option Lexeme → Rule α} (h : ∀ next, Follows levels before (f next))
    (hpass : ∀ next, Passes levels (f next) t) :
    FollowsOn levels before (Rule.peek 1 >>= f) (t :: ts) (t.toLexeme :: ls) := by
  have hts : (Rule.peek 1 >>= f).run levels (t :: ts) =
      (f (ts.map Token.toLexeme).head?).run levels (t :: ts) := by
    rw [run_peek_bind_map, List.getElem?_cons_succ, ← List.head?_eq_getElem?,
      Symbol.map_lexeme_head?]
  have hls : (Rule.peek 1 >>= f).run levels (t.toLexeme :: ls) =
      (f ls.head?).run levels (t.toLexeme :: ls) := by
    rw [run_peek_bind, List.getElem?_cons_succ, List.head?_eq_getElem?]
  constructor
  · intro used rest rest' a hsame hr
    rw [hts] at hr
    obtain ⟨more, _, hmore⟩ := hsame.tail ((hpass _).ok hr)
    rw [hls, ← hmore.head?]
    exact (h _ _ _).ok hsame hr
  · intro used rest rest' e hsame hr
    rw [hts] at hr
    obtain ⟨more, _, hmore⟩ := hsame.tail ((hpass _).error hr)
    rw [hls, ← hmore.head?]
    exact (h _ _ _).error hsame hr

/-! ### Whole rules -/

def FollowsChosen (levels : Nat) (before : List Lexeme) (chosen : Option (Rule α)) : Prop :=
  ∀ r, chosen = some r → Follows levels before r

namespace FollowsChosen

variable {levels : Nat} {before : List Lexeme}

theorem none : FollowsChosen levels before (none : Option (Rule α)) := nofun

theorem some {r : Rule α} (h : Follows levels before r) : FollowsChosen levels before (some r) := by
  rintro _ ⟨⟩
  exact h

end FollowsChosen

namespace Follows

variable {levels : Nat} {before : List Lexeme}

theorem pure (a : α) : Follows levels before (pure a) :=
  fun _ _ => .pure a

theorem bind {r : Rule α} {f : α → Rule β} (h : Follows levels before r)
    (hf : ∀ used a, Follows levels (before ++ used) (f a)) : Follows levels before (r >>= f) :=
  fun ts ls => (h ts ls).bind fun _ a _ _ _ _ => hf _ a _ _

theorem map {r : Rule α} (h : Follows levels before r) (f : α → β) :
    Follows levels before (f <$> r) :=
  fun ts ls => (h ts ls).map f

theorem peek {f : Option Lexeme → Rule α} (h : ∀ next, Follows levels before (f next)) :
    Follows levels before (Rule.peek 0 >>= f) :=
  fun _ _ => .peek fun _ => h _ _ _

theorem nested {n : Nested α} (h : ∀ k, levels = k + 1 → Follows k before n.rule) :
    Follows levels before (Rule.nested n) := by
  cases levels with
  | zero => exact fun ts ls => .refused rfl rfl fun _ => rfl
  | succ levels => exact fun ts ls => ⟨(h levels rfl ts ls).ok, (h levels rfl ts ls).error⟩

theorem first {expected : Expectation} {choose : Lexeme → Option (Rule α)}
    (h : ∀ l, FollowsChosen levels (before ++ [l]) (choose l)) :
    Follows levels before (Rule.first expected choose) := by
  refine fun ts ls => .of_head fun hhead => ?_
  cases ts with
  | nil =>
      cases ls with
      | nil => exact .refused rfl rfl fun _ => rfl
      | cons l ms => cases hhead
  | cons t us =>
      obtain ⟨ms, rfl⟩ := List.head?_eq_some_iff.mp hhead.symm
      have hts : (Rule.first expected choose).run levels (t :: us) = _ :=
        run_first_cons expected choose t us
      have hls : (Rule.first expected choose).run levels (t.toLexeme :: ms) = _ :=
        run_first_cons expected choose t.toLexeme ms
      rw [Symbol.lexeme_token] at hts
      rw [Symbol.lexeme_self] at hls
      cases hc : choose t.toLexeme with
      | none =>
          rw [hc] at hts hls
          exact .refused hts hls fun _ => rfl
      | some r =>
          rw [hc] at hts hls
          exact .passed hts hls (h _ r hc us ms)

theorem lexeme (l : Lexeme) (expected : Expectation) :
    Follows levels before (Rule.lexeme l expected) := by
  refine first fun next => ?_
  split
  · exact .some (pure ())
  · exact .none

theorem identifier (expected : Expectation) :
    Follows levels before (Rule.identifier expected) := by
  refine first fun next => ?_
  split
  · exact .some (pure _)
  · exact .none

theorem lexeme_bind {l : Lexeme} {expected : Expectation} {f : Unit → Rule α}
    (h : Follows levels (before ++ [l]) (f ())) :
    Follows levels before (Rule.lexeme l expected >>= f) := by
  refine fun ts ls => (lexeme l expected ts ls).bind fun used _ mid mid' hts hl => ?_
  obtain ⟨t, us, r, hcons, hc, hr⟩ := run_first_eq_ok_iff.mp hl
  split at hc
  · rename_i hsame
    cases hc
    cases hr
    rw [Symbol.lexeme_token] at hsame
    have hused : [t] ++ mid = used ++ mid := hcons.symm.trans hts
    rw [← List.append_cancel_right hused, List.map_singleton, hsame]
    exact h mid mid'
  · cases hc

theorem identifier_bind {expected : Expectation} {f : String → Rule α}
    (h : ∀ name, Follows levels (before ++ [.identifier name]) (f name)) :
    Follows levels before (Rule.identifier expected >>= f) := by
  refine fun ts ls => (identifier expected ts ls).bind fun used name mid mid' hts hi => ?_
  obtain ⟨⟨⟨kind, text⟩, position⟩, us, r, hcons, hc, hr⟩ := run_first_eq_ok_iff.mp hi
  split at hc
  · rename_i hkind
    cases hc
    cases hr
    cases hkind
    have hused : [⟨⟨.identifier, text⟩, position⟩] ++ mid = used ++ mid := hcons.symm.trans hts
    rw [← List.append_cancel_right hused]
    exact h text mid mid'
  · cases hc

theorem skip_bind {f : Unit → Rule α} (h : ∀ l, Follows levels (before ++ [l]) (f ())) :
    Follows levels before (Rule.skip >>= f) := by
  refine fun ts ls => .of_head fun hhead => ?_
  cases ts with
  | nil =>
      obtain rfl := List.head?_eq_none_iff.mp hhead.symm
      have hnil := h .comma [] []
      have hrun {σ : Type} [Symbol σ] :
          (Rule.skip >>= f).run levels ([] : List σ) = (f ()).run levels [] := by
        rw [run_bind, run_skip, List.tail_nil]
      constructor
      · intro used rest rest' a hsame hr
        rw [hrun] at hr ⊢
        exact hnil.ok hsame hr
      · intro used rest rest' e hsame hr
        rw [hrun] at hr ⊢
        refine (hnil.error hsame hr).imp_right fun hvoid => ?_
        rw [List.suffix_nil.mp (suffix_of_run_eq_error hr)] at hvoid
        cases hvoid.2.1
  | cons t us =>
      obtain ⟨ms, rfl⟩ := List.head?_eq_some_iff.mp hhead.symm
      exact .passed (run_skip_bind f t us) (run_skip_bind f _ ms) (h _ us ms)

/-! ### Repetition -/

theorem repeats_on {all : Rule (List α)} {item : Rule α} {stops : Option Lexeme → Bool}
    (hts : Repeats Token levels all item stops) (hls : Repeats Lexeme levels all item stops)
    (h : ∀ before, Follows levels before item) (before : List Lexeme) (ts : List Token)
    (ls : List Lexeme) : FollowsOn levels before all ts ls := by
  refine .of_head fun hhead => ?_
  have hnext : ts.head?.map Symbol.lexeme = ls.head?.map Symbol.lexeme := by
    rw [Symbol.map_lexeme_self, ← hhead, Symbol.map_lexeme_head?]
  cases hstop : stops (ls.head?.map Symbol.lexeme) with
  | true =>
      refine .congr ?_ ?_ (.pure [])
      · exact hts.run_of_stops (hnext ▸ hstop)
      · exact hls.run_of_stops hstop
  | false =>
      have hgoOn : FollowsOn levels before (item >>= fun a => (a :: ·) <$> all) ts ls := by
        refine (h before ts ls).bind fun used a mid mid' _ hi => ?_
        exact (repeats_on hts hls h (before ++ _) mid mid').map _
      refine .congr ?_ ?_ hgoOn
      · rw [hts.run, hnext, if_neg (Bool.eq_false_iff.mp hstop)]
      · rw [hls.run, if_neg (Bool.eq_false_iff.mp hstop)]
termination_by ts.length
decreasing_by exact hts.shorter hi

theorem many {stop : Lexeme → Bool} {expected : Expectation}
    {choose : Lexeme → Option (Rule α)}
    (h : ∀ before l, FollowsChosen levels (before ++ [l]) (choose l)) :
    Follows levels before (Rule.many stop expected choose) :=
  repeats_on (repeats_many stop expected choose) (repeats_many stop expected choose)
    (fun _ => first (h _)) before

theorem marked (mark : Lexeme → Option β) {item : Rule α}
    (h : ∀ before, Follows levels before item) :
    Follows levels before (Rule.marked mark item) := by
  refine repeats_on (repeats_marked mark item .expression) (repeats_marked mark item .expression)
    (fun _ => first fun l => ?_) before
  cases mark l with
  | none => exact .none
  | some b => exact .some ((h _).map _)

theorem after (mark : Lexeme) {item : Rule α} (h : ∀ before, Follows levels before item) :
    Follows levels before (Rule.after mark item) :=
  (marked _ h).bind fun _ _ => pure _

theorem commaSeparated {item : Rule α} (h : ∀ before, Follows levels before item) :
    Follows levels before (Rule.commaSeparated item) :=
  (h before).bind fun _ _ => (after .comma h).bind fun _ _ => pure _

end Follows

end CppToPython
