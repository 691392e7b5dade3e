import CppToPython.Proofs.Grammar.Levels
import CppToPython.Proofs.Grammar.Reading

/-! # Rules and the prefixes they accept

A rule that fails has failed late enough: what has been read by it so far can be completed to a
phrase. This is a property of the rule together with its phrases, and it passes from parts to
whole: `Tracks levels r lang` says that what is read by `r` is a phrase of `lang`, and that where
`r` fails, the lexemes before are the start of one. Running out of levels says nothing about the
lexemes.
-/

namespace CppToPython

open Derives

variable {α β : Type} {levels : Nat}

/-- What an outcome of a rule on the lexemes `ls` says about the phrases of `lang`. -/
def Tracked (lang : Phrases α) (ls : List Lexeme) :
    Except (Expectation × List Lexeme) (α × List Lexeme) → Prop
  | .ok (a, rest) => ∃ used, ls = used ++ rest ∧ lang used a
  | .error (e, rest) => e ≠ .nesting → ∃ used more a, ls = used ++ rest ∧ lang (used ++ more) a

/-- The rule `r` reads phrases of `lang`, and starts of phrases where it fails. -/
structure Tracks (levels : Nat) (r : Rule α) (lang : Phrases α) : Prop where
  phrase : ∃ ls a, lang ls a
  run : ∀ ls : List Lexeme, Tracked lang ls (r.run levels ls)

namespace Derives

/-- What makes up a phrase after the lexemes `front`. -/
def Rest (front : List Lexeme) (lang : Phrases α) : Phrases α := fun ls a => lang (front ++ ls) a

end Derives

theorem Tracked.append {lang : Phrases α} {front ls : List Lexeme}
    {r : Except (Expectation × List Lexeme) (α × List Lexeme)}
    (h : Tracked (Rest front lang) ls r) : Tracked lang (front ++ ls) r := by
  cases r with
  | ok r =>
      obtain ⟨used, rfl, hused⟩ := h
      exact ⟨front ++ used, (List.append_assoc ..).symm, hused⟩
  | error r =>
      intro he
      obtain ⟨used, more, a, rfl, hused⟩ := h he
      refine ⟨front ++ used, more, a, (List.append_assoc ..).symm, ?_⟩
      rw [List.append_assoc]
      exact hused

theorem Tracked.map {lang : Phrases α} {lang' : Phrases β} {f : α → β}
    (hf : ∀ ls a, lang ls a → lang' ls (f a)) {ls : List Lexeme}
    {r : Except (Expectation × List Lexeme) (α × List Lexeme)} (h : Tracked lang ls r) :
    Tracked lang' ls (r.map fun (a, rest) => (f a, rest)) := by
  cases r with
  | ok r =>
      obtain ⟨used, hls, hused⟩ := h
      exact ⟨used, hls, hf _ _ hused⟩
  | error r =>
      intro he
      obtain ⟨used, more, a, hls, hused⟩ := h he
      exact ⟨used, more, f a, hls, hf _ _ hused⟩

/-- Before anything is read, any phrase will do. -/
theorem tracked_refused {lang : Phrases α} (hphrase : ∃ ls a, lang ls a) (e : Expectation)
    (ls : List Lexeme) : Tracked lang ls (.error (e, ls)) := by
  intro _
  obtain ⟨more, a, hmore⟩ := hphrase
  exact ⟨[], more, a, rfl, hmore⟩

/-- What can be completed to a part can be completed to the whole. -/
theorem Tracked.error_of {lang : Phrases α} {lang' : Phrases β} {ls : List Lexeme}
    {failure : Expectation × List Lexeme} (h : Tracked lang ls (.error failure))
    (hlang : ∀ used a, lang used a → ∃ more b, lang' (used ++ more) b) :
    Tracked lang' ls (.error failure) := by
  intro he
  obtain ⟨used, more, a, hls, hused⟩ := h he
  obtain ⟨ms, b, hb⟩ := hlang _ a hused
  refine ⟨used, more ++ ms, b, hls, ?_⟩
  rw [← List.append_assoc]
  exact hb

theorem Tracked.bind_pure {lang : Phrases α} {lang' : Phrases β} {p : Rule α} {f : α → β}
    {ls : List Lexeme} (h : Tracked lang ls (p.run levels ls))
    (hf : ∀ ls a, lang ls a → lang' ls (f a)) :
    Tracked lang' ls ((p >>= fun a => pure (f a)).run levels ls) := by
  have hrun : (p >>= fun a => pure (f a)).run levels ls = (f <$> p).run levels ls := rfl
  rw [hrun, Rule.run_map]
  exact h.map hf

theorem tracked_skip {lang : Phrases α} {f : Unit → Rule α} {l : Lexeme} {ls : List Lexeme}
    (h : Tracks levels (f ()) (Rest [l] lang)) :
    Tracked lang (l :: ls) ((Rule.skip >>= f).run levels (l :: ls)) := by
  rw [Rule.run_skip_bind]
  exact (h.run ls).append

namespace Tracks

variable {lang : Phrases α} {lang' : Phrases β}

theorem pure {a : α} (h : lang [] a) : Tracks levels (pure a) lang where
  phrase := ⟨[], a, h⟩
  run _ := ⟨[], rfl, h⟩

theorem bind {p : Rule α} {f : α → Rule β} (hp : Tracks levels p lang)
    (hf : ∀ used a, lang used a → Tracks levels (f a) (Rest used lang')) :
    Tracks levels (p >>= f) lang' where
  phrase := by
    obtain ⟨ls, a, ha⟩ := hp.phrase
    obtain ⟨ms, b, hb⟩ := (hf ls a ha).phrase
    exact ⟨ls ++ ms, b, hb⟩
  run ls := by
    have hrun := hp.run ls
    rw [Rule.run_bind]
    cases hr : p.run levels ls with
    | ok r =>
        obtain ⟨a, mid⟩ := r
        rw [hr] at hrun
        obtain ⟨used, rfl, hused⟩ := hrun
        exact ((hf used a hused).run mid).append
    | error r =>
        rw [hr] at hrun
        exact hrun.error_of fun used a hused => (hf used a hused).phrase

theorem bind_pure {p : Rule α} (hp : Tracks levels p lang) {f : α → β}
    (hf : ∀ ls a, lang ls a → lang' ls (f a)) :
    Tracks levels (p >>= fun a => Pure.pure (f a)) lang' where
  phrase := by
    obtain ⟨ls, a, ha⟩ := hp.phrase
    exact ⟨ls, f a, hf ls a ha⟩
  run ls := (hp.run ls).bind_pure hf

theorem map {p : Rule α} (hp : Tracks levels p lang) {f : α → β}
    (hf : ∀ ls a, lang ls a → lang' ls (f a)) : Tracks levels (f <$> p) lang' :=
  hp.bind_pure hf

theorem mono {p : Rule α} {lang' : Phrases α} (hp : Tracks levels p lang) (h : Within lang lang') :
    Tracks levels p lang' where
  phrase := by
    obtain ⟨ls, a, ha⟩ := hp.phrase
    exact ⟨ls, a, h ha⟩
  run ls := by
    have hrun := hp.run ls
    cases hr : p.run levels ls with
    | ok r =>
        rw [hr] at hrun
        obtain ⟨used, hls, hused⟩ := hrun
        exact ⟨used, hls, h hused⟩
    | error r =>
        rw [hr] at hrun
        refine hrun.error_of fun used a hused => ⟨[], a, ?_⟩
        rw [List.append_nil]
        exact h hused

theorem first {expected : Expectation} {choose : Lexeme → Option (Rule α)}
    (hphrase : ∃ ls a, lang ls a)
    (hchoose : ∀ l p, choose l = some p → Tracks levels p (Rest [l] lang)) :
    Tracks levels (Rule.first expected choose) lang where
  phrase := hphrase
  run ls := by
    cases ls with
    | nil => exact tracked_refused hphrase expected []
    | cons l ls =>
        rw [Rule.run_first_cons, Symbol.lexeme_self]
        cases hc : choose l with
        | none => exact tracked_refused hphrase expected (l :: ls)
        | some p => exact ((hchoose l p hc).run ls).append

theorem lexeme {l : Lexeme} {expected : Expectation} {lang : Phrases Unit} (h : lang [l] ()) :
    Tracks levels (Rule.lexeme l expected) lang := by
  refine first ⟨[l], (), h⟩ fun next p hp => ?_
  split at hp
  · rename_i same
    cases hp
    rw [same]
    exact pure h
  · cases hp

theorem lexeme_bind {l : Lexeme} {expected : Expectation} {f : Unit → Rule α}
    (h : Tracks levels (f ()) (Rest [l] lang)) :
    Tracks levels (Rule.lexeme l expected >>= f) lang := by
  have hl : Tracks levels (Rule.lexeme l expected) fun ls _ => ls = [l] := lexeme rfl
  refine hl.bind fun used _ hused => ?_
  rw [hused]
  exact h

theorem identifier (expected : Expectation) : Tracks levels (Rule.identifier expected) Name := by
  refine first ⟨[.identifier "x"], "x", .mk⟩ fun ⟨kind, text⟩ p hp => ?_
  split at hp
  · rename_i same
    cases hp
    cases same
    exact pure .mk
  · cases hp

theorem identifier_bind {expected : Expectation} {f : String → Rule α}
    (h : ∀ name, Tracks levels (f name) (Rest [.identifier name] lang)) :
    Tracks levels (Rule.identifier expected >>= f) lang := by
  refine (identifier expected).bind fun used name hused => ?_
  cases hused
  exact h name

theorem nested {n : Nested α} (hphrase : ∃ ls a, lang ls a)
    (h : ∀ k, levels = k + 1 → Tracks k n.rule lang) : Tracks levels (Rule.nested n) lang where
  phrase := hphrase
  run ls := by
    cases levels with
    | zero => exact fun he => absurd rfl he
    | succ levels => exact (h levels rfl).run ls

theorem peek {n : Nat} {f : Option Lexeme → Rule α} (hphrase : ∃ ls a, lang ls a)
    (h : ∀ ls : List Lexeme, Tracked lang ls ((f ls[n]?).run levels ls)) :
    Tracks levels (Rule.peek n >>= f) lang where
  phrase := hphrase
  run ls := by
    rw [Rule.run_peek_bind]
    exact h ls

/-- One look at the next lexeme decides between two ways on. -/
theorem peek_ite {l : Lexeme} {p q : Rule α}
    (hp : ∀ ls, Tracked lang (l :: ls) (p.run levels (l :: ls))) (hq : Tracks levels q lang) :
    Tracks levels (Rule.peek 0 >>= fun next => if next = some l then p else q) lang := by
  refine peek hq.phrase fun ls => ?_
  split
  · rename_i hl
    cases ls with
    | nil => cases hl
    | cons next ls =>
        cases hl
        exact hp ls
  · exact hq.run ls

/-! ### Repetition -/

theorem repeats {all : Rule (List α)} {item : Rule α} {stops : Option Lexeme → Bool}
    (hrep : Rule.Repeats Lexeme levels all item stops)
    (h : ∀ ls, stops ls.head? = false → Tracked lang ls (item.run levels ls)) (ls : List Lexeme) :
    Tracked (Sequence lang) ls (all.run levels ls) := by
  rw [hrep.run, Symbol.map_lexeme_self]
  split
  · exact ⟨[], rfl, .nil⟩
  · rename_i hstop
    have hitem := h ls (Bool.eq_false_iff.mpr hstop)
    rw [Rule.run_bind]
    cases hi : item.run levels ls with
    | error r =>
        rw [hi] at hitem
        refine hitem.error_of fun used a hused => ⟨[], [a], ?_⟩
        rw [List.append_nil]
        exact .singleton hused
    | ok r =>
        obtain ⟨a, mid⟩ := r
        rw [hi] at hitem
        obtain ⟨used, hused, hphrase⟩ := hitem
        simp only [Rule.run_map]
        rw [hused]
        exact ((repeats hrep h mid).map fun _ _ hs => .cons hphrase hs).append
termination_by ls.length
decreasing_by exact hrep.shorter hi

theorem many {stop : Lexeme → Bool} {expected : Expectation}
    {choose : Lexeme → Option (Rule α)} (h : Tracks levels (Rule.first expected choose) lang) :
    Tracks levels (Rule.many stop expected choose) (Sequence lang) where
  phrase := ⟨[], [], .nil⟩
  run := repeats (Rule.repeats_many stop expected choose) fun ls _ => h.run ls

theorem marked {γ : Type} {item : Rule α} (h : Tracks levels item lang) (mark : Lexeme → Option γ) :
    Tracks levels (Rule.marked mark item) (Sequence (Marked mark lang)) where
  phrase := ⟨[], [], .nil⟩
  run := by
    refine repeats (Rule.repeats_marked mark item .expression) fun ls hstop => ?_
    cases ls with
    | nil => cases hstop
    | cons l ls =>
        obtain ⟨b, hb⟩ := Option.isSome_iff_exists.mp (Option.isNone_eq_false_iff.mp hstop)
        rw [Rule.run_first_cons, Symbol.lexeme_self, hb]
        have hone : Tracks levels (Prod.mk b <$> item) (Rest [l] (Marked mark lang)) :=
          h.map fun _ _ hi => .mk hb hi
        exact (hone.run ls).append

theorem after {item : Rule α} (h : Tracks levels item lang) (mark : Lexeme) :
    Tracks levels (Rule.after mark item) (After mark lang) :=
  (h.marked _).bind_pure fun _ pairs hused => after_iff_marked.mpr ⟨pairs, rfl, hused⟩

theorem commaSeparated {item : Rule α} (h : Tracks levels item lang) :
    Tracks levels (Rule.commaSeparated item) (Separated lang) :=
  h.bind fun _ _ hfront => (h.after .comma).bind_pure fun _ _ hback => .cons hfront hback

end Tracks

end CppToPython
