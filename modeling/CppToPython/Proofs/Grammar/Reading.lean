import CppToPython.Proofs.Grammar.Derivation
import CppToPython.Proofs.Grammar.Running

/-! # Rules and the phrases they read

`Reads levels r lang goesOn` joins a rule to a sort of phrases. What is read by
the rule is a phrase, and every phrase is read, provided that what follows does
not go on with it: rules take as much as they can, while a derivation only covers
its own lexemes.
-/

namespace CppToPython

open Derives

namespace Rule

variable {α β : Type} {levels : Nat}

/-! ### Successful runs -/

theorem run_lexeme_eq_ok {l : Lexeme} {expected : Expectation} {ls rest : List Lexeme} {u : Unit} :
    (lexeme l expected).run levels ls = .ok (u, rest) ↔ ls = l :: rest := by
  rw [lexeme, run_first_eq_ok]
  constructor
  · rintro ⟨next, ms, p, rfl, hc, hp⟩
    split at hc
    · rename_i same
      cases hc
      cases hp
      rw [same]
    · cases hc
  · rintro rfl
    exact ⟨l, rest, pure (), rfl, if_pos rfl, rfl⟩

theorem run_identifier_eq_ok {expected : Expectation} {ls rest : List Lexeme} {name : String} :
    (identifier expected).run levels ls = .ok (name, rest) ↔ ls = .identifier name :: rest := by
  rw [identifier, run_first_eq_ok]
  constructor
  · rintro ⟨⟨kind, text⟩, ms, p, rfl, hc, hp⟩
    split at hc
    · rename_i same
      cases hc
      cases hp
      cases same
      rfl
    · cases hc
  · rintro rfl
    exact ⟨_, rest, pure name, rfl, if_pos rfl, rfl⟩

@[simp]
theorem run_lexeme_cons (l : Lexeme) (expected : Expectation) (rest : List Lexeme) :
    (lexeme l expected).run levels (l :: rest) = .ok ((), rest) :=
  run_lexeme_eq_ok.mpr rfl

@[simp]
theorem run_identifier_cons (name : String) (expected : Expectation) (rest : List Lexeme) :
    (identifier expected).run levels (.identifier name :: rest) = .ok (name, rest) :=
  run_identifier_eq_ok.mpr rfl

theorem run_peek_bind (n : Nat) (f : Option Lexeme → Rule α) (ls : List Lexeme) :
    (peek n >>= f).run levels ls = (f ls[n]?).run levels ls := by
  rw [run_bind, run_peek]

theorem run_lexeme_bind_eq_ok {l : Lexeme} {expected : Expectation} {f : Unit → Rule α}
    {ls rest : List Lexeme} {a : α} :
    (lexeme l expected >>= f).run levels ls = .ok (a, rest) ↔
      ∃ ms, ls = l :: ms ∧ (f ()).run levels ms = .ok (a, rest) := by
  simp only [run_bind_eq_ok, run_lexeme_eq_ok]
  constructor
  · rintro ⟨_, ms, hl, hf⟩
    exact ⟨ms, hl, hf⟩
  · rintro ⟨ms, hl, hf⟩
    exact ⟨(), ms, hl, hf⟩

theorem run_identifier_bind_eq_ok {expected : Expectation} {f : String → Rule α}
    {ls rest : List Lexeme} {a : α} :
    (identifier expected >>= f).run levels ls = .ok (a, rest) ↔
      ∃ name ms, ls = .identifier name :: ms ∧ (f name).run levels ms = .ok (a, rest) := by
  simp only [run_bind_eq_ok, run_identifier_eq_ok]

/-- The end of many rules: one last lexeme, and the value is there. -/
theorem run_lexeme_pure_eq_ok {l : Lexeme} {expected : Expectation} {a b : α}
    {ls rest : List Lexeme} :
    (lexeme l expected >>= fun _ => pure a : Rule α).run levels ls = .ok (b, rest) ↔
      ls = l :: rest ∧ a = b := by
  rw [run_lexeme_bind_eq_ok]
  constructor
  · rintro ⟨ms, rfl, hp⟩
    obtain ⟨rfl, rfl⟩ := run_pure_eq_ok.mp hp
    exact ⟨rfl, rfl⟩
  · rintro ⟨rfl, rfl⟩
    exact ⟨rest, rfl, rfl⟩

theorem run_nested_eq_ok {n : Nested α} {ls rest : List Lexeme} {a : α} :
    (nested n).run levels ls = .ok (a, rest) ↔
      ∃ k, levels = k + 1 ∧ n.rule.run k ls = .ok (a, rest) := by
  cases levels with
  | zero => simp
  | succ levels => simp

end Rule

/-! ### Reading -/

/-- What follows does not start with a lexeme that goes on with a phrase. -/
def Stops (goesOn : Lexeme → Prop) (rest : List Lexeme) : Prop :=
  ∀ l ∈ rest.head?, ¬ goesOn l

theorem stops_nil (goesOn : Lexeme → Prop) : Stops goesOn [] := by
  intro l hl
  cases hl

theorem stops_cons {goesOn : Lexeme → Prop} {l : Lexeme} {ls : List Lexeme} :
    Stops goesOn (l :: ls) ↔ ¬ goesOn l := by
  simp [Stops]

theorem Stops.mono {less more : Lexeme → Prop} {rest : List Lexeme} (h : Stops more rest)
    (hm : ∀ l, less l → more l) : Stops less rest :=
  fun l hl hg => h l hl (hm l hg)

/-- The rule `r` reads the phrases of `lang`, unless what follows goes on with
    them. -/
structure Reads {α : Type} (levels : Nat) (r : Rule α) (lang : Phrases α)
    (goesOn : Lexeme → Prop) : Prop where
  sound : ∀ {ls rest : List Lexeme} {a}, r.run levels ls = .ok (a, rest) →
    ∃ used, ls = used ++ rest ∧ lang used a
  complete : ∀ {used rest : List Lexeme} {a}, lang used a → Stops goesOn rest →
    r.run levels (used ++ rest) = .ok (a, rest)

theorem Reads.weaken {α : Type} {levels : Nat} {r : Rule α} {lang : Phrases α}
    {less more : Lexeme → Prop} (h : Reads levels r lang less) (hm : ∀ l, less l → more l) :
    Reads levels r lang more where
  sound := h.sound
  complete hl hr := h.complete hl (hr.mono hm)

/-- Nothing goes on with the phrase. -/
def Nothing : Lexeme → Prop := fun _ => False

theorem stops_nothing (rest : List Lexeme) : Stops Nothing rest :=
  fun _ _ h => h

namespace Derives

variable {α β : Type}

theorem Sequence.append {item : Phrases α} {ls ms : List Lexeme} {as bs : List α}
    (h : Sequence item ls as) (h' : Sequence item ms bs) :
    Sequence item (ls ++ ms) (as ++ bs) := by
  induction h with
  | nil => exact h'
  | cons ha _ ih =>
      rw [List.append_assoc, List.cons_append]
      exact .cons ha ih

theorem Sequence.singleton {item : Phrases α} {ls : List Lexeme} {a : α} (h : item ls a) :
    Sequence item ls [a] := by
  rw [← List.append_nil ls]
  exact .cons h .nil

/-- A phrase after a lexeme that is a mark. -/
inductive Marked (mark : Lexeme → Option β) (item : Phrases α) : Phrases (β × α) where
  | mk {l b ls a} : mark l = some b → item ls a → Marked mark item (l :: ls) (b, a)

end Derives

/-! ### One item after the other -/

namespace Rule

variable {α β : Type} {levels : Nat}

/-- What a repetition reads are its items, and it ends where it has to stop. -/
theorem Repeats.sound {all : Rule (List α)} {item : Rule α} {stops : Option Lexeme → Bool}
    {lang : Phrases α} (h : Repeats Lexeme levels all item stops)
    (hitem : ∀ {ls rest : List Lexeme} {a}, item.run levels ls = .ok (a, rest) →
      ∃ used, ls = used ++ rest ∧ lang used a)
    {ls rest : List Lexeme} {as : List α} (hr : all.run levels ls = .ok (as, rest)) :
    ∃ used, ls = used ++ rest ∧ Sequence lang used as ∧ stops rest.head? = true := by
  rw [h.run, Symbol.map_lexeme_self] at hr
  split at hr
  · rename_i hstop
    cases hr
    exact ⟨[], rfl, .nil, hstop⟩
  · obtain ⟨a, mid, hi, hmap⟩ := run_bind_eq_ok.mp hr
    obtain ⟨tail, ht, rfl⟩ := run_map_eq_ok.mp hmap
    obtain ⟨front, hfront, hphrase⟩ := hitem hi
    obtain ⟨back, hback, htail, hstop⟩ := Repeats.sound h hitem ht
    refine ⟨front ++ back, ?_, .cons hphrase htail, hstop⟩
    rw [hfront, hback, List.append_assoc]
termination_by ls.length
decreasing_by exact h.shorter hi

/-- Every item that a repetition reads stands after a mark. -/
theorem sound_marked {mark : Lexeme → Option β} {item : Rule α} {lang : Phrases α}
    {goesOn : Lexeme → Prop} (h : Reads levels item lang goesOn) {ls rest : List Lexeme}
    {as : List (β × α)} (hr : (marked mark item).run levels ls = .ok (as, rest)) :
    ∃ used, ls = used ++ rest ∧ Sequence (Marked mark lang) used as := by
  refine ((repeats_marked mark item .expression).sound (fun hi => ?_) hr).imp
    fun _ hused => ⟨hused.1, hused.2.1⟩
  obtain ⟨l, ms, r, rfl, hc, hr⟩ := run_first_eq_ok.mp hi
  obtain ⟨b, hb, rfl⟩ := Option.map_eq_some_iff.mp hc
  obtain ⟨a, ha, rfl⟩ := run_map_eq_ok.mp hr
  obtain ⟨front, rfl, hfront⟩ := h.sound ha
  exact ⟨l :: front, rfl, .mk hb hfront⟩

end Rule

open Rule (run_bind_eq_ok run_pure_eq_ok run_map_eq_ok run_first_eq_ok)

namespace Reads

variable {α β : Type} {levels : Nat} {goesOn : Lexeme → Prop}

/-- After a marked phrase stands a mark or what stops the repetition. -/
theorem stops_append_marked {mark : Lexeme → Option β} {lang : Phrases α}
    (apart : ∀ l b, mark l = some b → ¬ goesOn l) {used rest : List Lexeme} {as : List (β × α)}
    (hs : Sequence (Marked mark lang) used as) (hr : Stops goesOn rest) :
    Stops goesOn (used ++ rest) := by
  cases hs with
  | nil => exact hr
  | cons hitem _ =>
      cases hitem with
      | mk hm _ => exact stops_cons.mpr (apart _ _ hm)

theorem complete_marked {mark : Lexeme → Option β} {item : Rule α} {lang : Phrases α}
    (h : Reads levels item lang goesOn) (apart : ∀ l b, mark l = some b → ¬ goesOn l)
    {used rest : List Lexeme} {as : List (β × α)} (hs : Sequence (Marked mark lang) used as)
    (hr : Stops (fun l => goesOn l ∨ (mark l).isSome) rest) :
    (Rule.marked mark item).run levels (used ++ rest) = .ok (as, rest) := by
  have hrepeats : Rule.Repeats Lexeme levels (Rule.marked mark item) _ _ :=
    Rule.repeats_marked mark item .expression
  induction hs with
  | nil =>
      apply hrepeats.run_of_stops
      cases rest with
      | nil => rfl
      | cons l ls => simpa using fun hm => stops_cons.mp hr (.inr hm)
  | @cons ls ms a as hitem htail ih =>
      cases hitem with
      | @mk l b ls a hm hi =>
          have hstop := stops_append_marked apart htail (hr.mono fun _ => .inl)
          have hone : (Rule.first .expression
                fun l => (mark l).map fun b => Prod.mk b <$> item).run levels
              (l :: (ls ++ (ms ++ rest))) = .ok ((b, a), ms ++ rest) :=
            run_first_eq_ok.mpr ⟨l, _, _, rfl, by rw [hm]; rfl,
              run_map_eq_ok.mpr ⟨a, h.complete hi hstop, rfl⟩⟩
          rw [List.cons_append, List.cons_append, List.append_assoc,
            hrepeats.run_of_item (by simp [hm]) hone, ih]
          rfl

end Reads

namespace Derives

variable {α : Type}

theorem after_iff_marked {mark : Lexeme} {item : Phrases α} {ls : List Lexeme} {as : List α} :
    After mark item ls as ↔
      ∃ pairs : List (Unit × α), pairs.map Prod.snd = as ∧
        Sequence (Marked (fun next => if next = mark then some () else none) item) ls pairs := by
  constructor
  · intro h
    induction h with
    | nil => exact ⟨[], rfl, .nil⟩
    | @cons _ _ a _ hi _ ih =>
        obtain ⟨pairs, rfl, hs⟩ := ih
        exact ⟨((), a) :: pairs, rfl, .cons (.mk (if_pos rfl) hi) hs⟩
  · rintro ⟨pairs, rfl, hs⟩
    induction hs with
    | nil => exact .nil
    | cons hitem _ ih =>
        cases hitem with
        | mk hm hi =>
            split at hm
            · rename_i same
              subst same
              exact .cons hi ih
            · cases hm

end Derives

namespace Reads

variable {α : Type} {levels : Nat} {goesOn : Lexeme → Prop} {item : Rule α} {lang : Phrases α}

theorem after (h : Reads levels item lang goesOn) {mark : Lexeme} (apart : ¬ goesOn mark) :
    Reads levels (Rule.after mark item) (After mark lang) (fun l => goesOn l ∨ l = mark) where
  sound := by
    intro ls rest as hr
    obtain ⟨pairs, mid, hm, hp⟩ := run_bind_eq_ok.mp hr
    obtain ⟨rfl, rfl⟩ := run_pure_eq_ok.mp hp
    obtain ⟨used, hused, hs⟩ := Rule.sound_marked h hm
    exact ⟨used, hused, after_iff_marked.mpr ⟨pairs, rfl, hs⟩⟩
  complete := by
    intro used rest as ha hr
    obtain ⟨pairs, rfl, hs⟩ := after_iff_marked.mp ha
    have hmark : ∀ l b, (if l = mark then some () else none) = some b → ¬ goesOn l := by
      intro l b hl
      split at hl
      · rename_i same
        exact same ▸ apart
      · cases hl
    have hstop : Stops (fun l => goesOn l ∨ (if l = mark then some () else none).isSome) rest := by
      refine hr.mono fun l hl => hl.imp_right fun hm => ?_
      split at hm
      · assumption
      · cases hm
    exact run_bind_eq_ok.mpr ⟨pairs, rest, complete_marked h hmark hs hstop, rfl⟩

theorem commaSeparated (h : Reads levels item lang goesOn) (apart : ¬ goesOn .comma) :
    Reads levels (Rule.commaSeparated item) (Separated lang) (fun l => goesOn l ∨ l = .comma) where
  sound := by
    intro ls rest as hr
    obtain ⟨a, mid, hi, hr⟩ := run_bind_eq_ok.mp hr
    obtain ⟨tail, left, ht, hp⟩ := run_bind_eq_ok.mp hr
    obtain ⟨rfl, rfl⟩ := run_pure_eq_ok.mp hp
    obtain ⟨front, rfl, hfront⟩ := h.sound hi
    obtain ⟨back, rfl, hback⟩ := (h.after apart).sound ht
    exact ⟨front ++ back, (List.append_assoc ..).symm, .cons hfront hback⟩
  complete := by
    intro used rest as hs hr
    cases hs with
    | @cons ls ms a as hi ha =>
        have hstop : Stops goesOn (ms ++ rest) := by
          cases ha with
          | nil => exact hr.mono fun _ => .inl
          | cons _ _ => exact stops_cons.mpr apart
        rw [List.append_assoc]
        refine run_bind_eq_ok.mpr ⟨a, _, h.complete hi hstop, ?_⟩
        exact run_bind_eq_ok.mpr ⟨as, rest, (h.after apart).complete ha hr, rfl⟩

end Reads

/-! ### Repetition up to a lexeme -/

section Many

variable {α : Type} {levels : Nat} {stop : Lexeme → Bool} {expected : Expectation}
  {choose : Lexeme → Option (Rule α)} {lang : Phrases α} {goesOn : Lexeme → Prop}

theorem Reads.sound_many (h : Reads levels (Rule.first expected choose) lang goesOn)
    {ls rest : List Lexeme} {as : List α}
    (hr : (Rule.many stop expected choose).run levels ls = .ok (as, rest)) :
    ∃ used, ls = used ++ rest ∧ Sequence lang used as ∧ ∀ l ∈ rest.head?, stop l = true := by
  obtain ⟨used, hused, hs, hstop⟩ := (Rule.repeats_many stop expected choose).sound h.sound hr
  refine ⟨used, hused, hs, fun l hl => ?_⟩
  rwa [hl] at hstop

/-- A repetition goes over its items to what follows them and reads on there,
    whether or not it succeeds. -/
theorem Reads.run_many_append (h : Reads levels (Rule.first expected choose) lang goesOn)
    (starts : ∀ {ls a}, lang ls a → ∃ l ms, ls = l :: ms ∧ stop l = false ∧ ¬ goesOn l)
    {used rest : List Lexeme} {as : List α} (hs : Sequence lang used as)
    (hr : Stops goesOn rest) :
    (Rule.many stop expected choose).run levels (used ++ rest) =
      ((Rule.many stop expected choose).run levels rest).map fun (bs, left) =>
        (as ++ bs, left) := by
  induction hs with
  | nil =>
      rw [List.nil_append]
      cases (Rule.many stop expected choose).run levels rest <;> rfl
  | @cons ls ms a as hitem htail ih =>
      have hstop : Stops goesOn (ms ++ rest) := by
        cases htail with
        | nil => exact hr
        | cons hnext _ =>
            obtain ⟨l, more, rfl, _, hl⟩ := starts hnext
            exact stops_cons.mpr hl
      obtain ⟨l, more, rfl, hl, _⟩ := starts hitem
      have hrun := h.complete hitem hstop
      have hgo : (((l :: more) ++ (ms ++ rest)).head?.map Symbol.lexeme).elim true stop = false :=
        hl
      rw [List.append_assoc, (Rule.repeats_many stop expected choose).run_of_item hgo hrun, ih]
      cases (Rule.many stop expected choose).run levels rest <;> rfl

end Many

end CppToPython
