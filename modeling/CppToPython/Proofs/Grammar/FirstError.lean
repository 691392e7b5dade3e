import CppToPython.Proofs.Concatenation
import CppToPython.Proofs.Grammar.Levels
import CppToPython.Proofs.Grammar.Lookahead
import CppToPython.Proofs.Grammar.Prefixes

/-! # The first error

A failure is noticed at the first token that is wrong. What stands before it can be completed
to a program, and with the token itself it cannot. The one exception is a `void` in the place of
parameters: it is refused for what follows it, and with a parenthesis there it would be right.

One token after the wrong one is all that the parser has looked at, so nothing that comes later
changes the failure.
-/

namespace CppToPython

open CppToPython.Rule Grammar

/-- A program with any number of levels. -/
def Derives.Sentence (ls : List Lexeme) : Prop := ∃ levels p, Derives.Program levels ls p

open Derives (Sentence)

theorem sentence_of_run_eq_error {levels : Nat} {used rest : List Token} {e : Expectation}
    (hr : program.run levels (used ++ rest) = .error (e, rest)) (he : e ≠ .nesting) :
    ∃ more, Sentence (used.map Token.toLexeme ++ more) := by
  rw [run_program_eq_error_iff (List.suffix_append used rest), List.map_append] at hr
  obtain ⟨used', more, p, hsame, hp⟩ := exists_program_of_run_eq_error hr he
  rw [List.append_cancel_right hsame]
  exact ⟨more, levels + 1, p, hp⟩

/-- With enough levels for a sentence the same lexeme would have to be refused in it. -/
theorem loneVoid_of_sentence {levels : Nat} {used rest : List Token} {t : Token} {e : Expectation}
    (hr : program.run levels (used ++ t :: rest) = .error (e, t :: rest)) (he : e ≠ .nesting)
    {more : List Lexeme} (hs : Sentence (used.map Token.toLexeme ++ t.toLexeme :: more)) :
    LoneVoid (used.map Token.toLexeme) ((t :: rest).map Token.toLexeme) (t.toLexeme :: more) := by
  obtain ⟨n, p, hp⟩ := hs
  have hrun := run_program_eq_ok.mpr ⟨rfl, hp.mono (Nat.le_max_right levels n)⟩
  have hmore : program.run (max levels n) (used ++ t :: rest) = .error (e, t :: rest) := by
    have hle := Nat.le_max_left levels n
    rcases run_of_le hle program (used ++ t :: rest) with hkept | ⟨left, hout⟩
    · rw [hkept, hr]
    · rw [hr] at hout
      cases hout
      exact absurd rfl he
  have hsame : SameUpTo used (used ++ t :: rest) (t :: rest)
      (used.map Token.toLexeme ++ t.toLexeme :: more) (t.toLexeme :: more) := ⟨rfl, rfl, rfl⟩
  rcases (follows_program (max levels n) _ _).error hsame hmore with ⟨e', hfail, _⟩ | hvoid
  · rw [hrun] at hfail
    cases hfail
  · exact hvoid

/-- A failure stays as it is while the token after the one that is refused stays. -/
theorem run_eq_error_of_later {levels : Nat} {used rest : List Token} {t next : Token}
    {e : Expectation}
    (hr : program.run levels (used ++ t :: next :: rest) = .error (e, t :: next :: rest))
    (later : List Token) :
    program.run levels (used ++ t :: next :: later) = .error (e, t :: next :: later) := by
  have hsame : SameUpTo used (used ++ t :: next :: rest) (t :: next :: rest)
      ((used ++ t :: next :: later).map Token.toLexeme)
      ((t :: next :: later).map Token.toLexeme) := ⟨rfl, List.map_append, rfl⟩
  rw [run_program_eq_error_iff (List.suffix_append used _)]
  rcases (follows_program levels _ _).error hsame hr with ⟨e', hfail, he⟩ | ⟨_, _, hopen, hclose⟩
  · rw [hfail, he rfl]
  · exact absurd hclose hopen

namespace Program

theorem parse_eq_error_of_run {tokens left : List Token} {e : Expectation}
    (h : program.run nestingLimit tokens = .error (e, left)) :
    parse tokens = (.error (.ofRest e tokens left), left) := by
  rw [parse, h]

theorem exists_position_of_parse_error {tokens left : List Token} {err : ParseError}
    (h : parse tokens = (.error err, left)) :
    ∃ i ≤ tokens.length, left = tokens.drop i ∧ err = .ofRest err.expected tokens left ∧
      program.run nestingLimit (tokens.take i ++ tokens.drop i) =
        .error (err.expected, tokens.drop i) := by
  rw [parse] at h
  cases hr : program.run nestingLimit tokens with
  | ok r =>
      rw [hr] at h
      cases h
  | error r =>
      obtain ⟨expected, rest⟩ := r
      rw [hr] at h
      cases h
      have hrest := List.suffix_iff_eq_drop.mp (suffix_of_run_eq_error hr)
      refine ⟨tokens.length - left.length, Nat.sub_le .., hrest, rfl, ?_⟩
      rw [List.take_append_drop, ← hrest]
      exact hr

/-- A failure other than running out of levels is reported at the first token that is wrong, or
    at the last one when the tokens end too early. The tokens before it start a sentence, and
    with it they start none, unless it is a `void` in the place of parameters that no parenthesis
    follows. -/
theorem parse_reports_first_error (tokens left : List Token) (err : ParseError)
    (hparse : parse tokens = (.error err, left)) (hlevels : err.expected ≠ .nesting) :
    ∃ i ≤ tokens.length, left = tokens.drop i ∧
      err.found = tokens[i]? ∧ (err.found = none ↔ i = tokens.length) ∧
      some err.position = (tokens[i]?.or tokens.getLast?).map Token.position ∧
      (∃ more, Sentence ((tokens.take i).map Token.toLexeme ++ more)) ∧
      ∀ token, tokens[i]? = some token →
        (∀ more, ¬ Sentence ((tokens.take i).map Token.toLexeme ++ token.toLexeme :: more)) ∨
          (token.toLexeme = .word "void" ∧ AtParameters ((tokens.take i).map Token.toLexeme) ∧
            tokens[i + 1]?.map Token.toLexeme ≠ some .closeParen) := by
  obtain ⟨i, hi, rfl, herr, hrun⟩ := exists_position_of_parse_error hparse
  have hfound : err.found = tokens[i]? := by
    rw [herr, ParseError.ofRest, List.head?_drop]
  refine ⟨i, hi, rfl, hfound, ?_, ?_, sentence_of_run_eq_error hrun hlevels, ?_⟩
  · rw [hfound, List.getElem?_eq_none_iff]
    exact ⟨fun hlong => Nat.le_antisymm hi hlong, fun hend => Nat.le_of_eq hend.symm⟩
  · have hne := ne_nil_of_parse_error (congrArg Prod.fst hparse)
    rw [herr, ParseError.ofRest, List.head?_drop, List.getLast?_eq_some_getLast hne]
    cases tokens[i]? with
    | none => rfl
    | some token => rfl
  · intro token htoken
    obtain ⟨hlt, hget⟩ := List.getElem?_eq_some_iff.mp htoken
    rw [List.drop_eq_getElem_cons hlt, hget] at hrun
    by_cases hvoid : token.toLexeme = .word "void" ∧
        AtParameters ((tokens.take i).map Token.toLexeme) ∧
        tokens[i + 1]?.map Token.toLexeme ≠ some .closeParen
    · exact .inr hvoid
    · refine .inl fun more hs => hvoid ?_
      obtain ⟨hparams, hword, hnext, _⟩ := loneVoid_of_sentence hrun hlevels hs
      rw [List.map_cons, List.getElem?_cons_succ, List.getElem?_map, List.getElem?_drop] at hnext
      exact ⟨Option.some.inj hword, hparams, hnext⟩

/-- The tokens of `int f(void x) { }`, where the `void` is refused for the name after it. -/
def voidParameter : List Token :=
  [⟨.word "int", ⟨1, 1⟩⟩, ⟨.identifier "f", ⟨1, 5⟩⟩, ⟨.openParen, ⟨1, 6⟩⟩,
    ⟨.word "void", ⟨1, 7⟩⟩, ⟨.identifier "x", ⟨1, 12⟩⟩, ⟨.closeParen, ⟨1, 13⟩⟩,
    ⟨.openBrace, ⟨1, 15⟩⟩, ⟨.closeBrace, ⟨1, 17⟩⟩]

/-- With a parenthesis after it, the same `void` is part of a sentence. -/
theorem sentence_voidParameter :
    Sentence ((voidParameter.take 4).map Token.toLexeme ++
      [.closeParen, .openBrace, .closeBrace]) := by
  have hempty : Derives.Program 0 [] [] := .mk .nil
  have hblock : Derives.Block (Derives.deeper 1) [.openBrace, .closeBrace] [] :=
    @Derives.Block.braces ⟨_, _⟩ [] [] hempty
  exact ⟨1, _, .mk (.singleton (@Derives.Statement.function _ _ (.value .int) "f" _ _ _ _
    .void hblock))⟩

theorem parse_reports_first_error_void :
    (∃ more, Sentence ((voidParameter.take 4).map Token.toLexeme ++ more)) ∧
    ∃ err left, parse voidParameter = (.error err, left) ∧ err.expected ≠ .nesting ∧
      ∃ i ≤ voidParameter.length, left = voidParameter.drop i ∧
        err.found = voidParameter[i]? ∧ (err.found = none ↔ i = voidParameter.length) ∧
        some err.position = (voidParameter[i]?.or voidParameter.getLast?).map Token.position ∧
        (∃ more, Sentence ((voidParameter.take i).map Token.toLexeme ++ more)) ∧
        ∀ token, voidParameter[i]? = some token →
          (∀ more, ¬ Sentence
              ((voidParameter.take i).map Token.toLexeme ++ token.toLexeme :: more)) ∨
            (token.toLexeme = .word "void" ∧
              AtParameters ((voidParameter.take i).map Token.toLexeme) ∧
              voidParameter[i + 1]?.map Token.toLexeme ≠ some .closeParen) := by
  refine ⟨⟨_, sentence_voidParameter⟩, ?_⟩
  have hmap : (parse voidParameter).1.map (fun _ => ()) =
      .error ⟨.typeName, some ⟨.word "void", ⟨1, 7⟩⟩, ⟨1, 7⟩⟩ := by decide +kernel
  cases hparse : parse voidParameter with
  | mk r left =>
      rw [hparse] at hmap
      cases r with
      | ok p => cases hmap
      | error err =>
          cases hmap
          have hlevels : Expectation.typeName ≠ .nesting := by decide
          exact ⟨_, left, rfl, hlevels, parse_reports_first_error _ _ _ hparse hlevels⟩

/-- A failure depends on the tokens up to the one after the token that is refused. Whatever comes
    later, the same is expected, found and reported at the same place. -/
theorem parse_error_ignores_later (tokens left : List Token) (err : ParseError)
    (hparse : parse tokens = (.error err, left)) :
    ∃ i ≤ tokens.length, left = tokens.drop i ∧ err.found = tokens[i]? ∧
      (i + 1 < tokens.length → ∀ later,
        parse (tokens.take (i + 2) ++ later) = (.error err, left.take 2 ++ later)) := by
  obtain ⟨i, hi, rfl, herr, hrun⟩ := exists_position_of_parse_error hparse
  refine ⟨i, hi, rfl, by rw [herr, ParseError.ofRest, List.head?_drop], ?_⟩
  intro hlt later
  have hdrop : tokens.drop i = tokens[i] :: tokens[i + 1] :: tokens.drop (i + 2) := by
    rw [List.drop_eq_getElem_cons (Nat.lt_of_succ_lt hlt), List.drop_eq_getElem_cons hlt]
  have htake : tokens.take (i + 2) = tokens.take i ++ [tokens[i], tokens[i + 1]] := by
    rw [List.take_add, hdrop]
    rfl
  rw [hdrop] at hrun herr ⊢
  rw [htake, List.append_assoc, herr]
  exact parse_eq_error_of_run (run_eq_error_of_later hrun later)

/-- In `int f(void x) { }` the `void` is refused for the name after it, and no later token can
    change that. -/
theorem parse_error_ignores_later_void :
    ∃ err left, parse voidParameter = (.error err, left) ∧
      err.found = some ⟨.word "void", ⟨1, 7⟩⟩ ∧
      ∀ later, parse (voidParameter.take 5 ++ later) = (.error err, left.take 2 ++ later) := by
  have hmap : (parse voidParameter).1.map (fun _ => ()) =
      .error ⟨.typeName, some ⟨.word "void", ⟨1, 7⟩⟩, ⟨1, 7⟩⟩ := by decide +kernel
  have honly : ∀ i ≤ voidParameter.length,
      some ⟨.word "void", ⟨1, 7⟩⟩ = voidParameter[i]? → i = 3 := by decide
  cases hparse : parse voidParameter with
  | mk r left =>
      rw [hparse] at hmap
      cases r with
      | ok p => cases hmap
      | error err =>
          cases hmap
          obtain ⟨i, hi, _, hfound, hlater⟩ := parse_error_ignores_later _ _ _ hparse
          obtain rfl := honly i hi hfound
          exact ⟨_, left, rfl, rfl, hlater (by decide)⟩

end Program

end CppToPython
