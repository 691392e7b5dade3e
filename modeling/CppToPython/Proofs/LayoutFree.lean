import CppToPython.Proofs.Grammar.FirstError

/-! # What the layout of a source has no say in

Two lists of tokens that agree in their lexemes are the same program, wherever the tokens
stand. If they are none, both are refused at the same place among the tokens and for the same
reason. Positions only reach the report of an error.
-/

namespace CppToPython

open CppToPython.Rule Grammar

/-- The same error, but for where the source is at fault. -/
structure ParseError.SameUnplaced (e f : ParseError) : Prop where
  expected : e.expected = f.expected
  found : e.found.map Token.toLexeme = f.found.map Token.toLexeme

namespace Program

variable {ts us : List Token}

theorem found_ofRest (expected : Expectation) (tokens : List Token) (i : Nat) :
    (ParseError.ofRest expected tokens (tokens.drop i)).found = tokens[i]? :=
  List.head?_drop

theorem run_eq_error_of_same_lexemes (h : ts.map Token.toLexeme = us.map Token.toLexeme)
    {expected : Expectation} {i : Nat}
    (hrun : program.run nestingLimit ts = .error (expected, ts.drop i)) :
    program.run nestingLimit us = .error (expected, us.drop i) := by
  rw [run_program_eq_error_iff (List.drop_suffix i ts), List.map_drop, h] at hrun
  rw [run_program_eq_error_iff (List.drop_suffix i us), List.map_drop, hrun]

/-- Tokens that agree in their lexemes are parsed alike, or refused at the same index. -/
theorem parse_of_same_lexemes (h : ts.map Token.toLexeme = us.map Token.toLexeme) :
    (∃ p, (parse ts).1 = .ok p ∧ (parse us).1 = .ok p) ∨
      ∃ e f i, parse ts = (.error e, ts.drop i) ∧ parse us = (.error f, us.drop i) ∧
        i ≤ ts.length ∧ e.found = ts[i]? ∧ f.found = us[i]? ∧ e.SameUnplaced f := by
  cases hparse : parse ts with
  | mk answer left =>
      cases answer with
      | ok p =>
          have hp := congrArg Prod.fst hparse
          rw [parse_eq_ok, h, ← parse_eq_ok] at hp
          exact .inl ⟨p, rfl, hp⟩
      | error e =>
          obtain ⟨i, hi, rfl, herr, hrun⟩ := exists_position_of_parse_error hparse
          rw [List.take_append_drop] at hrun
          have hother := parse_eq_error_of_run (run_eq_error_of_same_lexemes h hrun)
          have hfound : e.found = ts[i]? := by rw [herr, found_ofRest]
          refine .inr ⟨e, _, i, rfl, hother, hi, hfound, found_ofRest .., rfl, ?_⟩
          rw [hfound, found_ofRest, ← List.getElem?_map, ← List.getElem?_map, h]

end Program

/-- What tokens mean does not depend on where they stand: tokens with the same lexemes are the
    same program, or are refused at the same index with the same words. So sources that differ
    in their layout only are translated to the same text, or fail with errors that differ in
    their positions only. -/
theorem translate_ignores_layout :
    (∀ ts us : List Token, ts.map Token.toLexeme = us.map Token.toLexeme →
      (∃ p, (Program.parse ts).1 = .ok p ∧ (Program.parse us).1 = .ok p) ∨
        ∃ e f i, Program.parse ts = (.error e, ts.drop i) ∧
          Program.parse us = (.error f, us.drop i) ∧
          i ≤ ts.length ∧ e.found = ts[i]? ∧ f.found = us[i]? ∧ e.SameUnplaced f) ∧
    ∀ (options : Options) (source other : String) (ts us : List Token),
      Token.scan source = .ok ts → Token.scan other = .ok us →
      ts.map Token.toLexeme = us.map Token.toLexeme →
        (∃ text, (translate options source).result = .ok text ∧
          (translate options other).result = .ok text) ∨
        ∃ e f, (translate options source).result = .error (.parse e) ∧
          (translate options other).result = .error (.parse f) ∧ e.SameUnplaced f := by
  refine ⟨fun ts us => Program.parse_of_same_lexemes, ?_⟩
  intro options source other ts us hts hus h
  rcases Program.parse_of_same_lexemes h with ⟨p, hp, hq⟩ | ⟨e, f, i, he, hf, -, -, -, hsame⟩
  · left
    exact ⟨p.toPython options, translate_eq_ok.mpr ⟨p, ⟨ts, hts, hp⟩, rfl⟩,
      translate_eq_ok.mpr ⟨p, ⟨us, hus, hq⟩, rfl⟩⟩
  · right
    exact ⟨e, f, translate_eq_error.mpr (.inr ⟨ts, e, hts, congrArg Prod.fst he, rfl⟩),
      translate_eq_error.mpr (.inr ⟨us, f, hus, congrArg Prod.fst hf, rfl⟩), hsame⟩

theorem translate_ignores_layout_spread :
    (∃ text, (translate {} "x=1;").result = .ok text ∧
      (translate {} "x /* one */ =\n 1;").result = .ok text) ∧
    ∃ e f, (translate {} "x=;").result = .error (.parse e) ∧
      (translate {} "x\n= ;").result = .error (.parse f) ∧ e.SameUnplaced f := by
  obtain ⟨-, hsources⟩ := translate_ignores_layout
  constructor
  · have hdense : Token.scan "x=1;" =
        .ok [⟨⟨.identifier, "x"⟩, ⟨1, 1⟩⟩, ⟨⟨.operator, "="⟩, ⟨1, 2⟩⟩, ⟨⟨.number, "1"⟩, ⟨1, 3⟩⟩,
          ⟨⟨.delimiter, ";"⟩, ⟨1, 4⟩⟩] := by decide +kernel
    have hspread : Token.scan "x /* one */ =\n 1;" =
        .ok [⟨⟨.identifier, "x"⟩, ⟨1, 1⟩⟩, ⟨⟨.operator, "="⟩, ⟨1, 13⟩⟩, ⟨⟨.number, "1"⟩, ⟨2, 2⟩⟩,
          ⟨⟨.delimiter, ";"⟩, ⟨2, 3⟩⟩] := by decide +kernel
    have htext : (translate {} "x=1;").result = .ok "x = 1\n" := by decide +kernel
    rcases hsources {} _ _ _ _ hdense hspread rfl with hsame | ⟨e, f, he, -⟩
    · exact hsame
    · rw [htext] at he
      cases he
  · have hdense : Token.scan "x=;" =
        .ok [⟨⟨.identifier, "x"⟩, ⟨1, 1⟩⟩, ⟨⟨.operator, "="⟩, ⟨1, 2⟩⟩,
          ⟨⟨.delimiter, ";"⟩, ⟨1, 3⟩⟩] := by decide +kernel
    have hspread : Token.scan "x\n= ;" =
        .ok [⟨⟨.identifier, "x"⟩, ⟨1, 1⟩⟩, ⟨⟨.operator, "="⟩, ⟨2, 1⟩⟩,
          ⟨⟨.delimiter, ";"⟩, ⟨2, 3⟩⟩] := by decide +kernel
    have herror : (translate {} "x=;").result =
        .error (.parse ⟨.expression, some ⟨⟨.delimiter, ";"⟩, ⟨1, 3⟩⟩, ⟨1, 3⟩⟩) := by
      decide +kernel
    rcases hsources {} _ _ _ _ hdense hspread rfl with ⟨text, htext, -⟩ | hsame
    · rw [herror] at htext
      cases htext
    · exact hsame

end CppToPython
