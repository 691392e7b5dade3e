import CppToPython.Proofs.Grammar.Acceptance
import CppToPython.Proofs.Token.Seam
import CppToPython.Proofs.Translate
import Mathlib.Control.Monad.Basic

/-! # One source after another

Two sources with a line feed between them are translated one after the other.
Each stage forgets what came before: the scanner at the line feed, the parser at
the end of a statement that no `else` follows, and items are written one by one.
-/

namespace CppToPython

open CppToPython.Rule Grammar

/-! ### Parsing -/

/-- The same error some lines further down. -/
def ParseError.down (lines : Nat) (e : ParseError) : ParseError :=
  ⟨e.expected, e.found.map (Token.down lines), e.position.down lines⟩

theorem run_program_append {levels : Nat} {used rest : List Lexeme} {p : Program}
    (hp : program.run levels used = .ok (p, [])) (hr : Stops (· = .word "else") rest) :
    program.run levels (used ++ rest) =
      (program.run levels rest).map fun (q, left) => (p ++ q, left) := by
  obtain ⟨_, hd⟩ := run_program_eq_ok.mp hp
  exact run_statements_append (reads_context levels) (fun _ => false) nofun hd hr

theorem stops_else_of_program {levels : Nat} {ls : List Lexeme} {p : Program}
    (hp : program.run levels ls = .ok (p, [])) : Stops (· = .word "else") ls := by
  obtain ⟨_, hd⟩ := run_program_eq_ok.mp hp
  cases hd with
  | mk hs =>
      cases hs with
      | nil => exact stops_nil _
      | cons hstmt _ =>
          obtain ⟨l, ms, rfl, _, helse⟩ := hstmt.starts
          exact stops_cons.mpr helse

namespace Program

variable {ts us : List Token} {p q : Program} {e : ParseError}

theorem parse_eq_error :
    (parse us).1 = .error e ↔
      ∃ expected rest, program.run nestingLimit us = .error (expected, rest) ∧
        e = .ofRest expected us rest := by
  rw [parse]
  cases program.run nestingLimit us with
  | ok r => simp
  | error r =>
      obtain ⟨expected, rest⟩ := r
      constructor
      · intro h
        cases h
        exact ⟨expected, rest, rfl, rfl⟩
      · rintro ⟨_, _, h, rfl⟩
        cases h
        rfl

theorem ne_nil_of_parse_error (he : (parse us).1 = .error e) : us ≠ [] := by
  rintro rfl
  have hok : (parse []).1 = .ok [] := parse_eq_ok.mpr (run_program_eq_ok.mpr ⟨rfl, .mk .nil⟩)
  rw [hok] at he
  cases he

theorem parse_append_ok (hp : (parse ts).1 = .ok p) (hq : (parse us).1 = .ok q) :
    (parse (ts ++ us)).1 = .ok (p ++ q) := by
  rw [parse_eq_ok] at *
  rw [List.map_append, run_program_append hp (stops_else_of_program hq), hq]
  rfl

/-- An error is where it was, also when other tokens stand before. -/
theorem parse_append_error (hp : (parse ts).1 = .ok p) (he : (parse us).1 = .error e)
    (hr : Stops (· = .word "else") (us.map Token.toLexeme)) :
    (parse (ts ++ us)).1 = .error e := by
  have hne := ne_nil_of_parse_error he
  rw [parse_eq_ok] at hp
  obtain ⟨expected, rest, hrun, rfl⟩ := parse_eq_error.mp he
  have hrest := suffix_of_run_eq_error hrun
  refine parse_eq_error.mpr ⟨expected, rest, ?_, ?_⟩
  · rw [run_program_eq_error_iff hrest] at hrun
    rw [run_program_eq_error_iff (hrest.trans (List.suffix_append ts us)), List.map_append,
      run_program_append hp hr, hrun]
    rfl
  · have hlast : (ts ++ us).getLast? = us.getLast? := by
      rw [List.getLast?_append, List.getLast?_eq_some_getLast hne]
      rfl
    rw [ParseError.ofRest, ParseError.ofRest, hlast]

theorem map_toLexeme_down (lines : Nat) (tokens : List Token) :
    (tokens.map (Token.down lines)).map Token.toLexeme = tokens.map Token.toLexeme := by
  rw [List.map_map]
  rfl

theorem parse_down_ok (lines : Nat) (hq : (parse us).1 = .ok q) :
    (parse (us.map (Token.down lines))).1 = .ok q := by
  rw [parse_eq_ok] at *
  rwa [map_toLexeme_down]

theorem parse_down_error (lines : Nat) (he : (parse us).1 = .error e) :
    (parse (us.map (Token.down lines))).1 = .error (e.down lines) := by
  have hne := ne_nil_of_parse_error he
  obtain ⟨expected, rest, hrun, rfl⟩ := parse_eq_error.mp he
  have hrest := suffix_of_run_eq_error hrun
  rw [run_program_eq_error_iff hrest] at hrun
  refine parse_eq_error.mpr ⟨expected, rest.map (Token.down lines), ?_, ?_⟩
  · rw [run_program_eq_error_iff (hrest.map _), map_toLexeme_down, map_toLexeme_down, hrun]
  · simp only [ParseError.ofRest, ParseError.down, List.head?_map, List.getLast?_map,
      List.getLast?_eq_some_getLast hne]
    cases rest.head? with
    | none => rfl
    | some t => rfl

/-! ### Writing -/

theorem items_eq_map (hp : p ≠ []) : items false p = p.map (·.toPython 0) := by
  simp [items, hp]

theorem toPython_append {options : Options} (hguard : options.mainGuard = false)
    (hp : p ≠ []) (hq : q ≠ []) :
    toPython options (p ++ q) = toPython options p ++ "\n" ++ toPython options q := by
  have happend : p ++ q ≠ [] := by simp [hp]
  rw [toPython, toPython, toPython, hguard, items_eq_map happend, items_eq_map hp, items_eq_map hq,
    List.map_append, List.map_append]
  exact String.intercalate_append_of_ne_nil (by simp [hp]) (by simp [hq])

theorem toPython_nil {options : Options} (hguard : options.mainGuard = false) :
    toPython options [] = "pass\n" := by
  rw [toPython, hguard]
  simp [items, Emission.renderLines, Emission.Line.render, String.join]

end Program

/-! ### Translating -/

def TranslateError.down (lines : Nat) : TranslateError → TranslateError
  | lex e => lex (e.down lines)
  | parse e => parse (e.down lines)

open Program (OfSource)

variable {options : Options} {source more : String} {p q : Program}

theorem ofSource_line (hp : OfSource source p) (hq : OfSource more q) :
    OfSource (source ++ "\n" ++ more) (p ++ q) := by
  obtain ⟨ts, hts, hp⟩ := hp
  obtain ⟨us, hus, hq⟩ := hq
  have hscan := Token.scan_line hts more
  rw [hus] at hscan
  exact ⟨_, hscan, Program.parse_append_ok hp (Program.parse_down_ok _ hq)⟩

theorem ne_nil_of_ofSource (hguard : options.mainGuard = false) (hp : OfSource source p)
    (hpass : (translate options source).result ≠ .ok "pass\n") : p ≠ [] := by
  rintro rfl
  exact hpass (translate_eq_ok.mpr ⟨[], hp, (Program.toPython_nil hguard).symm⟩)

/-- Translating a source with another one after it, on a line of its own. -/
theorem translate_line (hguard : options.mainGuard = false) {output : String}
    (hs : (translate options source).result = .ok output) (more : String) :
    ∃ p, OfSource source p ∧
      (∀ next, (translate options more).result = .ok next →
        ∃ q, OfSource more q ∧ (translate options (source ++ "\n" ++ more)).result = .ok
          (match p, q with
          | [], [] => "pass\n"
          | [], _ => next
          | _, [] => output
          | _, _ => output ++ "\n" ++ next)) ∧
      (∀ e, (translate options more).result = .error e →
        (∀ tokens, Token.scan more = .ok tokens →
          tokens.head?.map Token.toLexeme ≠ some (.word "else")) →
        (translate options (source ++ "\n" ++ more)).result =
          .error (e.down (source.toList.count '\n' + 1))) := by
  obtain ⟨p, hp, rfl⟩ := translate_eq_ok.mp hs
  refine ⟨p, hp, ?_, ?_⟩
  · intro next hnext
    obtain ⟨q, hq, rfl⟩ := translate_eq_ok.mp hnext
    refine ⟨q, hq, translate_eq_ok.mpr ⟨p ++ q, ofSource_line hp hq, ?_⟩⟩
    cases p with
    | nil =>
        cases q with
        | nil => exact (Program.toPython_nil hguard).symm
        | cons => rfl
    | cons =>
        cases q with
        | nil => rw [List.append_nil]
        | cons =>
            symm
            apply Program.toPython_append hguard
            · exact List.cons_ne_nil _ _
            · exact List.cons_ne_nil _ _
  · intro e he helse
    obtain ⟨ts, hts, hp⟩ := hp
    have hscan := Token.scan_line hts more
    rcases translate_eq_error.mp he with ⟨fault, hfault, rfl⟩ | ⟨us, fault, hus, hfault, rfl⟩
    · rw [hfault] at hscan
      exact translate_eq_error.mpr (.inl ⟨_, hscan, rfl⟩)
    · rw [hus] at hscan
      have hstops : Stops (· = .word "else")
          ((us.map (Token.down (source.toList.count '\n' + 1))).map Token.toLexeme) := by
        rw [Program.map_toLexeme_down]
        intro l hl same
        apply helse us hus
        rw [← List.head?_map, Option.mem_def.mp hl, same]
      have hparse := Program.parse_append_error hp (Program.parse_down_error _ hfault) hstops
      exact translate_eq_error.mpr (.inr ⟨_, _, hscan, hparse, rfl⟩)

theorem translate_line_assignments :
    (translate {} ("x = 1; // one" ++ "\n" ++ "y = 2;")).result =
        .ok ("x = 1\n" ++ "\n" ++ "y = 2\n") ∧
      (translate {} ("x = 1; // one" ++ "\n" ++ "y")).result =
        .error (.parse ⟨.equalsInAssignment, none, ⟨2, 1⟩⟩) := by
  have hs : (translate {} "x = 1; // one").result = .ok "x = 1\n" := by decide +kernel
  constructor
  · have hnext : (translate {} "y = 2;").result = .ok "y = 2\n" := by decide +kernel
    obtain ⟨p, hp, hok, _⟩ := translate_line rfl hs "y = 2;"
    obtain ⟨q, hq, hresult⟩ := hok "y = 2\n" hnext
    have hpne := ne_nil_of_ofSource rfl hp (by rw [hs]; decide)
    have hqne := ne_nil_of_ofSource rfl hq (by rw [hnext]; decide)
    cases p with
    | nil => exact absurd rfl hpne
    | cons =>
        cases q with
        | nil => exact absurd rfl hqne
        | cons => exact hresult
  · have herror : (translate {} "y").result =
        .error (.parse ⟨.equalsInAssignment, none, ⟨1, 1⟩⟩) := by decide +kernel
    have hscan : Token.scan "y" = .ok [⟨⟨.identifier, "y"⟩, ⟨1, 1⟩⟩] := by decide +kernel
    obtain ⟨_, _, _, hfail⟩ := translate_line rfl hs "y"
    refine hfail _ herror ?_
    intro tokens htokens
    rw [hscan] at htokens
    cases htokens
    decide

end CppToPython
