import CppToPython.Proofs.Concatenation
import CppToPython.Proofs.Grammar.Yield

/-! # Directives

Directives can be taken out of a program, wherever they stand, and put in before its statements:
the parser gives the same program. The parser looks across the end of a statement only for an
`else`, and nothing that starts with one can come after a directive.
-/

namespace CppToPython

open CppToPython.Rule Grammar

/-- Tokens that are directives, one after the other. -/
inductive Directives : List Token → Prop where
  | nil : Directives []
  | directive {token rest} : token.kind = .directive → Directives rest → Directives (token :: rest)
  | usingNamespace {a b c d rest} :
      a.toLexeme = .word "using" → b.toLexeme = .word "namespace" → c.kind = .identifier →
        d.toLexeme = .semicolon → Directives rest → Directives (a :: b :: c :: d :: rest)

def topLevel : Rule (Option Stmt) := first .statement stmtAfter

/-- The tokens of a program, statement by statement, with directives put before each statement and
    at the end. There may be none at a place. -/
inductive Inserted : List Token → List Token → Prop where
  | atEnd {directives} : Directives directives → Inserted [] directives
  | before {directives more stmt} (used rest) :
      Directives directives →
      topLevel.run nestingLimit (used ++ rest) = .ok (stmt, rest) →
      Inserted rest more → Inserted (used ++ rest) (directives ++ used ++ more)

/-! ### Reading statement by statement -/

theorem topLevel_sound {tokens rest : List Token} {stmt : Option Stmt}
    (h : topLevel.run nestingLimit tokens = .ok (stmt, rest)) :
    ∃ used, tokens = used ++ rest ∧ used ≠ [] ∧ (Program.parse used).1 = .ok stmt.toList := by
  have hfollows : Follows nestingLimit [] topLevel :=
    .first (follows_stmtAfter (followsDeeper nestingLimit) [])
  have hrun := (hfollows.run_eq_ok_iff (suffix_of_run_eq_ok h)).mp h
  obtain ⟨used, rfl⟩ := suffix_of_run_eq_ok h
  obtain ⟨ls, hls, hstmt⟩ := (reads_statement (reads_context nestingLimit)).sound hrun
  rw [List.map_append] at hls
  obtain rfl := List.append_cancel_right hls
  refine ⟨used, rfl, ?_, ?_⟩
  · rintro rfl
    obtain ⟨l, ms, hcons, _⟩ := hstmt.starts
    cases hcons
  · rw [Program.parse_eq_ok, run_program_eq_ok]
    have hone : Derives.Program nestingLimit (used.map Token.toLexeme) ([stmt].filterMap id) :=
      .mk (.singleton hstmt)
    cases stmt <;> exact ⟨rfl, hone⟩

/-- A program that is not empty is read by reading its first statement and then the rest. -/
theorem exists_topLevel {tokens : List Token} {p : Program} (hne : tokens ≠ [])
    (h : (Program.parse tokens).1 = .ok p) :
    ∃ stmt rest q, topLevel.run nestingLimit tokens = .ok (stmt, rest) ∧
      (Program.parse rest).1 = .ok q ∧ p = stmt.toList ++ q := by
  obtain ⟨t, ts, rfl⟩ := List.exists_cons_of_ne_nil hne
  obtain ⟨all, mid, hmany, hend⟩ := run_bind_eq_ok.mp (Program.parse_eq_ok_iff_run.mp h)
  obtain ⟨rfl, rfl⟩ := run_pure_eq_ok.mp hend
  rw [(repeats_many (fun _ => false) .statement stmtAfter).run] at hmany
  obtain ⟨stmt, rest, hstmt, hrest⟩ := run_bind_eq_ok.mp hmany
  obtain ⟨stmts, hstmts, rfl⟩ := run_map_eq_ok.mp hrest
  refine ⟨stmt, rest, stmts.filterMap id, hstmt, ?_, ?_⟩
  · exact Program.parse_eq_ok_iff_run.mpr (run_bind_eq_ok.mpr ⟨stmts, [], hstmts, rfl⟩)
  · cases stmt <;> rfl

theorem Directives.parse {directives : List Token} (h : Directives directives) :
    (Program.parse directives).1 = .ok [] := by
  have hone {ls : List Lexeme} (hs : Derives.Statement _ _ ls none) :
      Derives.Program nestingLimit ls [] := .mk (.singleton hs)
  rw [Program.parse_eq_ok, run_program_eq_ok]
  refine ⟨rfl, ?_⟩
  induction h with
  | nil => exact .mk .nil
  | @directive token rest hkind _ ih =>
      obtain ⟨⟨kind, text⟩, position⟩ := token
      cases hkind
      exact (hone .directive).append ih
  | @usingNamespace a b c d rest ha hb hc hd _ ih =>
      obtain ⟨⟨kind, name⟩, position⟩ := c
      cases hc
      rw [List.map_cons, List.map_cons, List.map_cons, List.map_cons, ha, hb, hd]
      exact (hone .usingNamespace).append ih

namespace Inserted

variable {tokens more : List Token} {p : Program}

/-- The tokens of a program split into statements, with nothing put before them. -/
theorem refl (h : (Program.parse tokens).1 = .ok p) : Inserted tokens tokens := by
  induction hn : tokens.length using Nat.strongRecOn generalizing tokens p with
  | _ n ih =>
      rcases eq_or_ne tokens [] with rfl | hne
      · exact .atEnd .nil
      obtain ⟨stmt, rest, q, hstmt, hq, _⟩ := exists_topLevel hne h
      obtain ⟨used, rfl, hfilled, _⟩ := topLevel_sound hstmt
      have hshorter : rest.length < n := by
        have hpos := List.length_pos_iff.mpr hfilled
        rw [← hn, List.length_append]
        omega
      exact .before used rest .nil hstmt (ih rest.length hshorter hq rfl)

theorem parse (h : Inserted tokens more) (hp : (Program.parse tokens).1 = .ok p) :
    (Program.parse more).1 = .ok p := by
  induction h generalizing p with
  | atEnd hd =>
      have hempty : (Program.parse []).1 = .ok [] := Directives.nil.parse
      rw [hempty] at hp
      rw [hd.parse, hp]
  | @before directives more stmt used rest hd hstmt _ ih =>
      obtain ⟨used', hsame, hfilled, hused⟩ := topLevel_sound hstmt
      cases List.append_cancel_right hsame
      have hne : used ++ rest ≠ [] := by simp [hfilled]
      obtain ⟨_, _, q, hstmt', hq, rfl⟩ := exists_topLevel hne hp
      cases hstmt.symm.trans hstmt'
      exact Program.parse_append_ok (Program.parse_append_ok hd.parse hused) (ih hq)

end Inserted

/-- Directives leave no trace, whether they are taken out of a program or put in. -/
theorem parse_ignores_directives {tokens : List Token} {p : Program}
    (h : (Program.parse tokens).1 = .ok p) :
    (Program.parse (withoutDirectives Token.toLexeme tokens)).1 = .ok p ∧
      Inserted tokens tokens ∧ ∀ more, Inserted tokens more → (Program.parse more).1 = .ok p := by
  refine ⟨?_, .refl h, fun more hmore => hmore.parse h⟩
  rw [Program.parse_eq_ok, run_program_eq_ok] at *
  rw [map_withoutDirectives]
  exact ⟨rfl, h.2.exists_core.2⟩

theorem exists_topLevel_of_map {tokens rest : List Token}
    (h : (topLevel.run nestingLimit tokens).map Prod.snd = .ok rest) :
    ∃ stmt, topLevel.run nestingLimit tokens = .ok (stmt, rest) := by
  cases hrun : topLevel.run nestingLimit tokens with
  | error e => rw [hrun] at h; cases h
  | ok result =>
      rw [hrun] at h
      cases h
      exact ⟨result.1, rfl⟩

open Token (functionAndAssignment) in
/-- A directive goes from the body of the function, others come after it and to the end. -/
theorem parse_ignores_directives_function :
    ∃ p, (Program.parse functionAndAssignment).1 = .ok p ∧
      (Program.parse (functionAndAssignment.take 7 ++ functionAndAssignment.drop 11)).1 = .ok p ∧
      (Program.parse (functionAndAssignment.take 27 ++
        [⟨⟨.directive, "#include <cmath>"⟩, .start⟩] ++ functionAndAssignment.drop 27 ++
        (functionAndAssignment.take 11).drop 7)).1 = .ok p := by
  have hok : (Program.parse functionAndAssignment).1.isOk = true := by decide +kernel
  obtain ⟨p, hp⟩ := Program.exists_of_isOk hok
  obtain ⟨hwithout, _, hinserted⟩ := parse_ignores_directives hp
  have hfunction : (topLevel.run nestingLimit functionAndAssignment).map Prod.snd =
      .ok (functionAndAssignment.drop 27) := by decide +kernel
  have hassignment : (topLevel.run nestingLimit (functionAndAssignment.drop 27)).map Prod.snd =
      .ok [] := by decide +kernel
  obtain ⟨_, hfirst⟩ := exists_topLevel_of_map hfunction
  obtain ⟨_, hsecond⟩ := exists_topLevel_of_map hassignment
  have hdirective : Directives [⟨⟨.directive, "#include <cmath>"⟩, .start⟩] := .directive rfl .nil
  have husing : Directives ((functionAndAssignment.take 11).drop 7) :=
    .usingNamespace rfl rfl rfl rfl .nil
  have hmore := Inserted.before (functionAndAssignment.take 27) _ .nil hfirst
    (.before (functionAndAssignment.drop 27) [] hdirective hsecond (.atEnd husing))
  refine ⟨p, hp, ?_, ?_⟩
  · have hsame : withoutDirectives Token.toLexeme functionAndAssignment =
        functionAndAssignment.take 7 ++ functionAndAssignment.drop 11 := by decide +kernel
    rw [← hsame]
    exact hwithout
  · exact hinserted _ hmore

end CppToPython
