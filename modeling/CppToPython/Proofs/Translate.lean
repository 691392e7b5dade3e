import CppToPython.Translate

/-! # What a translation depends on

A source is translated if it has tokens and these are a program, and then the
output is the module of that program.
-/

namespace CppToPython

/-- The program that a source text is. -/
def Program.OfSource (source : String) (p : Program) : Prop :=
  ∃ tokens, Token.scan source = .ok tokens ∧ (parse tokens).1 = .ok p

/-- A source text is one program at most. -/
theorem Program.OfSource.unique {source : String} {p q : Program} (hp : OfSource source p)
    (hq : OfSource source q) : p = q := by
  obtain ⟨tokens, hscan, hp⟩ := hp
  obtain ⟨tokens', hscan', hq⟩ := hq
  rw [hscan] at hscan'
  cases hscan'
  rw [hp] at hq
  exact Except.ok.inj hq

/-- Whether a source text is a program that passes a test. -/
def Program.passes (test : Program → Bool) (source : String) : Bool :=
  match Token.scan source with
  | .error _ => false
  | .ok tokens =>
      match (parse tokens).1 with
      | .error _ => false
      | .ok p => test p

theorem Program.ofSource_of_passes {test : Program → Bool} {source : String}
    (h : passes test source = true) : ∃ p, OfSource source p ∧ test p = true := by
  rw [passes] at h
  split at h
  · cases h
  · rename_i tokens hs
    split at h
    · cases h
    · rename_i p hp
      exact ⟨p, ⟨tokens, hs, hp⟩, h⟩

open Program (OfSource)

variable {options : Options} {source : String}

theorem translate_result (options : Options) (source : String) :
    (translate options source).result =
      match Token.scan source with
      | .error e => .error (.lex e)
      | .ok tokens =>
          match (Program.parse tokens).1 with
          | .error e => .error (.parse e)
          | .ok p => .ok (p.toPython options) := by
  simp only [translate, translateTokens, Token.scan]
  cases (Cursor.ofString source).scan.1 with
  | error e => rfl
  | ok tokens =>
      dsimp only
      cases (Program.parse tokens).1 with
      | error e => rfl
      | ok p => rfl

theorem translate_eq_ok {output : String} :
    (translate options source).result = .ok output ↔
      ∃ p, OfSource source p ∧ output = p.toPython options := by
  rw [translate_result]
  constructor
  · intro h
    split at h
    · cases h
    · rename_i tokens hs
      split at h
      · cases h
      · rename_i p hp
        cases h
        exact ⟨p, ⟨tokens, hs, hp⟩, rfl⟩
  · rintro ⟨p, ⟨tokens, hs, hp⟩, rfl⟩
    rw [hs]
    dsimp only
    rw [hp]

theorem Program.OfSource.events {p : Program} (hp : OfSource source p) (options : Options) :
    ∃ tokens lines, (CppToPython.translate options source).events =
      .tokenized tokens lines :: .parsed p.length :: (p.translate options).events := by
  obtain ⟨tokens, hscan, hparse⟩ := hp
  refine ⟨tokens.length, (Cursor.ofString source).scan.2.position.line, ?_⟩
  rw [Token.scan] at hscan
  simp only [CppToPython.translate, translateTokens, hscan, hparse]

theorem translate_eq_error {e : TranslateError} :
    (translate options source).result = .error e ↔
      (∃ fault, Token.scan source = .error fault ∧ e = .lex fault) ∨
        ∃ tokens fault, Token.scan source = .ok tokens ∧
          (Program.parse tokens).1 = .error fault ∧ e = .parse fault := by
  rw [translate_result]
  constructor
  · intro h
    split at h
    · rename_i fault hs
      cases h
      exact .inl ⟨fault, hs, rfl⟩
    · rename_i tokens hs
      split at h
      · rename_i fault hp
        cases h
        exact .inr ⟨tokens, fault, hs, hp, rfl⟩
      · cases h
  · rintro (⟨fault, hs, rfl⟩ | ⟨tokens, fault, hs, hp, rfl⟩)
    · rw [hs]
    · rw [hs]
      dsimp only
      rw [hp]

end CppToPython
