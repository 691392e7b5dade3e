import CppToPython.Emission.Stmt
import CppToPython.Proofs.WellFormed

/-! # The ends of written texts

What a line starts and ends with tells whether it opens a block and whether it is
a comment. Both follow from the lexemes the parts of the line were.
-/

namespace CppToPython

open Emission

def Starts (P : Char → Prop) (text : String) : Prop := ∃ c, text.toList.head? = some c ∧ P c

def Ends (P : Char → Prop) (text : String) : Prop := ∃ c, text.toList.getLast? = some c ∧ P c

section Ends

variable {P Q : Char → Prop} {text : String}

theorem Starts.mono (h : Starts P text) (hm : ∀ c, P c → Q c) : Starts Q text := by
  obtain ⟨c, hc, hp⟩ := h
  exact ⟨c, hc, hm c hp⟩

theorem Ends.mono (h : Ends P text) (hm : ∀ c, P c → Q c) : Ends Q text := by
  obtain ⟨c, hc, hp⟩ := h
  exact ⟨c, hc, hm c hp⟩

theorem Starts.append (h : Starts P text) (more : String) : Starts P (text ++ more) := by
  obtain ⟨c, hc, hp⟩ := h
  refine ⟨c, ?_, hp⟩
  rw [String.toList_append, List.head?_append, hc]
  rfl

theorem Ends.append (h : Ends P text) (front : String) : Ends P (front ++ text) := by
  obtain ⟨c, hc, hp⟩ := h
  refine ⟨c, ?_, hp⟩
  rw [String.toList_append, List.getLast?_append, hc]
  rfl

theorem ends_of_forall (hne : text.toList ≠ []) (h : ∀ c ∈ text.toList, P c) : Ends P text :=
  ⟨_, List.getLast?_eq_some_getLast hne, h _ (List.getLast_mem hne)⟩

end Ends

/-! ### Names and literals -/

theorem isWordPart_of_isWordStart {c : Char} (h : Piece.isWordStart c = true) :
    Piece.isWordPart c = true := by
  simp only [Piece.isWordStart, Piece.isWordPart, Char.isAlphanum, Bool.or_eq_true] at *
  rcases h with h | h
  · exact .inl (.inl h)
  · exact .inr h

theorem IsName.starts {text : String} (h : IsName text) :
    Starts (Piece.isWordStart · = true) text := by
  obtain ⟨hword, _⟩ := h
  cases htext : text.toList with
  | nil =>
      rw [htext] at hword
      exact hword.elim
  | cons c rest =>
      rw [htext] at hword
      exact ⟨c, by rw [htext]; rfl, hword.1⟩

theorem IsName.isWordPart {text : String} (h : IsName text) :
    ∀ c ∈ text.toList, Piece.isWordPart c = true := by
  obtain ⟨hword, _⟩ := h
  cases htext : text.toList with
  | nil => nofun
  | cons c rest =>
      rw [htext] at hword
      intro d hd
      rcases List.mem_cons.mp hd with rfl | hd
      · exact isWordPart_of_isWordStart hword.1
      · exact hword.2 d hd

theorem IsName.ends {text : String} (h : IsName text) : Ends (Piece.isWordPart · = true) text := by
  refine ends_of_forall ?_ h.isWordPart
  intro hnil
  have hword := h.1
  rw [hnil] at hword
  exact hword

theorem IsNumber.ends {text : String} (h : IsNumber text) : Ends (Char.isDigit · = true) text := by
  rcases h with hdigits | ⟨whole, fraction, htext, _, hdigits⟩
  · exact ends_of_forall hdigits.1 hdigits.2
  · refine ⟨fraction.getLast hdigits.1, ?_, hdigits.2 _ (List.getLast_mem _)⟩
    simp [htext, List.getLast?_cons, List.getLast?_eq_some_getLast hdigits.1]

theorem ClosesQuote.getLast? {text : List Char} (h : ClosesQuote text) :
    text.getLast? = some '"' := by
  induction h with
  | quote => rfl
  | plain _ _ _ _ ih => simp [List.getLast?_cons, ih]
  | escape _ _ ih => simp [List.getLast?_cons, ih]

theorem ends_string {text : String} (h : Lexeme.Valid ⟨.string, text⟩) : Ends (· = '"') text := by
  obtain ⟨rest, htext, hrest⟩ := h
  refine ⟨'"', ?_, rfl⟩
  rw [htext, List.getLast?_cons, hrest.getLast?]
  rfl

/-! ### Expressions -/

/-- What an expression can end with. -/
def EndsOperand (c : Char) : Prop := Piece.isWordPart c = true ∨ c = '"' ∨ c = ')'

theorem not_colon_of_endsOperand {c : Char} (h : EndsOperand c) : c ≠ ':' := by
  rintro rfl
  rcases h with h | h | h
  · exact absurd h (by decide)
  · exact absurd h (by decide)
  · exact absurd h (by decide)

theorem ends_callText (function : String) (args : List String) :
    Ends EndsOperand (callText function args) :=
  Ends.append ⟨')', rfl, .inr (.inr rfl)⟩ _

theorem variableText_cases (name : String) :
    variableText name = "True" ∨ variableText name = "False" ∨ variableText name = name := by
  unfold variableText
  split
  · exact .inl rfl
  · exact .inr (.inl rfl)
  · exact .inr (.inr rfl)

theorem IsName.starts_variableText {name : String} (h : IsName name) :
    Starts (Piece.isWordStart · = true) (variableText name) := by
  rcases variableText_cases name with ht | ht | ht
  · rw [ht]
    exact ⟨'T', rfl, rfl⟩
  · rw [ht]
    exact ⟨'F', rfl, rfl⟩
  · rw [ht]
    exact h.starts

theorem IsName.ends_variableText {name : String} (h : IsName name) :
    Ends (Piece.isWordPart · = true) (variableText name) := by
  rcases variableText_cases name with ht | ht | ht
  · rw [ht]
    exact ⟨'e', rfl, rfl⟩
  · rw [ht]
    exact ⟨'e', rfl, rfl⟩
  · rw [ht]
    exact h.ends

theorem Expr.ends_toPython {e : Expr} (h : e.WellFormed) : Ends EndsOperand e.toPython := by
  cases e with
  | number text =>
      refine h.ends.mono fun c hc => .inl ?_
      simp only [Piece.isWordPart, Char.isAlphanum, hc, Bool.or_true, Bool.true_or]
  | string text => exact (ends_string h).mono fun c hc => .inr (.inl hc)
  | name text => exact h.ends_variableText.mono fun c hc => .inl hc
  | binary left op right => exact Ends.append ⟨')', rfl, .inr (.inr rfl)⟩ _
  | step op target => exact Ends.append ⟨')', rfl, .inr (.inr rfl)⟩ _
  | call function args => exact ends_callText function _
  | negate operand =>
      have hoperand : Ends EndsOperand operand.toPython := ends_toPython h
      exact hoperand.append "-"
termination_by structural e

end CppToPython
