import CppToPython.Proofs.Token.Scan

/-! # Valid lexemes

Every kind of lexeme has a class of texts, and the scanner only makes lexemes
whose text is in the class of their kind.
-/

namespace CppToPython

open Unicode (isWhiteSpace)

section Span

variable {α : Type} {p : α → Bool} {front rest : List α}

theorem takeWhile_append_boundary (hf : ∀ a ∈ front, p a = true)
    (hr : ∀ a ∈ rest.head?, p a = false) : (front ++ rest).takeWhile p = front := by
  have hrest : rest.takeWhile p = [] := by
    cases rest with
    | nil => rfl
    | cons a rest => simp [hr a rfl]
  rw [List.takeWhile_append_of_pos hf, hrest, List.append_nil]

theorem dropWhile_append_boundary (hf : ∀ a ∈ front, p a = true)
    (hr : ∀ a ∈ rest.head?, p a = false) : (front ++ rest).dropWhile p = rest := by
  rw [List.dropWhile_append_of_pos hf]
  cases rest with
  | nil => rfl
  | cons a rest => simp [hr a rfl]

end Span

/-! ### White space at the end -/

namespace Text

theorem trimEnd_append {front : List Char} (h : ∀ c ∈ front, isWhiteSpace c = false)
    (text : List Char) : trimEnd (front ++ text) = front ++ trimEnd text := by
  induction front with
  | nil => rfl
  | cons c front ih =>
      rw [List.cons_append, trimEnd_cons (h c List.mem_cons_self),
        ih fun d hd => h d (List.mem_cons_of_mem c hd), List.cons_append]

theorem isWhiteSpace_getLast?_trimEnd (text : List Char) :
    ∀ c ∈ (trimEnd text).getLast?, isWhiteSpace c = false := by
  intro c hc
  rw [trimEnd, List.getLast?_reverse] at hc
  have hn := List.head?_dropWhile_not isWhiteSpace text.reverse
  rw [Option.mem_def.mp hc] at hn
  exact hn

end Text

/-! ### Classes of texts -/

/-- A word: a letter or an underscore, then letters, underscores and digits. -/
def IsWord : List Char → Prop
  | [] => False
  | c :: rest => Piece.isWordStart c = true ∧ ∀ d ∈ rest, Piece.isWordPart d = true

def IsDigits (text : List Char) : Prop := text ≠ [] ∧ ∀ c ∈ text, c.isDigit = true

/-- The part of a string literal after its opening quote. -/
inductive ClosesQuote : List Char → Prop where
  | quote : ClosesQuote ['"']
  | plain {c text} :
      c ≠ '"' → c ≠ '\\' → c ≠ '\n' → ClosesQuote text → ClosesQuote (c :: text)
  | escape {c text} : c ≠ '\n' → ClosesQuote text → ClosesQuote ('\\' :: c :: text)

theorem ClosesQuote.inLine {text : List Char} (h : ClosesQuote text) : '\n' ∉ text := by
  induction h with
  | quote => decide
  | plain _ _ hline _ ih => simp [ih, hline.symm]
  | escape hline _ ih => simp [ih, hline.symm]

/-- The text of a lexeme belongs to its kind. -/
def Lexeme.Valid (l : Lexeme) : Prop :=
  match l.kind with
  | .keyword => l.text ∈ reserved
  | .identifier => IsWord l.text.toList ∧ l.text ∉ reserved
  | .number => IsDigits l.text.toList
  | .float => ∃ whole fraction, l.text.toList = whole ++ '.' :: fraction ∧
      IsDigits whole ∧ IsDigits fraction
  | .string => ∃ rest, l.text.toList = '"' :: rest ∧ ClosesQuote rest
  | .operator => l.text ∈
      ["==", "!=", "<=", ">=", "++", "--", "+", "-", "*", "/", "%", "=", "<", ">"]
  | .delimiter => l.text ∈ [";", ",", "(", ")", "\x7b", "\x7d"]
  | .shift => l.text ∈ ["<<", ">>"]
  | .directive => "#include".toList <+: l.text.toList ∧ '\n' ∉ l.text.toList ∧
      ∀ c ∈ l.text.toList.getLast?, isWhiteSpace c = false

namespace Piece

/-- A piece that is a token is a valid one. -/
def Valid : Piece → Prop
  | token kind lexeme _ _ => Lexeme.Valid ⟨kind, String.ofList lexeme⟩
  | skip _ _ | fault _ _ => True

theorem isDigits_takeWhile {c : Char} (hc : c.isDigit = true) (text : List Char) :
    IsDigits (c :: text.takeWhile Char.isDigit) := by
  refine ⟨List.cons_ne_nil _ _, ?_⟩
  intro d hd
  rcases List.mem_cons.mp hd with rfl | hd
  · exact hc
  · exact List.all_eq_true.mp List.all_takeWhile d hd

theorem number_valid {c : Char} (hc : c.isDigit = true) (text : List Char) :
    (number c text).Valid := by
  have hwhole := isDigits_takeWhile hc text
  unfold number
  split
  · split
    · rename_i d rest _ hd
      refine ⟨_, _, String.toList_ofList, hwhole, isDigits_takeWhile hd rest⟩
    · simpa [Valid, Lexeme.Valid] using hwhole
  · simpa [Valid, Lexeme.Valid] using hwhole

theorem word_valid {c : Char} (hc : isWordStart c = true) (text : List Char) :
    (word c text).Valid := by
  have hword : IsWord (c :: text.takeWhile isWordPart) :=
    ⟨hc, fun d hd => List.all_eq_true.mp List.all_takeWhile d hd⟩
  simp only [word]
  split
  · rename_i hr
    exact hr
  · rename_i hr
    exact ⟨by simpa using hword, hr⟩

namespace Quoted

theorem push_eq_closed {front body rest : List Char} {q : Quoted}
    (h : q.push front = .closed body rest) :
    ∃ tail, q = .closed tail rest ∧ body = front ++ tail := by
  cases q with
  | closed text left =>
      cases h
      exact ⟨text, rfl, rfl⟩
  | cut => cases h

theorem closesQuote_of_closed {text body rest : List Char} (h : ofText text = .closed body rest) :
    ClosesQuote body := by
  fun_induction ofText text generalizing body rest with
  | case1 => cases h
  | case2 => cases h
  | case3 =>
      cases h
      exact .quote
  | case4 => cases h
  | case5 c more hc ih =>
      obtain ⟨tail, hq, rfl⟩ := push_eq_closed h
      exact .escape hc (ih hq)
  | case6 c more hline hquote hescape ih =>
      obtain ⟨tail, hq, rfl⟩ := push_eq_closed h
      have hslash : c ≠ '\\' := by
        rintro rfl
        cases more with
        | nil => cases hq
        | cons d more => exact hescape d more rfl rfl
      exact .plain hquote hslash hline (ih hq)

end Quoted

theorem stringLiteral_valid (text : List Char) : (stringLiteral text).Valid := by
  unfold stringLiteral
  split
  · rename_i body rest hq
    exact ⟨body, String.toList_ofList, Quoted.closesQuote_of_closed hq⟩
  · trivial

theorem not_mem_takeWhile_isInLine (text : List Char) : '\n' ∉ text.takeWhile isInLine := by
  intro h
  have hin := List.all_eq_true.mp List.all_takeWhile _ h
  simp [isInLine] at hin

theorem directive_valid (text : List Char) : (directive text).Valid := by
  simp only [directive]
  split
  · rename_i hinclude
    obtain ⟨rest, hrest⟩ := List.isPrefixOf_iff_prefix.mp hinclude
    have hline : '\n' ∉ '#' :: text.takeWhile isInLine := by
      simpa using not_mem_takeWhile_isInLine text
    rw [← Text.trimEnd_append_endPadding ('#' :: _), List.mem_append, not_or] at hline
    refine ⟨?_, ?_, ?_⟩
    · have hword : ("#include".toList.all fun c => !isWhiteSpace c) = true := by decide
      have hplain : ∀ c ∈ "#include".toList, isWhiteSpace c = false :=
        fun c hc => by simpa using List.all_eq_true.mp hword c hc
      rw [← hrest, Text.trimEnd_append hplain]
      exact ⟨Text.trimEnd rest, String.toList_ofList.symm⟩
    · rw [String.toList_ofList]
      exact hline.1
    · rw [String.toList_ofList]
      exact Text.isWhiteSpace_getLast?_trimEnd _
  · trivial

theorem symbol_valid (c : Char) (text : List Char) : (symbol c text).Valid := by
  have hsingle (rest : List Char) : (single c rest).Valid := by
    unfold single singleKind
    split <;> rename_i hk
    · split at hk <;> cases hk <;> simp [Valid, Lexeme.Valid]
    · trivial
  unfold symbol
  split
  · exact hsingle []
  · split <;> rename_i hk
    · unfold pairKind at hk
      split at hk <;> cases hk <;> simp [Valid, Lexeme.Valid]
    · exact hsingle _

theorem front_valid (c : Char) (text : List Char) : (front c text).Valid := by
  unfold front
  split
  · trivial
  · split
    · exact number_valid ‹_› text
    · split
      · exact word_valid ‹_› text
      · split
        · trivial
        · unfold blockComment
          split <;> trivial
        · exact stringLiteral_valid _
        · exact directive_valid _
        · exact symbol_valid _ _

end Piece

theorem Cursor.valid_of_scanFrom {p : Position} {text : List Char} {tokens : List Token}
    (h : (scanFrom p text).1 = .ok tokens) : ∀ t ∈ tokens, t.toLexeme.Valid := by
  cases text with
  | nil =>
      rw [scanFrom_nil] at h
      cases h
      nofun
  | cons c text =>
      have hvalid := Piece.front_valid c text
      cases hf : Piece.front c text with
      | skip taken rest =>
          rw [scanFrom_skip p hf] at h
          exact valid_of_scanFrom h
      | token kind lexeme padding rest =>
          obtain ⟨tail, htail, rfl⟩ := (scanFrom_token_eq_ok p hf).mp h
          rw [hf] at hvalid
          intro t ht
          rcases List.mem_cons.mp ht with rfl | ht
          · exact hvalid
          · exact valid_of_scanFrom htail t ht
      | fault taken rest =>
          rw [scanFrom_fault p hf] at h
          cases h
termination_by text.length
decreasing_by
  · subst_vars
    exact Piece.rest_lt_of_front_skip hf
  · subst_vars
    exact Piece.rest_lt_of_front_token hf

end CppToPython
