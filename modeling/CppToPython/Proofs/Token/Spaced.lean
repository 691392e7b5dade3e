import CppToPython.Proofs.Token.Seam
import CppToPython.Proofs.Token.Valid

/-! # Lexemes with white space between them

Every valid lexeme is read back as it is written, if what follows cannot be taken for a part
of it. White space never can, unless the lexeme is a directive, which needs the end of its line.
-/

namespace CppToPython

open Unicode (isWhiteSpace)

/-- What follows a lexeme cannot be taken for a part of it. -/
def Lexeme.EndsBefore (l : Lexeme) (rest : List Char) : Prop :=
  ∀ c ∈ rest.head?, Piece.isBlank c = true ∧ (l.kind = .directive → c = '\n')

/-- A lexeme is over where the next character is this one. -/
def Lexeme.EndsAt (l : Lexeme) (c : Char) : Prop :=
  match l.kind with
  | .keyword | .identifier => Piece.isWordPart c = false
  | .number => c.isDigit = false ∧ c ≠ '.'
  | .float => c.isDigit = false
  | .string | .shift => True
  | .operator | .delimiter =>
      ∀ d, l.text.toList = [d] → Piece.pairKind d c = none ∧ (d = '/' → c ≠ '/' ∧ c ≠ '*')
  | .directive => c = '\n'

/-- A lexeme is the piece at the front of a text that goes on with `rest` after it. -/
def Lexeme.ReadBefore (l : Lexeme) (rest : List Char) : Prop :=
  ∃ c more, l.text.toList = c :: more ∧
    Piece.front c (more ++ rest) = .token l.kind l.text.toList [] rest

/-- A valid lexeme that ends at any white space. -/
structure Lexeme.Plain (l : Lexeme) : Prop where
  valid : l.Valid
  noDirective : l.kind ≠ .directive

/-- Lexemes with white space between them, and maybe around them. -/
inductive Spaced : List Lexeme → List Char → Prop where
  | nil : Spaced [] []
  | blank {c ls text} : Piece.isBlank c = true → Spaced ls text → Spaced ls (c :: text)
  | lexeme {l ls text} :
      (∀ c ∈ text.head?, Piece.isBlank c = true) → Spaced ls text →
        Spaced (l :: ls) (l.text.toList ++ text)

/-- Lexemes, maybe with white space between them, each of which can be told from what follows. -/
inductive Legible : List Lexeme → List Char → Prop where
  | nil : Legible [] []
  | blank {c ls text} : Piece.isBlank c = true → Legible ls text → Legible ls (c :: text)
  | lexeme {l ls text} :
      l.ReadBefore text → Legible ls text → Legible (l :: ls) (l.text.toList ++ text)

namespace Text

variable {text : List Char} (h : ∀ c ∈ text.getLast?, isWhiteSpace c = false)

include h

theorem trimEnd_eq_self : trimEnd text = text := by
  have hdrop : ([] ++ text.reverse).dropWhile isWhiteSpace = text.reverse :=
    dropWhile_append_boundary nofun (by simpa using h)
  rw [trimEnd, ← List.nil_append text.reverse, hdrop, List.reverse_reverse]

theorem endPadding_eq_nil : endPadding text = [] := by
  have htext := trimEnd_append_endPadding text
  rw [trimEnd_eq_self h] at htext
  exact List.append_right_eq_self.mp htext

end Text

namespace Piece

/-! ### Classes of characters -/

theorem isBlank_cases {c : Char} (h : isBlank c = true) :
    c = ' ' ∨ c = '\t' ∨ c = '\r' ∨ c = '\n' := by
  simpa [isBlank, or_assoc] using h

theorem not_isWordPart_of_isBlank {c : Char} (h : isBlank c = true) : isWordPart c = false := by
  rcases isBlank_cases h with rfl | rfl | rfl | rfl <;> decide

theorem not_isBlank_of_isWordStart {c : Char} (h : isWordStart c = true) : ¬ isBlank c = true := by
  intro hc
  rcases isBlank_cases hc with rfl | rfl | rfl | rfl <;> exact absurd h (by decide)

theorem not_isDigit_of_isBlank {c : Char} (h : isBlank c = true) : c.isDigit = false := by
  rcases isBlank_cases h with rfl | rfl | rfl | rfl <;> decide

theorem not_isDigit_of_isWordStart {c : Char} (h : isWordStart c = true) : ¬ c.isDigit = true := by
  by_cases hc : c = '_'
  · subst hc
    decide
  · have hletter : c.isAlpha =
        (decide (c.val ≥ 'A'.val ∧ c.val ≤ 'Z'.val) ||
          (decide (c.val ≥ 'a'.val) && decide (c.val ≤ 'z'.val))) := rfl
    have hdigit : c.isDigit = (decide (c.val ≥ '0'.val) && decide (c.val ≤ '9'.val)) := rfl
    simp only [isWordStart, hletter, hdigit] at *
    grind

theorem pairKind_of_isBlank (c : Char) {d : Char} (h : isBlank d = true) :
    pairKind c d = none := by
  rcases isBlank_cases h with rfl | rfl | rfl | rfl <;> simp [pairKind]

theorem not_isBlank_of_isDigit {c : Char} (h : c.isDigit = true) : ¬ isBlank c = true := by
  intro hc
  simp [not_isDigit_of_isBlank hc] at h

/-! ### Each kind of lexeme -/

section

variable {rest : List Char}

theorem front_word {c : Char} {more : List Char} (h : IsWord (c :: more))
    (hstop : ∀ d ∈ rest.head?, isWordPart d = false) :
    front c (more ++ rest) =
      token (if String.ofList (c :: more) ∈ Lexeme.reserved then .keyword else .identifier)
        (c :: more) [] rest := by
  simp only [front, if_neg (not_isBlank_of_isWordStart h.1), if_neg (not_isDigit_of_isWordStart h.1),
    if_pos h.1, word, takeWhile_append_boundary h.2 hstop, dropWhile_append_boundary h.2 hstop]

theorem front_number {c : Char} {more : List Char} (h : IsDigits (c :: more))
    (hstop : ∀ d ∈ rest.head?, d.isDigit = false ∧ d ≠ '.') :
    front c (more ++ rest) = token .number (c :: more) [] rest := by
  have hdigit : ∀ d ∈ rest.head?, d.isDigit = false := fun d hd => (hstop d hd).1
  have hc := h.2 c List.mem_cons_self
  have hmore := fun d hd => h.2 d (List.mem_cons_of_mem c hd)
  simp only [front, if_neg (not_isBlank_of_isDigit hc), if_pos hc, number,
    takeWhile_append_boundary hmore hdigit, dropWhile_append_boundary hmore hdigit]
  split
  · exact absurd rfl (hstop '.' rfl).2
  · rfl

theorem front_float {c : Char} {more fraction : List Char} (h : IsDigits (c :: more))
    (hf : IsDigits fraction) (hstop : ∀ d ∈ rest.head?, d.isDigit = false) :
    front c (more ++ '.' :: fraction ++ rest) =
      token .float (c :: more ++ '.' :: fraction) [] rest := by
  have hc := h.2 c List.mem_cons_self
  have hmore := fun d hd => h.2 d (List.mem_cons_of_mem c hd)
  cases fraction with
  | nil => exact absurd rfl hf.1
  | cons d fraction =>
      have hpoint : ∀ e ∈ ('.' :: d :: (fraction ++ rest)).head?, e.isDigit = false := by
        rintro e ⟨⟩
        decide
      have hd := hf.2 d List.mem_cons_self
      have hdigits := fun e he => hf.2 e (List.mem_cons_of_mem d he)
      rw [List.append_assoc, List.cons_append, List.cons_append]
      simp only [front, if_neg (not_isBlank_of_isDigit hc), if_pos hc, number,
        takeWhile_append_boundary hmore hpoint, dropWhile_append_boundary hmore hpoint, if_pos hd,
        takeWhile_append_boundary hdigits hstop, dropWhile_append_boundary hdigits hstop]

theorem Quoted.ofText_closes {body : List Char} (h : ClosesQuote body) :
    Quoted.ofText (body ++ rest) = .closed body rest := by
  induction h with
  | quote => rfl
  | plain hquote hslash hline _ ih => simp_all [Quoted.ofText, Quoted.push]
  | escape hline _ ih => simp [Quoted.ofText, hline, ih, Quoted.push]

theorem front_string {body : List Char} (h : ClosesQuote body) :
    front '"' (body ++ rest) = token .string ('"' :: body) [] rest := by
  show stringLiteral (body ++ rest) = _
  rw [stringLiteral, Quoted.ofText_closes h]

theorem front_directive {more : List Char} (hinclude : "#include".toList <+: '#' :: more)
    (hline : '\n' ∉ '#' :: more) (hend : ∀ c ∈ ('#' :: more).getLast?, isWhiteSpace c = false)
    (hrest : ∀ c ∈ rest.head?, c = '\n') :
    front '#' (more ++ rest) = token .directive ('#' :: more) [] rest := by
  have hmore : ∀ c ∈ more, isInLine c = true := by
    intro c hc
    simp only [isInLine, bne_iff_ne]
    rintro rfl
    exact hline (List.mem_cons_of_mem _ hc)
  have hstop : ∀ c ∈ rest.head?, isInLine c = false := by
    intro c hc
    rw [hrest c hc]
    rfl
  show directive (more ++ rest) = _
  simp only [directive, takeWhile_append_boundary hmore hstop, dropWhile_append_boundary hmore hstop,
    if_pos (List.isPrefixOf_iff_prefix.mpr hinclude), Text.trimEnd_eq_self hend,
    Text.endPadding_eq_nil hend]

theorem front_single {c : Char} {kind : Kind} (h : singleKind c = some kind)
    (hstop : ∀ d ∈ rest.head?, pairKind c d = none ∧ (c = '/' → d ≠ '/' ∧ d ≠ '*')) :
    front c rest = token kind [c] [] rest := by
  have hslash : c = '/' → rest.head? ≠ some '/' ∧ rest.head? ≠ some '*' := by
    intro hc
    constructor
    · intro hhead
      exact ((hstop '/' hhead).2 hc).1 rfl
    · intro hhead
      exact ((hstop '*' hhead).2 hc).2 rfl
  have hsymbol : front c rest = symbol c rest := by
    unfold singleKind at h
    split at h
    all_goals cases h
    all_goals
      exact front_eq_symbol (by decide) (by decide) (by decide) (by decide) (by decide) hslash
  rw [hsymbol]
  cases rest with
  | nil => simp [symbol, single, h]
  | cons d rest => simp [symbol, single, h, (hstop d rfl).1]

theorem front_pair {c d : Char} {kind : Kind} (h : pairKind c d = some kind) :
    front c (d :: rest) = token kind [c, d] [] rest := by
  unfold pairKind at h
  split at h
  all_goals cases h
  all_goals rfl

end

theorem isWord_of_reserved {text : String} (h : text ∈ Lexeme.reserved) : IsWord text.toList := by
  simp only [Lexeme.reserved, List.mem_cons, List.not_mem_nil, or_false] at h
  rcases h with rfl | rfl | rfl | rfl | rfl | rfl | rfl | rfl | rfl | rfl | rfl | rfl
  all_goals exact ⟨by decide, List.all_eq_true.mp (by decide)⟩

/-- A valid lexeme is read if what follows cannot be taken for a part of it. -/
theorem readBefore_of_endsAt {l : Lexeme} (hl : l.Valid) {rest : List Char}
    (hr : ∀ c ∈ rest.head?, l.EndsAt c) : l.ReadBefore rest := by
  obtain ⟨kind, text⟩ := l
  have hword (hw : IsWord text.toList) (hstop : ∀ d ∈ rest.head?, isWordPart d = false) :
      ∃ c more, text.toList = c :: more ∧ front c (more ++ rest) =
        token (if text ∈ Lexeme.reserved then .keyword else .identifier) text.toList [] rest := by
    cases htext : text.toList with
    | nil =>
        rw [htext] at hw
        exact hw.elim
    | cons c more =>
        rw [htext] at hw
        have hfront := front_word hw hstop
        rw [← htext, String.ofList_toList] at hfront
        exact ⟨c, more, rfl, htext ▸ hfront⟩
  cases kind with
  | keyword =>
      have hmem : text ∈ Lexeme.reserved := hl
      obtain ⟨c, more, htext, hfront⟩ := hword (isWord_of_reserved hmem) hr
      rw [if_pos hmem] at hfront
      exact ⟨c, more, htext, hfront⟩
  | identifier =>
      obtain ⟨c, more, htext, hfront⟩ := hword hl.1 hr
      rw [if_neg hl.2] at hfront
      exact ⟨c, more, htext, hfront⟩
  | number =>
      obtain ⟨c, more, htext⟩ := List.exists_cons_of_ne_nil hl.1
      have hdigits : IsDigits text.toList := hl
      refine ⟨c, more, htext, ?_⟩
      rw [htext] at hdigits ⊢
      exact front_number hdigits hr
  | float =>
      obtain ⟨whole, fraction, htext, hwhole, hfraction⟩ := hl
      obtain ⟨c, more, rfl⟩ := List.exists_cons_of_ne_nil hwhole.1
      refine ⟨c, _, htext, ?_⟩
      rw [htext]
      exact front_float hwhole hfraction hr
  | string =>
      obtain ⟨body, htext, hbody⟩ := hl
      refine ⟨'"', body, htext, ?_⟩
      rw [htext]
      exact front_string hbody
  | operator =>
      have hsort : text ∈ ["==", "!=", "<=", ">=", "++", "--"] ++
          ["+", "-", "*", "/", "%", "=", "<", ">"] := hl
      rcases List.mem_append.mp hsort with hpair | hsingle
      · simp only [List.mem_cons, List.not_mem_nil, or_false] at hpair
        rcases hpair with rfl | rfl | rfl | rfl | rfl | rfl
        all_goals exact ⟨_, _, rfl, front_pair rfl⟩
      · simp only [List.mem_cons, List.not_mem_nil, or_false] at hsingle
        rcases hsingle with rfl | rfl | rfl | rfl | rfl | rfl | rfl | rfl
        all_goals exact ⟨_, _, rfl, front_single rfl fun d hd => hr d hd _ rfl⟩
  | delimiter =>
      simp only [Lexeme.Valid, List.mem_cons, List.not_mem_nil, or_false] at hl
      rcases hl with rfl | rfl | rfl | rfl | rfl | rfl
      all_goals exact ⟨_, _, rfl, front_single rfl fun d hd => hr d hd _ rfl⟩
  | shift =>
      simp only [Lexeme.Valid, List.mem_cons, List.not_mem_nil, or_false] at hl
      rcases hl with rfl | rfl
      all_goals exact ⟨_, _, rfl, front_pair rfl⟩
  | directive =>
      obtain ⟨hinclude, hline, hend⟩ := hl
      obtain ⟨more, htext⟩ := hinclude
      have hstart : text.toList = '#' :: ("include".toList ++ more) := htext.symm
      refine ⟨'#', _, hstart, ?_⟩
      dsimp only at hline hend ⊢
      rw [hstart] at hline hend ⊢
      exact front_directive ⟨more, rfl⟩ hline hend hr

theorem endsAt_of_isBlank {l : Lexeme} {c : Char} (hc : isBlank c = true)
    (hline : l.kind = .directive → c = '\n') : l.EndsAt c := by
  have hdigit := not_isDigit_of_isBlank hc
  have hne {d : Char} (hd : ¬ isBlank d = true) : c ≠ d := fun heq => hd (heq ▸ hc)
  obtain ⟨kind, text⟩ := l
  cases kind with
  | keyword | identifier => exact not_isWordPart_of_isBlank hc
  | number => exact ⟨hdigit, hne (by decide)⟩
  | float => exact hdigit
  | string | shift => trivial
  | operator | delimiter =>
      exact fun d _ => ⟨pairKind_of_isBlank d hc, fun _ => ⟨hne (by decide), hne (by decide)⟩⟩
  | directive => exact hline rfl

theorem front_of_valid {l : Lexeme} (hl : l.Valid) {rest : List Char} (hr : l.EndsBefore rest) :
    l.ReadBefore rest :=
  readBefore_of_endsAt hl fun c hc => endsAt_of_isBlank (hr c hc).1 (hr c hc).2

end Piece

theorem Legible.scanFrom {ls : List Lexeme} {text : List Char} (h : Legible ls text)
    (p : Position) :
    ∃ tokens, (Cursor.scanFrom p text).1 = .ok tokens ∧ tokens.map Token.toLexeme = ls := by
  induction h generalizing p with
  | nil => exact ⟨[], by rw [Cursor.scanFrom_nil], rfl⟩
  | blank hc _ ih =>
      rw [Cursor.scanFrom_blank p hc]
      exact ih _
  | @lexeme l ls text hread _ ih =>
      obtain ⟨c, more, htext, hfront⟩ := hread
      obtain ⟨tokens, htokens, rfl⟩ := ih (p.advance (l.text.toList ++ []))
      refine ⟨⟨l, p⟩ :: tokens, ?_, rfl⟩
      rw [htext, List.cons_append, Cursor.scanFrom_token_eq_ok p hfront]
      exact ⟨tokens, htokens, by rw [String.ofList_toList]⟩

theorem Spaced.legible {ls : List Lexeme} {text : List Char} (h : Spaced ls text)
    (hplain : ∀ l ∈ ls, l.Plain) : Legible ls text := by
  induction h with
  | nil => exact .nil
  | blank hc _ ih => exact .blank hc (ih hplain)
  | @lexeme l ls text hblank _ ih =>
      have hl := hplain l List.mem_cons_self
      refine .lexeme (Piece.front_of_valid hl.valid fun c hc => ⟨hblank c hc, ?_⟩) (ih ?_)
      · exact fun hdirective => absurd hdirective hl.noDirective
      · exact fun m hm => hplain m (List.mem_cons_of_mem l hm)

/-- Lexemes with white space between them are read as they are. -/
theorem Spaced.scanFrom {ls : List Lexeme} {text : List Char} (h : Spaced ls text)
    (hplain : ∀ l ∈ ls, l.Plain) (p : Position) :
    ∃ tokens, (Cursor.scanFrom p text).1 = .ok tokens ∧ tokens.map Token.toLexeme = ls :=
  (h.legible hplain).scanFrom p

end CppToPython
