import CppToPython.Proofs.Position
import CppToPython.Proofs.Token.Scan

/-! # Reading across a line feed

No piece but an open block comment goes over the end of a line, so a text and
a line after it are read one after the other.
-/

namespace CppToPython

namespace Piece

/-- The same piece with more text left after it. -/
def extend (more : List Char) : Piece → Piece
  | skip text rest => skip text (rest ++ more)
  | token kind text padding rest => token kind text padding (rest ++ more)
  | fault text rest => fault text (rest ++ more)

theorem rest_extend (more : List Char) (p : Piece) : (p.extend more).rest = p.rest ++ more := by
  cases p with
  | skip | token | fault => rfl

theorem extend_inj {more : List Char} {p q : Piece} (h : p.extend more = q.extend more) :
    p = q := by
  cases p <;> cases q <;> simp_all [extend]

theorem takeWhile_append_stop {p : Char → Bool} {c : Char} (hc : p c = false)
    (text more : List Char) : (text ++ c :: more).takeWhile p = text.takeWhile p := by
  induction text with
  | nil => simp [hc]
  | cons d text ih =>
      simp only [List.cons_append, List.takeWhile_cons, ih]

theorem dropWhile_append_stop {p : Char → Bool} {c : Char} (hc : p c = false)
    (text more : List Char) :
    (text ++ c :: more).dropWhile p = text.dropWhile p ++ c :: more := by
  induction text with
  | nil => simp [hc]
  | cons d text ih =>
      simp only [List.cons_append, List.dropWhile_cons, ih]
      split
      · rfl
      · rfl

variable (text more : List Char)

theorem lineComment_line :
    lineComment (text ++ '\n' :: more) = (lineComment text).extend ('\n' :: more) := by
  simp only [lineComment, extend, takeWhile_append_stop (show isInLine '\n' = false from rfl),
    dropWhile_append_stop (show isInLine '\n' = false from rfl)]

theorem word_line (c : Char) :
    word c (text ++ '\n' :: more) = (word c text).extend ('\n' :: more) := by
  simp only [word, extend, takeWhile_append_stop (show isWordPart '\n' = false from rfl),
    dropWhile_append_stop (show isWordPart '\n' = false from rfl)]

theorem directive_line :
    directive (text ++ '\n' :: more) = (directive text).extend ('\n' :: more) := by
  simp only [directive, takeWhile_append_stop (show isInLine '\n' = false from rfl),
    dropWhile_append_stop (show isInLine '\n' = false from rfl)]
  split
  · rfl
  · rfl

theorem number_line (c : Char) :
    number c (text ++ '\n' :: more) = (number c text).extend ('\n' :: more) := by
  have hn : Char.isDigit '\n' = false := rfl
  simp only [number, takeWhile_append_stop hn, dropWhile_append_stop hn]
  cases text.dropWhile Char.isDigit with
  | nil => rfl
  | cons d rest =>
      by_cases hd : d = '.'
      · subst hd
        cases rest with
        | nil => rfl
        | cons e rest =>
            simp only [List.cons_append, takeWhile_append_stop hn, dropWhile_append_stop hn]
            split
            · rfl
            · rfl
      · simp [hd, extend]

namespace Quoted

/-- The same part of a literal with more text left after it. -/
def extend (more : List Char) : Quoted → Quoted
  | closed text rest => closed text (rest ++ more)
  | cut text rest => cut text (rest ++ more)

theorem extend_push (front more : List Char) (q : Quoted) :
    (q.push front).extend more = (q.extend more).push front := by
  cases q with
  | closed => rfl
  | cut => rfl

theorem ofText_line : ofText (text ++ '\n' :: more) = (ofText text).extend ('\n' :: more) := by
  fun_induction ofText text with
  | case1 => rfl
  | case2 => rfl
  | case3 => rfl
  | case4 => rfl
  | case5 c rest hc ih =>
      rw [extend_push, ← ih]
      simp [ofText, hc]
  | case6 c rest hline hquote hescape ih =>
      rw [extend_push, ← ih]
      by_cases hc : c = '\\'
      · cases rest with
        | nil =>
            subst hc
            rfl
        | cons d rest => exact (hescape d rest hc rfl).elim
      · rw [List.cons_append, ofText]
        · exact hline
        · exact hquote
        · exact fun _ _ same => (hc same).elim

end Quoted

theorem stringLiteral_line :
    stringLiteral (text ++ '\n' :: more) = (stringLiteral text).extend ('\n' :: more) := by
  simp only [stringLiteral, Quoted.ofText_line]
  cases Quoted.ofText text with
  | closed => rfl
  | cut => rfl

theorem single_more (c : Char) : single c (text ++ more) = (single c text).extend more := by
  unfold single
  split
  · rfl
  · rfl

theorem symbol_line (c : Char) :
    symbol c (text ++ '\n' :: more) = (symbol c text).extend ('\n' :: more) := by
  cases text with
  | nil =>
      have hpair : pairKind c '\n' = none := by
        unfold pairKind
        split <;> trivial
      simp only [symbol, List.nil_append, hpair]
      exact single_more [] ('\n' :: more) c
  | cons d rest =>
      simp only [symbol, List.cons_append]
      split
      · rfl
      · exact single_more (d :: rest) ('\n' :: more) c

theorem splitComment_more {body rest : List Char} (h : splitComment text = some (body, rest)) :
    splitComment (text ++ more) = some (body, rest ++ more) := by
  fun_induction splitComment text generalizing body rest with
  | case1 => cases h
  | case2 rest =>
      cases h
      rfl
  | case3 c tail hn ih =>
      obtain ⟨⟨inner, left⟩, hs, he⟩ := Option.map_eq_some_iff.mp h
      cases he
      rw [List.cons_append, splitComment, ih hs]
      · rfl
      · intro after hc ht
        cases tail with
        | nil => cases hs
        | cons d tail =>
            cases ht
            exact hn tail hc rfl

theorem blockComment_more (hread : ∀ taken rest, blockComment text ≠ fault taken rest) :
    blockComment (text ++ more) = (blockComment text).extend more := by
  cases hs : splitComment text with
  | none =>
      simp only [blockComment, hs] at hread
      exact absurd rfl (hread _ _)
  | some split =>
      obtain ⟨body, rest⟩ := split
      simp only [blockComment, hs, splitComment_more text more hs]
      rfl

theorem front_eq_symbol {c : Char} {text : List Char} (hblank : ¬ isBlank c = true)
    (hdigit : ¬ c.isDigit = true) (hword : ¬ isWordStart c = true) (hquote : c ≠ '"')
    (hhash : c ≠ '#') (hslash : c = '/' → text.head? ≠ some '/' ∧ text.head? ≠ some '*') :
    front c text = symbol c text := by
  simp only [front, if_neg hblank, if_neg hdigit, if_neg hword]
  split
  · exact absurd rfl (hslash rfl).1
  · exact absurd rfl (hslash rfl).2
  · exact absurd rfl hquote
  · exact absurd rfl hhash
  · rfl

/-- No piece that is read goes over the end of a line, unless it is blank. -/
theorem front_line {c : Char} (hblank : ¬ isBlank c = true)
    (hread : ∀ taken rest, front c text ≠ fault taken rest) :
    front c (text ++ '\n' :: more) = (front c text).extend ('\n' :: more) := by
  by_cases hdigit : c.isDigit = true
  · simp only [front, if_neg hblank, if_pos hdigit]
    exact number_line text more c
  by_cases hword : isWordStart c = true
  · simp only [front, if_neg hblank, if_neg hdigit, if_pos hword]
    exact word_line text more c
  by_cases hquote : c = '"'
  · subst hquote
    exact stringLiteral_line text more
  by_cases hhash : c = '#'
  · subst hhash
    exact directive_line text more
  cases text with
  | nil =>
      rw [front_eq_symbol hblank hdigit hword hquote hhash (by simp),
        front_eq_symbol hblank hdigit hword hquote hhash (by simp)]
      exact symbol_line [] more c
  | cons d rest =>
      by_cases hcomment : c = '/' → d ≠ '/' ∧ d ≠ '*'
      · rw [front_eq_symbol hblank hdigit hword hquote hhash (by simpa using hcomment),
          front_eq_symbol hblank hdigit hword hquote hhash (by simpa using hcomment)]
        exact symbol_line (d :: rest) more c
      · obtain ⟨rfl, hd⟩ := Classical.not_imp.mp hcomment
        by_cases hline : d = '/'
        · subst hline
          exact lineComment_line rest more
        · have hblock : d = '*' := Decidable.not_not.mp fun hn => hd ⟨hline, hn⟩
          subst hblock
          exact blockComment_more rest ('\n' :: more) hread

end Piece

/-! ### Moving a text -/

def Token.moved (move : Position → Position) (t : Token) : Token :=
  { t with position := move t.position }

def LexError.moved (move : Position → Position) (e : LexError) : LexError :=
  { e with position := move e.position }

/-- What was read from a text, when the text stands at another place. -/
def Token.scannedMoved (move : Position → Position) :
    Except LexError (List Token) → Except LexError (List Token)
  | .ok tokens => .ok (tokens.map (Token.moved move))
  | .error e => .error (e.moved move)

/-- Where a text stands makes a difference to positions only. -/
theorem Cursor.scanFrom_moved {move : Position → Position} {p : Position}
    (h : ∀ text, (move p).advance text = move (p.advance text)) (text : List Char) :
    (scanFrom (move p) text).1 = Token.scannedMoved move (scanFrom p text).1 := by
  have hnext (taken more : List Char) :
      (move (p.advance taken)).advance more = move ((p.advance taken).advance more) := by
    rw [← h, ← Position.advance_append, h, Position.advance_append]
  cases text with
  | nil =>
      rw [scanFrom_nil, scanFrom_nil]
      rfl
  | cons c text =>
      cases hf : Piece.front c text with
      | skip taken rest =>
          rw [scanFrom_skip _ hf, scanFrom_skip _ hf, h]
          exact scanFrom_moved (hnext taken) rest
      | token kind lexeme padding rest =>
          rw [scanFrom_token _ hf, scanFrom_token _ hf, h, scanFrom_moved (hnext _) rest]
          cases (scanFrom (p.advance (lexeme ++ padding)) rest).1 with
          | error e => rfl
          | ok tokens => rfl
      | fault taken rest =>
          rw [scanFrom_fault _ hf, scanFrom_fault _ hf]
          rfl
termination_by text.length
decreasing_by
  · subst_vars
    exact Piece.rest_lt_of_front_skip hf
  · subst_vars
    exact Piece.rest_lt_of_front_token hf

def Token.down (lines : Nat) (t : Token) : Token := { t with position := t.position.down lines }

def LexError.down (lines : Nat) (e : LexError) : LexError :=
  { e with position := e.position.down lines }

def Token.scannedDown (lines : Nat) : Except LexError (List Token) → Except LexError (List Token)
  | .ok tokens => .ok (tokens.map (Token.down lines))
  | .error e => .error (e.down lines)

namespace Cursor

theorem scanFrom_down (lines : Nat) (p : Position) (text : List Char) :
    (scanFrom (p.down lines) text).1 = Token.scannedDown lines (scanFrom p text).1 := by
  rw [scanFrom_moved (Position.advance_down lines p)]
  cases (scanFrom p text).1 with
  | ok tokens => rfl
  | error e => rfl

/-! ### One line after the other -/

/-- What is read before a line feed makes no difference to what is read after it. -/
theorem scanFrom_line {p : Position} {text : List Char} {tokens : List Token}
    (h : (scanFrom p text).1 = .ok tokens) (more : List Char) :
    (scanFrom p (text ++ '\n' :: more)).1 =
      (scanFrom (p.advance (text ++ ['\n'])) more).1.map (tokens ++ ·) := by
  cases text with
  | nil =>
      rw [scanFrom_nil] at h
      cases h
      rw [List.nil_append, scanFrom_blank p rfl more]
      exact (congrFun Except.map_id _).symm
  | cons c text =>
      by_cases hblank : Piece.isBlank c = true
      · rw [scanFrom_blank p hblank] at h
        rw [List.cons_append, scanFrom_blank p hblank, List.cons_append, Position.advance_cons]
        exact scanFrom_line h more
      have hsplits := (Piece.front_splits c text).taken_append_rest
      cases hf : Piece.front c text with
      | skip taken rest =>
          have hline := Piece.front_line text more hblank (by simp [hf])
          rw [hf] at hline hsplits
          rw [scanFrom_skip p hf] at h
          rw [List.cons_append, scanFrom_skip p hline, scanFrom_line h more, ← hsplits]
          simp only [Piece.taken, Piece.rest, Position.advance_append]
      | token kind lexeme padding rest =>
          have hline := Piece.front_line text more hblank (by simp [hf])
          rw [hf] at hline hsplits
          obtain ⟨tail, htail, rfl⟩ := (scanFrom_token_eq_ok p hf).mp h
          rw [List.cons_append, scanFrom_token p hline, scanFrom_line htail more, ← hsplits]
          simp only [Piece.taken, Piece.rest, Position.advance_append]
          cases (scanFrom _ more).1 with
          | error e => rfl
          | ok found => rfl
      | fault taken rest =>
          rw [scanFrom_fault p hf] at h
          cases h
termination_by text.length
decreasing_by
  · subst_vars
    exact Nat.lt_succ_self _
  · subst_vars
    exact Piece.rest_lt_of_front_skip hf
  · subst_vars
    exact Piece.rest_lt_of_front_token hf

end Cursor

/-- The tokens of a text and of what stands after it on lines of its own. -/
theorem Token.scan_line {source : String} {tokens : List Token} (h : scan source = .ok tokens)
    (more : String) :
    scan (source ++ "\n" ++ more) =
      (scannedDown (source.toList.count '\n' + 1) (scan more)).map (tokens ++ ·) := by
  rw [scan_eq_scanFrom] at h
  have hline := Cursor.scanFrom_line h more.toList
  rw [Position.advance_start_line, Cursor.scanFrom_down] at hline
  rw [scan_eq_scanFrom, scan_eq_scanFrom, String.toList_append, String.toList_append,
    List.append_assoc]
  exact hline

end CppToPython
