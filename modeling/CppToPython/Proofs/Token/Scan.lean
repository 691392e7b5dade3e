import CppToPython.Token.Scan

/-! # Reading piece by piece

One equation for each kind of piece a text can start with.
-/

namespace CppToPython

namespace Cursor

theorem scanFrom_nil (p : Position) : scanFrom p [] = (.ok [], ⟨[], p⟩) := by
  rw [scanFrom]

theorem scanFrom_cons (p : Position) (c : Char) (text : List Char) :
    scanFrom p (c :: text) =
      match Piece.front c text with
      | .skip taken rest => scanFrom (p.advance taken) rest
      | .token kind lexeme padding rest =>
          let (tokens, stop) := scanFrom (p.advance (lexeme ++ padding)) rest
          (tokens.map (⟨⟨kind, String.ofList lexeme⟩, p⟩ :: ·), stop)
      | .fault taken rest => (.error ⟨c, p⟩, ⟨rest, p.advance taken⟩) := by
  rw [scanFrom]
  split <;> rename_i h <;> simp only [h]

theorem scanFrom_skip (p : Position) {c : Char} {text taken rest : List Char}
    (h : Piece.front c text = .skip taken rest) :
    scanFrom p (c :: text) = scanFrom (p.advance taken) rest := by
  rw [scanFrom_cons, h]

theorem scanFrom_token (p : Position) {c : Char} {kind : Kind}
    {text lexeme padding rest : List Char}
    (h : Piece.front c text = .token kind lexeme padding rest) :
    (scanFrom p (c :: text)).1 =
      (scanFrom (p.advance (lexeme ++ padding)) rest).1.map
        (⟨⟨kind, String.ofList lexeme⟩, p⟩ :: ·) := by
  rw [scanFrom_cons, h]

theorem scanFrom_token_eq_ok (p : Position) {c : Char} {kind : Kind}
    {text lexeme padding rest : List Char}
    (h : Piece.front c text = .token kind lexeme padding rest) {tokens : List Token} :
    (scanFrom p (c :: text)).1 = .ok tokens ↔
      ∃ tail, (scanFrom (p.advance (lexeme ++ padding)) rest).1 = .ok tail ∧
        tokens = ⟨⟨kind, String.ofList lexeme⟩, p⟩ :: tail := by
  rw [scanFrom_token p h]
  cases (scanFrom (p.advance (lexeme ++ padding)) rest).1 with
  | error e => simp [Except.map]
  | ok tail =>
      simp only [Except.map, Except.ok.injEq]
      constructor
      · rintro rfl
        exact ⟨tail, rfl, rfl⟩
      · rintro ⟨_, rfl, rfl⟩
        rfl

theorem scanFrom_token_eq_error (p : Position) {c : Char} {kind : Kind}
    {text lexeme padding rest : List Char}
    (h : Piece.front c text = .token kind lexeme padding rest) {e : LexError} :
    (scanFrom p (c :: text)).1 = .error e ↔
      (scanFrom (p.advance (lexeme ++ padding)) rest).1 = .error e := by
  rw [scanFrom_token p h]
  cases (scanFrom (p.advance (lexeme ++ padding)) rest).1 with
  | error fault => simp [Except.map]
  | ok tail => simp [Except.map]

theorem scanFrom_fault (p : Position) {c : Char} {text taken rest : List Char}
    (h : Piece.front c text = .fault taken rest) :
    scanFrom p (c :: text) = (.error ⟨c, p⟩, ⟨rest, p.advance taken⟩) := by
  rw [scanFrom_cons, h]

/-- Blanks make a difference to positions only. -/
theorem scanFrom_blank (p : Position) {c : Char} (hc : Piece.isBlank c = true) (text : List Char) :
    scanFrom p (c :: text) = scanFrom (p.next c) text := by
  have hfront (c : Char) (hc : Piece.isBlank c = true) (text : List Char) :
      Piece.front c text =
        .skip (c :: text.takeWhile Piece.isBlank) (text.dropWhile Piece.isBlank) :=
    if_pos hc
  rw [scanFrom_skip p (hfront c hc text), Position.advance_cons]
  cases text with
  | nil => rfl
  | cons d text =>
      cases hd : Piece.isBlank d with
      | true =>
          rw [scanFrom_skip _ (hfront d hd text), List.takeWhile_cons_of_pos hd,
            List.dropWhile_cons_of_pos hd]
      | false =>
          have hn : ¬ Piece.isBlank d = true := by simp [hd]
          rw [List.takeWhile_cons_of_neg hn, List.dropWhile_cons_of_neg hn, Position.advance_nil]

end Cursor

theorem Token.scan_eq_scanFrom (source : String) :
    scan source = (Cursor.scanFrom .start source.toList).1 := rfl

end CppToPython
