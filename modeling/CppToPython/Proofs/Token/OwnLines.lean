import CppToPython.Proofs.Token.Spaced

/-! # Lexemes on lines of their own

The texts that the scanner makes tokens of are exactly the classes of `Lexeme.Valid`: each token
is in the class of its kind, and any list of lexemes from these classes, written with one lexeme
on a line, is read back lexeme by lexeme. No lexeme goes over the end of its line, so the line of
a token is its number in the list.
-/

namespace CppToPython

/-! ### The end of the line -/

theorem IsWord.inLine {text : List Char} (h : IsWord text) : '\n' ∉ text := by
  intro hmem
  cases text with
  | nil => exact h
  | cons c rest =>
      rcases List.mem_cons.mp hmem with rfl | hmem
      · exact absurd h.1 (by decide)
      · exact absurd (h.2 _ hmem) (by decide)

theorem IsDigits.inLine {text : List Char} (h : IsDigits text) : '\n' ∉ text :=
  fun hmem => absurd (h.2 _ hmem) (by decide)

theorem Lexeme.Valid.inLine {l : Lexeme} (h : l.Valid) : '\n' ∉ l.text.toList := by
  obtain ⟨kind, text⟩ := l
  have hsymbol (texts : List String) (hmem : text ∈ texts)
      (hall : (texts.all fun t => !t.toList.contains '\n') = true) : '\n' ∉ text.toList := by
    simpa using List.all_eq_true.mp hall text hmem
  cases kind with
  | keyword => exact (Piece.isWord_of_reserved h).inLine
  | identifier => exact h.1.inLine
  | number => exact IsDigits.inLine h
  | float =>
      obtain ⟨whole, fraction, htext, hwhole, hfraction⟩ := h
      rw [htext]
      simp [hwhole.inLine, hfraction.inLine]
  | string =>
      obtain ⟨rest, htext, hrest⟩ := h
      rw [htext]
      simp [hrest.inLine]
  | operator => exact hsymbol _ h (by decide)
  | delimiter => exact hsymbol _ h (by decide)
  | shift => exact hsymbol _ h (by decide)
  | directive => exact h.2.1

/-! ### Reading line by line -/

namespace Cursor

theorem scanFrom_lexeme {l : Lexeme} (hl : l.Valid) (p : Position) :
    (scanFrom p l.text.toList).1 = .ok [⟨l, p⟩] := by
  obtain ⟨c, more, htext, hfront⟩ := @Piece.front_of_valid l hl [] nofun
  rw [List.append_nil] at hfront
  rw [htext, scanFrom_token_eq_ok p hfront]
  exact ⟨[], by rw [scanFrom_nil], by rw [String.ofList_toList]⟩

/-- A valid lexeme on a line of its own is a token, and reading goes on at the start of the next
    line. -/
theorem scanFrom_lexeme_line {l : Lexeme} (hl : l.Valid) {p : Position} {rest : List Char}
    {tokens : List Token} (h : (scanFrom ⟨p.line + 1, 1⟩ rest).1 = .ok tokens) :
    (scanFrom p (l.text.toList ++ '\n' :: rest)).1 = .ok (⟨l, p⟩ :: tokens) := by
  have hends : l.EndsBefore ('\n' :: rest) := by
    rintro c ⟨⟩
    exact ⟨rfl, fun _ => rfl⟩
  obtain ⟨c, more, htext, hfront⟩ := Piece.front_of_valid hl hends
  have hline : (scanFrom (p.advance (l.text.toList ++ [])) ('\n' :: rest)).1 = .ok tokens := by
    rwa [List.append_nil, scanFrom_blank _ rfl, Position.next_advance_inLine p hl.inLine]
  rw [htext, List.cons_append, scanFrom_token_eq_ok p hfront]
  exact ⟨tokens, hline, by rw [String.ofList_toList]⟩

theorem scanFrom_lines {ls : List Lexeme} (h : ∀ l ∈ ls, l.Valid) (n : Nat) :
    (scanFrom ⟨n, 1⟩ (['\n'].intercalate (ls.map fun l => l.text.toList))).1 =
      .ok (ls.mapIdx fun i l => ⟨l, ⟨n + i, 1⟩⟩) := by
  induction ls generalizing n with
  | nil => exact congrArg Prod.fst (scanFrom_nil _)
  | cons l ls ih =>
      have hl := h l List.mem_cons_self
      have hrest := ih (fun m hm => h m (List.mem_cons_of_mem l hm)) (n + 1)
      cases ls with
      | nil =>
          rw [List.map_singleton, List.intercalate_singleton]
          exact scanFrom_lexeme hl _
      | cons m ls =>
          rw [List.map_cons, List.intercalate_cons_of_ne_nil (by simp), List.append_assoc,
            List.singleton_append, List.mapIdx_cons, scanFrom_lexeme_line hl hrest]
          simp only [Nat.add_zero, Nat.add_assoc, Nat.add_comm 1]

end Cursor

/-- Every token is a valid lexeme, and valid lexemes on lines of their own are read as they are,
    each at the start of its line. -/
theorem scan_valid_lexemes :
    (∀ source tokens, Token.scan source = .ok tokens → ∀ t ∈ tokens, t.toLexeme.Valid) ∧
      ∀ ls : List Lexeme, (∀ l ∈ ls, l.Valid) →
        Token.scan ("\n".intercalate (ls.map Lexeme.text)) =
          .ok (ls.mapIdx fun i l => ⟨l, ⟨i + 1, 1⟩⟩) := by
  constructor
  · intro source tokens h
    exact Cursor.valid_of_scanFrom h
  · intro ls h
    have hlines := Cursor.scanFrom_lines h 1
    simp only [Nat.add_comm 1] at hlines
    rw [Token.scan_eq_scanFrom, String.toList_intercalate, List.map_map]
    exact hlines

/-- Lexemes that would run into one another if they were written side by side. -/
def crowdedLexemes : List Lexeme :=
  [⟨.operator, "/"⟩, ⟨.operator, "/"⟩, ⟨.shift, "<<"⟩, ⟨.number, "1"⟩, ⟨.float, "2.50"⟩,
    ⟨.keyword, "int"⟩, ⟨.identifier, "int_"⟩, ⟨.string, "\"\\\"/*\""⟩, ⟨.directive, "#include <x>"⟩,
    ⟨.delimiter, "\x7b"⟩]

theorem crowdedLexemes_valid : ∀ l ∈ crowdedLexemes, l.Valid := by
  have hdigits (text : List Char) (hne : text ≠ []) (h : text.all Char.isDigit = true) :
      IsDigits text := ⟨hne, List.all_eq_true.mp h⟩
  have hname : IsWord "int_".toList := ⟨by decide, List.all_eq_true.mp (by decide)⟩
  simp only [crowdedLexemes, List.forall_mem_cons, List.not_mem_nil, false_imp_iff, implies_true,
    and_true]
  refine ⟨?_, ?_, ?_, ?_, ?_, ?_, ?_, ?_, ?_, ?_⟩
  · simp [Lexeme.Valid]
  · simp [Lexeme.Valid]
  · simp [Lexeme.Valid]
  · exact hdigits _ (by decide) (by decide)
  · exact ⟨['2'], ['5', '0'], rfl, hdigits _ (by decide) (by decide),
      hdigits _ (by decide) (by decide)⟩
  · simp [Lexeme.Valid, Lexeme.reserved]
  · exact ⟨hname, by decide⟩
  · exact ⟨_, rfl, .escape (by decide) (.plain (by decide) (by decide) (by decide)
      (.plain (by decide) (by decide) (by decide) .quote))⟩
  · refine ⟨⟨" <x>".toList, rfl⟩, by decide, ?_⟩
    rintro c ⟨⟩
    decide
  · simp [Lexeme.Valid]

theorem scan_valid_lexemes_crowded :
    (∀ l ∈ crowdedLexemes, l.Valid) ∧
      Token.scan ("\n".intercalate (crowdedLexemes.map Lexeme.text)) =
        .ok (crowdedLexemes.mapIdx fun i l => ⟨l, ⟨i + 1, 1⟩⟩) :=
  ⟨crowdedLexemes_valid, scan_valid_lexemes.2 _ crowdedLexemes_valid⟩

end CppToPython
