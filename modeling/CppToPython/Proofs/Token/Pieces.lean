import CppToPython.Proofs.Token.Scan

/-! # The pieces of a text

The scanner reads a text piece by piece and keeps the tokens only. `piecesOf` keeps the blanks and
the comments too, so that it can be said what was skipped.
-/

namespace CppToPython

/-- The pieces that a text is read in, to its end or to the first fault. -/
def piecesOf : List Char → List Piece
  | [] => []
  | c :: text =>
      match _h : Piece.front c text with
      | .skip taken rest => .skip taken rest :: piecesOf rest
      | .token kind lexeme padding rest => .token kind lexeme padding rest :: piecesOf rest
      | .fault taken rest => [.fault taken rest]
termination_by text => text.length
decreasing_by
  · exact Piece.rest_lt_of_front_skip _h
  · exact Piece.rest_lt_of_front_token _h

namespace Piece

def lexeme? : Piece → Option Lexeme
  | token kind text _ _ => some ⟨kind, String.ofList text⟩
  | skip _ _ | fault _ _ => none

def isFault : Piece → Bool
  | fault _ _ => true
  | skip _ _ | token _ _ _ _ => false

def isLineComment : Piece → Bool
  | skip ('/' :: '/' :: _) _ => true
  | _ => false

def isBlockComment : Piece → Bool
  | skip ('/' :: '*' :: _) _ => true
  | _ => false

end Piece

/-- A piece and what is left after it are the end of the text. -/
theorem suffix_of_mem_piecesOf {text : List Char} {piece : Piece} (h : piece ∈ piecesOf text) :
    piece.taken ++ piece.rest <:+ text := by
  have hhead {c : Char} {text : List Char} {p : Piece} (hfront : Piece.front c text = p) :
      p.taken ++ p.rest = c :: text := by
    rw [← hfront]
    exact Piece.front_taken_append_rest c text
  fun_induction piecesOf text with
  | case1 => cases h
  | case2 c text taken rest hfront ih =>
      rcases List.mem_cons.mp h with rfl | h
      · exact ⟨[], hhead hfront⟩
      · exact (ih h).trans ⟨taken, hhead hfront⟩
  | case3 c text kind lexeme padding rest hfront ih =>
      rcases List.mem_cons.mp h with rfl | h
      · exact ⟨[], hhead hfront⟩
      · exact (ih h).trans ⟨lexeme ++ padding, hhead hfront⟩
  | case4 c text taken rest hfront =>
      rw [List.mem_singleton.mp h]
      exact ⟨[], hhead hfront⟩

namespace Cursor

/-- Scanning gives the lexemes of all pieces, unless one of them is a fault. -/
theorem lexemes_scanFrom (p : Position) (text : List Char) :
    (scanFrom p text).1.toOption.map (List.map Token.toLexeme) =
      if (piecesOf text).any Piece.isFault then none
      else some ((piecesOf text).filterMap Piece.lexeme?) := by
  fun_induction piecesOf text generalizing p with
  | case1 =>
      rw [scanFrom_nil]
      rfl
  | case2 c text taken rest hfront ih =>
      rw [scanFrom_skip p hfront, ih]
      rfl
  | case3 c text kind lexeme padding rest hfront ih =>
      specialize ih (p.advance (lexeme ++ padding))
      have hlexeme : (Piece.token kind lexeme padding rest).lexeme? =
          some ⟨kind, String.ofList lexeme⟩ := rfl
      have hfault : (Piece.token kind lexeme padding rest).isFault = false := rfl
      rw [scanFrom_token p hfront, List.any_cons, hfault, Bool.false_or,
        List.filterMap_cons_some hlexeme]
      cases hrest : (scanFrom (p.advance (lexeme ++ padding)) rest).1 with
      | error e =>
          rw [hrest] at ih
          split at ih
          · rw [if_pos ‹_›]
            rfl
          · cases ih
      | ok tail =>
          rw [hrest] at ih
          split at ih
          · cases ih
          · rw [if_neg ‹_›]
            exact congrArg (Option.map (⟨kind, String.ofList lexeme⟩ :: ·)) ih
  | case4 c text taken rest hfront =>
      rw [scanFrom_fault p hfront]
      rfl

end Cursor

/-- The pieces of a text that could be scanned are no faults, and the tokens are among them. -/
theorem Token.pieces_of_scan {source : String} {tokens : List Token}
    (h : scan source = .ok tokens) :
    (∀ piece ∈ piecesOf source.toList, piece.isFault = false) ∧
      tokens.map Token.toLexeme = (piecesOf source.toList).filterMap Piece.lexeme? := by
  have hlexemes := Cursor.lexemes_scanFrom .start source.toList
  rw [← scan_eq_scanFrom, h] at hlexemes
  split at hlexemes
  · cases hlexemes
  · rename_i hfaults
    exact ⟨by simpa using hfaults, Option.some.inj hlexemes⟩

end CppToPython
