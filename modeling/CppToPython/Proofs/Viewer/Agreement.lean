import CppToPython.Proofs.Token.Pieces
import CppToPython.Proofs.Token.Spaced
import CppToPython.Proofs.Viewer.Highlighting
import Mathlib.Data.List.Basic

/-! # Highlighting and scanning agree

The highlighter and the scanner read a line of C++ each in its own way: they cut words, numbers and
symbols at different places, and the highlighter knows one more kind of quote. Still they see the
same strings and the same comment in every line that can be scanned. The marks of a text are
compared with its pieces, one piece after the other.
-/

namespace CppToPython

open Viewer Viewer.Highlight

/-- The highlighter finds the end of a string that is closed. -/
theorem Viewer.Highlight.splitQuoted_of_closes {body : List Char} (h : ClosesQuote body)
    (rest : List Char) : splitQuoted '"' (body ++ rest) = (body, rest) := by
  induction h with
  | quote =>
      cases rest with
      | nil => rfl
      | cons c rest => simp [splitQuoted]
  | @plain c text hquote hslash _ h ih =>
      cases text with
      | nil => cases h
      | cons d text =>
          simp only [List.cons_append] at ih ⊢
          simp [splitQuoted, hquote, hslash, ih]
  | escape _ _ ih => simp [splitQuoted, ih]

namespace Piece

/-- How a piece is marked in a line: a string by itself, and a comment with all that follows. -/
def mark? : Piece → Option Span
  | token .string text _ _ => some ⟨String.ofList text, .colored Theme.string⟩
  | skip ('/' :: '/' :: body) rest =>
      some ⟨String.ofList ('/' :: '/' :: body ++ rest), .colored Theme.comment⟩
  | _ => none

/-- Whether a piece is one that both readers know: neither a fault nor a directive nor a block
    comment. -/
def isPlain (p : Piece) : Bool :=
  !p.isFault && !p.isBlockComment && p.lexeme?.all (·.kind != .directive)

/-- The marks of a text are the mark of the piece at its front and the marks of what is left. -/
def MarkedIn (classes : CharClasses) (whole : List Char) (p : Piece) : Prop :=
  p.isPlain = true → marks classes whole = p.mark?.toList ++ marks classes p.rest

theorem mark?_token {kind : Kind} (h : kind ≠ .string) (text padding rest : List Char) :
    (token kind text padding rest).mark? = none := by
  cases kind with
  | string => exact absurd rfl h
  | _ => rfl

theorem mark?_skip {text : List Char} (h : text.head? ≠ some '/') (rest : List Char) :
    (skip text rest).mark? = none := by
  unfold mark?
  split
  · rename_i hskip
    cases hskip
  · rename_i hskip
    cases hskip
    exact absurd rfl h
  · rfl

theorem markedIn_of_not_isPlain {p : Piece} (h : p.isPlain = false) (classes : CharClasses)
    (whole : List Char) : p.MarkedIn classes whole := by
  intro hplain
  rw [h] at hplain
  cases hplain

/-! ### Pieces without marks -/

section

variable {classes : CharClasses} (hclasses : classes.ExtendsAscii)

include hclasses

theorem markedIn_of_unmarked {whole : List Char} {p : Piece} (hsplits : p.Splits whole)
    (hmark : p.mark? = none) (hunmarked : ∀ c ∈ p.taken, isUnmarked c = true) :
    p.MarkedIn classes whole := by
  intro _
  rw [← hsplits.taken_append_rest, marks_append hclasses hunmarked, hmark]
  rfl

theorem blanks_markedIn {c : Char} (hc : isBlank c = true) (text : List Char) :
    (skip (c :: text.takeWhile isBlank) (text.dropWhile isBlank)).MarkedIn classes (c :: text) := by
  have hmark : (c :: text.takeWhile isBlank).head? ≠ some '/' := by
    rintro ⟨⟩
    cases hc
  apply markedIn_of_unmarked hclasses (by simp [Splits]) (mark?_skip hmark _)
  intro d hd
  rcases List.mem_cons.mp hd with rfl | hd
  · exact isUnmarked_of_class rfl rfl rfl hc
  · exact isUnmarked_of_class rfl rfl rfl (List.all_eq_true.mp List.all_takeWhile d hd)

theorem number_markedIn {c : Char} (hc : c.isDigit = true) (text : List Char) :
    (number c text).MarkedIn classes (c :: text) := by
  have hdigits {d : Char} (hd : d.isDigit = true) (more : List Char) :
      ∀ e ∈ d :: more.takeWhile Char.isDigit, isUnmarked e = true :=
    fun e he => isUnmarked_of_class rfl rfl rfl ((isDigits_takeWhile hd more).2 e he)
  have hnumber : (number c text).mark? = none ∧
      ∀ d ∈ (number c text).taken, isUnmarked d = true := by
    unfold number
    split
    · rename_i d rest _
      split
      · rename_i hd
        refine ⟨rfl, ?_⟩
        rw [taken, List.append_nil, List.forall_mem_append]
        exact ⟨hdigits hc text, List.forall_mem_cons.mpr ⟨rfl, hdigits hd rest⟩⟩
      · exact ⟨rfl, by simpa [taken] using hdigits hc text⟩
    · exact ⟨rfl, by simpa [taken] using hdigits hc text⟩
  exact markedIn_of_unmarked hclasses (number_splits c text) hnumber.1 hnumber.2

theorem word_markedIn {c : Char} (hc : isWordStart c = true) (text : List Char) :
    (word c text).MarkedIn classes (c :: text) := by
  have hmark : (word c text).mark? = none := by
    apply mark?_token
    split
    · exact Kind.noConfusion
    · exact Kind.noConfusion
  apply markedIn_of_unmarked hclasses (word_splits c text) hmark
  intro d hd
  simp only [word, taken, List.append_nil, List.mem_cons] at hd
  rcases hd with rfl | hd
  · exact isUnmarked_of_class rfl rfl rfl hc
  · exact isUnmarked_of_class rfl rfl rfl (List.all_eq_true.mp List.all_takeWhile d hd)

theorem single_markedIn {c : Char} {text : List Char} (hslash : c = '/' → text.head? ≠ some '/') :
    (single c text).MarkedIn classes (c :: text) := by
  have hsplits := single_splits c text
  unfold single at hsplits ⊢
  split
  · rename_i kind hkind
    by_cases hc : c = '/'
    · subst hc
      cases hkind
      intro _
      exact marks_slash hclasses (hslash rfl)
    · have hunmarked : kind ≠ .string ∧ isUnmarked c = true := by
        unfold singleKind at hkind
        split at hkind
        case h_4 => exact absurd rfl hc
        all_goals cases hkind <;> decide
      rw [hkind] at hsplits
      exact markedIn_of_unmarked hclasses hsplits (mark?_token hunmarked.1 _ _ _)
        (by simpa [taken] using hunmarked.2)
  · exact markedIn_of_not_isPlain rfl _ _

theorem symbol_markedIn {c : Char} {text : List Char} (hslash : c = '/' → text.head? ≠ some '/') :
    (symbol c text).MarkedIn classes (c :: text) := by
  unfold symbol
  split
  · exact single_markedIn hclasses hslash
  · rename_i d rest
    split
    · rename_i kind hkind
      have hunmarked : kind ≠ .string ∧ isUnmarked c = true ∧ isUnmarked d = true := by
        unfold pairKind at hkind
        split at hkind <;> cases hkind <;> decide
      apply markedIn_of_unmarked hclasses (by simp [Splits]) (mark?_token hunmarked.1 _ _ _)
      simpa [taken] using hunmarked.2
    · exact single_markedIn hclasses hslash

end

/-! ### Comments and strings -/

theorem lineComment_markedIn (classes : CharClasses) {text : List Char} (hline : '\n' ∉ text) :
    (lineComment text).MarkedIn classes ('/' :: '/' :: text) := by
  have hin : ∀ c ∈ text, isInLine c = true := by
    intro c hc
    have hne : c ≠ '\n' := fun same => hline (same ▸ hc)
    simpa [isInLine] using hne
  have hrest : (text ++ []).dropWhile isInLine = [] := dropWhile_append_boundary hin (by simp)
  rw [List.append_nil] at hrest
  intro _
  rw [marks_comment, lineComment, mark?, rest, List.cons_append, List.cons_append,
    List.takeWhile_append_dropWhile, hrest, marks_nil]
  rfl

theorem stringLiteral_markedIn (classes : CharClasses) (text : List Char) :
    (stringLiteral text).MarkedIn classes ('"' :: text) := by
  have hwhole := Quoted.whole_ofText text
  unfold stringLiteral
  split
  · rename_i body rest hclosed
    rw [hclosed] at hwhole
    intro _
    rw [marks_quote, ← hwhole, Quoted.whole,
      splitQuoted_of_closes (Quoted.closesQuote_of_closed hclosed)]
    rfl
  · exact markedIn_of_not_isPlain rfl _ _

theorem blockComment_markedIn (classes : CharClasses) (text : List Char) :
    (blockComment text).MarkedIn classes ('/' :: '*' :: text) := by
  unfold blockComment
  split
  · exact markedIn_of_not_isPlain rfl _ _
  · exact markedIn_of_not_isPlain rfl _ _

theorem directive_markedIn (classes : CharClasses) (text : List Char) :
    (directive text).MarkedIn classes ('#' :: text) := by
  simp only [directive]
  split
  · exact markedIn_of_not_isPlain rfl _ _
  · exact markedIn_of_not_isPlain rfl _ _

theorem front_markedIn {classes : CharClasses} (hclasses : classes.ExtendsAscii) {c : Char}
    {text : List Char} (hline : '\n' ∉ text) : (front c text).MarkedIn classes (c :: text) := by
  unfold front
  split
  · exact blanks_markedIn hclasses ‹_› text
  · split
    · exact number_markedIn hclasses ‹_› text
    · split
      · exact word_markedIn hclasses ‹_› text
      · split
        · exact lineComment_markedIn classes (by simpa using hline)
        · exact blockComment_markedIn classes _
        · exact stringLiteral_markedIn classes _
        · exact directive_markedIn classes _
        · rename_i hcomment _
          apply symbol_markedIn hclasses
          rintro rfl hhead
          obtain ⟨more, rfl⟩ := List.head?_eq_some_iff.mp hhead
          exact hcomment more rfl rfl

/-- What highlighting a line marks, and what is left of the line, after a piece that both readers
    know. -/
theorem marks_front {classes : CharClasses} (hclasses : classes.ExtendsAscii) {c : Char}
    {text : List Char} {p : Piece} (hfront : front c text = p) (hplain : p.isPlain = true)
    (hline : '\n' ∉ c :: text) :
    marks classes (c :: text) = p.mark?.toList ++ marks classes p.rest ∧ '\n' ∉ p.rest := by
  subst hfront
  constructor
  · exact front_markedIn hclasses (fun hmem => hline (List.mem_cons_of_mem c hmem)) hplain
  · intro hmem
    apply hline
    rw [← front_taken_append_rest]
    exact List.mem_append_right _ hmem

/-! ### Directives -/

/-- The characters outside of ASCII, and the two that are white space of ASCII but no blanks. -/
abbrev IsStray (c : Char) : Prop := 128 ≤ c.toNat ∨ c.toNat = 11 ∨ c.toNat = 12

theorem IsStray.ne {c d : Char} (hc : IsStray c) (hd : ¬ IsStray d) : c ≠ d := by
  rintro rfl
  exact hd hc

theorem IsStray.not_isDigit {c : Char} (hc : IsStray c) : ¬ c.isDigit = true := by
  rw [Char.isDigit_iff_toNat]
  simp only [Char.reduceToNat]
  omega

theorem IsStray.not_isWordStart {c : Char} (hc : IsStray c) : ¬ isWordStart c = true := by
  have hunderscore : c ≠ '_' := hc.ne (by decide)
  have hletter : c.isAlpha =
      (decide (c.val ≥ 'A'.val ∧ c.val ≤ 'Z'.val) ||
        (decide (c.val ≥ 'a'.val) && decide (c.val ≤ 'z'.val))) := rfl
  have hvalue : c.val.toNat = c.toNat := rfl
  simp only [isWordStart, hletter, Char.reduceVal, ge_iff_le, UInt32.le_iff_toNat_le,
    UInt32.reduceToNat, hvalue, Bool.decide_and, Bool.or_eq_true, Bool.and_eq_true,
    decide_eq_true_eq, beq_iff_eq, hunderscore, or_false]
  omega

theorem IsStray.front_eq {c : Char} (hc : IsStray c) (text : List Char) :
    front c text = fault [] (c :: text) := by
  have hblank : ¬ isBlank c = true := by
    intro h
    rcases isBlank_cases h with rfl | rfl | rfl | rfl <;> exact absurd hc (by decide)
  have hpair (d : Char) : pairKind c d = none := by
    unfold pairKind
    split
    case h_9 => rfl
    all_goals exact absurd hc (by decide)
  have hsingle : singleKind c = none := by
    unfold singleKind
    split
    case h_15 => rfl
    all_goals exact absurd hc (by decide)
  have hslash : c ≠ '/' := hc.ne (by decide)
  rw [front_eq_symbol hblank hc.not_isDigit hc.not_isWordStart (hc.ne (by decide))
    (hc.ne (by decide)) (absurd · hslash)]
  unfold symbol single
  split
  · rw [hsingle]
  · rw [hpair, hsingle]

end Piece

section

variable {classes : CharClasses} (hclasses : classes.ExtendsAscii)

include hclasses

/-- White space is blank, or nothing can be read there. -/
theorem Viewer.CharClasses.ExtendsAscii.isBlank_or_isStray {c : Char}
    (hspace : classes.isWhiteSpace c = true) : Piece.isBlank c = true ∨ Piece.IsStray c := by
  by_cases hascii : c.toNat < 128
  · rw [hclasses.isWhiteSpace_eq c hascii] at hspace
    simp only [asciiSpaces, List.contains_cons, List.contains_nil, Bool.or_false, Bool.or_eq_true,
      beq_iff_eq] at hspace
    rcases hspace with rfl | rfl | rfl | rfl | rfl | rfl <;> decide
  · exact .inr (.inl (by omega))

/-- A line that can be scanned and holds no directive does not look like one. -/
theorem head?_ne_hash_of_scanFrom {p : Position} {text : List Char} {tokens : List Token}
    (h : (Cursor.scanFrom p text).1 = .ok tokens) (htokens : ∀ t ∈ tokens, t.kind ≠ .directive) :
    (text.dropWhile classes.isWhiteSpace).head? ≠ some '#' := by
  induction text generalizing p with
  | nil => nofun
  | cons c text ih =>
      by_cases hspace : classes.isWhiteSpace c = true
      · rw [List.dropWhile_cons_of_pos hspace]
        rcases hclasses.isBlank_or_isStray hspace with hblank | hstray
        · rw [Cursor.scanFrom_blank p hblank] at h
          exact ih h
        · rw [Cursor.scanFrom_fault p (hstray.front_eq text)] at h
          cases h
      · rw [List.dropWhile_cons_of_neg hspace]
        rintro ⟨⟩
        have hfront : Piece.front '#' text = Piece.directive text := rfl
        simp only [Piece.directive] at hfront
        split at hfront
        · obtain ⟨tail, -, rfl⟩ := (Cursor.scanFrom_token_eq_ok p hfront).mp h
          exact htokens _ List.mem_cons_self rfl
        · rw [Cursor.scanFrom_fault p hfront] at h
          cases h

/-! ### The whole line -/

/-- The marks of a line are those of its pieces. -/
theorem marks_eq_filterMap {text : List Char} (hline : '\n' ∉ text)
    (hplain : ∀ piece ∈ piecesOf text, piece.isPlain = true) :
    marks classes text = (piecesOf text).filterMap Piece.mark? := by
  rw [List.filterMap_eq_flatMap_toList]
  fun_induction piecesOf text with
  | case1 => rw [marks_nil, List.flatMap_nil]
  | case2 c text taken rest hfront ih =>
      rw [List.forall_mem_cons] at hplain
      obtain ⟨hmarks, hrest⟩ := Piece.marks_front hclasses hfront hplain.1 hline
      rw [hmarks, List.flatMap_cons]
      exact congrArg _ (ih hrest hplain.2)
  | case3 c text kind lexeme padding rest hfront ih =>
      rw [List.forall_mem_cons] at hplain
      obtain ⟨hmarks, hrest⟩ := Piece.marks_front hclasses hfront hplain.1 hline
      rw [hmarks, List.flatMap_cons]
      exact congrArg _ (ih hrest hplain.2)
  | case4 c text taken rest hfront => cases hplain _ List.mem_cons_self

end

/-! ### Strings and comments -/

theorem Piece.string_mark? (p : Piece) :
    (p.mark?.toList.filter (·.style.foreground = Theme.string)).map (·.text) =
      (p.lexeme?.toList.filter (·.kind = .string)).map (·.text) := by
  cases p with
  | skip text rest =>
      unfold mark?
      split
      · rename_i h
        cases h
      · rfl
      · rfl
  | token kind text padding rest =>
      by_cases hkind : kind = .string
      · subst hkind
        rfl
      · simp [mark?_token hkind, lexeme?, hkind]
  | fault => rfl

theorem strings_filterMap_mark? (pieces : List Piece) :
    ((pieces.filterMap Piece.mark?).filter (·.style.foreground = Theme.string)).map (·.text) =
      ((pieces.filterMap Piece.lexeme?).filter (·.kind = .string)).map (·.text) := by
  simp only [List.filterMap_eq_flatMap_toList, List.filter_flatMap, List.map_flatMap,
    Piece.string_mark?]

theorem Viewer.Theme.string_ne_comment : Theme.string ≠ Theme.comment := by decide

theorem Piece.comment_mark?_iff {p : Piece} {span : Span} :
    p.mark? = some span ∧ span.style.foreground = Theme.comment ↔
      p.isLineComment = true ∧
        span = ⟨String.ofList (p.taken ++ p.rest), .colored Theme.comment⟩ := by
  unfold mark? isLineComment
  split
  · constructor
    · rintro ⟨⟨⟩, hcolor⟩
      exact absurd hcolor Theme.string_ne_comment
    · rintro ⟨⟨⟩, _⟩
  · constructor
    · rintro ⟨⟨⟩, _⟩
      exact ⟨rfl, rfl⟩
    · rintro ⟨_, rfl⟩
      exact ⟨rfl, rfl⟩
  · rename_i hcomment
    constructor
    · rintro ⟨⟨⟩, _⟩
    · rintro ⟨hline, _⟩
      split at hline
      · exact absurd rfl (hcomment _ _)
      · cases hline

variable {classes : CharClasses} {line : String} {tokens : List Token}

/-- The pieces of a line that can be scanned are known to both readers, if there is no directive
    and no block comment among them. -/
theorem isPlain_of_scan (hscan : Token.scan line = .ok tokens)
    (hdirective : ∀ t ∈ tokens, t.kind ≠ .directive)
    (hblock : ∀ piece ∈ piecesOf line.toList, piece.isBlockComment = false) :
    ∀ piece ∈ piecesOf line.toList, piece.isPlain = true := by
  obtain ⟨hfault, hlexemes⟩ := Token.pieces_of_scan hscan
  intro piece hpiece
  have hkind : ∀ l ∈ piece.lexeme?, l.kind ≠ .directive := by
    intro l hl
    have hmem : l ∈ tokens.map Token.toLexeme := by
      rw [hlexemes]
      exact List.mem_filterMap.mpr ⟨piece, hpiece, hl⟩
    obtain ⟨t, ht, rfl⟩ := List.mem_map.mp hmem
    exact hdirective t ht
  rw [Piece.isPlain, hfault piece hpiece, hblock piece hpiece]
  cases hlexeme : piece.lexeme? with
  | none => rfl
  | some l => simpa using hkind l hlexeme

theorem highlight_eq_spans (hclasses : classes.ExtendsAscii) (hscan : Token.scan line = .ok tokens)
    (hdirective : ∀ t ∈ tokens, t.kind ≠ .directive) :
    highlight classes .cpp line = spans classes .cpp line.toList := by
  have hhash : (line.toList.dropWhile classes.isWhiteSpace).head? ≠ some '#' :=
    head?_ne_hash_of_scanFrom hclasses hscan hdirective
  rw [highlight, if_neg]
  simp [hhash]

/-- The spans in the colour of comments are the comments to the end of the line. -/
theorem comment_mem_spans_iff {text : List Char} {span : Span}
    (hmarks : marks classes text = (piecesOf text).filterMap Piece.mark?) :
    span ∈ spans classes .cpp text ∧ span.style.foreground = Theme.comment ↔
      ∃ piece ∈ piecesOf text, piece.isLineComment = true ∧
        span = ⟨String.ofList (piece.taken ++ piece.rest), .colored Theme.comment⟩ := by
  calc span ∈ spans classes .cpp text ∧ span.style.foreground = Theme.comment
      ↔ span ∈ marks classes text ∧ span.style.foreground = Theme.comment :=
        and_congr_left fun hcomment => (mem_marks_of_comment classes hcomment).symm
    _ ↔ ∃ piece ∈ piecesOf text, piece.mark? = some span ∧
          span.style.foreground = Theme.comment := by
        rw [hmarks, List.mem_filterMap]
        simp only [← exists_and_right, and_assoc]
    _ ↔ _ := by simp only [Piece.comment_mark?_iff]

/-- The strings and the comment of a line of C++ are the same to the highlighter and the scanner:
    the spans in the colour of strings are the string literals, and some span has the colour of
    comments exactly if a comment to the end of the line is skipped. Then it is the last span, and
    goes from the start of that comment to the end of the line. -/
theorem highlightCpp_agrees_with_scan (hline : '\n' ∉ line.toList)
    (hscan : Token.scan line = .ok tokens) (hdirective : ∀ t ∈ tokens, t.kind ≠ .directive)
    (hblock : ∀ piece ∈ piecesOf line.toList, piece.isBlockComment = false) :
    ((highlightCpp line).filter (·.style.foreground = Theme.string)).map (·.text) =
        (tokens.filter (·.kind = .string)).map (·.text) ∧
      ((∃ span ∈ highlightCpp line, span.style.foreground = Theme.comment) ↔
        ∃ piece ∈ piecesOf line.toList, piece.isLineComment = true) ∧
      ∀ piece ∈ piecesOf line.toList, piece.isLineComment = true →
        piece.taken ++ piece.rest <:+ line.toList ∧
          ∃ before, highlightCpp line =
              before ++ [⟨String.ofList (piece.taken ++ piece.rest), .colored Theme.comment⟩] ∧
            ∀ span ∈ before, span.style.foreground ≠ Theme.comment := by
  have hspans := highlight_eq_spans CharClasses.unicode_extendsAscii hscan hdirective
  have hmarks := marks_eq_filterMap CharClasses.unicode_extendsAscii hline
    (isPlain_of_scan hscan hdirective hblock)
  rw [highlightCpp, hspans]
  refine ⟨?_, ?_, ?_⟩
  · rw [filter_string_eq, hmarks, strings_filterMap_mark?,
      ← (Token.pieces_of_scan hscan).2, List.filter_map, List.map_map]
    rfl
  · constructor
    · rintro ⟨span, hspan, hcomment⟩
      obtain ⟨piece, hpiece, hline, -⟩ := (comment_mem_spans_iff hmarks).mp ⟨hspan, hcomment⟩
      exact ⟨piece, hpiece, hline⟩
    · rintro ⟨piece, hpiece, hline⟩
      exact ⟨_, (comment_mem_spans_iff hmarks).mpr ⟨piece, hpiece, hline, rfl⟩⟩
  · intro piece hpiece hline
    obtain ⟨hspan, hcomment⟩ := (comment_mem_spans_iff hmarks).mpr ⟨piece, hpiece, hline, rfl⟩
    exact ⟨suffix_of_mem_piecesOf hpiece, spans_eq_of_comment _ hspan hcomment⟩

theorem highlightCpp_agrees_with_scan_quotes :
    ((highlightCpp "x = \"a // \\\"b\"; // it\x27s \"c\"").filter
        (·.style.foreground = Theme.string)).map (·.text) = ["\"a // \\\"b\""] ∧
      ∃ before, highlightCpp "x = \"a // \\\"b\"; // it\x27s \"c\"" =
          before ++ [⟨"// it\x27s \"c\"", .colored Theme.comment⟩] ∧
        ∀ span ∈ before, span.style.foreground ≠ Theme.comment := by
  have hagree := @highlightCpp_agrees_with_scan "x = \"a // \\\"b\"; // it\x27s \"c\""
    [⟨⟨.identifier, "x"⟩, ⟨1, 1⟩⟩, ⟨⟨.operator, "="⟩, ⟨1, 3⟩⟩,
      ⟨⟨.string, "\"a // \\\"b\""⟩, ⟨1, 5⟩⟩, ⟨⟨.delimiter, ";"⟩, ⟨1, 15⟩⟩]
    (by decide) (by decide +kernel) (by decide) (by decide +kernel)
  have hcomment : (piecesOf "x = \"a // \\\"b\"; // it\x27s \"c\"".toList).any
      (fun p => p.isLineComment && p.taken ++ p.rest == "// it\x27s \"c\"".toList) = true := by
    decide +kernel
  obtain ⟨piece, hpiece, htext⟩ := List.any_eq_true.mp hcomment
  rw [Bool.and_eq_true, beq_iff_eq] at htext
  have hlast := (hagree.2.2 piece hpiece htext.1).2
  rw [htext.2, String.ofList_toList] at hlast
  exact ⟨hagree.1, hlast⟩

end CppToPython
