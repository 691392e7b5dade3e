import CppToPython.Proofs.Position
import CppToPython.Proofs.Token.Valid
import Mathlib.Control.Monad.Basic

/-! # The layout of a source text

Reading tokens loses nothing: the source is the texts of its tokens with gaps
around them, and the position of a token is the one its place in the source
gives it. The gaps are described by themselves here, without the scanner.
-/

namespace CppToPython

open Unicode (isWhiteSpace)

def AtLineEnd (rest : List Char) : Prop := ∀ c ∈ rest.head?, c = '\n'

/-- What can stand between tokens, when `rest` comes after it. The end of a
    block comment is the first one in it. -/
inductive Gap : (gap rest : List Char) → Prop where
  | nil {rest} : Gap [] rest
  | blank {c gap rest} : c ∈ [' ', '\t', '\r', '\n'] → Gap gap rest → Gap (c :: gap) rest
  | lineComment {body gap rest} :
      '\n' ∉ body → AtLineEnd (gap ++ rest) → Gap gap rest →
        Gap ('/' :: '/' :: body ++ gap) rest
  | blockComment {body gap rest} :
      ¬ ['*', '/'] <:+: body ++ ['*'] → Gap gap rest →
        Gap ('/' :: '*' :: body ++ ['*', '/'] ++ gap) rest

/-- The gap after a lexeme. A directive is the rest of its line without the white
    space at the end, which belongs to the gap. -/
inductive GapAfter : Lexeme → (gap rest : List Char) → Prop where
  | plain {l gap rest} : l.kind ≠ .directive → Gap gap rest → GapAfter l gap rest
  | directive {text padding gap rest} :
      (∀ c ∈ text.toList.getLast?, isWhiteSpace c = false) → '\n' ∉ text.toList →
      (∀ c ∈ padding, isWhiteSpace c = true) → '\n' ∉ padding →
      AtLineEnd (gap ++ rest) → Gap gap rest →
        GapAfter ⟨.directive, text⟩ (padding ++ gap) rest

/-- The text after `before` is its tokens, each with a gap after it, and each at
    its own position. -/
inductive Layout : (before text : List Char) → List Token → Prop where
  | done {before} : Layout before [] []
  | token {before gap rest tokens} {t : Token} :
      t.text ≠ "" → t.position = .after before → GapAfter t.toLexeme gap rest →
      Layout (before ++ t.text.toList ++ gap) rest tokens →
        Layout before (t.text.toList ++ gap ++ rest) (t :: tokens)

/-! ### The parts of a gap -/

theorem Gap.blanks {blanks gap rest : List Char} (h : ∀ c ∈ blanks, Piece.isBlank c = true)
    (hg : Gap gap rest) : Gap (blanks ++ gap) rest := by
  induction blanks with
  | nil => exact hg
  | cons c blanks ih =>
      have hc := h c List.mem_cons_self
      apply Gap.blank
      · simpa [Piece.isBlank, or_assoc] using hc
      · exact ih fun d hd => h d (List.mem_cons_of_mem c hd)

theorem atLineEnd_nil : AtLineEnd [] := by
  simp [AtLineEnd]

theorem atLineEnd_lineFeed (rest : List Char) : AtLineEnd ('\n' :: rest) := by
  simp [AtLineEnd]

theorem atLineEnd_dropWhile (text : List Char) : AtLineEnd (text.dropWhile Piece.isInLine) := by
  intro c hc
  have hn := List.head?_dropWhile_not Piece.isInLine text
  rw [Option.mem_def.mp hc] at hn
  simpa [Piece.isInLine] using hn

/-- A block comment is split at its first end. -/
theorem Piece.splitComment_first {text body rest : List Char}
    (h : splitComment text = some (body, rest)) :
    ∃ inner, body = inner ++ ['*', '/'] ∧ ¬ ['*', '/'] <:+: inner ++ ['*'] := by
  fun_induction splitComment text generalizing body rest with
  | case1 => cases h
  | case2 more =>
      cases h
      refine ⟨[], rfl, ?_⟩
      intro hi
      have hl := hi.length_le
      simp at hl
  | case3 c more hn ih =>
      obtain ⟨⟨tail, left⟩, hs, he⟩ := Option.map_eq_some_iff.mp h
      cases he
      obtain ⟨inner, rfl, hi⟩ := ih hs
      refine ⟨c :: inner, rfl, ?_⟩
      intro hinfix
      rcases List.infix_cons_iff.mp hinfix with hp | ht
      · have hmore := splitComment_append hs
        cases inner with
        | nil =>
            obtain ⟨_, hp⟩ := hp
            simp at hp
        | cons d inner =>
            obtain ⟨_, hp⟩ := hp
            simp only [List.cons_append, List.cons.injEq] at hp
            obtain ⟨rfl, rfl, _⟩ := hp
            exact hn _ rfl hmore.symm
      · exact hi ht

/-! ### The pieces of a source -/

namespace Piece

/-- A piece goes with the gap at the front of what it leaves: what is skipped is
    part of a larger gap, and a token has it after its padding. -/
def Fits : Piece → Prop
  | skip taken rest => ∀ gap after, rest = gap ++ after → Gap gap after → Gap (taken ++ gap) after
  | token kind lexeme padding rest => ∀ gap after, rest = gap ++ after → Gap gap after →
      GapAfter ⟨kind, String.ofList lexeme⟩ (padding ++ gap) after
  | fault _ _ => True

theorem fits_token {kind : Kind} (hk : kind ≠ .directive) (lexeme rest : List Char) :
    (token kind lexeme [] rest).Fits := by
  intro gap after _ hg
  exact .plain hk hg

theorem blanks_fits {c : Char} (hc : isBlank c = true) (text : List Char) :
    (skip (c :: text.takeWhile isBlank) (text.dropWhile isBlank)).Fits := by
  intro gap after _ hg
  apply Gap.blanks _ hg
  intro d hd
  rcases List.mem_cons.mp hd with rfl | hd
  · exact hc
  · exact List.all_eq_true.mp List.all_takeWhile d hd

theorem lineComment_fits (text : List Char) : (lineComment text).Fits := by
  intro gap after hrest hg
  apply Gap.lineComment (not_mem_takeWhile_isInLine text) _ hg
  rw [← hrest]
  exact atLineEnd_dropWhile text

theorem blockComment_fits (text : List Char) : (blockComment text).Fits := by
  unfold blockComment
  split
  · rename_i body rest hs
    intro gap after _ hg
    obtain ⟨inner, rfl, hi⟩ := splitComment_first hs
    simpa using Gap.blockComment hi hg
  · trivial

theorem stringLiteral_fits (text : List Char) : (stringLiteral text).Fits := by
  unfold stringLiteral
  split
  · exact fits_token (by decide) _ _
  · trivial

theorem number_fits (c : Char) (text : List Char) : (number c text).Fits := by
  unfold number
  split
  · split
    · exact fits_token (by decide) _ _
    · exact fits_token (by decide) _ _
  · exact fits_token (by decide) _ _

theorem word_fits (c : Char) (text : List Char) : (word c text).Fits := by
  apply fits_token
  split
  · nofun
  · nofun

theorem directive_fits (text : List Char) : (directive text).Fits := by
  have hvalid := directive_valid text
  simp only [directive] at hvalid ⊢
  split at hvalid
  · rename_i hinclude
    rw [if_pos hinclude]
    intro gap after hrest hg
    obtain ⟨_, hline, htrim⟩ := hvalid
    have hpadding : '\n' ∉ Text.endPadding ('#' :: text.takeWhile isInLine) := by
      intro hmem
      have hwhole : '\n' ∈ '#' :: text.takeWhile isInLine := by
        rw [← Text.trimEnd_append_endPadding ('#' :: _)]
        exact List.mem_append_right _ hmem
      simp [not_mem_takeWhile_isInLine] at hwhole
    have hend := atLineEnd_dropWhile text
    rw [hrest] at hend
    exact .directive htrim hline (fun c hc => Text.isWhiteSpace_of_mem_endPadding hc) hpadding
      hend hg
  · rename_i hinclude
    rw [if_neg hinclude]
    trivial

theorem symbol_fits (c : Char) (text : List Char) : (symbol c text).Fits := by
  have hpair : ∀ d, pairKind c d ≠ some .directive := by
    intro d
    unfold pairKind
    split <;> nofun
  have hsingle : singleKind c ≠ some .directive := by
    unfold singleKind
    split <;> nofun
  have single_fits (text : List Char) : (single c text).Fits := by
    unfold single
    split
    · rename_i kind hk
      exact fits_token (fun same => hsingle (same ▸ hk)) _ _
    · trivial
  unfold symbol
  split
  · exact single_fits []
  · split
    · rename_i d rest _ kind hk
      exact fits_token (fun same => hpair d (same ▸ hk)) _ _
    · exact single_fits _

theorem front_fits (c : Char) (text : List Char) : (front c text).Fits := by
  unfold front
  split
  · exact blanks_fits ‹_› text
  · split
    · exact number_fits c text
    · split
      · exact word_fits c text
      · split
        · exact lineComment_fits _
        · exact blockComment_fits _
        · exact stringLiteral_fits _
        · exact directive_fits _
        · exact symbol_fits _ _

end Piece

/-! ### The whole source -/

theorem Layout.lexeme {before lexeme gap rest : List Char} {kind : Kind} {tokens : List Token}
    (hne : lexeme ≠ []) (hg : GapAfter ⟨kind, String.ofList lexeme⟩ gap rest)
    (hl : Layout (before ++ lexeme ++ gap) rest tokens) :
    Layout before (lexeme ++ gap ++ rest)
      (⟨⟨kind, String.ofList lexeme⟩, .after before⟩ :: tokens) := by
  have htext : (String.ofList lexeme).toList = lexeme := String.toList_ofList
  have htoken : String.ofList lexeme ≠ "" := by
    intro hempty
    exact hne (String.ofList_inj.mp hempty)
  rw [← htext] at hl
  have h := Layout.token (t := ⟨⟨kind, String.ofList lexeme⟩, .after before⟩) htoken rfl hg hl
  rwa [htext] at h

/-- Blanks and comments join the gap in front, and each token starts a new one. -/
theorem Cursor.layout_of_scanFrom {before text : List Char} {tokens : List Token}
    (h : (scanFrom (.after before) text).1 = .ok tokens) :
    ∃ gap rest, text = gap ++ rest ∧ Gap gap rest ∧ Layout (before ++ gap) rest tokens := by
  cases text with
  | nil =>
      rw [scanFrom_nil] at h
      cases h
      exact ⟨[], [], rfl, .nil, .done⟩
  | cons c text =>
      have hfits := Piece.front_fits c text
      have hsplits := Piece.front_splits c text
      cases hf : Piece.front c text with
      | skip taken rest =>
          rw [scanFrom_skip _ hf, Position.advance_after] at h
          obtain ⟨gap, left, rfl, hg, hl⟩ := layout_of_scanFrom h
          rw [hf] at hfits hsplits
          refine ⟨taken ++ gap, left, ?_, hfits gap left rfl hg, ?_⟩
          · rw [← hsplits.1, List.append_assoc]
          · rwa [← List.append_assoc]
      | token kind lexeme padding rest =>
          obtain ⟨tail, htail, rfl⟩ := (scanFrom_token_eq_ok _ hf).mp h
          rw [Position.advance_after] at htail
          obtain ⟨gap, left, rfl, hg, hl⟩ := layout_of_scanFrom htail
          rw [hf] at hfits hsplits
          obtain ⟨hwhole, hne⟩ := hsplits
          refine ⟨[], c :: text, rfl, .nil, ?_⟩
          have hlayout := Layout.lexeme hne (hfits gap left rfl hg)
            (by rwa [← List.append_assoc, List.append_assoc before])
          rw [List.append_nil, ← hwhole]
          simpa using hlayout
      | fault taken rest =>
          rw [scanFrom_fault _ hf] at h
          cases h
termination_by text.length
decreasing_by
  · subst_vars
    exact Piece.rest_lt_of_front_skip hf
  · subst_vars
    exact Piece.rest_lt_of_front_token hf

namespace Layout

variable {before text : List Char} {tokens : List Token}

/-- Every token stands in the text where its position says. -/
theorem exists_place (h : Layout before text tokens) :
    ∀ t ∈ tokens, ∃ more rest, text = more ++ t.text.toList ++ rest ∧ t.text ≠ "" ∧
      t.position = .after (before ++ more) := by
  induction h with
  | done => nofun
  | @token before gap rest tokens t hne hp _ _ ih =>
      intro u hu
      rcases List.mem_cons.mp hu with rfl | hu
      · exact ⟨[], gap ++ rest, by simp, hne, by rw [hp, List.append_nil]⟩
      · obtain ⟨more, left, hrest, htext, hposition⟩ := ih u hu
        exact ⟨t.text.toList ++ gap ++ more, left, by simp [hrest], htext, by simpa using hposition⟩

theorem increasing (h : Layout before text tokens) :
    tokens.Pairwise fun a b => a.position < b.position := by
  induction h with
  | done => exact .nil
  | @token before gap rest tokens t hne hp _ hl ih =>
      refine .cons ?_ ih
      intro u hu
      obtain ⟨more, _, _, _, hmore⟩ := hl.exists_place u hu
      have htext : t.text.toList ++ (gap ++ more) ≠ [] := by
        simp [hne]
      have hlt := (Position.after before).lt_advance htext
      rw [Position.advance_after] at hlt
      rw [hp, hmore]
      simpa using hlt

end Layout

theorem Token.scan_eq_scanFrom_after (source : String) :
    scan source = (Cursor.scanFrom (.after []) source.toList).1 := rfl

/-- The source is its tokens with gaps around them, and the tokens stand where
    their positions say, one after the other. -/
theorem scan_layout {source : String} {tokens : List Token}
    (h : Token.scan source = .ok tokens) :
    (∃ gap rest, source.toList = gap ++ rest ∧ Gap gap rest ∧ Layout gap rest tokens) ∧
      tokens.Pairwise fun a b => a.position < b.position := by
  rw [Token.scan_eq_scanFrom, ← Position.advance_nil .start, Position.advance_start] at h
  obtain ⟨gap, rest, hsource, hgap, hl⟩ := Cursor.layout_of_scanFrom h
  exact ⟨⟨gap, rest, hsource, hgap, hl⟩, hl.increasing⟩

theorem scan_layout_directive :
    ∃ gap rest, "#include <x>\u00a0\n/* a\n*/ int x; // end".toList = gap ++ rest ∧ Gap gap rest ∧
      Layout gap rest
        [⟨⟨.directive, "#include <x>"⟩, ⟨1, 1⟩⟩, ⟨⟨.keyword, "int"⟩, ⟨3, 4⟩⟩,
          ⟨⟨.identifier, "x"⟩, ⟨3, 8⟩⟩, ⟨⟨.delimiter, ";"⟩, ⟨3, 9⟩⟩] :=
  (scan_layout (by decide +kernel)).1

end CppToPython
