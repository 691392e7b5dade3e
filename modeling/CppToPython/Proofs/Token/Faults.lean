import CppToPython.Proofs.Token.Layout
import CppToPython.Proofs.Token.OwnLines

/-! # Where reading stops

Reading fails for one of four reasons, and each can be told from the text that starts at the
character in question: a string literal or a comment that is left open, a line that starts like
a directive and is none, and a character that starts no token. Whatever stands before that
character can be read by itself, because no piece before it was chosen for what comes after the
piece.
-/

namespace CppToPython

/-! ### The four reasons -/

/-- The text after an opening quote, when its line ends before a closing one. A backslash takes
    the next character along, but not the end of the line. -/
inductive LeftOpen : List Char → Prop where
  | lineEnd {rest} : AtLineEnd rest → LeftOpen rest
  | escapedEnd {rest} : AtLineEnd rest → LeftOpen ('\\' :: rest)
  | plain {c rest} : c ≠ '"' → c ≠ '\\' → c ≠ '\n' → LeftOpen rest → LeftOpen (c :: rest)
  | escape {c rest} : c ≠ '\n' → LeftOpen rest → LeftOpen ('\\' :: c :: rest)

/-- No token, blank or comment starts with the character in front of `rest`. -/
inductive Fault : (character : Char) → (rest : List Char) → Prop where
  /-- The string literal is not closed in its line. -/
  | openString {rest} : LeftOpen rest → Fault '"' rest
  /-- The comment is not closed. -/
  | openComment {rest} : ¬ ['*', '/'] <:+: rest → Fault '/' ('*' :: rest)
  /-- The line is no `#include`. -/
  | directive {rest} : ¬ "#include".toList <+: '#' :: rest → Fault '#' rest
  /-- The exclamation mark is not the start of `!=`. -/
  | exclamation {rest} : rest.head? ≠ some '=' → Fault '!' rest
  /-- Neither a blank nor the first character of any lexeme. -/
  | stray {c rest} : c ∉ [' ', '\t', '\r', '\n'] →
      (∀ l : Lexeme, l.Valid → l.text.toList.head? ≠ some c) → Fault c rest

/-- What is left to be read after a fault at the character in front of `rest`. -/
inductive GivesUp : (character : Char) → (rest left : List Char) → Prop where
  /-- A string literal is given up to the end of its line. -/
  | openString {body left} :
      LeftOpen (body ++ left) → '\n' ∉ body → AtLineEnd left → GivesUp '"' (body ++ left) left
  /-- An open comment takes the rest of the text with it. -/
  | openComment {rest} : ¬ ['*', '/'] <:+: rest → GivesUp '/' ('*' :: rest) []
  /-- Any other fault is still there. -/
  | nothing {c rest} : c ≠ '"' → c ≠ '/' → Fault c rest → GivesUp c rest (c :: rest)

theorem GivesUp.fault {c : Char} {rest left : List Char} (h : GivesUp c rest left) :
    Fault c rest := by
  cases h with
  | openString hopen => exact .openString hopen
  | openComment hopen => exact .openComment hopen
  | nothing _ _ hfault => exact hfault

theorem Fault.ne_lineFeed {c : Char} {rest : List Char} (h : Fault c rest) : c ≠ '\n' := by
  cases h with
  | openString | openComment | directive | exclamation => decide
  | stray hblank =>
      rintro rfl
      exact hblank (by decide)

namespace Piece

theorem Quoted.push_eq_cut {front body rest : List Char} {q : Quoted}
    (h : q.push front = .cut body rest) : ∃ tail, q = .cut tail rest ∧ body = front ++ tail := by
  cases q with
  | closed => cases h
  | cut text left =>
      cases h
      exact ⟨text, rfl, rfl⟩

theorem Quoted.leftOpen_of_cut {text body rest : List Char} (h : ofText text = .cut body rest) :
    LeftOpen text := by
  fun_induction ofText text generalizing body rest with
  | case1 => exact .lineEnd atLineEnd_nil
  | case2 => exact .lineEnd (atLineEnd_lineFeed _)
  | case3 => cases h
  | case4 => exact .escapedEnd (atLineEnd_lineFeed _)
  | case5 c more hc ih =>
      obtain ⟨tail, hq, -⟩ := push_eq_cut h
      exact .escape hc (ih hq)
  | case6 c more hline hquote hescape ih =>
      obtain ⟨tail, hq, -⟩ := push_eq_cut h
      by_cases hslash : c = '\\'
      · cases more with
        | nil =>
            subst hslash
            exact .escapedEnd atLineEnd_nil
        | cons d more => exact (hescape d more hslash rfl).elim
      · exact .plain hquote hslash hline (ih hq)

/-- A string literal is cut off at the first line end. -/
theorem Quoted.inLine_of_cut {text body rest : List Char} (h : ofText text = .cut body rest) :
    '\n' ∉ body ∧ AtLineEnd rest := by
  fun_induction ofText text generalizing body rest with
  | case1 =>
      cases h
      exact ⟨by simp, atLineEnd_nil⟩
  | case2 =>
      cases h
      exact ⟨by simp, atLineEnd_lineFeed _⟩
  | case3 => cases h
  | case4 =>
      cases h
      exact ⟨by simp, atLineEnd_lineFeed _⟩
  | case5 c more hc ih =>
      obtain ⟨tail, hq, rfl⟩ := push_eq_cut h
      obtain ⟨htail, hrest⟩ := ih hq
      exact ⟨by simp [Ne.symm hc, htail], hrest⟩
  | case6 c more hline _ _ ih =>
      obtain ⟨tail, hq, rfl⟩ := push_eq_cut h
      obtain ⟨htail, hrest⟩ := ih hq
      exact ⟨by simp [Ne.symm hline, htail], hrest⟩

theorem not_infix_of_splitComment {text : List Char} (h : splitComment text = none) :
    ¬ ['*', '/'] <:+: text := by
  fun_induction splitComment text with
  | case1 => simp
  | case2 => cases h
  | case3 c more hn ih =>
      intro hinfix
      rcases List.infix_cons_iff.mp hinfix with hprefix | htail
      · obtain ⟨rest, hrest⟩ := hprefix
        cases hrest
        exact hn rest rfl rfl
      · exact ih (Option.map_eq_none_iff.mp h) htail

/-! ### Characters that start no token -/

theorem eq_exclamation_of_pairKind {c d : Char} {kind : Kind} (h : pairKind c d = some kind)
    (hc : singleKind c = none) : c = '!' := by
  unfold pairKind at h
  split at h <;> simp_all [singleKind]

/-- A character that is for no reader is not the first one of a lexeme either, as lexemes are read
    back. -/
theorem head?_ne_of_valid {c : Char} (hblank : ¬ isBlank c = true) (hdigit : ¬ c.isDigit = true)
    (hword : ¬ isWordStart c = true) (hquote : c ≠ '"') (hhash : c ≠ '#')
    (hsingle : singleKind c = none) (hmark : c ≠ '!') {l : Lexeme} (hl : l.Valid) :
    l.text.toList.head? ≠ some c := by
  intro hhead
  obtain ⟨d, more, htext, hfront⟩ := @front_of_valid l hl [] nofun
  rw [htext, List.head?_cons, Option.some.injEq] at hhead
  subst hhead
  have hslash : d ≠ '/' := by
    rintro rfl
    cases hsingle
  rw [List.append_nil, front_eq_symbol hblank hdigit hword hquote hhash (absurd · hslash)] at hfront
  unfold symbol single at hfront
  rw [hsingle] at hfront
  split at hfront
  · cases hfront
  · split at hfront
    · rename_i hpair
      exact hmark (eq_exclamation_of_pairKind hpair hsingle)
    · cases hfront

theorem rest_of_symbol {c : Char} {text taken rest : List Char}
    (h : symbol c text = fault taken rest) : singleKind c = none ∧ rest = c :: text := by
  have hsingle (more : List Char) (h : single c more = fault taken rest) :
      singleKind c = none ∧ rest = c :: more := by
    unfold single at h
    split at h
    · cases h
    · cases h
      exact ⟨‹_›, rfl⟩
  unfold symbol at h
  split at h
  · exact hsingle _ h
  · split at h
    · cases h
    · exact hsingle _ h

theorem fault_of_symbol {c : Char} (hblank : ¬ isBlank c = true) (hdigit : ¬ c.isDigit = true)
    (hword : ¬ isWordStart c = true) (hquote : c ≠ '"') (hhash : c ≠ '#')
    {text taken rest : List Char} (h : symbol c text = fault taken rest) : Fault c text := by
  obtain ⟨hnone, -⟩ := rest_of_symbol h
  by_cases hmark : c = '!'
  · subst hmark
    apply Fault.exclamation
    intro hhead
    cases text with
    | nil => cases hhead
    | cons d more =>
        cases hhead
        cases h
  · refine .stray ?_ fun l hl => head?_ne_of_valid hblank hdigit hword hquote hhash hnone hmark hl
    simpa [isBlank, or_assoc] using hblank

theorem fault_of_directive {text taken rest : List Char} (h : directive text = fault taken rest) :
    Fault '#' text := by
  simp only [directive] at h
  split at h
  · cases h
  · rename_i hinclude
    apply Fault.directive
    rintro ⟨more, hmore⟩
    apply hinclude
    rw [List.isPrefixOf_iff_prefix]
    cases hmore
    exact ⟨_, rfl⟩

theorem rest_of_directive {text taken rest : List Char} (h : directive text = fault taken rest) :
    rest = '#' :: text := by
  simp only [directive] at h
  split at h
  · cases h
  · cases h
    rfl

theorem givesUp_of_front {c : Char} {text taken rest : List Char}
    (h : front c text = fault taken rest) : GivesUp c text rest := by
  unfold front at h
  split at h
  · cases h
  rename_i hblank
  split at h
  · unfold number at h
    split at h
    · split at h
      · cases h
      · cases h
    · cases h
  rename_i hdigit
  split at h
  · cases h
  rename_i hword
  split at h
  · cases h
  · rename_i more
    unfold blockComment at h
    split at h
    · cases h
    · cases h
      exact .openComment (not_infix_of_splitComment ‹_›)
  · unfold stringLiteral at h
    split at h
    · cases h
    · rename_i body left hq
      cases h
      have hwhole := Quoted.whole_ofText text
      rw [hq, Quoted.whole] at hwhole
      subst hwhole
      obtain ⟨hbody, hleft⟩ := Quoted.inLine_of_cut hq
      exact .openString (Quoted.leftOpen_of_cut hq) hbody hleft
  · cases rest_of_directive h
    exact .nothing (by decide) (by decide) (fault_of_directive h)
  · rename_i hquote hhash _ _
    obtain ⟨hsingle, rfl⟩ := rest_of_symbol h
    have hslash : c ≠ '/' := by
      rintro rfl
      cases hsingle
    exact .nothing hquote hslash (fault_of_symbol hblank hdigit hword hquote hhash h)

theorem fault_of_front {c : Char} {text taken rest : List Char}
    (h : front c text = fault taken rest) : Fault c text :=
  (givesUp_of_front h).fault

/-! ### What a piece does not depend on -/

/-- What a reader takes does not depend on the text that it leaves. -/
def Local (read : List Char → Piece) : Prop :=
  ∀ ⦃text more : List Char⦄ ⦃p : Piece⦄, (∀ taken rest, p ≠ fault taken rest) →
    read (text ++ more) = p.extend more → read text = p

/-- A span that leaves `more` is the same without it. -/
theorem span_of_append {p : Char → Bool} {text more left : List Char}
    (h : (text ++ more).dropWhile p = left ++ more) :
    text.takeWhile p = (text ++ more).takeWhile p ∧ text.dropWhile p = left := by
  induction text with
  | nil =>
      have hlength := (List.dropWhile_suffix p (l := more)).length_le
      rw [List.nil_append] at h
      have hleft : left = [] := by
        rw [h, List.length_append] at hlength
        exact List.eq_nil_of_length_eq_zero (by omega)
      subst hleft
      have htake := List.takeWhile_append_dropWhile (p := p) (l := more)
      rw [h] at htake
      exact ⟨(List.append_left_eq_self.mp htake).symm, rfl⟩
  | cons c text ih =>
      by_cases hc : p c = true
      · rw [List.cons_append, List.dropWhile_cons_of_pos hc] at h
        rw [List.cons_append, List.takeWhile_cons_of_pos hc, List.takeWhile_cons_of_pos hc,
          List.dropWhile_cons_of_pos hc, (ih h).1]
        exact ⟨rfl, (ih h).2⟩
      · rw [List.cons_append, List.dropWhile_cons_of_neg hc] at h
        rw [List.cons_append, List.takeWhile_cons_of_neg hc, List.takeWhile_cons_of_neg hc,
          List.dropWhile_cons_of_neg hc]
        exact ⟨rfl, List.append_cancel_right h⟩

theorem rest_of_eq_extend {more : List Char} {p q : Piece} (h : q = p.extend more) :
    q.rest = p.rest ++ more := by
  rw [h, rest_extend]

theorem ne_extend_cons {q p : Piece} {d : Char} {more : List Char}
    (hq : q.rest.length ≤ more.length) : q ≠ p.extend (d :: more) := by
  intro h
  rw [h, rest_extend, List.length_append, List.length_cons] at hq
  omega

theorem not_extend_eq_fault {more taken rest : List Char} {p : Piece}
    (hp : ∀ taken rest, p ≠ fault taken rest) : fault taken rest ≠ p.extend more := by
  cases p with
  | skip | token => exact nofun
  | fault text left => exact absurd rfl (hp text left)

/-- A reader that takes characters for as long as they are of one sort is local. -/
theorem local_of_span (sort : Char → Bool) (make : List Char → List Char → Piece)
    (hrest : ∀ taken rest, (make taken rest).rest = rest)
    (hextend : ∀ taken rest more, make taken (rest ++ more) = (make taken rest).extend more) :
    Local fun text => make (text.takeWhile sort) (text.dropWhile sort) := by
  intro text more p _ h
  dsimp only at h ⊢
  have hdrop : (text ++ more).dropWhile sort = p.rest ++ more := by
    rw [← rest_of_eq_extend h, hrest]
  obtain ⟨htake, hleft⟩ := span_of_append hdrop
  rw [← htake, hdrop, hextend] at h
  rw [hleft]
  exact extend_inj h

theorem blanks_local (c : Char) :
    Local fun text => skip (c :: text.takeWhile isBlank) (text.dropWhile isBlank) :=
  local_of_span isBlank (fun taken rest => skip (c :: taken) rest) (fun _ _ => rfl)
    fun _ _ _ => rfl

theorem lineComment_local : Local lineComment :=
  local_of_span isInLine (fun taken rest => skip ('/' :: '/' :: taken) rest) (fun _ _ => rfl)
    fun _ _ _ => rfl

theorem word_local (c : Char) : Local (word c) :=
  local_of_span isWordPart
    (fun taken rest => token
      (if String.ofList (c :: taken) ∈ Lexeme.reserved then .keyword else .identifier)
      (c :: taken) [] rest)
    (fun _ _ => rfl) fun _ _ _ => rfl

theorem directive_local : Local directive := by
  intro text more p hp h
  simp only [directive] at h
  split at h
  · rename_i hinclude
    have hdrop : (text ++ more).dropWhile isInLine = p.rest ++ more := rest_of_eq_extend h
    obtain ⟨htake, hleft⟩ := span_of_append hdrop
    rw [← htake] at h hinclude
    rw [hdrop] at h
    simp only [directive, if_pos hinclude, hleft]
    exact extend_inj h
  · exact absurd h (not_extend_eq_fault hp)

theorem stringLiteral_local : Local stringLiteral := by
  intro text more p hp h
  unfold stringLiteral at h
  split at h
  · rename_i body rest hq
    have hrest : rest = p.rest ++ more := rest_of_eq_extend h
    subst hrest
    have htext : body ++ p.rest = text := by
      have hwhole := Quoted.whole_ofText (text ++ more)
      rw [hq, Quoted.whole, ← List.append_assoc] at hwhole
      exact List.append_cancel_right hwhole
    rw [← htext, stringLiteral, Quoted.ofText_closes (Quoted.closesQuote_of_closed hq)]
    exact extend_inj h
  · exact absurd h (not_extend_eq_fault hp)

theorem splitComment_body {text body rest : List Char} (h : splitComment text = some (body, rest)) :
    splitComment body = some (body, []) := by
  fun_induction splitComment text generalizing body rest with
  | case1 => cases h
  | case2 =>
      cases h
      rfl
  | case3 c tail hn ih =>
      obtain ⟨⟨inner, left⟩, hs, he⟩ := Option.map_eq_some_iff.mp h
      cases he
      have htail := splitComment_append hs
      rw [splitComment, ih hs]
      · rfl
      · intro after hc hinner
        rw [hinner] at htail
        exact hn _ hc htail.symm

theorem blockComment_local : Local blockComment := by
  intro text more p hp h
  unfold blockComment at h
  split at h
  · rename_i body rest hs
    have hrest : rest = p.rest ++ more := rest_of_eq_extend h
    subst hrest
    have htext : body ++ p.rest = text := by
      have hwhole := splitComment_append hs
      rw [← List.append_assoc] at hwhole
      exact List.append_cancel_right hwhole
    rw [← htext, blockComment, splitComment_more body p.rest (splitComment_body hs)]
    exact extend_inj h
  · exact absurd h (not_extend_eq_fault hp)

theorem number_whole (c : Char) {text rest : List Char} (h : text.dropWhile Char.isDigit = rest)
    (hpoint : ∀ d more, rest = '.' :: d :: more → ¬ d.isDigit = true) :
    number c text = token .number (c :: text.takeWhile Char.isDigit) [] rest := by
  simp only [number, h]
  split
  · rw [if_neg (hpoint _ _ rfl)]
  · rfl

theorem number_local (c : Char) : Local (number c) := by
  intro text more p _ h
  have hwhole (hdrop : (text ++ more).dropWhile Char.isDigit = p.rest ++ more)
      (hpoint : ∀ d tail, p.rest = '.' :: d :: tail → ¬ d.isDigit = true)
      (h : token .number (c :: (text ++ more).takeWhile Char.isDigit) [] (p.rest ++ more) =
        p.extend more) : number c text = p := by
    obtain ⟨htake, hleft⟩ := span_of_append hdrop
    rw [number_whole c hleft hpoint, htake]
    exact extend_inj h
  unfold number at h
  split at h
  · rename_i d rest hdrop
    split at h
    · rename_i hd
      have hrest : rest.dropWhile Char.isDigit = p.rest ++ more := rest_of_eq_extend h
      have hfraction : rest = rest.takeWhile Char.isDigit ++ p.rest ++ more := by
        rw [List.append_assoc, ← hrest, List.takeWhile_append_dropWhile]
      obtain ⟨htake, hleft⟩ :=
        @span_of_append _ text more ('.' :: d :: (rest.takeWhile Char.isDigit ++ p.rest))
          (by rw [hdrop, List.cons_append, List.cons_append, ← hfraction])
      obtain ⟨hdigits, htail⟩ :=
        @span_of_append _ (rest.takeWhile Char.isDigit ++ p.rest) more p.rest
          (by rw [← hfraction, hrest])
      rw [← hfraction] at hdigits
      rw [hrest] at h
      simp only [number, hleft, if_pos hd, htake, hdigits, htail]
      exact extend_inj h
    · rename_i hd
      have hrest : '.' :: d :: rest = p.rest ++ more := rest_of_eq_extend h
      rw [hrest] at h hdrop
      apply hwhole hdrop _ h
      intro e tail htail
      rw [htail] at hrest
      cases hrest
      exact hd
  · rename_i hpoint
    have hdrop : (text ++ more).dropWhile Char.isDigit = p.rest ++ more := rest_of_eq_extend h
    rw [hdrop] at h
    apply hwhole hdrop _ h
    intro d tail htail
    rw [hdrop, htail] at hpoint
    exact absurd rfl (hpoint d (tail ++ more))

theorem symbol_local (c : Char) : Local (symbol c) := by
  intro text more p _ h
  cases text with
  | nil =>
      cases more with
      | nil => exact extend_inj ((single_more [] [] c).symm.trans h)
      | cons d more =>
          simp only [symbol, List.nil_append] at h
          split at h
          · exact absurd h (ne_extend_cons (Nat.le_refl _))
          · rw [← List.nil_append (d :: more), single_more] at h
            exact extend_inj h
  | cons d text =>
      simp only [symbol, List.cons_append] at h ⊢
      split at h
      · exact extend_inj h
      · rw [← List.cons_append, single_more] at h
        exact extend_inj h

theorem length_rest_lineComment (text : List Char) :
    (lineComment text).rest.length ≤ text.length :=
  (List.dropWhile_suffix isInLine).length_le

theorem length_rest_blockComment (text : List Char) :
    (blockComment text).rest.length ≤ text.length := by
  unfold blockComment
  split
  · rename_i body rest hs
    rw [← splitComment_append hs, List.length_append]
    exact Nat.le_add_left _ _
  · exact Nat.zero_le _

/-- A slash is local, whether it starts a comment or is a symbol. -/
theorem front_slash_local : Local (front '/') := by
  intro text more p hp h
  have hsymbol {text : List Char} (hline : text.head? ≠ some '/') (hblock : text.head? ≠ some '*') :
      front '/' text = symbol '/' text :=
    front_eq_symbol (by decide) (by decide) (by decide) (by decide) (by decide)
      fun _ => ⟨hline, hblock⟩
  cases text with
  | nil =>
      have hsecond (d : Char) (tail : List Char) (hmore : more = d :: tail) : d ≠ '/' ∧ d ≠ '*' := by
        subst hmore
        constructor
        · rintro rfl
          exact ne_extend_cons (length_rest_lineComment tail) h
        · rintro rfl
          exact ne_extend_cons (length_rest_blockComment tail) h
      rw [hsymbol (by simp) (by simp)]
      rw [List.nil_append, hsymbol] at h
      · exact symbol_local '/' hp h
      · intro hhead
        obtain ⟨tail, rfl⟩ := List.head?_eq_some_iff.mp hhead
        exact (hsecond _ _ rfl).1 rfl
      · intro hhead
        obtain ⟨tail, rfl⟩ := List.head?_eq_some_iff.mp hhead
        exact (hsecond _ _ rfl).2 rfl
  | cons d text =>
      by_cases hline : d = '/'
      · subst hline
        exact lineComment_local hp h
      by_cases hblock : d = '*'
      · subst hblock
        exact blockComment_local hp h
      rw [hsymbol (by simpa using hline) (by simpa using hblock)] at h ⊢
      exact symbol_local '/' hp h

/-- Some readers look at one or two characters after what they take, but never for a character
    that must be there. -/
theorem front_local (c : Char) : Local (front c) := by
  intro text more p hp h
  by_cases hblank : isBlank c = true
  · simp only [front, if_pos hblank] at h ⊢
    exact blanks_local c hp h
  by_cases hdigit : c.isDigit = true
  · simp only [front, if_neg hblank, if_pos hdigit] at h ⊢
    exact number_local c hp h
  by_cases hword : isWordStart c = true
  · simp only [front, if_neg hblank, if_neg hdigit, if_pos hword] at h ⊢
    exact word_local c hp h
  by_cases hquote : c = '"'
  · subst hquote
    exact stringLiteral_local hp h
  by_cases hhash : c = '#'
  · subst hhash
    exact directive_local hp h
  by_cases hslash : c = '/'
  · subst hslash
    exact front_slash_local hp h
  rw [front_eq_symbol hblank hdigit hword hquote hhash (absurd · hslash)] at h ⊢
  exact symbol_local c hp h

/-! ### Pieces of a text that is cut off -/

section

variable {c : Char} {text used more : List Char}

theorem front_skip_cut {taken : List Char} (h : front c text = skip taken (used ++ more)) :
    ∃ tail, taken = c :: tail ∧ text = tail ++ used ++ more ∧
      front c (tail ++ used) = skip taken used := by
  obtain ⟨hwhole, hne⟩ := h ▸ front_splits c text
  obtain ⟨d, tail, rfl⟩ := List.exists_cons_of_ne_nil hne
  rw [List.cons_append, ← List.append_assoc, List.cons.injEq] at hwhole
  obtain ⟨rfl, rfl⟩ := hwhole
  exact ⟨tail, rfl, rfl, front_local d (by simp) h⟩

theorem front_token_cut {kind : Kind} {lexeme padding : List Char}
    (h : front c text = token kind lexeme padding (used ++ more)) :
    ∃ tail, lexeme = c :: tail ∧ text = tail ++ padding ++ used ++ more ∧
      front c (tail ++ padding ++ used) = token kind lexeme padding used := by
  obtain ⟨hwhole, hne⟩ := h ▸ front_splits c text
  obtain ⟨d, tail, rfl⟩ := List.exists_cons_of_ne_nil hne
  rw [List.cons_append, List.cons_append, ← List.append_assoc, List.cons.injEq] at hwhole
  obtain ⟨rfl, rfl⟩ := hwhole
  exact ⟨tail, rfl, rfl, front_local d (by simp) h⟩

end

end Piece

namespace Cursor

/-- Reading fails at a fault, and what stands before it is read by itself. -/
theorem fault_of_scanFrom {before text : List Char} {e : LexError}
    (h : (scanFrom (.after before) text).1 = .error e) :
    ∃ used rest, text = used ++ e.character :: rest ∧ e.position = .after (before ++ used) ∧
      (∃ tokens, (scanFrom (.after before) used).1 = .ok tokens) ∧ Fault e.character rest := by
  cases text with
  | nil =>
      rw [scanFrom_nil] at h
      cases h
  | cons c text =>
      cases hf : Piece.front c text with
      | skip taken rest =>
          rw [scanFrom_skip _ hf, Position.advance_after] at h
          obtain ⟨used, left, rfl, hposition, ⟨tokens, htokens⟩, hfault⟩ := fault_of_scanFrom h
          obtain ⟨tail, rfl, rfl, hfront⟩ := Piece.front_skip_cut hf
          refine ⟨c :: tail ++ used, left, rfl, by simpa using hposition, ⟨tokens, ?_⟩, hfault⟩
          rwa [List.cons_append, scanFrom_skip _ hfront, Position.advance_after]
      | token kind lexeme padding rest =>
          have herror := (scanFrom_token_eq_error _ hf).mp h
          rw [Position.advance_after] at herror
          obtain ⟨used, left, rfl, hposition, ⟨tokens, htokens⟩, hfault⟩ := fault_of_scanFrom herror
          obtain ⟨tail, rfl, rfl, hfront⟩ := Piece.front_token_cut hf
          refine ⟨c :: (tail ++ padding ++ used), left, rfl, by simpa using hposition, ?_, hfault⟩
          refine ⟨_, (scanFrom_token_eq_ok _ hfront).mpr ⟨tokens, ?_, rfl⟩⟩
          rwa [Position.advance_after]
      | fault taken rest =>
          rw [scanFrom_fault _ hf] at h
          cases h
          exact ⟨[], text, rfl, by rw [List.append_nil], ⟨[], by rw [scanFrom_nil]⟩,
            Piece.fault_of_front hf⟩
termination_by text.length
decreasing_by
  · subst_vars
    exact Piece.rest_lt_of_front_skip hf
  · subst_vars
    exact Piece.rest_lt_of_front_token hf

end Cursor

/-- Reading fails at a character that stands where the error says, for one of four reasons, and
    the text before that character can be read by itself. -/
theorem scan_error_at_fault {source : String} {e : LexError} (h : Token.scan source = .error e) :
    ∃ used rest, source.toList = used ++ e.character :: rest ∧ e.position = .after used ∧
      (∃ tokens, Token.scan (String.ofList used) = .ok tokens) ∧ Fault e.character rest := by
  rw [Token.scan_eq_scanFrom_after] at h
  obtain ⟨used, rest, hsource, hposition, ⟨tokens, htokens⟩, hfault⟩ := Cursor.fault_of_scanFrom h
  refine ⟨used, rest, hsource, hposition, ⟨tokens, ?_⟩, hfault⟩
  rwa [Token.scan_eq_scanFrom_after, String.toList_ofList]

theorem scan_error_at_fault_escape :
    Token.scan "/* a\n*/ x = \"b\\" = .error ⟨'"', ⟨2, 8⟩⟩ ∧
      ∃ used rest, "/* a\n*/ x = \"b\\".toList = used ++ '"' :: rest ∧
        ⟨2, 8⟩ = Position.after used ∧
        (∃ tokens, Token.scan (String.ofList used) = .ok tokens) ∧ Fault '"' rest := by
  have h : Token.scan "/* a\n*/ x = \"b\\" = .error ⟨'"', ⟨2, 8⟩⟩ := by decide +kernel
  exact ⟨h, scan_error_at_fault h⟩

end CppToPython
